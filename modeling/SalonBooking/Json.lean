/-!
JSON values, as the service stores configuration documents and exchanges
request and response bodies. Numbers are integers, or decimals when written with
a fraction. A value is *truthy* unless it is `null`, `false`, zero, or an empty
string, array or object; configuration lookups test values this way.
-/

namespace SalonBooking

/-- A JSON value; object fields keep their order. -/
inductive Json where
  | null
  | bool (b : Bool)
  | int (n : Int)
  /-- The number `mantissa · 10 ^ (-exponent)`, written with a fraction. -/
  | decimal (mantissa : Int) (exponent : Nat)
  | str (s : String)
  | arr (items : List Json)
  | obj (fields : List (String × Json))
  deriving Repr, Inhabited

namespace Json

/-- Whether the value counts as true in a test. -/
def truthy : Json → Bool
  | .null => false
  | .bool b => b
  | .int n => n != 0
  | .decimal m _ => m != 0
  | .str s => !s.isEmpty
  | .arr xs => !xs.isEmpty
  | .obj fs => !fs.isEmpty

/-- The name messages give the kind of a value. -/
def kindName : Json → String
  | .null => "NoneType"
  | .bool _ => "bool"
  | .int _ => "int"
  | .decimal _ _ => "float"
  | .str _ => "str"
  | .arr _ => "list"
  | .obj _ => "dict"

/-- The value of field `key` of an object; `none` for a missing field or a value that
is not an object. -/
def field? (v : Json) (key : String) : Option Json :=
  match v with
  | .obj fs => fs.lookup key
  | _ => none

/-- The value of field `key`, `null` when missing. -/
def fieldD (v : Json) (key : String) : Json := (v.field? key).getD .null

def isNull : Json → Bool
  | .null => true
  | _ => false

def ofNat (n : Nat) : Json := .int n

/-- A text, or `null` for none. -/
def ofString? : Option String → Json
  | some s => .str s
  | none => .null

/-- An integer, or `null` for none. -/
def ofInt? : Option Int → Json
  | some n => .int n
  | none => .null

/-- A number written with a fraction, as text. -/
def decimalText (m : Int) (e : Nat) : String :=
  let digits := (toString m.natAbs).toList
  let digits := List.replicate (e + 1 - digits.length) '0' ++ digits
  let whole := digits.take (digits.length - e)
  let frac := digits.drop (digits.length - e)
  (if m < 0 then "-" else "") ++ String.ofList whole ++ "." ++ String.ofList frac

/-- Four lowercase hex digits. -/
def hex4 (n : Nat) : String :=
  String.ofList ((List.range 4).reverse.map fun i =>
    let d := n / Nat.pow 16 i % 16
    Char.ofNat (if d < 10 then 48 + d else 87 + d))

/-- A character as written inside a quoted text: quotes, backslashes and control
characters escaped, and every character outside printable ASCII written as its
UTF-16 code units in hex. -/
def escapeChar (c : Char) : String :=
  match c with
  | '"' => "\\\""
  | '\\' => "\\\\"
  | '\n' => "\\n"
  | '\r' => "\\r"
  | '\t' => "\\t"
  | c =>
    let n := c.toNat
    if n == 8 then "\\b"
    else if n == 12 then "\\f"
    else if 0x20 ≤ n && n ≤ 0x7e then c.toString
    else if n < 0x10000 then "\\u" ++ hex4 n
    else
      let m := n - 0x10000
      "\\u" ++ hex4 (0xd800 + m / 0x400) ++ "\\u" ++ hex4 (0xdc00 + m % 0x400)

/-- A quoted text. -/
def quote (s : String) : String := "\"" ++ String.join (s.toList.map escapeChar) ++ "\""

/-- The value as text, with a space after each comma and colon and every character
outside printable ASCII escaped. -/
def text : Json → String
  | .null => "null"
  | .bool b => if b then "true" else "false"
  | .int n => toString n
  | .decimal m e => decimalText m e
  | .str s => quote s
  | .arr xs => "[" ++ ", ".intercalate (xs.attach.map fun ⟨x, _⟩ => text x) ++ "]"
  | .obj fs => "\x7b" ++ ", ".intercalate (fs.attach.map fun ⟨(k, v), h⟩ =>
    have : sizeOf v < 1 + sizeOf fs := by
      have := List.sizeOf_lt_of_mem h
      simp only [Prod.mk.sizeOf_spec] at this
      omega
    quote k ++ ": " ++ text v) ++ "\x7d"

end Json

end SalonBooking
