import SalonBooking.Api.Message
import SalonBooking.Api.Temporal
import SalonBooking.Uuid

/-!
Checking request fields. Each field of a request is read into its type, leniently
(a text may stand for a number, a flag or an instant), and checked against its
constraints; a field that fails gives an error naming where it is (`loc`), what kind
of failure it is (`type`), a message, the input itself and the constraint's context.
All fields are checked, and every failure is reported.
-/

namespace SalonBooking.Api

open SalonBooking.Calendar

/-- A step of the way to a field: an object key or a list index. -/
inductive LocPart where
  | key (name : String)
  | index (i : Nat)

/-- A field that failed its check. -/
structure FieldError where
  loc : List LocPart
  kind : String
  msg : String
  input : Json
  ctx : Option Json := none

/-- The error as a document. -/
def FieldError.toJson (e : FieldError) : Json :=
  let loc := e.loc.map fun
    | .key k => Json.str k
    | .index i => Json.int i
  .obj ([("type", .str e.kind), ("loc", .arr loc), ("msg", .str e.msg), ("input", e.input)] ++
    match e.ctx with
    | some c => [("ctx", c)]
    | none => [])

/-- Why one value failed, before its place is known. -/
structure Failure where
  kind : String
  msg : String
  ctx : Option Json := none

/-- Reading one value. -/
abbrev Reading := Except Failure

namespace Field

def missing (input : Json) (loc : List LocPart) : FieldError :=
  ⟨loc, "missing", "Field required", input, none⟩

/-- Whether `c` is white space in the Unicode sense, as trimmed from number texts. -/
def isBlank (c : Char) : Bool :=
  let n := c.toNat
  (9 ≤ n && n ≤ 13) || n == 32 || n == 0x85 || n == 0xa0 || n == 0x1680 ||
    (0x2000 ≤ n && n ≤ 0x200a) || n == 0x2028 || n == 0x2029 || n == 0x202f || n == 0x205f ||
    n == 0x3000

/-- A text that spells a whole number: an optional sign and decimal digits, with blanks
around them and optionally a point followed by zeros only. A text of nineteen or more
characters may also separate its digits with underscores, though not before the first. -/
def intOfText? (s : String) : Option Int :=
  let t := (s.toList.dropWhile isBlank).reverse.dropWhile isBlank |>.reverse
  let long := 19 ≤ t.length
  let t := match t.span (· != '.') with
    | (whole, '.' :: frac) => if frac.all (· == '0') then whole else t
    | _ => t
  let (neg, ds) := match t with
    | '-' :: r => (true, r)
    | '+' :: r => (false, r)
    | r => (false, r)
  let separated := long && ds.head? != some '_' && ds.any Char.isDigit &&
    ds.all fun c => c.isDigit || c == '_'
  if !(separated || (!ds.isEmpty && ds.all Char.isDigit)) then none
  else
    let n := (ds.filter Char.isDigit).foldl (fun acc c => acc * 10 + (c.toNat - '0'.toNat)) 0
    some (if neg then -(n : Int) else n)

def uuid (v : Json) : Reading Uuid :=
  match v with
  | .str s =>
    match Uuid.parse s with
    | .ok u => .ok u
    | .error e => .error ⟨"uuid_parsing", "Input should be a valid UUID, " ++ e.message,
        some (.obj [("error", .str e.message)])⟩
  | _ => .error ⟨"uuid_type", "UUID input should be a string, bytes or UUID object", none⟩

def int (v : Json) : Reading Int :=
  match v with
  | .int n => .ok n
  | .bool b => .ok (if b then 1 else 0)
  | .decimal m e =>
    if m % (Nat.pow 10 e : Nat) == 0 then .ok (m / (Nat.pow 10 e : Nat))
    else .error ⟨"int_from_float", "Input should be a valid integer, got a number with a fractional part", none⟩
  | .str s =>
    match intOfText? s with
    | some n => .ok n
    | none => .error ⟨"int_parsing", "Input should be a valid integer, unable to parse string as an integer", none⟩
  | _ => .error ⟨"int_type", "Input should be a valid integer", none⟩

def text (v : Json) : Reading String :=
  match v with
  | .str s => .ok s
  | _ => .error ⟨"string_type", "Input should be a valid string", none⟩

/-- The texts read as true and as false, in any case. -/
def trueTexts : List String := ["1", "on", "t", "true", "y", "yes"]
def falseTexts : List String := ["0", "off", "f", "false", "n", "no"]

def bool (v : Json) : Reading Bool :=
  let parsing : Failure := ⟨"bool_parsing", "Input should be a valid boolean, unable to interpret input", none⟩
  match v with
  | .bool b => .ok b
  | .int 0 => .ok false
  | .int 1 => .ok true
  | .int _ => .error parsing
  | .str s =>
    let l := s.toLower
    if trueTexts.contains l then .ok true
    else if falseTexts.contains l then .ok false
    else .error parsing
  | _ => .error ⟨"bool_type", "Input should be a valid boolean", none⟩

def list (v : Json) : Reading (List Json) :=
  match v with
  | .arr xs => .ok xs
  | _ => .error ⟨"list_type", "Input should be a valid list", none⟩

/-- The first second since the epoch read as an instant, that of 0001-01-01. -/
def epochFirstSecond : Int := -62135596800

/-- The first second since the epoch past the instants read, that of 10000-01-01. -/
def epochEndSecond : Int := 253402300800

/-- The UTC instant `n` seconds after the epoch, or `n` milliseconds after it when `n` is
beyond twenty billion either way; or why no instant is read. -/
def epochInstant (n : Int) : Except String DateTime :=
  let (secs, micros) : Int × Int :=
    if n.natAbs ≤ 20000000000 then (n, 0) else (n / 1000, n % 1000 * 1000)
  let early := "dates before 0000 are not supported as unix timestamps"
  let late := "dates after 9999 are not supported as unix timestamps"
  if secs < epochFirstSecond then .error early
  else if epochEndSecond ≤ secs then .error late
  else match DateTime.ofMicros? (secs * (microsPerSecond : Int) + micros) with
    | some t => .ok t
    | none => .error late

/-- A count since the epoch written as a text: an optional sign and decimal digits. -/
def epochCount? (s : String) : Option Int :=
  let (neg, ds) := match s.toList with
    | '-' :: r => (true, r)
    | '+' :: r => (false, r)
    | r => (false, r)
  if ds.isEmpty || !ds.all Char.isDigit then none
  else
    let n := ds.foldl (fun acc c => acc * 10 + (c.toNat - '0'.toNat)) 0
    some (if neg then -(n : Int) else n)

/-- A failure of kind `kind` whose message ends with the reason `why`. -/
def because (kind lead why : String) : Failure :=
  ⟨kind, lead ++ why, some (.obj [("error", .str why)])⟩

/-- The inexact-date failure: a date-time given for a date is not at midnight. -/
def inexact : Failure :=
  ⟨"date_from_datetime_inexact", "Datetimes provided to dates should have zero time - e.g. be exact dates", none⟩

/-- The date of an instant read for a date, which must be at midnight. -/
def dateOfInstant (r : Except String DateTime) : Reading Date :=
  match r with
  | .ok t => if t.time.micros == 0 then .ok t.date else .error inexact
  | .error why =>
    .error (because "date_from_datetime_parsing" "Input should be a valid date or datetime, " why)

/-- A date; a date-time at midnight, or a count since the epoch of one, is read as its
date. -/
def date (v : Json) : Reading Date :=
  match v with
  | .str s =>
    match Temporal.date s with
    | .ok d => .ok d
    | .error _ =>
      match epochCount? s with
      | some n => dateOfInstant (epochInstant n)
      | none =>
        match Temporal.dateTime s with
        | .ok (dt, _) => dateOfInstant (.ok dt)
        | .error e => dateOfInstant (.error e.message)
  | .int n => dateOfInstant (epochInstant n)
  | _ => .error ⟨"date_type", "Input should be a valid date", none⟩

/-- A time of day, with its offset when it has one; a whole number is that many seconds
after midnight, in UTC. -/
def time (v : Json) : Reading ClockReading :=
  let lead := "Input should be in a valid time format, "
  match v with
  | .str s =>
    match Temporal.time s with
    | .ok (t, z) => .ok ⟨t, z⟩
    | .error e => .error (because "time_parsing" lead e.message)
  | .int n =>
    if n < 0 then .error (because "time_parsing" lead "time in seconds should be positive")
    else match TimeOfDay.ofMicros? (n * (microsPerSecond : Int)) with
      | some t => .ok ⟨t, some 0⟩
      | none => .error (because "time_parsing" lead "numeric times may not exceed 86,399 seconds")
  | _ => .error ⟨"time_type", "Input should be a valid time", none⟩

/-- A date-time, with its offset if it has one; a count since the epoch is in UTC, and a
date is read as its midnight. -/
def dateTime (v : Json) : Reading Stamp :=
  match v with
  | .str s =>
    match Temporal.dateTime s with
    | .ok (dt, z) => .ok ⟨dt, z.map (· * (microsPerSecond : Int))⟩
    | .error _ =>
      let lead := "Input should be a valid datetime or date, "
      match epochCount? s with
      | some n =>
        match epochInstant n with
        | .ok t => .ok ⟨t, some 0⟩
        | .error why => .error (because "datetime_from_date_parsing" lead why)
      | none =>
        match Temporal.date s with
        | .ok d => .ok ⟨⟨d, TimeOfDay.midnight⟩, none⟩
        | .error e => .error (because "datetime_from_date_parsing" lead e.message)
  | .int n =>
    match epochInstant n with
    | .ok t => .ok ⟨t, some 0⟩
    | .error why => .error (because "datetime_parsing" "Input should be a valid datetime, " why)
  | _ => .error ⟨"datetime_type", "Input should be a valid datetime", none⟩

/-- The allowed names, as a message lists them: quoted, the last after `or`. -/
def expectedText (names : List String) : String :=
  let quoted := names.map fun n => "'" ++ n ++ "'"
  match quoted.reverse with
  | [] => ""
  | [one] => one
  | last :: rest => ", ".intercalate rest.reverse ++ " or " ++ last

/-- One of the names `names`. -/
def oneOf (names : List String) (v : Json) : Reading String :=
  let e := expectedText names
  match v with
  | .str s => if names.contains s then .ok s
    else .error ⟨"enum", "Input should be " ++ e, some (.obj [("expected", .str e)])⟩
  | _ => .error ⟨"enum", "Input should be " ++ e, some (.obj [("expected", .str e)])⟩

/-- A text of at most `n` characters. -/
def maxLength (n : Nat) (s : String) : Reading String :=
  if s.length ≤ n then .ok s
  else .error ⟨"string_too_long", "String should have at most " ++ toString n ++ " characters",
    some (.obj [("max_length", .int n)])⟩

/-- A text that is one of `alternatives`, as the pattern `pattern` allows. -/
def matching (pattern : String) (alternatives : List String) (s : String) : Reading String :=
  if alternatives.contains s then .ok s
  else .error ⟨"string_pattern_mismatch", "String should match pattern '" ++ pattern ++ "'",
    some (.obj [("pattern", .str pattern)])⟩

def atLeast (bound : Int) (n : Int) : Reading Int :=
  if bound ≤ n then .ok n
  else .error ⟨"greater_than_equal", "Input should be greater than or equal to " ++ toString bound,
    some (.obj [("ge", .int bound)])⟩

def atMost (bound : Int) (n : Int) : Reading Int :=
  if n ≤ bound then .ok n
  else .error ⟨"less_than_equal", "Input should be less than or equal to " ++ toString bound,
    some (.obj [("le", .int bound)])⟩

/-- A list of at least one item. -/
def nonEmpty {α : Type} (xs : List α) : Reading (List α) :=
  if xs.isEmpty then .error ⟨"too_short", "List should have at least 1 item after validation, not 0",
    some (.obj [("field_type", .str "List"), ("min_length", .int 1), ("actual_length", .int 0)])⟩
  else .ok xs

end Field

/-- Checking the fields of a request: the errors found so far. -/
abbrev Checking := StateM (List FieldError)

/-- Reads a value found at `loc`; a failure is recorded and gives none. -/
def Failure.at {α : Type} (r : Reading α) (loc : List LocPart) (input : Json) : Checking (Option α) :=
  match r with
  | .ok a => pure (some a)
  | .error f => do
    modify (· ++ [⟨loc, f.kind, f.msg, input, f.ctx⟩])
    pure none

/-- Reads every item of a list, each at its index. -/
def eachAt {α : Type} (read : Json → Reading α) (xs : List Json) (loc : List LocPart) :
    Checking (Option (List α)) := do
  let rs ← xs.zipIdx.mapM fun (x, i) => Failure.at (read x) (loc ++ [.index i]) x
  pure (rs.mapM id)

end SalonBooking.Api
