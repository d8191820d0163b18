/-!
Identifiers are 128-bit UUIDs. They print in the canonical form, 32 lowercase hex
digits in groups of 8-4-4-4-12, and are read from text in two ways: leniently, as
the service reads the subject of a customer's token (hyphens, braces and an `urn:`
or `uuid:` tag ignored, 32 hex digits left), and strictly, as request fields are
checked (simple, hyphenated, braced or `urn:uuid:` forms), with a reason when the
text is not one of them.
-/

namespace SalonBooking

/-- A 128-bit identifier. -/
structure Uuid where
  value : Nat
  deriving DecidableEq, Repr, Hashable

namespace Uuid

/-- Value of one hex digit. -/
def hexValue? (c : Char) : Option Nat :=
  if '0' ≤ c ∧ c ≤ '9' then some (c.toNat - '0'.toNat)
  else if 'a' ≤ c ∧ c ≤ 'f' then some (c.toNat - 'a'.toNat + 10)
  else if 'A' ≤ c ∧ c ≤ 'F' then some (c.toNat - 'A'.toNat + 10)
  else none

/-- Value of a run of hex digits, if every character is one. -/
def hexDigits? (cs : List Char) : Option Nat :=
  cs.foldlM (fun acc c => (hexValue? c).map (acc * 16 + ·)) 0

def hexChar (n : Nat) : Char :=
  if n < 10 then Char.ofNat ('0'.toNat + n) else Char.ofNat ('a'.toNat + n - 10)

/-- The `k` lowest hex digits of `n`, most significant first. -/
def hexOf (k n : Nat) : List Char :=
  (List.range k).reverse.map fun i => hexChar (n / Nat.pow 16 i % 16)

/-- The canonical text: lowercase hex digits grouped 8-4-4-4-12. -/
def text (u : Uuid) : String :=
  let cs := hexOf 32 u.value
  String.ofList (cs.take 8 ++ '-' :: (cs.drop 8).take 4 ++ '-' :: (cs.drop 12).take 4 ++
    '-' :: (cs.drop 16).take 4 ++ '-' :: cs.drop 20)

instance : ToString Uuid := ⟨text⟩

/-- Removes every occurrence of `pat` from `cs`. -/
def dropAll (pat : List Char) (cs : List Char) : List Char :=
  match pat with
  | [] => cs
  | p :: ps =>
    match cs with
    | [] => []
    | c :: rest =>
      if c = p ∧ ps.isPrefixOf rest then dropAll pat (rest.drop ps.length)
      else c :: dropAll pat rest
termination_by cs.length
decreasing_by
  all_goals
    simp only [List.length_drop, List.length_cons]
    omega

/-- Lenient reading: `urn:` and `uuid:` removed, braces stripped from both ends,
hyphens dropped, and then exactly 32 hex digits. -/
def ofLenient? (s : String) : Option Uuid :=
  let cs := dropAll "uuid:".toList (dropAll "urn:".toList s.toList)
  let cs := (cs.dropWhile (fun c => c = '{' ∨ c = '}')).reverse.dropWhile (fun c => c = '{' ∨ c = '}')
  let cs := cs.reverse.filter (· ≠ '-')
  if cs.length = 32 then (hexDigits? cs).map Uuid.mk else none

/-- Why a text is not a UUID in the strict reading. -/
inductive ParseError where
  /-- A character that is neither a hex digit nor a hyphen, at a zero-based position. -/
  | badCharacter (c : Char) (position : Nat)
  /-- Hex digits only, but not 32 of them. -/
  | badLength (length : Nat)
  /-- Hyphens splitting the text into other than five groups. -/
  | badGroupCount (count : Nat)
  /-- Five groups, group `group` (from 0) of the wrong length. -/
  | badGroupLength (group length : Nat)
  deriving DecidableEq, Repr

/-- The reason in words. -/
def ParseError.message : ParseError → String
  | .badCharacter c i => "invalid character: found `" ++ c.toString ++ "` at " ++ toString i
  | .badLength n => "invalid length: found " ++ toString n
  | .badGroupCount n => "invalid group count: found " ++ toString n
  | .badGroupLength g n => "invalid group length in group " ++ toString g ++ ": found " ++ toString n

/-- Lengths of the hyphen-separated groups of `cs`. -/
def groupLengths (cs : List Char) : List Nat :=
  ((String.ofList cs).splitOn "-").map String.length

/-- The hyphenated form `8-4-4-4-12`, read. -/
def hyphenated? (cs : List Char) : Option Uuid :=
  if groupLengths cs = [8, 4, 4, 4, 12] then (hexDigits? (cs.filter (· ≠ '-'))).map Uuid.mk
  else none

/-- Why `cs`, known not to be a UUID, is not one; `shift` is the length of a prefix
already removed. -/
def reason (cs : List Char) (shift : Nat) (simple : Bool) : ParseError :=
  match (cs.zipIdx).find? (fun (c, _) => c ≠ '-' ∧ (hexValue? c).isNone) with
  | some (c, i) => .badCharacter c (i + shift)
  | none =>
    let groups := groupLengths cs
    if groups.length = 1 ∧ simple then .badLength cs.length
    else if groups.length ≠ 5 then .badGroupCount groups.length
    else
      let expected := [8, 4, 4, 4, 12]
      match ((groups.zip expected).zipIdx).find? (fun ((g, e), _) => g ≠ e) with
      | some ((g, _), i) => .badGroupLength i g
      | none => .badGroupLength 4 (groups.getD 4 0)

/-- Strict reading: 32 hex digits, the hyphenated form, the hyphenated form in
braces, or the hyphenated form after `urn:uuid:`. -/
def parse (s : String) : Except ParseError Uuid :=
  let cs := s.toList
  let body : List Char × Nat × Bool :=
    if cs.length = 38 ∧ cs.head? = some '{' ∧ cs.getLast? = some '}' then
      ((cs.drop 1).dropLast, 1, false)
    else if "urn:uuid:".toList.isPrefixOf cs then (cs.drop 9, 9, false)
    else (cs, 0, true)
  let (inner, shift, simple) := body
  let found :=
    if simple ∧ inner.length = 32 then (hexDigits? inner).map Uuid.mk
    else if inner.length = 36 then hyphenated? inner
    else none
  match found with
  | some u => .ok u
  | none => .error (reason inner shift simple)

end Uuid

end SalonBooking
