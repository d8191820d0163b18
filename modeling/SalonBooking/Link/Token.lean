/-!
Booking-link tokens. A token is 16 to 128 characters drawn from the URL-safe
alphabet (ASCII letters, digits, `_` and `-`); one line end may follow it, as a
line-anchored pattern allows. A token presented for use is first stripped of white
space at both ends. A new token is the URL-safe base64 text of random bytes, its
padding left off. A link's address is the booking page's base address followed by the
token.
-/

namespace SalonBooking.Link

/-- Whether `c` is in the URL-safe token alphabet. -/
def isTokenChar (c : Char) : Bool :=
  ('A' ≤ c && c ≤ 'Z') || ('a' ≤ c && c ≤ 'z') || ('0' ≤ c && c ≤ '9') || c == '_' || c == '-'

/-- Whether `cs` is a run of 16 to 128 token characters. -/
def isTokenBody (cs : List Char) : Bool :=
  16 ≤ cs.length && cs.length ≤ 128 && cs.all isTokenChar

/-- Whether a text has the form of a token, allowing one line end after it. -/
def wellFormed (token : String) : Bool :=
  let cs := token.toList
  isTokenBody cs || (cs.getLast? == some '\n' && isTokenBody cs.dropLast)

/-- Whether `c` is white space in the Unicode sense: the ASCII blanks and
separators, the next-line and no-break spaces, and the Unicode space separators. -/
def isSpace (c : Char) : Bool :=
  let n := c.toNat
  (9 ≤ n && n ≤ 13) || (28 ≤ n && n ≤ 32) || n == 0x85 || n == 0xa0 || n == 0x1680 ||
    (0x2000 ≤ n && n ≤ 0x200a) || n == 0x2028 || n == 0x2029 || n == 0x202f || n == 0x205f ||
    n == 0x3000

/-- A text without white space at either end. -/
def strip (s : String) : String :=
  String.ofList ((s.toList.dropWhile isSpace).reverse.dropWhile isSpace).reverse

/-- The digit of the URL-safe base64 alphabet for a six-bit value: `A` to `Z`, `a` to
`z`, `0` to `9`, then `-` and `_`. -/
def urlsafeDigit (n : Nat) : Char :=
  if n < 26 then Char.ofNat ('A'.toNat + n)
  else if n < 52 then Char.ofNat ('a'.toNat + (n - 26))
  else if n < 62 then Char.ofNat ('0'.toNat + (n - 52))
  else if n = 62 then '-' else '_'

/-- URL-safe base64 of `bytes` with the padding left off: each three bytes give four
digits, and one or two bytes left at the end give two or three. -/
def urlsafeDigits : List UInt8 → List Char
  | a :: b :: c :: rest =>
    let n := (a.toNat * 256 + b.toNat) * 256 + c.toNat
    urlsafeDigit (n / 262144) :: urlsafeDigit (n / 4096 % 64) :: urlsafeDigit (n / 64 % 64) ::
      urlsafeDigit (n % 64) :: urlsafeDigits rest
  | [a, b] =>
    let n := (a.toNat * 256 + b.toNat) * 4
    [urlsafeDigit (n / 4096), urlsafeDigit (n / 64 % 64), urlsafeDigit (n % 64)]
  | [a] =>
    let n := a.toNat * 16
    [urlsafeDigit (n / 64), urlsafeDigit (n % 64)]
  | [] => []

/-- The URL-safe text of a run of random bytes, as new tokens are made. -/
def urlsafeText (bytes : List UInt8) : String := String.ofList (urlsafeDigits bytes)

/-- How many random bytes a new token is made from. -/
def tokenBytes : Nat := 24

/-- The base address of the booking pages. -/
def baseUrl : String := "http://localhost:3001/book"

/-- The booking page of a token. -/
def url (token : String) : String := baseUrl ++ "/" ++ token

end SalonBooking.Link
