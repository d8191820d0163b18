import SalonBooking.Json

/-!
HTTP requests and responses as the service sees them. A request carries its
method, its path, its query parameters (a name may repeat), its headers (names in
lower case), an optional JSON body and the credential it presents. A response is a
status code and, except for a redirect, a JSON body.

The credential is what the `Authorization` header amounts to: none, a header that
does not hold a token the service accepts, or a token issued by the identity
provider with its claims and whether it has expired.
-/

namespace SalonBooking.Api

/-- The claims of an access token, as issued. -/
structure Claims where
  sub : String
  role : String
  tenant : Option String := none
  store : Option String := none
  name : Option String := none
  deriving Repr

/-- What a request presents to prove who sends it. -/
inductive Credential where
  | absent
  /-- An `Authorization` header whose text is not an accepted token. -/
  | header (text : String)
  /-- An issued token and whether it has expired. -/
  | token (claims : Claims) (expired : Bool)
  deriving Repr

/-- An HTTP request. -/
structure Request where
  method : String
  path : String
  query : List (String × String) := []
  headers : List (String × String) := []
  body : Option Json := none
  credential : Credential := .absent
  clientHost : String := "127.0.0.1"

/-- An HTTP response: its status, and its JSON body unless it has none. -/
structure Response where
  status : Nat
  body : Option Json

namespace Request

/-- The first value of header `name`, which is in lower case. -/
def header? (r : Request) (name : String) : Option String := r.headers.lookup name

/-- Every value of query parameter `name`, in order. -/
def queryAll (r : Request) (name : String) : List String :=
  (r.query.filter (·.1 == name)).map (·.2)

/-- The last value of query parameter `name`. -/
def query? (r : Request) (name : String) : Option String := (r.queryAll name).getLast?

end Request

/-- A response whose body is `{"detail": text}`. -/
def Response.detail (status : Nat) (text : String) : Response :=
  ⟨status, some (.obj [("detail", .str text)])⟩

end SalonBooking.Api
