import SalonBooking.Console.Session
import SalonBooking.Api.Service

/-!
Console steps that send one HTTP request to the service. Handles are written into
the request: `{H}` in the path stands for the id of handle `H` and `{token:L}` for
the token of link `L`, and a text `@H` in the query or body for the id's text. The
answer gives the response's status and body, where instants that only matter as
having happened are shown as flags, ids as handles, and link tokens by the handle of
their link.
-/

namespace SalonBooking.Console

open SalonBooking.Api

/-- The text an `@H` field stands for: the id of handle `H`; any other text stands
for itself. -/
def atHandle (s : String) : Scene String :=
  match s.toList with
  | '@' :: h =>
    if isHandle (String.ofList h) then do return (← naming (idOfText (String.ofList h))).text
    else pure s
  | _ => pure s

/-- A document with each `@H` text replaced by the text of the id it stands for. -/
def withHandleIds : Json → Scene Json
  | .str s => .str <$> atHandle s
  | .arr xs => .arr <$> xs.attach.mapM fun ⟨x, _⟩ => withHandleIds x
  | .obj fs => .obj <$> fs.attach.mapM fun ⟨(k, v), h⟩ => do
    have : sizeOf v < 1 + sizeOf fs := by
      have := List.sizeOf_lt_of_mem h
      simp only [Prod.mk.sizeOf_spec] at this
      omega
    return (k, ← withHandleIds v)
  | other => pure other

/-- The id handle `h` names, if it names one; no id is made up. -/
def knownId? (h : String) : Scene (Option Uuid) := do
  let hs := (← get).handles
  pure ((hs.bound.lookup h).orElse fun _ => hs.unbound.lookup h)

/-- What a path placeholder stands for: a link's token, empty for a link no handle
names, or a handle's id. -/
def placeholder (inner : String) : Scene String := do
  match inner.toList with
  | 't' :: 'o' :: 'k' :: 'e' :: 'n' :: ':' :: h =>
    match ← knownId? (String.ofList h) with
    | some id => pure ((((← get).db.links.find? (·.id == id)).map (·.token)).getD "")
    | none => pure ""
  | _ => do return (← naming (idOfText inner)).text

/-- A path with its placeholders filled in; an opening brace without a closing one
is kept as it is. -/
def fillPath (path : String) : Scene String := do
  match path.splitOn "\x7b" with
  | [] => pure ""
  | first :: rest =>
    let parts ← rest.mapM fun part =>
      match part.splitOn "\x7d" with
      | inner :: after :: more => do
        return (← placeholder inner) ++ "\x7d".intercalate (after :: more)
      | _ => pure ("\x7b" ++ part)
    pure (first ++ String.join parts)

/-- A query value as the text sent. -/
def queryText : Json → Scene String
  | .str s => atHandle s
  | .int n => pure (toString n)
  | .bool b => pure (if b then "true" else "false")
  | .decimal m e => pure (Json.decimalText m e)
  | _ => pure ""

/-- The query parameters of a step, a list value repeating its name. -/
def readQuery (j : Json) : Scene (List (String × String)) := do
  match j.field? "query" with
  | some (.obj fs) =>
    let groups ← fs.mapM fun (k, v) =>
      match v with
      | .arr xs => xs.mapM fun x => do return (k, ← queryText x)
      | x => do return [(k, ← queryText x)]
    pure groups.flatten
  | _ => pure []

/-- The extra headers of a step, with names in lower case. -/
def readHeaders (j : Json) : Scene (List (String × String)) := do
  match j.field? "headers" with
  | some (.obj fs) => fs.mapM fun (k, v) => do return (k.toLower, ← queryText v)
  | _ => pure []

/-- The id text a claim names by handle, with or without a leading `@`. -/
def claimId (s : String) : Scene String := do
  let h := match s.toList with
    | '@' :: rest => String.ofList rest
    | _ => s
  return (← naming (idOfText h)).text

/-- The credential of a step: a token issued for the claims of an `auth` object, which
has expired when its lifetime is negative, or an `auth` text sent as the header. -/
def readCredential (j : Json) : Scene Credential := do
  match j.field? "auth" with
  | some (.str s) => pure (.header s)
  | some (.obj fs) =>
    let a := Json.obj fs
    let sub ← atHandle (← text a "sub")
    let role ← text a "role"
    let tenant ← match ← textOpt a "tenant" with
      | some t => some <$> claimId t
      | none => pure none
    let store ← match ← textOpt a "store" with
      | some t => some <$> claimId t
      | none => pure none
    let name ← textOpt a "name"
    let minutes := (← intOpt a "expires_minutes").getD 60
    pure (.token ⟨sub, role, tenant, store, name⟩ (decide (minutes < 0)))
  | _ => pure .absent

/-- The value of a hex digit. -/
def hexValue? (c : Char) : Option Nat :=
  if c.isDigit then some (c.toNat - '0'.toNat)
  else if 'a' ≤ c && c ≤ 'f' then some (c.toNat - 'a'.toNat + 10)
  else if 'A' ≤ c && c ≤ 'F' then some (c.toNat - 'A'.toNat + 10)
  else none

/-- The bytes a text spells, with each `%XX` read as the byte it escapes. -/
def unescapedBytes : List Char → List UInt8
  | '%' :: a :: b :: rest =>
    match hexValue? a, hexValue? b with
    | some x, some y => (x * 16 + y).toUInt8 :: unescapedBytes rest
    | _, _ => '%'.toString.toUTF8.toList ++ unescapedBytes (a :: b :: rest)
  | c :: rest => c.toString.toUTF8.toList ++ unescapedBytes rest
  | [] => []

/-- A text with its `%XX` escapes read; a text whose bytes are not UTF-8 is kept. -/
def unescape (s : String) : String :=
  (String.fromUTF8? ⟨(unescapedBytes s.toList).toArray⟩).getD s

/-- The parameters of a query string; `+` stands for a space. -/
def queryPairs (q : String) : List (String × String) :=
  let plain (t : String) : String := unescape (t.map fun c => if c == '+' then ' ' else c)
  ((q.splitOn "&").filter (· != "")).map fun part =>
    match part.splitOn "=" with
    | k :: v :: more => (plain k, plain ("=".intercalate (v :: more)))
    | _ => (plain part, "")

/-- The user agent every request of the console carries. -/
def userAgent : String := "oracle"

/-- The request a step sends. The path is read as written after its placeholders are
filled in: a query string after `?` comes before the step's query, and escapes are
read. -/
def readHttpRequest (j : Json) : Scene Request := do
  let body ← match j.field? "body" with
    | some .null | none => pure none
    | some b => some <$> withHandleIds b
  let target ← fillPath (← text j "path")
  let (path, inline) := match target.splitOn "?" with
    | p :: q :: more => (p, queryPairs ("?".intercalate (q :: more)))
    | _ => (target, [])
  pure {
    method := (← text j "method").toUpper
    path := unescape path
    query := inline ++ (← readQuery j)
    headers := (← readHeaders j) ++ [("user-agent", userAgent)]
    body := body
    credential := ← readCredential j }

/-- The fields shown as flags: whether the instant is set. -/
def instantFields : List String :=
  ["created_at", "updated_at", "canceled_at", "reminder_sent_at", "last_used_at"]

/-- A document with its instants shown as flags. -/
def flagInstants : Json → Json
  | .arr xs => .arr (xs.attach.map fun ⟨x, _⟩ => flagInstants x)
  | .obj fs => .obj (fs.attach.map fun ⟨(k, v), h⟩ =>
    have : sizeOf v < 1 + sizeOf fs := by
      have := List.sizeOf_lt_of_mem h
      simp only [Prod.mk.sizeOf_spec] at this
      omega
    if instantFields.contains k then (k, .bool !v.isNull) else (k, flagInstants v))
  | other => other

/-- The texts of a document. -/
def texts : Json → List String
  | .str s => [s]
  | .arr xs => (xs.attach.map fun ⟨x, _⟩ => texts x).flatten
  | .obj fs => (fs.attach.map fun ⟨(_, v), h⟩ =>
    have : sizeOf v < 1 + sizeOf fs := by
      have := List.sizeOf_lt_of_mem h
      simp only [Prod.mk.sizeOf_spec] at this
      omega
    texts v).flatten
  | _ => []

/-- A document with every occurrence of `token` in its texts replaced by `shown`. -/
def replaceText (token shown : String) : Json → Json
  | .str s => .str (s.replace token shown)
  | .arr xs => .arr (xs.attach.map fun ⟨x, _⟩ => replaceText token shown x)
  | .obj fs => .obj (fs.attach.map fun ⟨(k, v), h⟩ =>
    have : sizeOf v < 1 + sizeOf fs := by
      have := List.sizeOf_lt_of_mem h
      simp only [Prod.mk.sizeOf_spec] at this
      omega
    (k, replaceText token shown v))
  | other => other

/-- A document with each link token in it shown by its link's handle. -/
def maskTokens (body : Json) : Scene Json := do
  let inBody := texts body
  let links := (← get).db.links.filter fun l =>
    !l.token.isEmpty && inBody.any fun s => (s.splitOn l.token).length > 1
  links.foldlM (fun b l => do
    let h ← fun s : Session =>
      let (h, hs) := (handleOf (kindOf s.db) l.id).run s.handles
      Except.ok (h, { s with handles := hs })
    pure (replaceText l.token ("<token:" ++ h ++ ">") b)) body

/-- The answer for a response whose body is not a JSON document. -/
def unreadableBody : Json :=
  .obj [("error", .str "JSONDecodeError"), ("message", .str "Expecting value: line 1 column 1 (char 0)")]

/-- Sends a step's request to the service and answers with the response. -/
def httpStep (j : Json) : Scene Json := do
  let req ← readHttpRequest j
  let available := (← textOpt j "database") != some "unavailable"
  let s ← get
  match (Api.serve req available Link.mixedSource).run s.db with
  | .error f db =>
    set { s with db := db }
    printed f.answer
  | .ok resp db =>
    set { s with db := db }
    match resp.body with
    | none => pure unreadableBody
    | some body =>
      let body ← printed (flagInstants body)
      let body ← maskTokens body
      pure (okAnswer (.obj [("status", .int resp.status), ("body", body)]))

end SalonBooking.Console
