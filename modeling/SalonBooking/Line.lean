import SalonBooking.Error
import SalonBooking.Uuid

/-!
Messaging channel settings. A tenant keeps its channel settings in a
configuration document whose `mode` says where channels live: one for the whole
tenant, one per store, or one per practitioner. The settings in force are taken
from the most specific level that has any, and each of the four settings is the
first one given from that level down to the tenant.

Configuration documents are free-form: a document that is not an object, read
for a setting, is a fault; one that is not truthy counts as empty.
-/

namespace SalonBooking

namespace Line

/-- The four channel settings, in their fixed order. -/
def settingNames : List String :=
  ["liff_id", "channel_id", "channel_access_token", "channel_secret"]

/-- Where channels live. -/
inductive Mode where
  | tenant
  | store
  | practitioner
  deriving DecidableEq, Repr

def Mode.name : Mode → String
  | .tenant => "tenant"
  | .store => "store"
  | .practitioner => "practitioner"

/-- The level whose settings are in force. -/
abbrev Source := Mode

/-- Setting `key` of a configuration document; a truthy document that is not an
object cannot be read. -/
def get (config : Json) (key : String) : Except Fault Json :=
  match config with
  | .obj fs => .ok ((fs.lookup key).getD .null)
  | other => if other.truthy then .error (.notAnObject other.kindName) else .ok .null

/-- Whether a document gives any channel setting a truthy value. An empty document
gives none; settings are looked at in order, and the first truthy one decides. -/
def hasSettings (config : Json) : Except Fault Bool :=
  if !config.truthy then .ok false
  else settingNames.foldlM (fun found key =>
    if found then .ok true else do return (← get config key).truthy) false

/-- The first value given for `key` among `configs`, the most specific first;
documents that are not truthy are passed over. -/
def firstGiven (configs : List Json) (key : String) : Except Fault Json :=
  configs.foldlM (fun chosen c =>
    if !chosen.isNull || !c.truthy then .ok chosen else get c key) Json.null

/-- The four settings merged from `configs`, the most specific first. -/
def merge (configs : List Json) : Except Fault Json := do
  let values ← settingNames.mapM (firstGiven configs)
  pure (.obj (settingNames.zip values))

/-- The mode a tenant's document chooses; anything but a known mode name is
`tenant`. -/
def modeOf (tenantConfig : Json) : Except Fault Mode := do
  let m ← if tenantConfig.truthy then get tenantConfig "mode" else pure .null
  pure <| match m with
    | .str "store" => .store
    | .str "practitioner" => .practitioner
    | _ => .tenant

/-- The settings in force and where they come from. -/
structure Resolved where
  mode : Mode
  source : Source
  config : Json
  store : Option Uuid
  practitioner : Option Uuid

/-- A document, or the empty object for one that is not truthy. -/
def orEmpty (c : Json) : Json := if c.truthy then c else .obj []

/-- Resolves the settings in force for a tenant, and optionally a store and a
practitioner, each given with its configuration document. -/
def resolve (tenantConfig : Json) (store : Option (Uuid × Json))
    (practitioner : Option (Uuid × Json)) : Except Fault Resolved := do
  let mode ← modeOf tenantConfig
  let tenantC := orEmpty tenantConfig
  let storeC := match store with
    | some (_, c) => orEmpty c
    | none => .obj []
  let fromPractitioner : Except Fault (Option Resolved) :=
    match practitioner with
    | some (p, pc) => do
      if ← hasSettings pc then
        pure (some ⟨mode, .practitioner, ← merge [pc, storeC, tenantC], store.map (·.1), some p⟩)
      else pure none
    | none => pure none
  let fromStore : Except Fault (Option Resolved) :=
    match store with
    | some (s, _) => do
      if ← hasSettings storeC then
        pure (some ⟨mode, .store, ← merge [storeC, tenantC], some s, none⟩)
      else pure none
    | none => pure none
  let fallback : Except Fault Resolved := do
    pure ⟨mode, .tenant, ← merge [tenantC], none, none⟩
  match mode with
  | .practitioner =>
    match ← fromPractitioner with
    | some r => pure r
    | none =>
      match ← fromStore with
      | some r => pure r
      | none => fallback
  | .store =>
    match ← fromStore with
    | some r => pure r
    | none => fallback
  | .tenant => fallback

end Line

end SalonBooking
