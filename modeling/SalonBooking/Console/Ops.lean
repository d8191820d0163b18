import SalonBooking.Console.Answer
import SalonBooking.Console.Handles
import SalonBooking.Pricing
import SalonBooking.Selection
import SalonBooking.Catalog
import SalonBooking.Line
import SalonBooking.Link.Token

/-!
The console's single commands: each reads its fields, asks one question of the
policy, pricing, selection, channel-settings or token rules, and answers it.
Handles in the fields stand for ids, and ids in answers print as handles.
-/

namespace SalonBooking.Console

open SalonBooking.Calendar

/-- Reading a command whose fields may name entities by handle. -/
abbrev Naming := StateT Handles Read

/-- The id a field's text stands for: a handle's id, or a UUID written out. -/
def idOfText (s : String) : Naming Uuid := do
  if isHandle s then modifyGet fun hs => hs.resolve s
  else match Uuid.ofLenient? s with
    | some u => pure u
    | none => throw ("not an id: " ++ s)

def idField (j : Json) (k : String) : Naming Uuid := do idOfText (← text j k)

def idFieldOpt (j : Json) (k : String) : Naming (Option Uuid) := do
  match ← textOpt j k with
  | some s => some <$> idOfText s
  | none => pure none

/-- The handle an id prints as, taking the next free `X` handle for an id no handle
names. -/
def nameOf (u : Uuid) : StateM Handles String := do
  match (← get).nameOf? u with
  | some h => pure h
  | none => modifyGet fun hs => hs.bindNext "X" u

/-- A document in which texts that are handles become the text of their ids. -/
def withIds : Json → Naming Json
  | .str s => if isHandle s then do return .str (← idOfText s).text else pure (.str s)
  | .arr xs => .arr <$> xs.attach.mapM fun ⟨x, _⟩ => withIds x
  | other => pure other

/-- A store policy document. -/
def readPolicy (j : Json) : Read StorePolicy := do
  pure {
    timezone := ← text j "timezone"
    slotDuration := (← intOpt j "slot_duration").getD 30
    advanceBookingDays := ← int j "advance_booking_days"
    cancelDeadlineHours := ← int j "cancel_deadline_hours" }

/-- A store's policy columns; absent ones are unset. -/
def readStoreColumns (j : Json) : Read Store := do
  pure {
    id := ⟨0⟩, tenant := ⟨0⟩, name := "", status := none, lineConfig := .obj []
    timezone := ← textOpt j "timezone"
    slotDuration := ← intOpt j "slot_duration"
    advanceBookingDays := ← intOpt j "advance_booking_days"
    cancelDeadlineHours := ← intOpt j "cancel_deadline_hours" }

/-- One chosen menu of a written selection. -/
def readMenuLine (j : Json) : Naming MenuLine := do
  pure {
    menu := ← idField j "id"
    name := ← text j "name"
    price := ← int j "price"
    duration := ← int j "duration"
    sortOrder := ← int j "sort_order"
    isMain := ← (asBool (← need j "is_main") : Read Bool) }

/-- One chosen option of a written selection. -/
def readOptionLine (j : Json) : Naming OptionLine := do
  pure {
    option := ← idField j "id"
    name := ← text j "name"
    price := ← int j "price"
    duration := ← int j "duration" }

/-- A written selection. -/
def readSelection (j : Json) : Naming Selection := do
  let menus ← (← listOpt j "menus").getD [] |>.mapM readMenuLine
  let options ← (← listOpt j "options").getD [] |>.mapM readOptionLine
  pure ⟨menus, options⟩

/-- The outcome of resolving channel settings, with ids as handles. -/
def resolvedView (r : Line.Resolved) : StateM Handles Json := do
  let store ← r.store.mapM nameOf
  let practitioner ← r.practitioner.mapM nameOf
  pure (.obj [("mode", .str r.mode.name), ("source", .str r.source.name), ("config", r.config),
    ("store", Json.ofString? store), ("practitioner", Json.ofString? practitioner)])

/-- A level's configuration for channel settings, present only when its field is;
its entity is the one `idKey` names, else the one handle `fallback` names. -/
def readLevel (j : Json) (configKey idKey fallback : String) :
    Naming (Option (Uuid × Json)) := do
  if present j configKey then
    let id ← idOfText ((← textOpt j idKey).getD fallback)
    pure (some (id, j.fieldD configKey))
  else pure none

/-- Runs a command that may name entities, and prints ids in its answer as handles. -/
def named (cmd : Naming (Except Fault (StateM Handles Json))) : Read Json := do
  let (r, hs) ← cmd.run {}
  match r with
  | .ok view => pure (okAnswer (view.run hs).1)
  | .error f => pure f.answer

/-- Answers one single command. -/
def runOp (op : String) (j : Json) : Read Json := do
  match op with
  | "local_to_utc" =>
    let d ← date j "date"
    let t ← time j "time"
    let tz ← text j "tz"
    pure (answerOf ((Policy.localToUtc d t tz).map fun u => .str u.iso))
  | "local_period" =>
    let d ← date j "date"
    let s ← time j "start"
    let e ← time j "end"
    let tz ← text j "tz"
    pure (answerOf ((Policy.localPeriod d s e tz).map fun (a, b) => .arr [.str a.iso, .str b.iso]))
  | "local_today" =>
    let p ← readPolicy (← need j "policy")
    let now ← stamp j "now"
    pure (answerOf ((Policy.localToday p now).map fun d => .str d.iso))
  | "validate_advance_booking" =>
    let d ← date j "date"
    let p ← readPolicy (← need j "policy")
    let now ← stamp j "now"
    pure (answerOf (passed (Policy.checkBookingWindow d p now)))
  | "validate_cancel_deadline" =>
    let d ← date j "date"
    let t ← time j "start"
    let p ← readPolicy (← need j "policy")
    let now ← stamp j "now"
    pure (answerOf (passed (Policy.checkCancelDeadline d t p now)))
  | "compute_end_time" =>
    let t ← time j "start"
    let m ← int j "duration"
    pure (answerOf ((Policy.slotEnd t m).map fun e => .str e.iso))
  | "price_breakdown" =>
    let r := Pricing.breakdown (← int j "subtotal") (← int j "option_total")
      ((← intOpt j "nomination_fee").getD 0) ((← intOpt j "discount").getD 0)
      (← intOpt j "total_price")
    pure (answerOf ((r.mapError Fault.invalid).map PriceBreakdown.toJson))
  | "compute_total" =>
    pure (okAnswer (.int (Pricing.total (← int j "subtotal") (← int j "option_total")
      (← int j "nomination_fee") (← int j "discount"))))
  | "item_selection" =>
    let (s, _) ← (readSelection (← need j "items")).run {}
    pure (okAnswer (.obj [("subtotal", .int s.subtotal), ("option_total", .int s.optionTotal),
      ("duration", .int s.duration)]))
  | "store_policy" =>
    let s ← readStoreColumns (← need j "store")
    pure (okAnswer s.policy.toJson)
  | "resolve_line_config" =>
    named do
      let store ← readLevel j "store_line_config" "store_id" "S1"
      let practitioner ← readLevel j "practitioner_line_config" "practitioner_id" "P1"
      pure ((Line.resolve (j.fieldD "tenant_line_config") store practitioner).map
        resolvedView)
  | "has_line_fields" =>
    pure (answerOf ((Line.hasSettings (j.fieldD "config")).map Json.bool))
  | "tenant_line_mode" =>
    pure (answerOf ((Line.modeOf (j.fieldD "line_config")).map fun m => .str m.name))
  | "token_check" =>
    let t ← text j "token"
    pure (okAnswer (.obj [("well_formed", .bool (Link.wellFormed t)), ("url", .str (Link.url t))]))
  | "works_at" =>
    named do
      let store ← idField j "store"
      let ids ← withIds (j.fieldD "store_ids")
      pure ((worksAt ids store).map fun b => pure (.bool b))
  | _ => throw ("unknown op " ++ op)

end SalonBooking.Console
