import SalonBooking.Error
import SalonBooking.Console.Read

/-!
Answers of the console. A command that succeeds answers `{"ok": value}`; one that
fails answers `{"error": kind, "message": text}`, where the kind is the name the
service gives that sort of failure, and a refusal adds its code and details.
-/

namespace SalonBooking

/-- The name of the sort of failure a fault is. -/
def Fault.kind : Fault → String
  | .refused (.invalid _) => "ValidationError"
  | .refused (.notFound ..) => "NotFoundError"
  | .refused (.conflict _) => "ConflictError"
  | .refused (.terminal ..) => "TerminalStateError"
  | .range _ => "OverflowError"
  | .offsetMismatch => "TypeError"
  | .clockMismatch => "TypeError"
  | .notIterable _ => "TypeError"
  | .notAnObject _ => "AttributeError"
  | .integerTooLarge => "OverflowError"
  | .missingColumn _ => "IntegrityError"
  | .duplicateIdempotencyKey => "IntegrityError"
  | .duplicateValue _ => "IntegrityError"
  | .sumOverflow => "OperationalError"
  | .storageUnavailable => "OperationalError"
  | .tokensExhausted => "RuntimeError"

/-- The answer for a failed command. -/
def Fault.answer (f : Fault) : Json :=
  match f with
  | .refused e =>
    .obj [("error", .str f.kind), ("message", .str e.message), ("code", .str e.code),
      ("details", e.details)]
  | _ => .obj [("error", .str f.kind), ("message", .str f.message)]

end SalonBooking

namespace SalonBooking.Console

/-- The answer for a command that succeeded with `v`. -/
def okAnswer (v : Json) : Json := .obj [("ok", v)]

/-- The answer for a command that could not be read. -/
def unreadable (why : String) : Json :=
  .obj [("error", .str "BadInput"), ("message", .str why)]

/-- The answer for an outcome. -/
def answerOf (r : Except Fault Json) : Json :=
  match r with
  | .ok v => okAnswer v
  | .error f => f.answer

/-- A check that passed answers `"ok"`. -/
def passed (r : Except Fault Unit) : Except Fault Json := r.map fun _ => .str "ok"

end SalonBooking.Console
