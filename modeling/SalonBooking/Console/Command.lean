import SalonBooking.Console.Script
import SalonBooking.Console.Maintenance

/-!
The console's entry point: a command document names its operation in `op`, and
every command gets exactly one answer document, also one that cannot be read.
-/

namespace SalonBooking.Console

/-- The answer to one command document. -/
def respond (j : Json) : Json :=
  let run : Read Json := do
    let op ← text j "op"
    match op with
    | "scenario" => runScript j
    | "migration" => migration j
    | "seed_demo" => seedDemo j
    | _ => runOp op j
  match run with
  | .ok answer => answer
  | .error why => unreadable why

end SalonBooking.Console
