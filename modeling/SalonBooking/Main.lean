import SalonBooking.Console.Maintenance

/-!
The demo seeding command: creates the demo salon in a fresh database and prints the
report. The database clock starts at the date-time given as the first argument, or
at 2026-02-01T00:00:00.
-/

open SalonBooking

def main (args : List String) : IO UInt32 := do
  let start := args.head?.getD "2026-02-01T00:00:00"
  match Calendar.Stamp.ofIso? start with
  | none =>
    IO.eprintln ("not a date-time: " ++ start)
    return 2
  | some t =>
    match (Demo.run Console.showClaims).run { clock := ⟨t.wall, 0⟩ } with
    | .ok report _ =>
      IO.print report
      return 0
    | .error f _ =>
      IO.eprintln f.message
      return 1
