/-!
A zone record is the compiled form of one zone of the time zone database: its
name, its rule text for instants after the last listed change, and its local time
types and listed changes packed as a list of numbers: the count of types, each type's
offset and summer flag, then the first change and the gaps and type indices of the
later ones.
-/

namespace SalonBooking.Zone

/-- One compiled zone. -/
structure ZoneRecord where
  name : String
  ruleText : String
  packed : List Nat

namespace Packed

/-- The signed number that a number stands for: even numbers are the nonnegative
ones, odd numbers the negative ones. -/
def signed (n : Nat) : Int :=
  if n % 2 = 0 then (n / 2 : Nat) else -((n + 1) / 2 : Nat)

end Packed

end SalonBooking.Zone
