import SalonBooking.Error

/-!
The price of a reservation: the menus' subtotal, the options' total and the
nomination fee, less the discount. No component may be negative, the discount may
not exceed the rest, and a total the caller states must be that sum.
-/

namespace SalonBooking

/-- The four components of a reservation's price and their total. -/
structure PriceBreakdown where
  subtotal : Int
  optionTotal : Int
  nominationFee : Int
  discount : Int
  total : Int
  deriving DecidableEq, Repr

namespace Pricing

/-- The total of the four components. -/
def total (subtotal optionTotal nominationFee discount : Int) : Int :=
  subtotal + optionTotal + nominationFee - discount

/-- The names of the negative components, in their fixed order. -/
def negativeParts (subtotal optionTotal nominationFee discount : Int) : List String :=
  [("subtotal", subtotal), ("option_total", optionTotal), ("nomination_fee", nominationFee),
    ("discount", discount)].filterMap fun (name, v) => if v < 0 then some name else none

/-- Checks the components and reconciles a stated total with their sum. -/
def breakdown (subtotal optionTotal nominationFee discount : Int) (stated : Option Int) :
    Except Invalid PriceBreakdown :=
  let negative := negativeParts subtotal optionTotal nominationFee discount
  if !negative.isEmpty then .error (.negativePrice negative)
  else
    let expected := total subtotal optionTotal nominationFee discount
    if expected < 0 then .error (.discountExceedsPrice subtotal optionTotal nominationFee discount)
    else match stated with
      | some t =>
        if t ≠ expected then
          .error (.totalMismatch subtotal optionTotal nominationFee discount t expected)
        else .ok ⟨subtotal, optionTotal, nominationFee, discount, expected⟩
      | none => .ok ⟨subtotal, optionTotal, nominationFee, discount, expected⟩

end Pricing

/-- The breakdown as a document. -/
def PriceBreakdown.toJson (p : PriceBreakdown) : Json :=
  .obj (Invalid.priceParts p.subtotal p.optionTotal p.nominationFee p.discount ++
    [("total_price", .int p.total)])

end SalonBooking
