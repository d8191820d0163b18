import SalonBooking.Uuid

/-!
The priced lines of one booking: a copy of each chosen menu and option as the
catalog had it when the booking was made, so that later catalog edits never reach
an existing reservation. The first menu is the main one; the subtotal sums the
menus' prices, the option total the options', and the duration both.
-/

namespace SalonBooking

/-- One chosen menu, as the catalog had it. -/
structure MenuLine where
  menu : Uuid
  name : String
  price : Int
  duration : Int
  sortOrder : Int
  isMain : Bool
  deriving DecidableEq, Repr

/-- One chosen option, as the catalog had it. -/
structure OptionLine where
  option : Uuid
  name : String
  price : Int
  duration : Int
  deriving DecidableEq, Repr

/-- The sum of a list of amounts. -/
def sumAmounts (xs : List Int) : Int := xs.foldr (· + ·) 0

/-- The menus and options of one booking. -/
structure Selection where
  menus : List MenuLine
  options : List OptionLine := []
  deriving DecidableEq, Repr

namespace Selection

def subtotal (s : Selection) : Int := sumAmounts (s.menus.map (·.price))

def optionTotal (s : Selection) : Int := sumAmounts (s.options.map (·.price))

def duration (s : Selection) : Int :=
  sumAmounts (s.menus.map (·.duration)) + sumAmounts (s.options.map (·.duration))

end Selection

end SalonBooking
