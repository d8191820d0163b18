import SalonBooking.Zone.Record

/-!
Compiled rules of the Indian Ocean zones of the time zone database: each record
holds the zone name, the rule string for instants after the last listed
transition, and the local time types and transitions as a list of numbers.
-/

namespace SalonBooking.Zone.Data

/-- The Indian Ocean zones, by name. -/
def indianZones : List ZoneRecord := [
  ⟨"Indian/Antananarivo", "EAT-3",
    [4, 22808, 0, 21600, 0, 28800, 1, 21600, 0, 3, 3692586007, 1, 1346368204, 2, 7862400, 3]⟩,
  ⟨"Indian/Chagos", "<+06>-6",
    [3, 34760, 0, 36000, 0, 43200, 0, 3, 3976335559, 1, 2808604180, 2, 1327047247, 2]⟩,
  ⟨"Indian/Christmas", "<+07>-7",
    [2, 50744, 0, 50400, 0, 2, 4728204343, 1, 4511585819, 1]⟩,
  ⟨"Indian/Cocos", "<+0630>-6:30",
    [2, 46520, 0, 46800, 0, 2, 4418024119, 1, 4356495707, 1]⟩,
  ⟨"Indian/Comoro", "EAT-3",
    [2, 20768, 0, 21600, 0, 1, 3692583967, 1]⟩,
  ⟨"Indian/Kerguelen", "<+05>-5",
    [2, 0, 0, 36000, 0, 2, 1262303999, 1, 2778635647, 1]⟩,
  ⟨"Indian/Mahe", "<+04>-4",
    [2, 26616, 0, 28800, 0, 2, 3976327415, 1, 4135647355, 1]⟩,
  ⟨"Indian/Maldives", "<+05>-5",
    [3, 35280, 0, 35280, 0, 36000, 0, 3, 5680316879, 1, 2524521600, 2, 2463120487, 2]⟩,
  ⟨"Indian/Mauritius", "<+04>-4",
    [3, 27600, 0, 36000, 1, 28800, 0, 6, 3976328399, 2, 2391205800, 1, 13993200, 2, 807937200, 1,
     13302000, 2, 909209647, 2]⟩,
  ⟨"Indian/Mayotte", "EAT-3",
    [2, 21712, 0, 21600, 0, 1, 3692584911, 1]⟩,
  ⟨"Indian/Reunion", "<+04>-4",
    [2, 26624, 0, 28800, 0, 2, 3697773823, 1, 3996370559, 1]⟩
]

end SalonBooking.Zone.Data
