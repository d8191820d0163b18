import SalonBooking.Zone.Record

/-!
Compiled rules of the Australian zones of the time zone database: each record
holds the zone name, the rule string for instants after the last listed
transition, and the local time types and transitions as a list of numbers.
-/

namespace SalonBooking.Zone.Data

/-- The Australian zones, by name. -/
def australiaZones : List ZoneRecord := [
  ⟨"Australia/Adelaide", "ACST-9:30ACDT,M10.1.0,M4.1.0/3",
    [5, 66520, 0, 64800, 0, 75600, 1, 68400, 0, 68400, 0, 143, 4728220119, 1, 133920860, 4,
     557631000, 2, 7171200, 3, 781747200, 2, 7516800, 3, 15724800, 2, 15724800, 3, 16329600, 2,
     15120000, 3, 870912000, 2, 10281600, 3, 21168000, 2, 10886400, 3, 20563200, 2, 10886400, 3,
     20563200, 2, 10886400, 3, 20563200, 2, 11491200, 3, 20563200, 2, 10886400, 3, 20563200, 2,
     10886400, 3, 20563200, 2, 10886400, 3, 20563200, 2, 10886400, 3, 20563200, 2, 10886400, 3,
     20563200, 2, 11491200, 3, 20563200, 2, 10886400, 3, 20563200, 2, 10886400, 3, 20563200, 2,
     10886400, 3, 20563200, 2, 12096000, 3, 18748800, 2, 12700800, 3, 19353600, 2, 12700800, 3,
     19353600, 2, 12096000, 3, 19353600, 2, 12096000, 3, 19353600, 2, 10886400, 3, 20563200, 2,
     12700800, 3, 18748800, 2, 11491200, 3, 20563200, 2, 12096000, 3, 19353600, 2, 12700800, 3,
     18748800, 2, 13305600, 3, 18144000, 2, 13305600, 3, 18144000, 2, 13305600, 3, 18144000, 2,
     13305600, 3, 18748800, 2, 12700800, 3, 18748800, 2, 12700800, 3, 18748800, 2, 13305600, 3,
     18144000, 2, 13305600, 3, 18144000, 2, 13305600, 3, 18748800, 2, 12700800, 3, 18748800, 2,
     13305600, 3, 18144000, 2, 12700800, 3, 18748800, 2, 13910400, 3, 15724800, 2, 15724800, 3,
     15724800, 2, 15724800, 3, 15724800, 2, 15724800, 3, 15724800, 2, 15724800, 3, 16329600, 2,
     15724800, 3, 15724800, 2, 15724800, 3, 15724800, 2, 15724800, 3, 15724800, 2, 15724800, 3,
     15724800, 2, 15724800, 3, 15724800, 2, 15724800, 3, 16329600, 2, 15724800, 3, 15724800, 2,
     15724800, 3, 15724800, 2, 15724800, 3, 15724800, 2, 15724800, 3, 15724800, 2, 15724800, 3,
     15724800, 2, 16329600, 3, 15724800, 2, 15724800, 3, 15724800, 2, 15724800, 3, 15724800, 2,
     15724800, 3, 15724800, 2, 15724800, 3, 15724800, 2, 15724800, 3, 16329600, 2, 15724800, 3,
     15724800, 2, 15724800, 3, 15724800, 2, 15724800, 3, 15724800, 2, 15724800, 3, 15724800, 2,
     15724800, 3, 15724800, 2, 15724800, 3, 16329600, 2, 15724800, 3, 15724800, 2, 15724800, 3,
     15724800, 2]⟩,
  ⟨"Australia/Brisbane", "AEST-10",
    [4, 73456, 0, 79200, 1, 72000, 0, 72000, 0, 17, 4733583855, 3, 694231928, 1, 7171200, 2,
     781747200, 1, 7516800, 2, 15724800, 1, 15724800, 2, 16329600, 1, 15120000, 2, 870912000, 1,
     10281600, 2, 557625600, 1, 10886400, 2, 20563200, 1, 10886400, 2, 20563200, 1, 10886400, 2]⟩,
  ⟨"Australia/Broken_Hill", "ACST-9:30ACDT,M10.1.0,M4.1.0/3",
    [6, 67896, 0, 72000, 0, 64800, 0, 75600, 1, 68400, 0, 68400, 0, 144, 4728221495, 1, 49159548, 2,
     84762000, 5, 557631000, 3, 7171200, 4, 781747200, 3, 7516800, 4, 15724800, 3, 15724800, 4,
     16329600, 3, 15120000, 4, 870912000, 3, 10281600, 4, 21168000, 3, 10886400, 4, 20563200, 3,
     10886400, 4, 20563200, 3, 10886400, 4, 20563200, 3, 11491200, 4, 20563200, 3, 10886400, 4,
     20563200, 3, 10886400, 4, 20563200, 3, 10886400, 4, 20563200, 3, 10886400, 4, 20563200, 3,
     10886400, 4, 20563200, 3, 13910400, 4, 18144000, 3, 10886400, 4, 20563200, 3, 10886400, 4,
     20563200, 3, 10886400, 4, 20563200, 3, 12096000, 4, 18748800, 3, 12700800, 4, 19353600, 3,
     12700800, 4, 19353600, 3, 12096000, 4, 19353600, 3, 10886400, 4, 20563200, 3, 10886400, 4,
     20563200, 3, 10886400, 4, 20563200, 3, 11491200, 4, 20563200, 3, 10886400, 4, 20563200, 3,
     10886400, 4, 20563200, 3, 13305600, 4, 18144000, 3, 13305600, 4, 18144000, 3, 13305600, 4,
     18144000, 3, 13305600, 4, 18748800, 3, 12700800, 4, 18748800, 3, 12700800, 4, 18748800, 3,
     13305600, 4, 18144000, 3, 13305600, 4, 18144000, 3, 13305600, 4, 18748800, 3, 12700800, 4,
     18748800, 3, 13305600, 4, 18144000, 3, 12700800, 4, 18748800, 3, 13910400, 4, 15724800, 3,
     15724800, 4, 15724800, 3, 15724800, 4, 15724800, 3, 15724800, 4, 15724800, 3, 15724800, 4,
     16329600, 3, 15724800, 4, 15724800, 3, 15724800, 4, 15724800, 3, 15724800, 4, 15724800, 3,
     15724800, 4, 15724800, 3, 15724800, 4, 15724800, 3, 15724800, 4, 16329600, 3, 15724800, 4,
     15724800, 3, 15724800, 4, 15724800, 3, 15724800, 4, 15724800, 3, 15724800, 4, 15724800, 3,
     15724800, 4, 15724800, 3, 16329600, 4, 15724800, 3, 15724800, 4, 15724800, 3, 15724800, 4,
     15724800, 3, 15724800, 4, 15724800, 3, 15724800, 4, 15724800, 3, 15724800, 4, 16329600, 3,
     15724800, 4, 15724800, 3, 15724800, 4, 15724800, 3, 15724800, 4, 15724800, 3, 15724800, 4,
     15724800, 3, 15724800, 4, 15724800, 3, 15724800, 4, 16329600, 3, 15724800, 4, 15724800, 3,
     15724800, 4, 15724800, 3]⟩,
  ⟨"Australia/Darwin", "ACST-9:30",
    [5, 62800, 0, 64800, 0, 75600, 1, 68400, 0, 68400, 0, 10, 4728216399, 1, 133919000, 4,
     557631000, 2, 7171200, 3, 781747200, 2, 7516800, 3, 15724800, 2, 15724800, 3, 16329600, 2,
     15120000, 3]⟩,
  ⟨"Australia/Eucla", "<+0845>-8:45",
    [4, 61856, 0, 70200, 1, 63000, 0, 63000, 0, 20, 4675857055, 3, 665373028, 1, 7171200, 2,
     781747200, 1, 7516800, 2, 15724800, 1, 15724800, 2, 996710400, 1, 10886400, 2, 273369600, 1,
     10886400, 2, 243129600, 1, 9072000, 2, 465696000, 1, 9676800, 2, 18748800, 1, 13305600, 2,
     18144000, 1, 13305600, 2, 909223147, 2]⟩,
  ⟨"Australia/Hobart", "AEST-10AEDT,M10.1.0,M4.1.0/3",
    [4, 70712, 0, 79200, 1, 72000, 0, 72000, 0, 154, 4691590711, 3, 665286556, 1, 15120000, 2,
     18748800, 1, 10886400, 2, 20563200, 1, 10886400, 2, 720662400, 1, 7516800, 2, 15724800, 1,
     15724800, 2, 16329600, 1, 15120000, 2, 742089600, 1, 15724800, 2, 18144000, 1, 11491200, 2,
     19958400, 1, 11491200, 2, 19958400, 1, 12096000, 2, 19958400, 1, 10281600, 2, 21168000, 1,
     10886400, 2, 20563200, 1, 10886400, 2, 20563200, 1, 10886400, 2, 20563200, 1, 11491200, 2,
     20563200, 1, 10886400, 2, 20563200, 1, 10886400, 2, 20563200, 1, 10886400, 2, 20563200, 1,
     10886400, 2, 20563200, 1, 10886400, 2, 20563200, 1, 13305600, 2, 18748800, 1, 12700800, 2,
     18748800, 1, 10886400, 2, 20563200, 1, 10886400, 2, 20563200, 1, 10886400, 2, 19958400, 1,
     12700800, 2, 19353600, 1, 12700800, 2, 19353600, 1, 12096000, 2, 19353600, 1, 12096000, 2,
     19353600, 1, 13305600, 2, 16329600, 1, 15120000, 2, 16329600, 1, 15120000, 2, 16329600, 1,
     15120000, 2, 16329600, 1, 15120000, 2, 16329600, 1, 15724800, 2, 16329600, 1, 15120000, 2,
     16329600, 1, 15120000, 2, 16329600, 1, 15120000, 2, 16329600, 1, 15120000, 2, 13305600, 1,
     18144000, 2, 16934400, 1, 15120000, 2, 16329600, 1, 15120000, 2, 16329600, 1, 15120000, 2,
     16329600, 1, 15120000, 2, 16329600, 1, 15724800, 2, 15724800, 1, 15120000, 2, 16934400, 1,
     15724800, 2, 15724800, 1, 15724800, 2, 15724800, 1, 15724800, 2, 15724800, 1, 15724800, 2,
     15724800, 1, 15724800, 2, 16329600, 1, 15724800, 2, 15724800, 1, 15724800, 2, 15724800, 1,
     15724800, 2, 15724800, 1, 15724800, 2, 15724800, 1, 15724800, 2, 15724800, 1, 15724800, 2,
     16329600, 1, 15724800, 2, 15724800, 1, 15724800, 2, 15724800, 1, 15724800, 2, 15724800, 1,
     15724800, 2, 15724800, 1, 15724800, 2, 15724800, 1, 16329600, 2, 15724800, 1, 15724800, 2,
     15724800, 1, 15724800, 2, 15724800, 1, 15724800, 2, 15724800, 1, 15724800, 2, 15724800, 1,
     15724800, 2, 16329600, 1, 15724800, 2, 15724800, 1, 15724800, 2, 15724800, 1, 15724800, 2,
     15724800, 1, 15724800, 2, 15724800, 1, 15724800, 2, 15724800, 1, 15724800, 2, 16329600, 1,
     15724800, 2, 15724800, 1, 15724800, 2, 15724800, 1]⟩,
  ⟨"Australia/Lindeman", "AEST-10",
    [4, 71512, 0, 79200, 1, 72000, 0, 72000, 0, 21, 4733581911, 3, 694230956, 1, 7171200, 2,
     781747200, 1, 7516800, 2, 15724800, 1, 15724800, 2, 16329600, 1, 15120000, 2, 870912000, 1,
     10281600, 2, 557625600, 1, 10886400, 2, 20563200, 1, 10886400, 2, 20563200, 1, 10886400, 2,
     20563200, 1, 11491200, 2, 20563200, 1, 10886400, 2]⟩,
  ⟨"Australia/Lord_Howe", "<+1030>-10:30<+11>-11,M10.1.0,M4.1.0",
    [5, 76360, 0, 72000, 0, 82800, 1, 75600, 0, 79200, 1, 116, 4728229959, 1, 2716331780, 3,
     20568600, 2, 11487600, 3, 20566800, 2, 10882800, 3, 20566800, 2, 10882800, 3, 20566800, 2,
     10882800, 3, 20566800, 4, 12094200, 3, 18750600, 4, 12699000, 3, 19355400, 4, 12699000, 3,
     19355400, 4, 12094200, 3, 19355400, 4, 10884600, 3, 20565000, 4, 10884600, 3, 20565000, 4,
     10884600, 3, 20565000, 4, 11489400, 3, 20565000, 4, 10884600, 3, 20565000, 4, 10884600, 3,
     20565000, 4, 13303800, 3, 18145800, 4, 13303800, 3, 18145800, 4, 13303800, 3, 18145800, 4,
     13303800, 3, 18750600, 4, 12699000, 3, 13307400, 4, 18142200, 3, 18750600, 4, 13303800, 3,
     18145800, 4, 13303800, 3, 18145800, 4, 13303800, 3, 18750600, 4, 12699000, 3, 18750600, 4,
     13303800, 3, 18145800, 4, 12699000, 3, 18750600, 4, 13908600, 3, 15726600, 4, 15723000, 3,
     15726600, 4, 15723000, 3, 15726600, 4, 15723000, 3, 15726600, 4, 15723000, 3, 16331400, 4,
     15723000, 3, 15726600, 4, 15723000, 3, 15726600, 4, 15723000, 3, 15726600, 4, 15723000, 3,
     15726600, 4, 15723000, 3, 15726600, 4, 15723000, 3, 16331400, 4, 15723000, 3, 15726600, 4,
     15723000, 3, 15726600, 4, 15723000, 3, 15726600, 4, 15723000, 3, 15726600, 4, 15723000, 3,
     15726600, 4, 16327800, 3, 15726600, 4, 15723000, 3, 15726600, 4, 15723000, 3, 15726600, 4,
     15723000, 3, 15726600, 4, 15723000, 3, 15726600, 4, 15723000, 3, 16331400, 4, 15723000, 3,
     15726600, 4, 15723000, 3, 15726600, 4, 15723000, 3, 15726600, 4, 15723000, 3, 15726600, 4,
     15723000, 3, 15726600, 4, 15723000, 3, 16331400, 4, 15723000, 3, 15726600, 4, 15723000, 3,
     15726600, 4, 9287047, 4]⟩,
  ⟨"Australia/Melbourne", "AEST-10AEDT,M10.1.0,M4.1.0/3",
    [4, 69584, 0, 79200, 1, 72000, 0, 72000, 0, 142, 4728223183, 3, 691551592, 1, 7171200, 2,
     781747200, 1, 7516800, 2, 15724800, 1, 15724800, 2, 16329600, 1, 15120000, 2, 870912000, 1,
     10281600, 2, 21168000, 1, 10886400, 2, 20563200, 1, 10886400, 2, 20563200, 1, 10886400, 2,
     20563200, 1, 11491200, 2, 20563200, 1, 10886400, 2, 20563200, 1, 10886400, 2, 20563200, 1,
     10886400, 2, 20563200, 1, 10886400, 2, 20563200, 1, 10886400, 2, 20563200, 1, 11491200, 2,
     20563200, 1, 10886400, 2, 20563200, 1, 10886400, 2, 20563200, 1, 10886400, 2, 20563200, 1,
     12096000, 2, 18748800, 1, 12700800, 2, 18748800, 1, 13305600, 2, 19353600, 1, 12096000, 2,
     19353600, 1, 12096000, 2, 19353600, 1, 10886400, 2, 20563200, 1, 10886400, 2, 20563200, 1,
     11491200, 2, 20563200, 1, 10886400, 2, 20563200, 1, 12700800, 2, 18748800, 1, 13305600, 2,
     18144000, 1, 13305600, 2, 18144000, 1, 13305600, 2, 18144000, 1, 13305600, 2, 18748800, 1,
     12700800, 2, 13305600, 1, 18144000, 2, 18748800, 1, 13305600, 2, 18144000, 1, 13305600, 2,
     18144000, 1, 13305600, 2, 18748800, 1, 12700800, 2, 18748800, 1, 13305600, 2, 18144000, 1,
     12700800, 2, 18748800, 1, 13910400, 2, 15724800, 1, 15724800, 2, 15724800, 1, 15724800, 2,
     15724800, 1, 15724800, 2, 15724800, 1, 15724800, 2, 16329600, 1, 15724800, 2, 15724800, 1,
     15724800, 2, 15724800, 1, 15724800, 2, 15724800, 1, 15724800, 2, 15724800, 1, 15724800, 2,
     15724800, 1, 15724800, 2, 16329600, 1, 15724800, 2, 15724800, 1, 15724800, 2, 15724800, 1,
     15724800, 2, 15724800, 1, 15724800, 2, 15724800, 1, 15724800, 2, 15724800, 1, 16329600, 2,
     15724800, 1, 15724800, 2, 15724800, 1, 15724800, 2, 15724800, 1, 15724800, 2, 15724800, 1,
     15724800, 2, 15724800, 1, 15724800, 2, 16329600, 1, 15724800, 2, 15724800, 1, 15724800, 2,
     15724800, 1, 15724800, 2, 15724800, 1, 15724800, 2, 15724800, 1, 15724800, 2, 15724800, 1,
     15724800, 2, 16329600, 1, 15724800, 2, 15724800, 1, 15724800, 2, 15724800, 1]⟩,
  ⟨"Australia/Perth", "AWST-8",
    [4, 55608, 0, 64800, 1, 57600, 0, 57600, 0, 19, 4675850807, 3, 665372604, 1, 7171200, 2,
     781747200, 1, 7516800, 2, 15724800, 1, 15724800, 2, 996710400, 1, 10886400, 2, 273369600, 1,
     10886400, 2, 243129600, 1, 9072000, 2, 465696000, 1, 9676800, 2, 18748800, 1, 13305600, 2,
     18144000, 1, 13305600, 2]⟩,
  ⟨"Australia/Sydney", "AEST-10AEDT,M10.1.0,M4.1.0/3",
    [4, 72584, 0, 79200, 1, 72000, 0, 72000, 0, 142, 4728226183, 3, 691553092, 1, 7171200, 2,
     781747200, 1, 7516800, 2, 15724800, 1, 15724800, 2, 16329600, 1, 15120000, 2, 870912000, 1,
     10281600, 2, 21168000, 1, 10886400, 2, 20563200, 1, 10886400, 2, 20563200, 1, 10886400, 2,
     20563200, 1, 11491200, 2, 20563200, 1, 10886400, 2, 20563200, 1, 10886400, 2, 20563200, 1,
     10886400, 2, 20563200, 1, 10886400, 2, 20563200, 1, 10886400, 2, 20563200, 1, 13910400, 2,
     18144000, 1, 10886400, 2, 20563200, 1, 10886400, 2, 20563200, 1, 10886400, 2, 20563200, 1,
     12096000, 2, 18748800, 1, 12700800, 2, 19353600, 1, 12700800, 2, 19353600, 1, 12096000, 2,
     19353600, 1, 10886400, 2, 20563200, 1, 10886400, 2, 20563200, 1, 10886400, 2, 20563200, 1,
     11491200, 2, 20563200, 1, 10886400, 2, 20563200, 1, 10886400, 2, 20563200, 1, 13305600, 2,
     18144000, 1, 13305600, 2, 18144000, 1, 13305600, 2, 18144000, 1, 13305600, 2, 18748800, 1,
     12700800, 2, 13305600, 1, 18144000, 2, 18748800, 1, 13305600, 2, 18144000, 1, 13305600, 2,
     18144000, 1, 13305600, 2, 18748800, 1, 12700800, 2, 18748800, 1, 13305600, 2, 18144000, 1,
     12700800, 2, 18748800, 1, 13910400, 2, 15724800, 1, 15724800, 2, 15724800, 1, 15724800, 2,
     15724800, 1, 15724800, 2, 15724800, 1, 15724800, 2, 16329600, 1, 15724800, 2, 15724800, 1,
     15724800, 2, 15724800, 1, 15724800, 2, 15724800, 1, 15724800, 2, 15724800, 1, 15724800, 2,
     15724800, 1, 15724800, 2, 16329600, 1, 15724800, 2, 15724800, 1, 15724800, 2, 15724800, 1,
     15724800, 2, 15724800, 1, 15724800, 2, 15724800, 1, 15724800, 2, 15724800, 1, 16329600, 2,
     15724800, 1, 15724800, 2, 15724800, 1, 15724800, 2, 15724800, 1, 15724800, 2, 15724800, 1,
     15724800, 2, 15724800, 1, 15724800, 2, 16329600, 1, 15724800, 2, 15724800, 1, 15724800, 2,
     15724800, 1, 15724800, 2, 15724800, 1, 15724800, 2, 15724800, 1, 15724800, 2, 15724800, 1,
     15724800, 2, 16329600, 1, 15724800, 2, 15724800, 1, 15724800, 2, 15724800, 1]⟩
]

end SalonBooking.Zone.Data
