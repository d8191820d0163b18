import SalonBooking.Zone.Record

/-!
Compiled rules of the African zones of the time zone database: each record
holds the zone name, the rule string for instants after the last listed
transition, and the local time types and transitions as a list of numbers.
-/

namespace SalonBooking.Zone.Data

/-- The African zones, by name. -/
def africaZones : List ZoneRecord := [
  ⟨"Africa/Abidjan", "GMT0",
    [2, 1935, 0, 0, 0, 1, 3660766063, 1]⟩,
  ⟨"Africa/Accra", "GMT0",
    [6, 103, 0, 2400, 1, 0, 0, 3600, 0, 3600, 1, 0, 0, 61, 3418675095, 2, 128131148, 1, 3289200, 2,
     21082800, 1, 10539600, 2, 20996400, 1, 10539600, 2, 20996400, 1, 10539600, 2, 20996400, 1,
     10539600, 2, 21082800, 1, 10539600, 2, 20996400, 1, 10539600, 2, 20996400, 1, 10539600, 2,
     20996400, 1, 10539600, 2, 21082800, 1, 10539600, 2, 20996400, 1, 10539600, 2, 20996400, 1,
     10539600, 2, 20996400, 1, 10539600, 2, 21082800, 1, 10539600, 2, 20996400, 1, 10539600, 2,
     20996400, 1, 10539600, 2, 20996400, 1, 10539600, 2, 21082800, 1, 10539600, 2, 20996400, 1,
     10539600, 2, 20996400, 1, 10539600, 2, 20996400, 1, 10539600, 2, 10455600, 1, 21166800, 2,
     10369200, 1, 21166800, 2, 3277200, 3, 123377400, 2, 146802600, 4, 10539000, 2, 20997000, 4,
     10539000, 2, 21083400, 4, 10539000, 2, 20997000, 4, 10539000, 2, 20997000, 4, 10539000, 2,
     20997000, 4, 10539000, 2]⟩,
  ⟨"Africa/Addis_Ababa", "EAT-3",
    [3, 18576, 0, 18640, 0, 21600, 0, 2, 6311365775, 1, 2093471968, 2]⟩,
  ⟨"Africa/Algiers", "CET-1",
    [8, 1464, 0, 1122, 0, 7200, 1, 0, 0, 0, 0, 14400, 1, 7200, 0, 7200, 1, 34, 4973185463, 1,
     630633771, 4, 166144161, 2, 9417600, 3, 15033600, 2, 17020800, 3, 13219200, 2, 18230400, 3,
     12614400, 2, 18835200, 3, 11404800, 2, 21772800, 3, 12268800, 2, 8553600, 3, 575078400, 2,
     5878800, 4, 8474400, 6, 129510000, 5, 16239600, 6, 15210000, 5, 14421600, 6, 33350400, 4,
     293850000, 6, 227401200, 4, 253497600, 2, 13305600, 3, 176950800, 7, 14511600, 6, 13309200, 5,
     15728400, 6, 34466400, 4, 15728400, 7, 16333200, 4, 15721200, 6]⟩,
  ⟨"Africa/Asmara", "EAT-3",
    [4, 18664, 0, 18664, 0, 18640, 0, 21600, 0, 3, 6311365863, 1, 631152000, 2, 1462320012, 3]⟩,
  ⟨"Africa/Bamako", "GMT0",
    [4, 3839, 0, 0, 0, 7199, 0, 0, 0, 3, 3660764159, 1, 699146880, 2, 830394000, 1]⟩,
  ⟨"Africa/Bangui", "WAT-1",
    [2, 8920, 0, 7200, 0, 1, 3660776919, 1]⟩,
  ⟨"Africa/Banjul", "GMT0",
    [4, 7991, 0, 7991, 0, 7199, 0, 0, 0, 3, 3660760007, 1, 670550400, 2, 278898804, 3]⟩,
  ⟨"Africa/Bissau", "GMT0",
    [3, 7479, 0, 7199, 0, 0, 0, 2, 3660760799, 1, 1988150400, 2]⟩,
  ⟨"Africa/Blantyre", "CAT-2",
    [4, 16800, 0, 16940, 0, 16920, 0, 14400, 0, 3, 3688605599, 1, 92620730, 2, 347241610, 3]⟩,
  ⟨"Africa/Brazzaville", "WAT-1",
    [2, 7336, 0, 7200, 0, 1, 3660775335, 1]⟩,
  ⟨"Africa/Bujumbura", "CAT-2",
    [2, 14096, 0, 14400, 0, 1, 5049057295, 1]⟩,
  ⟨"Africa/Cairo", "EET-2EEST,M4.5.5/0,M10.5.4/24",
    [4, 15018, 0, 21600, 1, 14400, 0, 21600, 1, 157, 4370818217, 2, 1255565109, 1, 6735600, 2,
     16938000, 1, 13302000, 2, 17024400, 1, 18054000, 2, 13482000, 1, 18486000, 2, 13136400, 1,
     18486000, 2, 14346000, 1, 17190000, 2, 363574800, 1, 12438000, 2, 18320400, 1, 13215600, 2,
     18324000, 1, 13136400, 2, 18486000, 1, 13136400, 2, 18399600, 1, 13136400, 2, 18399600, 1,
     13136400, 2, 18399600, 1, 13136400, 2, 18486000, 1, 13136400, 2, 18399600, 1, 13136400, 2,
     18399600, 1, 13222800, 2, 18313200, 1, 13222800, 2, 18399600, 1, 13222800, 2, 18313200, 1,
     13222800, 2, 18313200, 1, 13222800, 2, 18313200, 1, 13222800, 2, 18399600, 1, 13222800, 2,
     18313200, 1, 13222800, 2, 18313200, 1, 13222800, 2, 18313200, 1, 13222800, 2, 18399600, 1,
     13222800, 2, 18313200, 1, 13222800, 2, 18313200, 1, 13222800, 2, 18313200, 1, 13222800, 2,
     18399600, 1, 13222800, 2, 18313200, 1, 13222800, 2, 25657200, 1, 5878800, 2, 24534000, 1,
     7002000, 2, 18399600, 1, 13222800, 2, 18313200, 1, 13222800, 2, 18313200, 1, 13222800, 2,
     18313200, 1, 13222800, 2, 18399600, 1, 13222800, 2, 18745200, 1, 12790800, 2, 18313200, 1,
     13222800, 2, 18313200, 1, 13222800, 2, 18399600, 1, 13222800, 2, 18313200, 1, 13222800, 2,
     18313200, 1, 13222800, 2, 18050400, 3, 13302000, 2, 18147600, 3, 13302000, 2, 18147600, 3,
     13302000, 2, 18147600, 3, 13302000, 2, 18752400, 3, 13302000, 2, 18147600, 3, 13302000, 2,
     18147600, 3, 13302000, 2, 18147600, 3, 13302000, 2, 18147600, 3, 13302000, 2, 18752400, 3,
     13302000, 2, 18147600, 3, 13302000, 2, 18147600, 3, 12697200, 2, 18752400, 3, 11487600, 2,
     19962000, 3, 10882800, 2, 20566800, 3, 10278000, 2, 21776400, 3, 8895600, 2, 2595600, 1,
     1810800, 2, 114310800, 1, 3625200, 2, 3027600, 1, 4834800, 2, 270954000, 1, 15721200, 2,
     15728400, 1, 16326000, 2, 15123600, 1, 16326000, 2, 15123600, 1, 16326000, 2, 15728400, 1,
     15721200, 2, 15728400, 1, 15721200, 2, 15728400, 1, 15721200, 2, 15728400, 1, 16326000, 2,
     15123600, 1, 16326000, 2, 15728400, 1, 15721200, 2, 15728400, 1, 15721200, 2, 15728400, 1,
     15721200, 2, 15728400, 1, 15721200, 2, 15728400, 1, 16326000, 2, 15123600, 1, 16326000, 2]⟩,
  ⟨"Africa/Casablanca", "<+00>0<+01>,0/0,J365/25",
    [5, 3639, 0, 7200, 1, 0, 0, 7200, 0, 0, 0, 196, 3546025159, 2, 816650980, 1, 5871600, 2,
     8470800, 1, 180831600, 2, 143946000, 1, 12092400, 2, 523717200, 1, 10321200, 2, 212374800, 1,
     5958000, 2, 52534800, 1, 7945200, 2, 23590800, 1, 12956400, 2, 21258000, 1, 5526000, 2,
     177210000, 3, 56674800, 2, 707360400, 1, 7945200, 2, 23590800, 1, 6994800, 2, 21949200, 1,
     8463600, 2, 20566800, 1, 10278000, 2, 23598000, 1, 7084800, 2, 2678400, 1, 3542400, 2,
     18144000, 1, 6048000, 2, 2937600, 1, 6739200, 2, 13305600, 1, 7776000, 2, 3024000, 1, 7344000,
     2, 13305600, 1, 6652800, 2, 3024000, 1, 8467200, 2, 13305600, 1, 6048000, 2, 3024000, 1,
     9676800, 2, 12700800, 1, 4838400, 2, 3628800, 1, 10281600, 2, 12700800, 1, 4233600, 2, 3024000,
     1, 27820800, 2, 3024000, 1, 27216000, 2, 3628800, 1, 27216000, 2, 3024000, 1, 27216000, 2,
     3628800, 1, 27216000, 2, 3024000, 1, 27820800, 2, 3024000, 1, 27216000, 2, 3628800, 1,
     27216000, 2, 3024000, 1, 27820800, 2, 3024000, 1, 27216000, 2, 3628800, 1, 27216000, 2,
     3024000, 1, 27216000, 2, 3628800, 1, 27216000, 2, 3024000, 1, 27820800, 2, 3024000, 1,
     27216000, 2, 3628800, 1, 27216000, 2, 3024000, 1, 27216000, 2, 3628800, 1, 27216000, 2,
     3628800, 1, 27216000, 2, 3024000, 1, 27216000, 2, 3628800, 1, 27216000, 2, 3024000, 1,
     27820800, 2, 3024000, 1, 27216000, 2, 3628800, 1, 27216000, 2, 3024000, 1, 27216000, 2,
     3628800, 1, 27216000, 2, 3628800, 1, 27216000, 2, 3024000, 1, 27216000, 2, 3628800, 1,
     27216000, 2, 3024000, 1, 27820800, 2, 3024000, 1, 27216000, 2, 3628800, 1, 27216000, 2,
     3024000, 1, 27216000, 2, 3628800, 1, 27216000, 2, 3628800, 1, 27216000, 2, 3024000, 1,
     27216000, 2, 3628800, 1, 27216000, 2, 3024000, 1, 27820800, 2, 3024000, 1, 27216000, 2,
     3628800, 1, 27216000, 2, 3024000, 1, 27216000, 2, 3628800, 1, 27216000, 2, 3628800, 1,
     27216000, 2, 3024000, 1, 27216000, 2, 3628800, 1, 27216000, 2, 3024000, 1, 27820800, 2,
     3024000, 1, 27216000, 2, 3628800, 1, 27216000, 2, 3024000, 1, 27216000, 2, 3628800, 1,
     27216000, 2, 3628800, 1, 27216000, 2, 3024000, 1, 27216000, 2, 3628800, 1, 27216000, 2,
     3024000, 1, 27820800, 2, 3024000, 1, 27216000, 2, 3628800, 1, 27216000, 2, 3024000, 1,
     27216000, 2, 3628800, 1, 27216000, 2, 3628800, 1, 27216000, 2, 3024000, 1, 27216000, 2,
     3628800, 1, 27216000, 2, 3024000, 1, 27820800, 2, 3024000, 1, 27216000, 2, 3628800, 1,
     27216000, 2, 3024000, 1, 27216000, 2, 3628800, 1, 27216000, 2, 3024000, 1, 27820800, 2,
     3024000, 1, 27216000, 2, 3628800, 1, 27216000, 2, 3024000, 1, 27820800, 2, 3024000, 1,
     27216000, 2, 3628800, 1]⟩,
  ⟨"Africa/Ceuta", "CET-1CEST,M3.5.0,M10.5.0/3",
    [8, 2551, 0, 0, 0, 7200, 1, 0, 0, 0, 0, 7200, 0, 14400, 1, 7200, 0, 126, 4354905599, 1,
     547340400, 2, 13302000, 3, 174358800, 2, 14778000, 4, 48380400, 2, 14518800, 4, 16326000, 2,
     15123600, 4, 16934400, 2, 15120000, 4, 1219838400, 2, 10321200, 3, 212374800, 2, 5958000, 3,
     52534800, 2, 7945200, 3, 23590800, 2, 12956400, 3, 21258000, 2, 5526000, 3, 177210000, 5,
     64285200, 6, 15724800, 7, 15724800, 6, 15724800, 7, 15724800, 6, 15724800, 7, 15724800, 6,
     15724800, 7, 15724800, 6, 16329600, 7, 15724800, 6, 15724800, 7, 15724800, 6, 15724800, 7,
     15724800, 6, 15724800, 7, 15724800, 6, 15724800, 7, 15724800, 6, 15724800, 7, 16329600, 6,
     18144000, 7, 13305600, 6, 18144000, 7, 13305600, 6, 18144000, 7, 13305600, 6, 18748800, 7,
     12700800, 6, 18748800, 7, 12700800, 6, 18748800, 7, 13305600, 6, 18144000, 7, 13305600, 6,
     18144000, 7, 13305600, 6, 18748800, 7, 12700800, 6, 18748800, 7, 12700800, 6, 18748800, 7,
     12700800, 6, 18748800, 7, 13305600, 6, 18144000, 7, 13305600, 6, 18144000, 7, 13305600, 6,
     18748800, 7, 12700800, 6, 18748800, 7, 12700800, 6, 18748800, 7, 13305600, 6, 18144000, 7,
     13305600, 6, 18144000, 7, 13305600, 6, 18144000, 7, 13305600, 6, 18748800, 7, 12700800, 6,
     18748800, 7, 12700800, 6, 18748800, 7, 13305600, 6, 18144000, 7, 13305600, 6, 18144000, 7,
     13305600, 6, 18748800, 7, 12700800, 6, 18748800, 7, 12700800, 6, 18748800, 7, 13305600, 6,
     18144000, 7, 13305600, 6, 18144000, 7, 13305600, 6, 18144000, 7, 13305600, 6, 18748800, 7,
     12700800, 6, 18748800, 7, 12700800, 6, 18748800, 7, 13305600, 6, 18144000, 7, 13305600, 6,
     18144000, 7, 13305600, 6, 18748800, 7, 12700800, 6, 18748800, 7, 12700800, 6, 18748800, 7,
     12700800, 6, 18748800, 7, 13305600, 6, 18144000, 7, 13305600, 6, 18144000, 7]⟩,
  ⟨"Africa/Conakry", "GMT0",
    [4, 6583, 0, 0, 0, 7199, 0, 0, 0, 3, 3660761415, 1, 699145508, 2, 815619600, 1]⟩,
  ⟨"Africa/Dakar", "GMT0",
    [3, 8367, 0, 7199, 0, 0, 0, 2, 3660759631, 1, 928281016, 2]⟩,
  ⟨"Africa/Dar_es_Salaam", "EAT-3",
    [4, 18856, 0, 21600, 0, 19800, 0, 21600, 0, 3, 2461554855, 1, 536456228, 2, 410314500, 1]⟩,
  ⟨"Africa/Djibouti", "EAT-3",
    [2, 20712, 0, 21600, 0, 1, 3692583911, 1]⟩,
  ⟨"Africa/Douala", "WAT-1",
    [2, 4656, 0, 7200, 0, 1, 3660772655, 1]⟩,
  ⟨"Africa/El_Aaiun", "<+00>0<+01>,0/0,J365/25",
    [4, 6335, 0, 7199, 0, 7200, 1, 0, 0, 185, 2272140863, 1, 1334362032, 3, 1465200, 2, 7945200, 3,
     23590800, 2, 12956400, 3, 21258000, 2, 5526000, 3, 941245200, 2, 7945200, 3, 23590800, 2,
     6994800, 3, 21949200, 2, 8463600, 3, 20566800, 2, 10278000, 3, 23598000, 2, 7084800, 3,
     2678400, 2, 3542400, 3, 18144000, 2, 6048000, 3, 2937600, 2, 6739200, 3, 13305600, 2, 7776000,
     3, 3024000, 2, 7344000, 3, 13305600, 2, 6652800, 3, 3024000, 2, 8467200, 3, 13305600, 2,
     6048000, 3, 3024000, 2, 9676800, 3, 12700800, 2, 4838400, 3, 3628800, 2, 10281600, 3, 12700800,
     2, 4233600, 3, 3024000, 2, 27820800, 3, 3024000, 2, 27216000, 3, 3628800, 2, 27216000, 3,
     3024000, 2, 27216000, 3, 3628800, 2, 27216000, 3, 3024000, 2, 27820800, 3, 3024000, 2,
     27216000, 3, 3628800, 2, 27216000, 3, 3024000, 2, 27820800, 3, 3024000, 2, 27216000, 3,
     3628800, 2, 27216000, 3, 3024000, 2, 27216000, 3, 3628800, 2, 27216000, 3, 3024000, 2,
     27820800, 3, 3024000, 2, 27216000, 3, 3628800, 2, 27216000, 3, 3024000, 2, 27216000, 3,
     3628800, 2, 27216000, 3, 3628800, 2, 27216000, 3, 3024000, 2, 27216000, 3, 3628800, 2,
     27216000, 3, 3024000, 2, 27820800, 3, 3024000, 2, 27216000, 3, 3628800, 2, 27216000, 3,
     3024000, 2, 27216000, 3, 3628800, 2, 27216000, 3, 3628800, 2, 27216000, 3, 3024000, 2,
     27216000, 3, 3628800, 2, 27216000, 3, 3024000, 2, 27820800, 3, 3024000, 2, 27216000, 3,
     3628800, 2, 27216000, 3, 3024000, 2, 27216000, 3, 3628800, 2, 27216000, 3, 3628800, 2,
     27216000, 3, 3024000, 2, 27216000, 3, 3628800, 2, 27216000, 3, 3024000, 2, 27820800, 3,
     3024000, 2, 27216000, 3, 3628800, 2, 27216000, 3, 3024000, 2, 27216000, 3, 3628800, 2,
     27216000, 3, 3628800, 2, 27216000, 3, 3024000, 2, 27216000, 3, 3628800, 2, 27216000, 3,
     3024000, 2, 27820800, 3, 3024000, 2, 27216000, 3, 3628800, 2, 27216000, 3, 3024000, 2,
     27216000, 3, 3628800, 2, 27216000, 3, 3628800, 2, 27216000, 3, 3024000, 2, 27216000, 3,
     3628800, 2, 27216000, 3, 3024000, 2, 27820800, 3, 3024000, 2, 27216000, 3, 3628800, 2,
     27216000, 3, 3024000, 2, 27216000, 3, 3628800, 2, 27216000, 3, 3628800, 2, 27216000, 3,
     3024000, 2, 27216000, 3, 3628800, 2, 27216000, 3, 3024000, 2, 27820800, 3, 3024000, 2,
     27216000, 3, 3628800, 2, 27216000, 3, 3024000, 2, 27216000, 3, 3628800, 2, 27216000, 3,
     3024000, 2, 27820800, 3, 3024000, 2, 27216000, 3, 3628800, 2, 27216000, 3, 3024000, 2,
     27820800, 3, 3024000, 2, 27216000, 3, 3628800, 2]⟩,
  ⟨"Africa/Freetown", "GMT0",
    [5, 6359, 0, 6359, 0, 4799, 1, 7199, 0, 0, 0, 19, 5553958439, 1, 993859200, 3, 612835620, 2,
     10453200, 3, 13220400, 2, 18315600, 3, 13220400, 2, 18315600, 3, 13220400, 2, 18402000, 3,
     13220400, 2, 18315600, 3, 13220400, 2, 18315600, 3, 13220400, 2, 23586000, 3, 7950000, 2,
     344400, 3, 71194800, 4]⟩,
  ⟨"Africa/Gaborone", "CAT-2",
    [4, 12440, 0, 10800, 0, 14400, 0, 21600, 1, 4, 5364588439, 1, 573005620, 2, 1279762200, 3,
     15721200, 2]⟩,
  ⟨"Africa/Harare", "CAT-2",
    [2, 14904, 0, 14400, 0, 1, 4218581303, 1]⟩,
  ⟨"Africa/Johannesburg", "SAST-2",
    [4, 13440, 0, 10800, 0, 21600, 1, 14400, 0, 6, 4916346239, 1, 348884520, 3, 1248312600, 2,
     15721200, 3, 15728400, 2, 15721200, 3]⟩,
  ⟨"Africa/Juba", "CAT-2",
    [5, 15176, 0, 21600, 1, 14400, 0, 21600, 0, 14400, 0, 35, 2461551175, 2, 1241136388, 1,
     14425200, 2, 17024400, 1, 14511600, 2, 17110800, 1, 14511600, 2, 16938000, 1, 14598000, 2,
     16851600, 1, 14684400, 2, 16765200, 1, 14770800, 2, 16678800, 1, 14943600, 2, 16506000, 1,
     15030000, 2, 17024400, 1, 14511600, 2, 16938000, 1, 14598000, 2, 16851600, 1, 14770800, 2,
     16678800, 1, 14857200, 2, 16592400, 1, 14943600, 2, 16506000, 1, 15030000, 2, 17024400, 1,
     14598000, 2, 16851600, 1, 14684400, 2, 449758800, 3, 664196400, 2]⟩,
  ⟨"Africa/Kampala", "EAT-3",
    [5, 15560, 0, 21600, 0, 18000, 0, 19800, 0, 21600, 0, 4, 2619490759, 1, 47430580, 2, 567995400,
     3, 284082300, 1]⟩,
  ⟨"Africa/Khartoum", "CAT-2",
    [5, 15616, 0, 21600, 1, 14400, 0, 21600, 0, 14400, 0, 35, 2461551615, 2, 1241136608, 1,
     14425200, 2, 17024400, 1, 14511600, 2, 17110800, 1, 14511600, 2, 16938000, 1, 14598000, 2,
     16851600, 1, 14684400, 2, 16765200, 1, 14770800, 2, 16678800, 1, 14943600, 2, 16506000, 1,
     15030000, 2, 17024400, 1, 14511600, 2, 16938000, 1, 14598000, 2, 16851600, 1, 14770800, 2,
     16678800, 1, 14857200, 2, 16592400, 1, 14943600, 2, 16506000, 1, 15030000, 2, 17024400, 1,
     14598000, 2, 16851600, 1, 14684400, 2, 449758800, 3, 561553200, 2]⟩,
  ⟨"Africa/Kigali", "CAT-2",
    [2, 14432, 0, 14400, 0, 1, 2182996831, 1]⟩,
  ⟨"Africa/Kinshasa", "WAT-1",
    [2, 7344, 0, 7200, 0, 1, 4553287343, 1]⟩,
  ⟨"Africa/Lagos", "WAT-1",
    [4, 1630, 0, 0, 0, 3600, 0, 7200, 0, 4, 4071169629, 1, 94695215, 0, 173663185, 2, 178760615, 3]⟩,
  ⟨"Africa/Libreville", "WAT-1",
    [2, 4536, 0, 7200, 0, 1, 3660772535, 1]⟩,
  ⟨"Africa/Lome", "GMT0",
    [2, 584, 0, 0, 0, 1, 4859654983, 1]⟩,
  ⟨"Africa/Luanda", "WAT-1",
    [3, 6352, 0, 6248, 0, 7200, 0, 2, 4922905551, 1, 631065176, 2]⟩,
  ⟨"Africa/Lubumbashi", "CAT-2",
    [3, 13184, 0, 7200, 0, 14400, 0, 2, 4553293183, 1, 708655792, 2]⟩,
  ⟨"Africa/Lusaka", "CAT-2",
    [2, 13576, 0, 14400, 0, 1, 4218579975, 1]⟩,
  ⟨"Africa/Malabo", "WAT-1",
    [3, 4216, 0, 0, 0, 7200, 0, 2, 3660772215, 1, 1639528508, 2]⟩,
  ⟨"Africa/Maputo", "CAT-2",
    [2, 15636, 0, 14400, 0, 1, 3849999635, 1]⟩,
  ⟨"Africa/Maseru", "SAST-2",
    [3, 13200, 0, 14400, 0, 21600, 1, 3, 4218579599, 1, 1279763400, 2, 15721200, 1]⟩,
  ⟨"Africa/Mbabane", "SAST-2",
    [2, 14928, 0, 14400, 0, 1, 4218581327, 1]⟩,
  ⟨"Africa/Mogadishu", "EAT-3",
    [4, 21776, 0, 21600, 0, 18000, 0, 21600, 0, 3, 4807144975, 1, 1172793688, 2, 820542600, 1]⟩,
  ⟨"Africa/Monrovia", "GMT0",
    [4, 5175, 0, 5175, 0, 5339, 0, 0, 0, 3, 5553959623, 1, 1172620800, 2, 1667952082, 3]⟩,
  ⟨"Africa/Nairobi", "EAT-3",
    [5, 17672, 0, 18000, 0, 21600, 0, 19800, 0, 21600, 0, 5, 3892337671, 1, 636422236, 2, 47777400,
     1, 220581000, 3, 176082300, 2]⟩,
  ⟨"Africa/Ndjamena", "WAT-1",
    [3, 7224, 0, 7200, 0, 14400, 1, 3, 3660775223, 1, 2139091212, 2, 12610800, 1]⟩,
  ⟨"Africa/Niamey", "WAT-1",
    [4, 1016, 0, 7199, 0, 0, 0, 7200, 0, 3, 3660769015, 1, 699152908, 2, 815612400, 3]⟩,
  ⟨"Africa/Nouakchott", "GMT0",
    [4, 7655, 0, 0, 0, 7199, 0, 0, 0, 3, 3660760343, 1, 699144972, 2, 844304400, 1]⟩,
  ⟨"Africa/Ouagadougou", "GMT0",
    [2, 727, 0, 0, 0, 1, 3660767271, 1]⟩,
  ⟨"Africa/Porto-Novo", "WAT-1",
    [3, 1256, 0, 0, 0, 7200, 0, 2, 3660769255, 1, 699149428, 2]⟩,
  ⟨"Africa/Sao_Tome", "GMT0",
    [5, 3232, 0, 4409, 0, 0, 0, 7200, 0, 0, 0, 4, 5427824031, 1, 883528016, 2, 3345152400, 3,
     31536000, 4]⟩,
  ⟨"Africa/Tripoli", "EET-2",
    [4, 6328, 0, 14400, 1, 7200, 0, 14400, 0, 32, 3155852727, 2, 1003024364, 1, 6814800, 2,
     55911600, 1, 7246800, 2, 55040400, 1, 8031600, 2, 94698000, 3, 725842800, 2, 7779600, 1,
     15807600, 2, 15728400, 1, 15807600, 2, 15814800, 1, 15807600, 2, 16160400, 1, 15375600, 2,
     15987600, 1, 15721200, 2, 15555600, 1, 15807600, 2, 15814800, 1, 15807600, 2, 15728400, 1,
     15807600, 2, 18579600, 3, 202258800, 2, 16074000, 1, 15807600, 3, 476589600, 2, 12009600, 1,
     18144000, 3]⟩,
  ⟨"Africa/Tunis", "CET-1",
    [6, 4888, 0, 1122, 0, 14400, 1, 7200, 0, 7200, 0, 14400, 1, 34, 5594404887, 1, 941243483, 4,
     886716561, 2, 18748800, 3, 8553600, 2, 50803200, 4, 13309200, 5, 20570400, 4, 12700800, 5,
     1638000, 4, 694800, 5, 13993200, 4, 15728400, 5, 16232400, 4, 15217200, 5, 14418000, 4,
     997837200, 2, 12700800, 3, 18921600, 2, 13219200, 3, 305078400, 2, 10022400, 3, 15724800, 2,
     15724800, 3, 18921600, 2, 13132800, 3, 460252800, 2, 13136400, 3, 15296400, 2, 18748800, 3,
     12700800, 2, 18748800, 3, 13305600, 2, 18144000, 3]⟩,
  ⟨"Africa/Windhoek", "CAT-2",
    [8, 8208, 0, 10800, 0, 14400, 0, 21600, 1, 14400, 0, 7200, 0, 14400, 1, 14400, 0, 54,
     4916341007, 1, 348881904, 2, 1248312600, 3, 15721200, 2, 1483225200, 4, 126230400, 5, 14439600,
     6, 18140400, 5, 13309200, 6, 18745200, 5, 12704400, 6, 18745200, 5, 13309200, 6, 18140400, 5,
     13309200, 6, 18140400, 5, 13309200, 6, 18140400, 5, 13309200, 6, 18140400, 5, 13309200, 6,
     18745200, 5, 12704400, 6, 18745200, 5, 13309200, 6, 18140400, 5, 13309200, 6, 18140400, 5,
     13309200, 6, 18140400, 5, 13309200, 6, 18140400, 5, 13309200, 6, 18745200, 5, 13309200, 6,
     18140400, 5, 13309200, 6, 18140400, 5, 13309200, 6, 18140400, 5, 13309200, 6, 18140400, 5,
     13309200, 6, 18745200, 5, 12704400, 6, 18745200, 5, 13309200, 6, 18140400, 5, 13309200, 6,
     18140400, 5, 13309200, 6, 18140400, 5, 13309200, 6, 4395600, 4]⟩
]

end SalonBooking.Zone.Data
