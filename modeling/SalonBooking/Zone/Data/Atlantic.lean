import SalonBooking.Zone.Record

/-!
Compiled rules of the Atlantic zones of the time zone database: each record
holds the zone name, the rule string for instants after the last listed
transition, and the local time types and transitions as a list of numbers.
-/

namespace SalonBooking.Zone.Data

/-- The Atlantic zones, by name. -/
def atlanticZones : List ZoneRecord := [
  ⟨"Atlantic/Azores", "<-01>1<+00>,M3.5.0/0,M10.5.0/1",
    [15, 12319, 0, 13743, 0, 7199, 1, 14399, 0, 7199, 1, 14399, 0, 14399, 0, 0, 1, 7199, 0, 0, 1,
     7199, 0, 7200, 1, 0, 0, 0, 1, 7199, 0, 217, 5427808479, 1, 883527440, 6, 140828400, 2,
     11754000, 3, 10368000, 2, 19695600, 3, 11840400, 2, 19695600, 3, 11840400, 2, 19695600, 3,
     11926800, 2, 19695600, 3, 11840400, 2, 19695600, 3, 79056000, 4, 14774400, 5, 48384000, 4,
     14515200, 5, 16329600, 4, 15120000, 5, 16934400, 4, 15120000, 5, 16934400, 4, 14515200, 5,
     48384000, 4, 14515200, 5, 15724800, 4, 15724800, 5, 47779200, 4, 15724800, 5, 15120000, 4,
     16329600, 5, 16934400, 4, 14515200, 5, 15724800, 4, 15724800, 5, 15120000, 4, 16329600, 5,
     16934400, 4, 18748800, 5, 8467200, 4, 19526400, 5, 15552000, 4, 15811200, 5, 13824000, 4,
     3625200, 7, 9676800, 4, 6051600, 5, 12096000, 4, 3020400, 7, 11491200, 4, 5446800, 5, 11491200,
     4, 3625200, 7, 10886400, 4, 5446800, 5, 11491200, 4, 3625200, 7, 10886400, 4, 5446800, 5,
     13910400, 4, 15724800, 5, 15735600, 4, 15724800, 5, 15724800, 4, 15724800, 5, 15724800, 4,
     15724800, 5, 15724800, 4, 15724800, 5, 15724800, 4, 16329600, 5, 15724800, 4, 15724800, 5,
     15724800, 4, 15724800, 5, 15724800, 4, 15724800, 5, 15724800, 4, 15724800, 5, 15724800, 4,
     16329600, 5, 15724800, 4, 15724800, 5, 15724800, 4, 15724800, 5, 15724800, 4, 15724800, 5,
     15724800, 4, 15724800, 5, 15724800, 4, 15724800, 5, 15724800, 4, 16329600, 5, 15724800, 4,
     15724800, 5, 15724800, 4, 15724800, 5, 15724800, 4, 15724800, 5, 15724800, 4, 15724800, 8,
     488667600, 7, 15724800, 8, 15724800, 7, 15724800, 8, 15724800, 7, 16329600, 8, 15724800, 7,
     15724800, 8, 15724800, 9, 15724800, 10, 15724800, 9, 15724800, 10, 15724800, 9, 15724800, 10,
     15724800, 9, 15724800, 10, 15724800, 9, 16329600, 10, 15724800, 9, 15724800, 10, 15724800, 9,
     15724800, 10, 7866000, 12, 7858800, 11, 6998400, 9, 8726400, 10, 15724800, 9, 15724800, 10,
     15724800, 9, 15724800, 10, 16329600, 9, 18144000, 10, 13305600, 9, 18144000, 10, 13305600, 9,
     18144000, 10, 13305600, 9, 18748800, 10, 12700800, 9, 18748800, 10, 12700800, 9, 18748800, 10,
     13305600, 9, 18144000, 10, 13305600, 9, 18144000, 10, 13305600, 9, 18748800, 10, 12700800, 9,
     18748800, 10, 12700800, 9, 18748800, 10, 12700800, 9, 18748800, 10, 13305600, 9, 18144000, 10,
     13305600, 9, 18144000, 10, 13305600, 9, 18748800, 10, 12700800, 9, 18748800, 10, 12700800, 9,
     18748800, 10, 13305600, 9, 18144000, 10, 13305600, 9, 18144000, 10, 13305600, 9, 18144000, 10,
     13305600, 9, 18748800, 10, 12700800, 9, 18748800, 10, 12700800, 9, 18748800, 10, 13305600, 9,
     18144000, 10, 13305600, 9, 18144000, 10, 13305600, 9, 18748800, 10, 12700800, 9, 18748800, 10,
     12700800, 9, 18748800, 10, 13305600, 9, 18144000, 10, 13305600, 9, 18144000, 10, 13305600, 9,
     18144000, 10, 13305600, 9, 18748800, 10, 12700800, 9, 18748800, 10, 12700800, 9, 18748800, 10,
     13305600, 9, 18144000, 10, 13305600, 9, 18144000, 10, 13305600, 9, 18748800, 10, 12700800, 9,
     18748800, 10, 12700800, 9, 18748800, 10, 12700800, 9, 18748800, 10, 13305600, 9, 18144000, 10,
     13305600, 9, 18144000, 10, 7438447, 10]⟩,
  ⟨"Atlantic/Bermuda", "AST4ADT,M3.2.0,M11.1.0",
    [5, 31115, 0, 23915, 1, 31115, 0, 21599, 1, 28799, 0, 156, 5049012083, 2, 860198400, 1,
     15375600, 2, 16851600, 1, 13388400, 2, 356410800, 4, 379554042, 3, 24188400, 4, 13309200, 3,
     19350000, 4, 11494800, 3, 20559600, 4, 10890000, 3, 20559600, 4, 48387600, 3, 10278000, 4,
     21776400, 3, 9068400, 4, 22381200, 3, 9068400, 4, 22986000, 3, 8463600, 4, 22986000, 3,
     8463600, 4, 22986000, 3, 9068400, 4, 117334800, 3, 13302000, 4, 552186000, 3, 15721200, 4,
     15728400, 3, 15721200, 4, 15728400, 3, 16326000, 4, 15123600, 3, 16326000, 4, 15728400, 3,
     15721200, 4, 15728400, 3, 15721200, 4, 15728400, 3, 15721200, 4, 15728400, 3, 15721200, 4,
     15728400, 3, 16326000, 4, 15123600, 3, 16326000, 4, 15728400, 3, 15721200, 4, 15728400, 3,
     15721200, 4, 15728400, 3, 15721200, 4, 13914000, 3, 17535600, 4, 13914000, 3, 18140400, 4,
     13309200, 3, 18140400, 4, 13309200, 3, 18140400, 4, 13914000, 3, 17535600, 4, 13914000, 3,
     17535600, 4, 13914000, 3, 18140400, 4, 13309200, 3, 18140400, 4, 13309200, 3, 18140400, 4,
     13914000, 3, 17535600, 4, 13914000, 3, 17535600, 4, 13914000, 3, 17535600, 4, 13914000, 3,
     18140400, 4, 13309200, 3, 18140400, 4, 13309200, 3, 18140400, 4, 13914000, 3, 17535600, 4,
     13914000, 3, 17535600, 4, 13914000, 3, 18140400, 4, 13309200, 3, 18140400, 4, 13309200, 3,
     18140400, 4, 11494800, 3, 20559600, 4, 10890000, 3, 20559600, 4, 10890000, 3, 20559600, 4,
     11494800, 3, 20559600, 4, 10890000, 3, 20559600, 4, 10890000, 3, 20559600, 4, 10890000, 3,
     20559600, 4, 10890000, 3, 20559600, 4, 10890000, 3, 20559600, 4, 11494800, 3, 20559600, 4,
     10890000, 3, 20559600, 4, 10890000, 3, 20559600, 4, 10890000, 3, 20559600, 4, 10890000, 3,
     20559600, 4, 11494800, 3, 20559600, 4, 10890000, 3, 20559600, 4, 10890000, 3, 20559600, 4,
     10890000, 3, 20559600, 4, 10890000, 3, 20559600, 4, 10890000, 3, 20559600, 4, 11494800, 3,
     20559600, 4, 10890000, 3, 20559600, 4, 10890000, 3, 20559600, 4, 10890000, 3, 20559600, 4,
     10890000, 3, 20559600, 4, 11494800, 3, 20559600, 4, 10890000, 3, 20559600, 4, 10890000, 3,
     20559600, 4, 10890000, 3, 20559600, 4, 10890000, 3, 20559600, 4, 10890000, 3, 20559600, 4]⟩,
  ⟨"Atlantic/Canary", "WET0WEST,M3.5.0/1,M10.5.0",
    [6, 7391, 0, 7199, 0, 0, 0, 7200, 1, 0, 0, 7200, 1, 118, 3019327007, 1, 775789104, 2,
     1057701600, 3, 15123600, 4, 15724800, 5, 15724800, 4, 15724800, 5, 15724800, 4, 15724800, 5,
     15724800, 4, 15724800, 5, 16329600, 4, 15724800, 5, 15724800, 4, 15724800, 5, 15724800, 4,
     15724800, 5, 15724800, 4, 15724800, 5, 15724800, 4, 15724800, 5, 15724800, 4, 15724800, 5,
     16329600, 4, 15724800, 5, 15724800, 4, 15724800, 5, 15724800, 4, 15724800, 5, 15724800, 4,
     15724800, 5, 15724800, 4, 15724800, 5, 15724800, 4, 16329600, 5, 18144000, 4, 13305600, 5,
     18144000, 4, 13305600, 5, 18144000, 4, 13305600, 5, 18748800, 4, 12700800, 5, 18748800, 4,
     12700800, 5, 18748800, 4, 13305600, 5, 18144000, 4, 13305600, 5, 18144000, 4, 13305600, 5,
     18748800, 4, 12700800, 5, 18748800, 4, 12700800, 5, 18748800, 4, 12700800, 5, 18748800, 4,
     13305600, 5, 18144000, 4, 13305600, 5, 18144000, 4, 13305600, 5, 18748800, 4, 12700800, 5,
     18748800, 4, 12700800, 5, 18748800, 4, 13305600, 5, 18144000, 4, 13305600, 5, 18144000, 4,
     13305600, 5, 18144000, 4, 13305600, 5, 18748800, 4, 12700800, 5, 18748800, 4, 12700800, 5,
     18748800, 4, 13305600, 5, 18144000, 4, 13305600, 5, 18144000, 4, 13305600, 5, 18748800, 4,
     12700800, 5, 18748800, 4, 12700800, 5, 18748800, 4, 13305600, 5, 18144000, 4, 13305600, 5,
     18144000, 4, 13305600, 5, 18144000, 4, 13305600, 5, 18748800, 4, 12700800, 5, 18748800, 4,
     12700800, 5, 18748800, 4, 13305600, 5, 18144000, 4, 13305600, 5, 18144000, 4, 13305600, 5,
     18748800, 4, 12700800, 5, 18748800, 4, 12700800, 5, 18748800, 4, 12700800, 5, 18748800, 4,
     13305600, 5, 18144000, 4, 13305600, 5, 18144000, 4]⟩,
  ⟨"Atlantic/Cape_Verde", "<-01>1",
    [5, 11287, 0, 14399, 0, 7199, 1, 14399, 0, 7199, 0, 5, 3660753599, 1, 967766400, 2, 98492400, 3,
     950238000, 4, 1961363647, 4]⟩,
  ⟨"Atlantic/Faroe", "WET0WEST,M3.5.0/1,M10.5.0",
    [4, 3247, 0, 0, 0, 7200, 1, 0, 0, 115, 3911497551, 1, 2310424376, 2, 15724800, 3, 15724800, 2,
     15724800, 3, 15724800, 2, 15724800, 3, 15724800, 2, 16329600, 3, 15724800, 2, 15724800, 3,
     15724800, 2, 15724800, 3, 15724800, 2, 15724800, 3, 15724800, 2, 15724800, 3, 15724800, 2,
     15724800, 3, 15724800, 2, 16329600, 3, 15724800, 2, 15724800, 3, 15724800, 2, 15724800, 3,
     15724800, 2, 15724800, 3, 15724800, 2, 15724800, 3, 15724800, 2, 15724800, 3, 16329600, 2,
     18144000, 3, 13305600, 2, 18144000, 3, 13305600, 2, 18144000, 3, 13305600, 2, 18748800, 3,
     12700800, 2, 18748800, 3, 12700800, 2, 18748800, 3, 13305600, 2, 18144000, 3, 13305600, 2,
     18144000, 3, 13305600, 2, 18748800, 3, 12700800, 2, 18748800, 3, 12700800, 2, 18748800, 3,
     12700800, 2, 18748800, 3, 13305600, 2, 18144000, 3, 13305600, 2, 18144000, 3, 13305600, 2,
     18748800, 3, 12700800, 2, 18748800, 3, 12700800, 2, 18748800, 3, 13305600, 2, 18144000, 3,
     13305600, 2, 18144000, 3, 13305600, 2, 18144000, 3, 13305600, 2, 18748800, 3, 12700800, 2,
     18748800, 3, 12700800, 2, 18748800, 3, 13305600, 2, 18144000, 3, 13305600, 2, 18144000, 3,
     13305600, 2, 18748800, 3, 12700800, 2, 18748800, 3, 12700800, 2, 18748800, 3, 13305600, 2,
     18144000, 3, 13305600, 2, 18144000, 3, 13305600, 2, 18144000, 3, 13305600, 2, 18748800, 3,
     12700800, 2, 18748800, 3, 12700800, 2, 18748800, 3, 13305600, 2, 18144000, 3, 13305600, 2,
     18144000, 3, 13305600, 2, 18748800, 3, 12700800, 2, 18748800, 3, 12700800, 2, 18748800, 3,
     12700800, 2, 18748800, 3, 13305600, 2, 18144000, 3, 13305600, 2, 18144000, 3]⟩,
  ⟨"Atlantic/Madeira", "WET0WEST,M3.5.0/1,M10.5.0",
    [13, 8111, 0, 8111, 0, 0, 1, 7199, 0, 0, 1, 7199, 0, 7199, 0, 7200, 1, 0, 0, 7200, 1, 7200, 1,
     0, 0, 7200, 1, 214, 5427812687, 1, 883525944, 6, 140828400, 2, 11754000, 3, 10368000, 2,
     19695600, 3, 11840400, 2, 19695600, 3, 11840400, 2, 19695600, 3, 11926800, 2, 19695600, 3,
     11840400, 2, 19695600, 3, 79056000, 4, 14774400, 5, 48384000, 4, 14515200, 5, 16329600, 4,
     15120000, 5, 16934400, 4, 15120000, 5, 16934400, 4, 14515200, 5, 48384000, 4, 14515200, 5,
     15724800, 4, 15724800, 5, 47779200, 4, 15724800, 5, 15120000, 4, 16329600, 5, 16934400, 4,
     14515200, 5, 15724800, 4, 15724800, 5, 15120000, 4, 16329600, 5, 16934400, 4, 18748800, 5,
     8467200, 4, 19526400, 5, 15552000, 4, 15811200, 5, 13824000, 4, 3625200, 7, 9676800, 4,
     6051600, 5, 12096000, 4, 3020400, 7, 11491200, 4, 5446800, 5, 11491200, 4, 3625200, 7,
     10886400, 4, 5446800, 5, 11491200, 4, 3625200, 7, 10886400, 4, 5446800, 5, 13910400, 4,
     15724800, 5, 15735600, 4, 15724800, 5, 15724800, 4, 15724800, 5, 15724800, 4, 15724800, 5,
     15724800, 4, 15724800, 5, 15724800, 4, 16329600, 5, 15724800, 4, 15724800, 5, 15724800, 4,
     15724800, 5, 15724800, 4, 15724800, 5, 15724800, 4, 15724800, 5, 15724800, 4, 16329600, 5,
     15724800, 4, 15724800, 5, 15724800, 4, 15724800, 5, 15724800, 4, 15724800, 5, 15724800, 4,
     15724800, 5, 15724800, 4, 15724800, 5, 15724800, 4, 16329600, 5, 15724800, 4, 15724800, 5,
     15724800, 4, 15724800, 5, 15724800, 4, 15724800, 5, 15724800, 4, 15724800, 8, 489272400, 10,
     15120000, 8, 15724800, 9, 15724800, 8, 15724800, 9, 16329600, 8, 15724800, 9, 15724800, 8,
     15724800, 9, 15728400, 11, 15724800, 12, 15724800, 11, 15724800, 12, 15724800, 11, 15724800,
     12, 15724800, 11, 15724800, 12, 16329600, 11, 15724800, 12, 15724800, 11, 15724800, 12,
     15724800, 11, 15724800, 12, 15724800, 11, 15724800, 12, 15724800, 11, 15724800, 12, 15724800,
     11, 16329600, 12, 18144000, 11, 13305600, 12, 18144000, 11, 13305600, 12, 18144000, 11,
     13305600, 12, 18748800, 11, 12700800, 12, 18748800, 11, 12700800, 12, 18748800, 11, 13305600,
     12, 18144000, 11, 13305600, 12, 18144000, 11, 13305600, 12, 18748800, 11, 12700800, 12,
     18748800, 11, 12700800, 12, 18748800, 11, 12700800, 12, 18748800, 11, 13305600, 12, 18144000,
     11, 13305600, 12, 18144000, 11, 13305600, 12, 18748800, 11, 12700800, 12, 18748800, 11,
     12700800, 12, 18748800, 11, 13305600, 12, 18144000, 11, 13305600, 12, 18144000, 11, 13305600,
     12, 18144000, 11, 13305600, 12, 18748800, 11, 12700800, 12, 18748800, 11, 12700800, 12,
     18748800, 11, 13305600, 12, 18144000, 11, 13305600, 12, 18144000, 11, 13305600, 12, 18748800,
     11, 12700800, 12, 18748800, 11, 12700800, 12, 18748800, 11, 13305600, 12, 18144000, 11,
     13305600, 12, 18144000, 11, 13305600, 12, 18144000, 11, 13305600, 12, 18748800, 11, 12700800,
     12, 18748800, 11, 12700800, 12, 18748800, 11, 13305600, 12, 18144000, 11, 13305600, 12,
     18144000, 11, 13305600, 12, 18748800, 11, 12700800, 12, 18748800, 11, 12700800, 12, 18748800,
     11, 12700800, 12, 18748800, 11, 13305600, 12, 18144000, 11, 13305600, 12, 18144000, 11]⟩,
  ⟨"Atlantic/Reykjavik", "GMT0",
    [6, 10559, 0, 0, 1, 7199, 0, 7199, 0, 0, 1, 0, 0, 68, 3913218239, 2, 288397920, 1, 20998800, 2,
     10537200, 1, 23245200, 2, 8290800, 1, 23245200, 2, 42332400, 1, 8211600, 2, 563324400, 1,
     15732000, 2, 10285200, 1, 21769200, 3, 10281600, 4, 21168000, 3, 10886400, 4, 19958400, 3,
     11491200, 4, 19958400, 3, 11491200, 4, 19958400, 3, 11491200, 4, 20563200, 3, 10886400, 4,
     20563200, 3, 13910400, 4, 17539200, 3, 13910400, 4, 17539200, 3, 13910400, 4, 18144000, 3,
     13305600, 4, 17539200, 3, 13910400, 4, 18144000, 3, 13910400, 4, 17539200, 3, 13910400, 4,
     17539200, 3, 13910400, 4, 17539200, 3, 13910400, 4, 17539200, 3, 13910400, 4, 18144000, 3,
     13910400, 4, 17539200, 3, 13910400, 4, 17539200, 3, 13910400, 4, 17539200, 3, 13910400, 4,
     17539200, 3, 13910400, 4, 17539200, 3, 13910400, 4, 18144000, 3, 13910400, 4, 17539200, 3,
     13910400, 4, 17539200, 3, 13910400, 4, 17539200, 3, 13910400, 4, 17539200, 3, 13910400, 4,
     18144000, 3, 13910400, 5]⟩,
  ⟨"Atlantic/South_Georgia", "<-02>2",
    [2, 17535, 0, 14399, 0, 2, 5049025663, 1, 4671996479, 1]⟩,
  ⟨"Atlantic/St_Helena", "GMT0",
    [3, 2735, 0, 2735, 0, 0, 0, 2, 5049040463, 1, 1924905600, 2]⟩,
  ⟨"Atlantic/Stanley", "<-03>3",
    [7, 27767, 0, 27767, 0, 21599, 1, 28799, 0, 14399, 1, 21599, 0, 21599, 1, 71, 5049015431, 1,
     700272000, 3, 806026116, 2, 15116400, 3, 16333200, 2, 15116400, 3, 16938000, 2, 15116400, 3,
     16333200, 2, 15116400, 3, 16333200, 2, 15116400, 3, 16333200, 2, 8290800, 3, 1272675600, 5,
     12697200, 4, 18745200, 5, 12099600, 4, 19350000, 5, 12099600, 2, 18748800, 3, 12704400, 2,
     18745200, 3, 12704400, 2, 18745200, 3, 12704400, 2, 18745200, 3, 12704400, 2, 19350000, 3,
     12099600, 2, 19350000, 3, 12704400, 2, 18745200, 3, 12704400, 2, 18745200, 3, 12704400, 2,
     18745200, 3, 12704400, 2, 18745200, 3, 12704400, 2, 19350000, 3, 12704400, 2, 18745200, 3,
     12704400, 2, 18745200, 3, 12704400, 2, 18745200, 3, 12704400, 2, 18745200, 3, 12704400, 2,
     18752400, 3, 12099600, 2, 19954800, 3, 11494800, 2, 19954800, 3, 12099600, 2, 19350000, 3,
     12099600, 2, 19350000, 3, 12099600, 2, 19350000, 3, 12099600, 2, 19350000, 3, 12099600, 2,
     19954800, 3, 12099600, 2, 19350000, 3, 12099600, 2, 19350000, 3, 12099600, 5, 863817247, 5]⟩
]

end SalonBooking.Zone.Data
