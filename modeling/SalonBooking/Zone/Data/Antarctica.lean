import SalonBooking.Zone.Record

/-!
Compiled rules of the Antarctic zones of the time zone database: each record
holds the zone name, the rule string for instants after the last listed
transition, and the local time types and transitions as a list of numbers.
-/

namespace SalonBooking.Zone.Data

/-- The Antarctic zones, by name. -/
def antarcticaZones : List ZoneRecord := [
  ⟨"Antarctica/Casey", "<+08>-8",
    [4, 0, 0, 57600, 0, 79200, 0, 57600, 0, 18, 63071999, 1, 1287338400, 2, 11912400, 1, 52023600,
     2, 10105200, 3, 147222000, 2, 43635600, 1, 18154800, 2, 13896000, 1, 17377200, 2, 13467600, 1,
     18144060, 2, 13899540, 1, 17550060, 2, 13899540, 1, 17550060, 2, 13651140, 1, 469192447, 1]⟩,
  ⟨"Antarctica/Davis", "<+07>-7",
    [4, 0, 0, 50400, 0, 36000, 0, 50400, 0, 8, 818380799, 1, 246128400, 0, 134204400, 1, 1284663600,
     2, 12445200, 3, 51490800, 2, 10112400, 3, 817629247, 3]⟩,
  ⟨"Antarctica/DumontDUrville", "<+10>-10",
    [2, 0, 0, 72000, 0, 4, 1451692799, 1, 158853600, 0, 151495200, 1, 2562981247, 1]⟩,
  ⟨"Antarctica/Macquarie", "AEST-10AEDT,M10.1.0,M4.1.0/3",
    [7, 0, 0, 72000, 0, 79200, 1, 72000, 0, 0, 0, 79200, 1, 72000, 0, 144, 4428518399, 1, 533750400,
     2, 15120000, 3, 63669600, 4, 914666400, 1, 615916800, 5, 15724800, 3, 18144000, 5, 11491200, 3,
     19958400, 5, 11491200, 3, 19958400, 5, 12096000, 3, 19958400, 5, 10281600, 3, 21168000, 5,
     10886400, 3, 20563200, 5, 10886400, 3, 20563200, 5, 10886400, 3, 20563200, 5, 11491200, 3,
     20563200, 5, 10886400, 3, 20563200, 5, 10886400, 3, 20563200, 5, 10886400, 3, 20563200, 5,
     10886400, 3, 20563200, 5, 10886400, 3, 20563200, 5, 13305600, 3, 18748800, 5, 12700800, 3,
     18748800, 5, 10886400, 3, 20563200, 5, 10886400, 3, 20563200, 5, 10886400, 3, 19958400, 5,
     12700800, 3, 19353600, 5, 12700800, 3, 19353600, 5, 12096000, 3, 19353600, 5, 12096000, 3,
     19353600, 5, 13305600, 3, 16329600, 5, 15120000, 3, 16329600, 5, 15120000, 3, 16329600, 5,
     15120000, 3, 16329600, 5, 15120000, 3, 16329600, 5, 15724800, 3, 16329600, 5, 15120000, 3,
     16329600, 5, 15120000, 3, 16329600, 5, 15120000, 3, 16329600, 5, 15120000, 3, 13305600, 5,
     18144000, 3, 16934400, 5, 15120000, 3, 16329600, 5, 15120000, 3, 16329600, 5, 15120000, 3,
     16329600, 5, 15120000, 3, 16329600, 5, 15724800, 3, 15724800, 5, 15120000, 3, 16934400, 5,
     15724800, 3, 15724800, 5, 15724800, 3, 15724800, 5, 47174400, 3, 15724800, 5, 15724800, 3,
     16329600, 5, 15724800, 3, 15724800, 5, 15724800, 3, 15724800, 5, 15724800, 3, 15724800, 5,
     15724800, 3, 15724800, 5, 15724800, 3, 15724800, 5, 15724800, 3, 16329600, 5, 15724800, 3,
     15724800, 5, 15724800, 3, 15724800, 5, 15724800, 3, 15724800, 5, 15724800, 3, 15724800, 5,
     15724800, 3, 15724800, 5, 16329600, 3, 15724800, 5, 15724800, 3, 15724800, 5, 15724800, 3,
     15724800, 5, 15724800, 3, 15724800, 5, 15724800, 3, 15724800, 5, 15724800, 3, 16329600, 5,
     15724800, 3, 15724800, 5, 15724800, 3, 15724800, 5, 15724800, 3, 15724800, 5, 15724800, 3,
     15724800, 5, 15724800, 3, 15724800, 5, 15724800, 3, 16329600, 5, 15724800, 3, 15724800, 5,
     15724800, 3, 15724800, 5]⟩,
  ⟨"Antarctica/Mawson", "<+05>-5",
    [3, 0, 0, 43200, 0, 36000, 0, 3, 1002412799, 1, 1757016000, 2, 891674047, 2]⟩,
  ⟨"Antarctica/McMurdo", "NZST-12NZDT,M9.5.0,M4.1.0/3",
    [4, 0, 0, 93600, 1, 86400, 0, 86400, 0, 128, 883699199, 3, 594482400, 1, 9676800, 2, 21168000,
     1, 11491200, 2, 20563200, 1, 10886400, 2, 20563200, 1, 10886400, 2, 20563200, 1, 10886400, 2,
     20563200, 1, 10886400, 2, 20563200, 1, 10886400, 2, 20563200, 1, 11491200, 2, 20563200, 1,
     10886400, 2, 20563200, 1, 10886400, 2, 20563200, 1, 10886400, 2, 20563200, 1, 10886400, 2,
     20563200, 1, 10886400, 2, 20563200, 1, 11491200, 2, 20563200, 1, 10886400, 2, 18748800, 1,
     13910400, 2, 17539200, 1, 13910400, 2, 17539200, 1, 13910400, 2, 17539200, 1, 14515200, 2,
     16934400, 1, 14515200, 2, 16934400, 1, 14515200, 2, 16934400, 1, 14515200, 2, 17539200, 1,
     13910400, 2, 17539200, 1, 13910400, 2, 17539200, 1, 14515200, 2, 16934400, 1, 14515200, 2,
     16934400, 1, 14515200, 2, 17539200, 1, 13910400, 2, 17539200, 1, 13910400, 2, 17539200, 1,
     14515200, 2, 16934400, 1, 14515200, 2, 16934400, 1, 14515200, 2, 16934400, 1, 14515200, 2,
     16934400, 1, 16329600, 2, 15120000, 1, 16329600, 2, 15120000, 1, 16329600, 2, 15120000, 1,
     16329600, 2, 15120000, 1, 16329600, 2, 15724800, 1, 16329600, 2, 15120000, 1, 16329600, 2,
     15120000, 1, 16329600, 2, 15120000, 1, 16329600, 2, 15120000, 1, 16329600, 2, 15120000, 1,
     16329600, 2, 15724800, 1, 16329600, 2, 15120000, 1, 16329600, 2, 15120000, 1, 16329600, 2,
     15120000, 1, 16329600, 2, 15120000, 1, 16329600, 2, 15120000, 1, 16934400, 2, 15120000, 1,
     16329600, 2, 15120000, 1, 16329600, 2, 15120000, 1, 16329600, 2, 15120000, 1, 16329600, 2,
     15120000, 1, 16329600, 2, 15724800, 1, 16329600, 2, 15120000, 1, 16329600, 2, 15120000, 1,
     16329600, 2, 15120000, 1, 16329600, 2, 15120000, 1, 16329600, 2, 15120000, 1, 16329600, 2,
     15724800, 1, 16329600, 2, 15120000, 1, 16329600, 2, 15120000, 1]⟩,
  ⟨"Antarctica/Palmer", "<-03>3",
    [8, 0, 0, 28799, 0, 21599, 1, 14399, 1, 21599, 0, 21599, 1, 28799, 0, 21599, 0, 83, 315532799,
     2, 5108400, 1, 19702800, 2, 11833200, 1, 19702800, 2, 14598000, 1, 15728400, 2, 16326000, 1,
     15728400, 2, 15721200, 1, 15728400, 4, 135730800, 3, 8463600, 4, 252464400, 1, 14000400, 5,
     13302000, 6, 18147600, 5, 13302000, 6, 18752400, 5, 12697200, 6, 18752400, 5, 12697200, 6,
     18752400, 5, 15721200, 6, 15728400, 5, 13302000, 6, 18147600, 5, 13302000, 6, 18752400, 5,
     12697200, 6, 16333200, 5, 15116400, 6, 18752400, 5, 13302000, 6, 18147600, 5, 13302000, 6,
     18147600, 5, 13302000, 6, 18147600, 5, 13302000, 6, 18752400, 5, 12697200, 6, 18752400, 5,
     14511600, 6, 16938000, 5, 13302000, 6, 16938000, 5, 16326000, 6, 16333200, 5, 13302000, 6,
     18752400, 5, 12697200, 6, 18752400, 5, 12697200, 6, 18752400, 5, 12697200, 6, 18752400, 5,
     13302000, 6, 18147600, 5, 13302000, 6, 18147600, 5, 13302000, 6, 18752400, 5, 12697200, 6,
     18752400, 5, 14511600, 6, 16938000, 5, 13302000, 6, 18147600, 5, 15116400, 6, 16333200, 5,
     18140400, 6, 9075600, 5, 21769200, 6, 10890000, 5, 20559600, 6, 11494800, 5, 19954800, 6,
     11494800, 5, 53218800, 6, 7866000, 5, 9673200, 4, 666663247, 4]⟩,
  ⟨"Antarctica/Rothera", "<-03>3",
    [2, 0, 0, 21599, 0, 2, 436492800, 1, 1929237247, 1]⟩,
  ⟨"Antarctica/Syowa", "<+03>-3",
    [2, 0, 0, 21600, 0, 2, 815615999, 1, 2555291647, 1]⟩,
  ⟨"Antarctica/Troll", "<+00>0<+02>-2,M3.5.0/1,M10.5.0/3",
    [4, 0, 0, 14400, 1, 0, 0, 0, 0, 68, 2216332800, 3, 3718800, 1, 18748800, 2, 12700800, 1,
     18748800, 2, 12700800, 1, 18748800, 2, 13305600, 1, 18144000, 2, 13305600, 1, 18144000, 2,
     13305600, 1, 18748800, 2, 12700800, 1, 18748800, 2, 12700800, 1, 18748800, 2, 13305600, 1,
     18144000, 2, 13305600, 1, 18144000, 2, 13305600, 1, 18144000, 2, 13305600, 1, 18748800, 2,
     12700800, 1, 18748800, 2, 12700800, 1, 18748800, 2, 13305600, 1, 18144000, 2, 13305600, 1,
     18144000, 2, 13305600, 1, 18748800, 2, 12700800, 1, 18748800, 2, 12700800, 1, 18748800, 2,
     13305600, 1, 18144000, 2, 13305600, 1, 18144000, 2, 13305600, 1, 18144000, 2, 13305600, 1,
     18748800, 2, 12700800, 1, 18748800, 2, 12700800, 1, 18748800, 2, 13305600, 1, 18144000, 2,
     13305600, 1, 18144000, 2, 13305600, 1, 18748800, 2, 12700800, 1, 18748800, 2, 12700800, 1,
     18748800, 2, 12700800, 1, 18748800, 2, 13305600, 1, 18144000, 2, 13305600, 1, 18144000, 2,
     7438447, 2]⟩,
  ⟨"Antarctica/Vostok", "<+05>-5",
    [3, 0, 0, 50400, 0, 36000, 0, 5, 760147199, 1, 1140109200, 0, 23612400, 1, 919191600, 2,
     444644047, 2]⟩
]

end SalonBooking.Zone.Data
