import SalonBooking.Zone.Record

/-!
Compiled rules of the Pacific zones of the time zone database: each record
holds the zone name, the rule string for instants after the last listed
transition, and the local time types and transitions as a list of numbers.
-/

namespace SalonBooking.Zone.Data

/-- The Pacific zones, by name. -/
def pacificZones : List ZoneRecord := [
  ⟨"Pacific/Apia", "<+13>-13",
    [7, 90368, 0, 82431, 0, 82799, 0, 71999, 1, 79199, 0, 93600, 0, 100800, 1, 27, 4890848767, 1,
     583545600, 2, 1230768184, 4, 1916609400, 3, 16254000, 4, 15120000, 3, 8366400, 6, 7963200, 5,
     15724800, 6, 16329600, 5, 15120000, 6, 16329600, 5, 15120000, 6, 16329600, 5, 15120000, 6,
     16329600, 5, 15120000, 6, 16329600, 5, 15120000, 6, 16329600, 5, 15724800, 6, 16329600, 5,
     15120000, 6, 16329600, 5, 15120000, 6, 16329600, 5, 530025247, 5]⟩,
  ⟨"Pacific/Auckland", "NZST-12NZDT,M9.5.0,M4.1.0/3",
    [7, 83888, 0, 90000, 1, 82800, 0, 86400, 1, 93600, 1, 86400, 0, 86400, 0, 156, 6384871087, 2,
     1862100544, 1, 10278000, 2, 19357200, 3, 13303800, 2, 18145800, 3, 13303800, 2, 18145800, 3,
     13303800, 2, 18145800, 3, 13908600, 2, 17541000, 3, 13908600, 2, 17541000, 3, 17537400, 2,
     13307400, 3, 18142200, 2, 13307400, 3, 18142200, 2, 13307400, 3, 18142200, 2, 13307400, 3,
     18142200, 2, 13307400, 3, 18747000, 2, 12702600, 3, 18747000, 2, 13307400, 3, 165879000, 6,
     910058400, 4, 9676800, 5, 21168000, 4, 11491200, 5, 20563200, 4, 10886400, 5, 20563200, 4,
     10886400, 5, 20563200, 4, 10886400, 5, 20563200, 4, 10886400, 5, 20563200, 4, 10886400, 5,
     20563200, 4, 11491200, 5, 20563200, 4, 10886400, 5, 20563200, 4, 10886400, 5, 20563200, 4,
     10886400, 5, 20563200, 4, 10886400, 5, 20563200, 4, 10886400, 5, 20563200, 4, 11491200, 5,
     20563200, 4, 10886400, 5, 18748800, 4, 13910400, 5, 17539200, 4, 13910400, 5, 17539200, 4,
     13910400, 5, 17539200, 4, 14515200, 5, 16934400, 4, 14515200, 5, 16934400, 4, 14515200, 5,
     16934400, 4, 14515200, 5, 17539200, 4, 13910400, 5, 17539200, 4, 13910400, 5, 17539200, 4,
     14515200, 5, 16934400, 4, 14515200, 5, 16934400, 4, 14515200, 5, 17539200, 4, 13910400, 5,
     17539200, 4, 13910400, 5, 17539200, 4, 14515200, 5, 16934400, 4, 14515200, 5, 16934400, 4,
     14515200, 5, 16934400, 4, 14515200, 5, 16934400, 4, 16329600, 5, 15120000, 4, 16329600, 5,
     15120000, 4, 16329600, 5, 15120000, 4, 16329600, 5, 15120000, 4, 16329600, 5, 15724800, 4,
     16329600, 5, 15120000, 4, 16329600, 5, 15120000, 4, 16329600, 5, 15120000, 4, 16329600, 5,
     15120000, 4, 16329600, 5, 15120000, 4, 16329600, 5, 15724800, 4, 16329600, 5, 15120000, 4,
     16329600, 5, 15120000, 4, 16329600, 5, 15120000, 4, 16329600, 5, 15120000, 4, 16329600, 5,
     15120000, 4, 16934400, 5, 15120000, 4, 16329600, 5, 15120000, 4, 16329600, 5, 15120000, 4,
     16329600, 5, 15120000, 4, 16329600, 5, 15120000, 4, 16329600, 5, 15724800, 4, 16329600, 5,
     15120000, 4, 16329600, 5, 15120000, 4, 16329600, 5, 15120000, 4, 16329600, 5, 15120000, 4,
     16329600, 5, 15120000, 4, 16329600, 5, 15724800, 4, 16329600, 5, 15120000, 4, 16329600, 5,
     15120000, 4]⟩,
  ⟨"Pacific/Bougainville", "<+11>-11",
    [5, 74672, 0, 70624, 0, 72000, 0, 64800, 0, 79200, 0, 6, 5680356271, 1, 473387624, 2,
     1498780112, 3, 99104400, 2, 2188602000, 4, 727787647, 4]⟩,
  ⟨"Pacific/Chatham", "<+1245>-12:45<+1345>,M9.5.0/2:45,M4.1.0/3:45",
    [5, 88056, 0, 88200, 0, 99000, 1, 91800, 0, 91800, 0, 130, 6384875255, 1, 2435011128, 4,
     910059300, 2, 9676800, 3, 21168000, 2, 11491200, 3, 20563200, 2, 10886400, 3, 20563200, 2,
     10886400, 3, 20563200, 2, 10886400, 3, 20563200, 2, 10886400, 3, 20563200, 2, 10886400, 3,
     20563200, 2, 11491200, 3, 20563200, 2, 10886400, 3, 20563200, 2, 10886400, 3, 20563200, 2,
     10886400, 3, 20563200, 2, 10886400, 3, 20563200, 2, 10886400, 3, 20563200, 2, 11491200, 3,
     20563200, 2, 10886400, 3, 18748800, 2, 13910400, 3, 17539200, 2, 13910400, 3, 17539200, 2,
     13910400, 3, 17539200, 2, 14515200, 3, 16934400, 2, 14515200, 3, 16934400, 2, 14515200, 3,
     16934400, 2, 14515200, 3, 17539200, 2, 13910400, 3, 17539200, 2, 13910400, 3, 17539200, 2,
     14515200, 3, 16934400, 2, 14515200, 3, 16934400, 2, 14515200, 3, 17539200, 2, 13910400, 3,
     17539200, 2, 13910400, 3, 17539200, 2, 14515200, 3, 16934400, 2, 14515200, 3, 16934400, 2,
     14515200, 3, 16934400, 2, 14515200, 3, 16934400, 2, 16329600, 3, 15120000, 2, 16329600, 3,
     15120000, 2, 16329600, 3, 15120000, 2, 16329600, 3, 15120000, 2, 16329600, 3, 15724800, 2,
     16329600, 3, 15120000, 2, 16329600, 3, 15120000, 2, 16329600, 3, 15120000, 2, 16329600, 3,
     15120000, 2, 16329600, 3, 15120000, 2, 16329600, 3, 15724800, 2, 16329600, 3, 15120000, 2,
     16329600, 3, 15120000, 2, 16329600, 3, 15120000, 2, 16329600, 3, 15120000, 2, 16329600, 3,
     15120000, 2, 16934400, 3, 15120000, 2, 16329600, 3, 15120000, 2, 16329600, 3, 15120000, 2,
     16329600, 3, 15120000, 2, 16329600, 3, 15120000, 2, 16329600, 3, 15724800, 2, 16329600, 3,
     15120000, 2, 16329600, 3, 15120000, 2, 16329600, 3, 15120000, 2, 16329600, 3, 15120000, 2,
     16329600, 3, 15120000, 2, 16329600, 3, 15724800, 2, 16329600, 3, 15120000, 2, 16329600, 3,
     15120000, 2, 9897247, 2]⟩,
  ⟨"Pacific/Chuuk", "<+10>-10",
    [5, 99943, 0, 72856, 0, 72000, 0, 64800, 0, 72000, 0, 7, 7889256855, 1, 1767139200, 2,
     433814828, 3, 136861200, 2, 699404400, 3, 136774800, 2, 2918117647, 2]⟩,
  ⟨"Pacific/Easter", "<-06>6<-05>,M9.1.6/22,M4.1.6/22",
    [7, 52495, 0, 52495, 0, 43199, 1, 50399, 0, 50399, 0, 43199, 0, 35999, 1, 140, 5048990703, 1,
     1346371200, 4, 1141504952, 2, 12697200, 3, 20566800, 2, 10882800, 3, 16938000, 2, 13302000, 3,
     18147600, 2, 13302000, 3, 18752400, 2, 12697200, 3, 17542800, 2, 13906800, 3, 18752400, 2,
     12697200, 3, 18752400, 2, 13302000, 3, 18147600, 2, 13302000, 3, 18147600, 2, 13302000, 3,
     18752400, 2, 12697200, 3, 18752400, 2, 12697200, 3, 18752400, 2, 13302000, 3, 18147600, 2,
     13302000, 5, 18147600, 6, 13302000, 5, 18147600, 6, 13302000, 5, 18752400, 6, 12697200, 5,
     18752400, 6, 12697200, 5, 18752400, 6, 15721200, 5, 15728400, 6, 13302000, 5, 18147600, 6,
     13302000, 5, 18752400, 6, 12697200, 5, 16333200, 6, 15116400, 5, 18752400, 6, 13302000, 5,
     18147600, 6, 13302000, 5, 18147600, 6, 13302000, 5, 18147600, 6, 13302000, 5, 18752400, 6,
     12697200, 5, 18752400, 6, 14511600, 5, 16938000, 6, 13302000, 5, 16938000, 6, 16326000, 5,
     16333200, 6, 13302000, 5, 18752400, 6, 12697200, 5, 18752400, 6, 12697200, 5, 18752400, 6,
     12697200, 5, 18752400, 6, 13302000, 5, 18147600, 6, 13302000, 5, 18147600, 6, 13302000, 5,
     18752400, 6, 12697200, 5, 18752400, 6, 14511600, 5, 16938000, 6, 13302000, 5, 18147600, 6,
     15116400, 5, 16333200, 6, 18140400, 5, 9075600, 6, 21769200, 5, 10890000, 6, 20559600, 5,
     11494800, 6, 19954800, 5, 11494800, 6, 53218800, 5, 7866000, 6, 23583600, 5, 7866000, 6,
     23583600, 5, 7866000, 6, 20559600, 5, 13309200, 6, 18140400, 5, 13309200, 6, 18140400, 5,
     13309200, 6, 18140400, 5, 13914000, 6, 17535600, 5, 13309200, 6, 18745200, 5, 13309200, 6,
     18140400, 5, 13309200, 6, 18140400, 5, 13309200, 6, 18140400, 5, 13309200, 6, 18140400, 5,
     13309200, 6, 18745200, 5, 12704400, 6, 18745200, 5, 13309200, 6, 18140400, 5, 13309200, 6,
     18140400, 5, 13309200, 6, 18140400, 5, 13309200, 6, 18140400, 5, 13309200, 6, 18745200, 5,
     12704400, 6, 18745200, 5, 13309200, 6, 18140400, 5, 13309200, 6, 11661247, 6]⟩,
  ⟨"Pacific/Efate", "<+11>-11",
    [5, 80792, 0, 86400, 1, 79200, 0, 86400, 1, 79200, 0, 24, 3658775191, 4, 1954797196, 1, 8467200,
     2, 299379600, 3, 15721200, 4, 15728400, 3, 15721200, 4, 16333200, 3, 15116400, 4, 16333200, 3,
     15721200, 4, 15728400, 3, 15721200, 4, 15728400, 3, 15721200, 4, 15728400, 3, 15721200, 4,
     15728400, 3, 15721200, 4, 16333200, 3, 10278000, 4, 23590800, 3, 7858800, 4, 1419693247, 4]⟩,
  ⟨"Pacific/Fakaofo", "<+13>-13",
    [3, 82191, 0, 79199, 0, 93600, 0, 3, 4354823407, 1, 3502654504, 2, 822240847, 2]⟩,
  ⟨"Pacific/Fiji", "<+12>-12",
    [3, 85888, 0, 93600, 1, 86400, 0, 30, 3419970687, 2, 2619827744, 1, 10281600, 2, 21772800, 1,
     9676800, 2, 307843200, 1, 10281600, 2, 18144000, 1, 11491200, 2, 19958400, 1, 7862400, 2,
     23587200, 1, 7862400, 2, 24192000, 1, 7254000, 2, 24800400, 1, 6652800, 2, 24796800, 1,
     6652800, 2, 25401600, 1, 6048000, 2, 25401600, 1, 6048000, 2, 25401600, 1, 6048000, 2,
     26006400, 1, 5443200, 2, 29635200, 1, 2419200, 2, 536678047, 2]⟩,
  ⟨"Pacific/Funafuti", "<+12>-12",
    [2, 86024, 0, 86400, 0, 2, 4354991623, 1, 4324979459, 1]⟩,
  ⟨"Pacific/Galapagos", "<-06>6",
    [4, 43007, 0, 35999, 0, 35999, 1, 43199, 0, 5, 2461492991, 1, 1735686096, 3, 217990800, 2,
     5958000, 3, 1418595247, 3]⟩,
  ⟨"Pacific/Gambier", "<-09>9",
    [2, 64775, 0, 64799, 0, 2, 3613356023, 1, 3954161659, 1]⟩,
  ⟨"Pacific/Guadalcanal", "<+11>-11",
    [2, 76776, 0, 79200, 0, 2, 3613497575, 1, 3954232435, 1]⟩,
  ⟨"Pacific/Guam", "ChST-10",
    [6, 103319, 0, 69480, 0, 72000, 0, 64800, 0, 79200, 1, 72000, 0, 21, 7889253479, 1, 1767139200,
     2, 1291937940, 3, 83293200, 2, 470365200, 4, 50281200, 2, 207882000, 4, 44312460, 2, 12711540,
     4, 6044400, 2, 20566800, 4, 11487600, 2, 19962000, 4, 11487600, 2, 71974800, 4, 6044400, 2,
     71024400, 4, 7599660, 2, 21171540, 4, 10882800, 2, 735951600, 5]⟩,
  ⟨"Pacific/Honolulu", "HST10",
    [6, 75771, 0, 75599, 0, 68399, 1, 68399, 1, 68399, 1, 71999, 0, 7, 4668202627, 1, 1176818314, 2,
     1846800, 1, 275238000, 3, 110802600, 4, 4019400, 1, 53226000, 5]⟩,
  ⟨"Pacific/Kanton", "<+13>-13",
    [4, 0, 0, 86399, 0, 79199, 0, 93600, 0, 4, 2040940799, 1, 1328097600, 2, 481244400, 3,
     1358612047, 3]⟩,
  ⟨"Pacific/Kiritimati", "<+14>-14",
    [4, 75519, 0, 76799, 0, 71999, 0, 100800, 0, 4, 4354830079, 1, 2485037440, 2, 481245600, 3,
     1358615647, 3]⟩,
  ⟨"Pacific/Kosrae", "<+11>-11",
    [7, 94567, 0, 78232, 0, 79200, 0, 64800, 0, 72000, 0, 86400, 0, 79200, 0, 10, 7889262231, 1,
     1767139200, 2, 433813916, 3, 136864800, 2, 565394400, 4, 134010000, 3, 136774800, 2, 762645600,
     5, 923094000, 2, 1232378047, 2]⟩,
  ⟨"Pacific/Kwajalein", "<+12>-12",
    [6, 80320, 0, 79200, 0, 72000, 0, 64800, 0, 86399, 0, 86400, 0, 7, 4354985919, 1, 1136074160, 2,
     134010000, 3, 89946000, 1, 809474400, 4, 753922800, 5, 1401549247, 5]⟩,
  ⟨"Pacific/Majuro", "<+12>-12",
    [5, 82176, 0, 79200, 0, 64800, 0, 72000, 0, 86400, 0, 8, 4354987775, 1, 433815888, 2, 136864800,
     1, 565394400, 3, 134010000, 2, 89341200, 1, 810079200, 4, 2155472047, 4]⟩,
  ⟨"Pacific/Marquesas", "<-0930>9:30",
    [2, 66959, 0, 68399, 0, 2, 3613353839, 1, 3954160567, 1]⟩,
  ⟨"Pacific/Midway", "SST11",
    [4, 85135, 0, 79199, 0, 71999, 1, 79199, 0, 3, 4354820463, 1, 1748905832, 2, 7858800, 3]⟩,
  ⟨"Pacific/Nauru", "<+12>-12",
    [4, 80120, 0, 82800, 0, 64800, 0, 86400, 0, 5, 3090262519, 1, 682213060, 2, 95567400, 1,
     1054769400, 3, 1860065047, 3]⟩,
  ⟨"Pacific/Niue", "<-11>11",
    [3, 81559, 0, 81599, 0, 79199, 0, 3, 1086139239, 1, 369446420, 2, 2321106847, 2]⟩,
  ⟨"Pacific/Norfolk", "<+11>-11<+12>,M10.1.0,M4.1.0/3",
    [7, 80624, 0, 80640, 0, 82800, 0, 90000, 1, 82800, 0, 79200, 0, 86400, 1, 43, 4354986223, 1,
     1577836792, 2, 751686120, 3, 10886400, 4, 1280966400, 5, 126405000, 6, 15724800, 5, 15724800,
     6, 15724800, 5, 15724800, 6, 15724800, 5, 15724800, 6, 15724800, 5, 15724800, 6, 16329600, 5,
     15724800, 6, 15724800, 5, 15724800, 6, 15724800, 5, 15724800, 6, 15724800, 5, 15724800, 6,
     15724800, 5, 15724800, 6, 15724800, 5, 16329600, 6, 15724800, 5, 15724800, 6, 15724800, 5,
     15724800, 6, 15724800, 5, 15724800, 6, 15724800, 5, 15724800, 6, 15724800, 5, 15724800, 6,
     15724800, 5, 16329600, 6, 15724800, 5, 15724800, 6, 15724800, 5, 15724800, 6, 9288847, 6]⟩,
  ⟨"Pacific/Noumea", "<+11>-11",
    [5, 79896, 0, 86400, 1, 79200, 0, 86400, 1, 79200, 0, 8, 3658774295, 2, 2079389148, 1, 7340400,
     2, 24109200, 1, 7426800, 2, 560487600, 3, 7862400, 4, 1290255247, 4]⟩,
  ⟨"Pacific/Pago_Pago", "SST11",
    [3, 90864, 0, 81935, 0, 79199, 0, 2, 4890849263, 1, 583545600, 2]⟩,
  ⟨"Pacific/Palau", "<+09>-9",
    [3, 108247, 0, 64552, 0, 64800, 0, 3, 7889248551, 1, 1767139200, 2, 4324968723, 2]⟩,
  ⟨"Pacific/Pitcairn", "<-08>8",
    [3, 62439, 0, 61199, 0, 57599, 0, 3, 4354843159, 1, 3071087380, 2, 1253817847, 2]⟩,
  ⟨"Pacific/Pohnpei", "<+11>-11",
    [6, 96855, 0, 75944, 0, 79200, 0, 64800, 0, 72000, 0, 79200, 0, 8, 7889259943, 1, 1767139200, 2,
     433812772, 3, 136864800, 2, 565394400, 4, 134010000, 3, 136774800, 2, 2918117647, 2]⟩,
  ⟨"Pacific/Port_Moresby", "<+10>-10",
    [3, 70640, 0, 70624, 0, 72000, 0, 3, 5680352239, 1, 473385608, 2, 4514274159, 2]⟩,
  ⟨"Pacific/Rarotonga", "<-10>10",
    [5, 96112, 0, 76687, 0, 75599, 0, 71999, 0, 68399, 1, 29, 4419110511, 1, 1666483200, 2,
     822786656, 4, 9673200, 3, 20565000, 4, 10884600, 3, 20565000, 4, 10884600, 3, 20565000, 4,
     11489400, 3, 20565000, 4, 10884600, 3, 20565000, 4, 10884600, 3, 20565000, 4, 10884600, 3,
     20565000, 4, 10884600, 3, 20565000, 4, 10884600, 3, 20565000, 4, 11489400, 3, 20565000, 4,
     10884600, 3, 20565000, 4, 10884600, 3, 20565000, 4, 10884600, 3, 1479491047, 3]⟩,
  ⟨"Pacific/Saipan", "ChST-10",
    [6, 102839, 0, 69960, 0, 64800, 0, 79200, 1, 72000, 0, 72000, 0, 20, 7889253959, 1, 1767139200,
     2, 1373330580, 4, 472266000, 3, 50281200, 4, 207882000, 3, 44312460, 4, 12711540, 3, 6044400,
     4, 20566800, 3, 11487600, 4, 19962000, 3, 11487600, 4, 71974800, 3, 6044400, 4, 71024400, 3,
     7599660, 4, 21171540, 3, 10882800, 4, 735951600, 5]⟩,
  ⟨"Pacific/Tahiti", "<-10>10",
    [2, 71791, 0, 71999, 0, 2, 3613349007, 1, 3954158151, 1]⟩,
  ⟨"Pacific/Tarawa", "<+12>-12",
    [2, 83048, 0, 86400, 0, 2, 4354988647, 1, 4324977971, 1]⟩,
  ⟨"Pacific/Tongatapu", "<+13>-13",
    [6, 88704, 0, 88800, 0, 93600, 0, 100800, 1, 93600, 0, 100800, 1, 11, 1534379903, 1, 483148752,
     2, 1223256000, 3, 14169600, 4, 19958400, 5, 7254000, 2, 24195600, 5, 7254000, 2, 466304400, 5,
     6048000, 2, 663084847, 2]⟩,
  ⟨"Pacific/Wake", "<+12>-12",
    [2, 79976, 0, 86400, 0, 2, 4354985575, 1, 4324976435, 1]⟩,
  ⟨"Pacific/Wallis", "<+12>-12",
    [2, 88240, 0, 86400, 0, 2, 4354993839, 1, 4324980567, 1]⟩
]

end SalonBooking.Zone.Data
