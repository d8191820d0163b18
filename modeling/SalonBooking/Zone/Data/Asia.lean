import SalonBooking.Zone.Record

/-!
Compiled rules of the Asian zones of the time zone database: each record
holds the zone name, the rule string for instants after the last listed
transition, and the local time types and transitions as a list of numbers.
-/

namespace SalonBooking.Zone.Data

set_option maxRecDepth 20000 in
/-- The Asian zones, by name. -/
def asiaZones : List ZoneRecord := [
  ⟨"Asia/Aden", "<+03>-3",
    [2, 21588, 0, 21600, 0, 2, 1262325587, 1, 2778646441, 1]⟩,
  ⟨"Asia/Almaty", "<+05>-5",
    [9, 36936, 0, 36000, 0, 50400, 1, 43200, 0, 43200, 0, 50400, 1, 43200, 1, 36000, 0, 50400, 1,
     53, 2882340935, 1, 193622868, 3, 1602457200, 2, 15807600, 3, 15728400, 2, 15807600, 3,
     15728400, 2, 15807600, 3, 15814800, 2, 15732000, 4, 15724800, 5, 15724800, 4, 15724800, 5,
     15724800, 4, 15724800, 5, 15724800, 4, 15724800, 5, 15724800, 4, 15724800, 5, 15724800, 4,
     15724800, 5, 16329600, 4, 15724800, 6, 15728400, 7, 9676800, 4, 6044400, 5, 15724800, 4,
     15724800, 5, 15724800, 4, 15724800, 5, 15724800, 4, 15724800, 5, 15724800, 4, 16329600, 5,
     18144000, 4, 13305600, 5, 18144000, 4, 13305600, 5, 18144000, 4, 13305600, 5, 18748800, 4,
     12700800, 5, 18748800, 4, 12700800, 5, 18748800, 4, 13305600, 5, 18144000, 4, 13305600, 5,
     18144000, 4, 13305600, 5, 18748800, 4, 610063200, 1, 438254047, 1]⟩,
  ⟨"Asia/Amman", "<+03>-3",
    [6, 17248, 0, 21600, 1, 14400, 0, 14400, 0, 21600, 1, 21600, 0, 88, 2461553247, 2, 1338942224,
     1, 10105200, 2, 18320400, 1, 13215600, 2, 18320400, 1, 13215600, 2, 18406800, 1, 15894000, 2,
     15642000, 1, 13215600, 2, 18234000, 1, 13215600, 2, 205203600, 1, 15807600, 2, 15987600, 1,
     15721200, 2, 15728400, 1, 15721200, 2, 15728400, 1, 16326000, 2, 18406800, 1, 13042800, 2,
     17542800, 1, 13906800, 2, 16765200, 1, 14079600, 2, 16938000, 1, 15116400, 2, 15728400, 1,
     15721200, 2, 15728400, 1, 14511600, 2, 17542800, 1, 13910400, 3, 17539200, 1, 14515200, 3,
     16934400, 1, 14515200, 3, 16934400, 1, 14515200, 3, 24710400, 4, 7344000, 3, 16243200, 4,
     15811200, 3, 15638400, 4, 15811200, 3, 15724800, 1, 15724800, 3, 15724800, 1, 18144000, 3,
     13305600, 1, 17539200, 3, 14515200, 1, 15724800, 3, 15724800, 1, 18144000, 3, 13305600, 1,
     18144000, 3, 13305600, 1, 18748800, 3, 12700800, 1, 18748800, 3, 12700800, 1, 18748800, 3,
     13305600, 1, 18144000, 3, 13305600, 1, 54428400, 2, 8470800, 1, 18748800, 3, 12700800, 1,
     18748800, 3, 13305600, 1, 18144000, 3, 13305600, 1, 18144000, 3, 13305600, 1, 18144000, 3,
     13305600, 1, 18144000, 3, 13305600, 1, 18748800, 3, 12700800, 1, 18748800, 3, 10281600, 1,
     21168000, 5, 480575647, 5]⟩,
  ⟨"Asia/Anadyr", "<+12>-12",
    [10, 85192, 0, 86400, 0, 100800, 1, 93600, 0, 93600, 1, 86400, 0, 93600, 1, 86400, 1, 79200, 0,
     86400, 0, 65, 2882389191, 1, 193621796, 3, 1602457200, 2, 15807600, 3, 15728400, 4, 15811200,
     1, 15728400, 4, 15807600, 1, 15814800, 4, 15732000, 5, 15724800, 6, 15724800, 5, 15724800, 6,
     15724800, 5, 15724800, 6, 15724800, 5, 15724800, 6, 15724800, 5, 15724800, 6, 15724800, 5,
     15724800, 6, 16329600, 5, 15724800, 7, 15728400, 8, 9676800, 5, 6044400, 6, 15724800, 5,
     15724800, 6, 15724800, 5, 15724800, 6, 15724800, 5, 15724800, 6, 15724800, 5, 16329600, 6,
     18144000, 5, 13305600, 6, 18144000, 5, 13305600, 6, 18144000, 5, 13305600, 6, 18748800, 5,
     12700800, 6, 18748800, 5, 12700800, 6, 18748800, 5, 13305600, 6, 18144000, 5, 13305600, 6,
     18144000, 5, 13305600, 6, 18748800, 5, 12700800, 6, 18748800, 5, 12700800, 6, 18748800, 5,
     12700800, 6, 18748800, 5, 13305600, 6, 18144000, 5, 13305600, 6, 18144000, 5, 13305600, 7,
     18752400, 8, 12700800, 5, 846332047, 5]⟩,
  ⟨"Asia/Aqtau", "<+05>-5",
    [10, 24128, 0, 28800, 0, 36000, 0, 43200, 0, 43200, 1, 36000, 0, 43200, 1, 36000, 1, 28800, 0,
     36000, 0, 51, 2882328127, 1, 193620064, 2, 1618268400, 3, 15721200, 4, 15811200, 2, 15728400,
     4, 15807600, 2, 15814800, 4, 15732000, 5, 15724800, 6, 15724800, 5, 15724800, 6, 15724800, 5,
     15724800, 6, 15724800, 5, 15724800, 6, 15724800, 5, 15724800, 6, 15724800, 5, 15724800, 6,
     16329600, 5, 15724800, 7, 15728400, 8, 9676800, 5, 6044400, 6, 15724800, 5, 15724800, 6,
     15724800, 5, 15724800, 6, 15724800, 8, 15728400, 7, 15724800, 8, 16329600, 7, 18144000, 8,
     13305600, 7, 18144000, 8, 13305600, 7, 18144000, 8, 13305600, 7, 18748800, 8, 12700800, 7,
     18748800, 8, 12700800, 7, 18748800, 8, 13305600, 7, 18144000, 8, 13305600, 7, 18144000, 8,
     13305600, 7, 18748800, 5, 1048310047, 5]⟩,
  ⟨"Asia/Aqtobe", "<+05>-5",
    [11, 27440, 0, 28800, 0, 36000, 0, 43200, 1, 43200, 0, 36000, 0, 43200, 1, 36000, 1, 28800, 0,
     43200, 1, 36000, 0, 52, 2882331439, 1, 193621720, 2, 1602457200, 3, 15807600, 4, 15724800, 3,
     15811200, 2, 15728400, 3, 15807600, 2, 15814800, 3, 15732000, 5, 15724800, 6, 15724800, 5,
     15724800, 6, 15724800, 5, 15724800, 6, 15724800, 5, 15724800, 6, 15724800, 5, 15724800, 6,
     15724800, 5, 15724800, 6, 16329600, 5, 15724800, 7, 15728400, 8, 9676800, 5, 6044400, 6,
     15724800, 5, 15724800, 6, 15724800, 5, 15724800, 6, 15724800, 5, 15724800, 6, 15724800, 5,
     16329600, 6, 18144000, 5, 13305600, 6, 18144000, 5, 13305600, 6, 18144000, 5, 13305600, 6,
     18748800, 5, 12700800, 6, 18748800, 5, 12700800, 6, 18748800, 5, 13305600, 6, 18144000, 5,
     13305600, 6, 18144000, 5, 13305600, 6, 18748800, 5, 1048313647, 5]⟩,
  ⟨"Asia/Ashgabat", "<+05>-5",
    [9, 28024, 0, 28800, 0, 43200, 1, 36000, 0, 36000, 0, 43200, 1, 36000, 1, 28800, 0, 36000, 0,
     26, 2882332023, 1, 193622012, 3, 1602457200, 2, 15807600, 3, 15728400, 2, 15807600, 3,
     15728400, 2, 15807600, 3, 15814800, 2, 15732000, 4, 15724800, 5, 15724800, 4, 15724800, 5,
     15724800, 4, 15724800, 5, 15724800, 4, 15724800, 5, 15724800, 4, 15724800, 5, 15724800, 4,
     15724800, 5, 16329600, 4, 15724800, 6, 15728400, 7, 9676800, 3, 1451711647, 3]⟩,
  ⟨"Asia/Atyrau", "<+05>-5",
    [10, 24928, 0, 21600, 0, 36000, 0, 43200, 0, 43200, 1, 36000, 0, 43200, 1, 36000, 1, 28800, 0,
     36000, 0, 51, 2882328927, 1, 193624064, 2, 1618264800, 3, 15721200, 4, 15811200, 2, 15728400,
     4, 15807600, 2, 15814800, 4, 15732000, 5, 15724800, 6, 15724800, 5, 15724800, 6, 15724800, 5,
     15724800, 6, 15724800, 5, 15724800, 6, 15724800, 5, 15724800, 6, 15724800, 5, 15724800, 6,
     16329600, 5, 15724800, 7, 15728400, 8, 9676800, 5, 6044400, 6, 15724800, 5, 15724800, 6,
     15724800, 5, 15724800, 6, 15724800, 5, 15724800, 6, 15724800, 5, 16329600, 6, 18144000, 5,
     13305600, 6, 18144000, 5, 13305600, 6, 18144000, 5, 13305600, 7, 18752400, 8, 12700800, 7,
     18748800, 8, 12700800, 7, 18748800, 8, 13305600, 7, 18144000, 8, 13305600, 7, 18144000, 8,
     13305600, 7, 18748800, 5, 1048310047, 5]⟩,
  ⟨"Asia/Baghdad", "<+03>-3",
    [6, 21320, 0, 21312, 0, 21600, 0, 28800, 1, 21600, 0, 28800, 1, 55, 5049064519, 1, 883526404, 2,
     2030054256, 3, 13215600, 2, 15642000, 3, 15894000, 2, 15814800, 3, 15807600, 2, 15728400, 3,
     15642000, 4, 15724800, 5, 15724800, 4, 15724800, 5, 15724800, 4, 15724800, 5, 15724800, 4,
     15724800, 5, 15724800, 4, 15724800, 5, 16329600, 4, 15818400, 5, 15811200, 4, 15811200, 5,
     15811200, 4, 15724800, 5, 15811200, 4, 15724800, 5, 15811200, 4, 15724800, 5, 15811200, 4,
     15811200, 5, 15811200, 4, 15724800, 5, 15811200, 4, 15724800, 5, 15811200, 4, 15724800, 5,
     15811200, 4, 15811200, 5, 15811200, 4, 15724800, 5, 15811200, 4, 15724800, 5, 15811200, 4,
     15724800, 5, 15811200, 4, 15811200, 5, 15811200, 4, 15724800, 5, 15811200, 4, 15724800, 5,
     15811200, 4, 15724800, 5, 15811200, 4, 956286847, 4]⟩,
  ⟨"Asia/Bahrain", "<+03>-3",
    [4, 24280, 0, 25200, 0, 28800, 0, 21600, 0, 4, 1795761879, 1, 77327540, 2, 896743800, 3,
     2071293247, 3]⟩,
  ⟨"Asia/Baku", "<+04>-4",
    [10, 23928, 0, 21600, 0, 36000, 1, 28800, 0, 28800, 0, 36000, 1, 28800, 1, 21600, 0, 36000, 1,
     28800, 0, 67, 2882327927, 1, 1036023564, 3, 760057200, 2, 15807600, 3, 15728400, 2, 15807600,
     3, 15728400, 2, 15807600, 3, 15814800, 2, 15732000, 4, 15724800, 5, 15724800, 4, 15724800, 5,
     15724800, 4, 15724800, 5, 15724800, 4, 15724800, 5, 15724800, 4, 15724800, 5, 15724800, 4,
     15724800, 5, 16329600, 4, 15724800, 6, 15728400, 7, 15724800, 6, 15724800, 4, 110685600, 8,
     18144000, 9, 13302000, 2, 18144000, 3, 13305600, 2, 18144000, 3, 13305600, 2, 18748800, 3,
     12700800, 2, 18748800, 3, 12700800, 2, 18748800, 3, 13305600, 2, 18144000, 3, 13305600, 2,
     18144000, 3, 13305600, 2, 18748800, 3, 12700800, 2, 18748800, 3, 12700800, 2, 18748800, 3,
     12700800, 2, 18748800, 3, 13305600, 2, 18144000, 3, 13305600, 2, 18144000, 3, 13305600, 2,
     18748800, 3, 12700800, 2, 18748800, 3, 12700800, 2, 18748800, 3, 13305600, 2, 18144000, 3,
     13305600, 2, 18144000, 3, 13305600, 2, 18144000, 3, 701752447, 3]⟩,
  ⟨"Asia/Bangkok", "<+07>-7",
    [3, 48248, 0, 48248, 0, 50400, 0, 3, 5680329847, 1, 1270080000, 2, 3717568571, 2]⟩,
  ⟨"Asia/Barnaul", "<+07>-7",
    [10, 40200, 0, 43200, 0, 57600, 1, 50400, 0, 50400, 0, 57600, 1, 50400, 1, 43200, 0, 50400, 1,
     50400, 0, 68, 3159688199, 1, 332292900, 3, 1602457200, 2, 15807600, 3, 15728400, 2, 15807600,
     3, 15728400, 2, 15807600, 3, 15814800, 2, 15732000, 4, 15724800, 5, 15724800, 4, 15724800, 5,
     15724800, 4, 15724800, 5, 15724800, 4, 15724800, 5, 15724800, 4, 15724800, 5, 15724800, 4,
     15724800, 5, 16329600, 4, 15724800, 6, 15728400, 7, 9676800, 4, 6044400, 5, 15724800, 4,
     15724800, 5, 15724800, 4, 15724800, 5, 15724800, 4, 15724800, 5, 5432400, 8, 10296000, 7,
     16329600, 6, 18144000, 7, 13305600, 6, 18144000, 7, 13305600, 6, 18144000, 7, 13305600, 6,
     18748800, 7, 12700800, 6, 18748800, 7, 12700800, 6, 18748800, 7, 13305600, 6, 18144000, 7,
     13305600, 6, 18144000, 7, 13305600, 6, 18748800, 7, 12700800, 6, 18748800, 7, 12700800, 6,
     18748800, 7, 12700800, 6, 18748800, 7, 13305600, 6, 18144000, 7, 13305600, 6, 18144000, 7,
     13305600, 6, 18748800, 7, 12700800, 4, 113094000, 7, 44758800, 4, 688461247, 4]⟩,
  ⟨"Asia/Beirut", "EET-2EEST,M3.5.0/0,M10.5.0/0",
    [3, 17040, 0, 21600, 1, 14400, 0, 141, 5680298639, 2, 1269735720, 1, 18226800, 2, 13827600, 1,
     15807600, 2, 15037200, 1, 16930800, 2, 16938000, 1, 12697200, 2, 1061082000, 1, 13215600, 2,
     18320400, 1, 13215600, 2, 18320400, 1, 13215600, 2, 18406800, 1, 13215600, 2, 18320400, 1,
     13215600, 2, 338432400, 1, 8722800, 2, 18320400, 1, 13215600, 2, 18320400, 1, 13215600, 2,
     18320400, 1, 13215600, 2, 18406800, 1, 13215600, 2, 18320400, 1, 13215600, 2, 18234000, 1,
     13215600, 2, 176259600, 1, 14511600, 2, 17024400, 1, 14511600, 2, 17024400, 1, 14511600, 2,
     17024400, 1, 14511600, 2, 19789200, 1, 11833200, 2, 17802000, 1, 13734000, 2, 17024400, 1,
     14511600, 2, 17024400, 1, 14511600, 2, 17110800, 1, 13474800, 2, 15123600, 1, 15721200, 2,
     15728400, 1, 15721200, 2, 15728400, 1, 15721200, 2, 16333200, 1, 15721200, 2, 15728400, 1,
     15721200, 2, 15728400, 1, 15721200, 2, 15728400, 1, 18745200, 2, 12704400, 1, 18745200, 2,
     12704400, 1, 18745200, 2, 13309200, 1, 18140400, 2, 13309200, 1, 18140400, 2, 13309200, 1,
     18745200, 2, 12704400, 1, 18745200, 2, 12704400, 1, 18745200, 2, 12704400, 1, 18745200, 2,
     13309200, 1, 18140400, 2, 13309200, 1, 18140400, 2, 13309200, 1, 18745200, 2, 12704400, 1,
     18745200, 2, 12704400, 1, 18745200, 2, 13309200, 1, 18140400, 2, 13309200, 1, 18140400, 2,
     13309200, 1, 18140400, 2, 13309200, 1, 18745200, 2, 12704400, 1, 18745200, 2, 12704400, 1,
     18745200, 2, 13309200, 1, 18140400, 2, 13309200, 1, 18140400, 2, 13309200, 1, 18745200, 2,
     12704400, 1, 18745200, 2, 12704400, 1, 18745200, 2, 13309200, 1, 18140400, 2, 13309200, 1,
     18140400, 2, 13309200, 1, 18140400, 2, 13309200, 1, 18745200, 2, 12704400, 1, 18745200, 2,
     12704400, 1, 18745200, 2, 13309200, 1, 18140400, 2, 13309200, 1, 18140400, 2, 13309200, 1,
     18745200, 2, 12704400, 1, 18745200, 2, 12704400, 1, 18745200, 2, 12704400, 1, 18745200, 2,
     13309200, 1, 18140400, 2, 13309200, 1, 18140400, 2]⟩,
  ⟨"Asia/Bishkek", "<+06>-6",
    [8, 35808, 0, 36000, 0, 50400, 1, 43200, 0, 43200, 0, 50400, 1, 43200, 1, 43200, 1, 53,
     2882339807, 1, 193622304, 3, 1602457200, 2, 15807600, 3, 15728400, 2, 15807600, 3, 15728400, 2,
     15807600, 3, 15814800, 2, 15732000, 4, 15724800, 5, 15724800, 4, 15724800, 5, 15724800, 4,
     15724800, 5, 15724800, 4, 15724800, 5, 15724800, 4, 15724800, 5, 15724800, 4, 15724800, 5,
     16329600, 4, 15724800, 6, 13219200, 1, 19436400, 6, 14511600, 1, 16938000, 6, 14511600, 1,
     16938000, 6, 14511600, 1, 16938000, 6, 14511600, 1, 16938000, 6, 15116400, 1, 15737400, 7,
     18140400, 1, 13309200, 7, 18140400, 1, 13309200, 7, 18745200, 1, 12704400, 7, 18745200, 1,
     12704400, 7, 18745200, 1, 13309200, 7, 18140400, 1, 13309200, 7, 18140400, 1, 13309200, 7,
     18745200, 1, 12704400, 7, 11910600, 3, 1023700447, 3]⟩,
  ⟨"Asia/Brunei", "<+08>-8",
    [3, 55160, 0, 54000, 0, 57600, 0, 3, 2766928759, 1, 215827780, 2, 3315120247, 2]⟩,
  ⟨"Asia/Chita", "<+09>-9",
    [11, 54464, 0, 57600, 0, 72000, 1, 64800, 0, 64800, 0, 72000, 1, 64800, 1, 57600, 0, 72000, 0,
     72000, 1, 64800, 0, 67, 3158838463, 1, 331860832, 3, 1602457200, 2, 15807600, 3, 15728400, 2,
     15807600, 3, 15728400, 2, 15807600, 3, 15814800, 2, 15732000, 4, 15724800, 5, 15724800, 4,
     15724800, 5, 15724800, 4, 15724800, 5, 15724800, 4, 15724800, 5, 15724800, 4, 15724800, 5,
     15724800, 4, 15724800, 5, 16329600, 4, 15724800, 6, 15728400, 7, 9676800, 4, 6044400, 5,
     15724800, 4, 15724800, 5, 15724800, 4, 15724800, 5, 15724800, 4, 15724800, 5, 15724800, 4,
     16329600, 5, 18144000, 4, 13305600, 5, 18144000, 4, 13305600, 5, 18144000, 4, 13305600, 5,
     18748800, 4, 12700800, 5, 18748800, 4, 12700800, 5, 18748800, 4, 13305600, 5, 18144000, 4,
     13305600, 5, 18144000, 4, 13305600, 5, 18748800, 4, 12700800, 5, 18748800, 4, 12700800, 5,
     18748800, 4, 12700800, 5, 18748800, 4, 13305600, 5, 18144000, 4, 13305600, 5, 18144000, 4,
     13305600, 5, 18748800, 4, 12700800, 8, 113094000, 7, 44762400, 3, 688468447, 3]⟩,
  ⟨"Asia/Colombo", "<+0530>-5:30",
    [8, 38328, 0, 38344, 0, 39600, 0, 43200, 1, 46800, 1, 46800, 0, 43200, 0, 39600, 0, 9,
     5680319927, 1, 820454392, 2, 1136418572, 3, 20647800, 4, 98587800, 2, 1597014000, 5, 13303800,
     6, 298773000, 2, 1002444247, 2]⟩,
  ⟨"Asia/Damascus", "<+03>-3",
    [4, 17424, 0, 21600, 1, 14400, 0, 21600, 0, 122, 3155863823, 2, 9339912, 1, 14511600, 2,
     16938000, 1, 14511600, 2, 16938000, 1, 14511600, 2, 16938000, 1, 15116400, 2, 1216861200, 1,
     13388400, 2, 18320400, 1, 13129200, 2, 18493200, 1, 13215600, 2, 18320400, 1, 13129200, 2,
     17802000, 1, 13820400, 2, 18320400, 1, 13215600, 2, 18406800, 1, 13215600, 2, 18320400, 1,
     13215600, 2, 18320400, 1, 13215600, 2, 18320400, 1, 13215600, 2, 18406800, 1, 13215600, 2,
     18320400, 1, 13215600, 2, 18320400, 1, 13215600, 2, 18320400, 1, 13215600, 2, 18406800, 1,
     13215600, 2, 18320400, 1, 10623600, 2, 20912400, 1, 10623600, 2, 145242000, 1, 15116400, 2,
     16506000, 1, 15116400, 2, 43462800, 1, 20300400, 2, 12358800, 1, 21078000, 2, 11754000, 1,
     19868400, 2, 13050000, 1, 15894000, 2, 15728400, 1, 15721200, 2, 15807600, 1, 15807600, 2,
     16419600, 1, 15202800, 2, 15210000, 1, 15807600, 2, 16246800, 1, 15807600, 2, 15728400, 1,
     15807600, 2, 15814800, 1, 15807600, 2, 15642000, 1, 15894000, 2, 15555600, 1, 15980400, 2,
     15728400, 1, 15807600, 2, 15814800, 1, 15807600, 2, 15728400, 1, 15807600, 2, 15728400, 1,
     15807600, 2, 15728400, 1, 15807600, 2, 15814800, 1, 15807600, 2, 15728400, 1, 15807600, 2,
     15728400, 1, 15030000, 2, 16333200, 1, 18745200, 2, 13309200, 1, 18226800, 2, 12618000, 1,
     18745200, 2, 13309200, 1, 18140400, 2, 13309200, 1, 18140400, 2, 13309200, 1, 18140400, 2,
     13309200, 1, 18140400, 2, 13309200, 1, 18745200, 2, 12704400, 1, 18745200, 2, 12704400, 1,
     18745200, 2, 13309200, 1, 18140400, 2, 13309200, 1, 18140400, 2, 13309200, 1, 18140400, 2,
     13309200, 1, 18745200, 2, 12704400, 1, 18745200, 2, 12704400, 1, 18745200, 3, 480579247, 3]⟩,
  ⟨"Asia/Dhaka", "<+06>-6",
    [6, 43400, 0, 42400, 0, 46800, 0, 39600, 0, 43200, 0, 50400, 1, 8, 5049086599, 1, 1632960500, 2,
     19524200, 3, 9421200, 2, 286498800, 4, 1821569400, 5, 16848000, 4, 885204847, 4]⟩,
  ⟨"Asia/Dili", "<+09>-9",
    [5, 60280, 0, 57600, 0, 64800, 0, 57600, 0, 64800, 0, 5, 3660825599, 1, 951260400, 2,
     1079049600, 3, 769222800, 2, 1178363647, 2]⟩,
  ⟨"Asia/Dubai", "<+04>-4",
    [2, 26544, 0, 28800, 0, 2, 3155872943, 1, 3725420119, 1]⟩,
  ⟨"Asia/Dushanbe", "<+05>-5",
    [8, 33024, 0, 36000, 0, 50400, 1, 43200, 0, 43200, 0, 50400, 1, 43200, 1, 36000, 0, 25,
     2882337023, 1, 193620912, 3, 1602457200, 2, 15807600, 3, 15728400, 2, 15807600, 3, 15728400, 2,
     15807600, 3, 15814800, 2, 15732000, 4, 15724800, 5, 15724800, 4, 15724800, 5, 15724800, 4,
     15724800, 5, 15724800, 4, 15724800, 5, 15724800, 4, 15724800, 5, 15724800, 4, 15724800, 5,
     16329600, 4, 15724800, 6, 14000400, 7, 1463120047, 7]⟩,
  ⟨"Asia/Famagusta", "EET-2EEST,M3.5.0/3,M10.5.0/4",
    [7, 16296, 0, 21600, 1, 14400, 0, 14400, 0, 21600, 1, 21600, 0, 14400, 0, 126, 3037840295, 2,
     1685492148, 1, 15721200, 2, 18666000, 1, 12870000, 2, 15037200, 1, 15116400, 2, 16333200, 1,
     15807600, 2, 15642000, 1, 15721200, 2, 16333200, 1, 15116400, 2, 15728400, 1, 15721200, 2,
     15728400, 1, 15721200, 2, 15728400, 1, 15721200, 2, 15728400, 1, 16326000, 2, 15728400, 1,
     15721200, 2, 15728400, 1, 15721200, 2, 15728400, 1, 15721200, 2, 15728400, 1, 15721200, 2,
     15728400, 1, 15721200, 2, 15728400, 1, 16326000, 2, 15728400, 1, 15721200, 2, 15728400, 1,
     15721200, 2, 15728400, 1, 15721200, 2, 15728400, 1, 15721200, 2, 15728400, 1, 15721200, 2,
     16333200, 1, 15721200, 2, 15728400, 1, 15721200, 2, 15728400, 1, 18154800, 3, 13305600, 4,
     18748800, 3, 12700800, 4, 18748800, 3, 12700800, 4, 18748800, 3, 13305600, 4, 18144000, 3,
     13305600, 4, 18144000, 3, 13305600, 4, 18748800, 3, 12700800, 4, 18748800, 3, 12700800, 4,
     18748800, 3, 12700800, 4, 18748800, 3, 13305600, 4, 18144000, 3, 13305600, 4, 18144000, 3,
     13305600, 4, 18748800, 3, 12700800, 4, 18748800, 3, 12700800, 4, 18748800, 3, 13305600, 4,
     18144000, 3, 13305600, 4, 18144000, 3, 13305600, 4, 18144000, 3, 13305600, 4, 14241600, 5,
     35956800, 3, 12700800, 4, 18748800, 3, 13305600, 4, 18144000, 3, 13305600, 4, 18144000, 3,
     13305600, 4, 18748800, 3, 12700800, 4, 18748800, 3, 12700800, 4, 18748800, 3, 13305600, 4,
     18144000, 3, 13305600, 4, 18144000, 3, 13305600, 4, 18144000, 3, 13305600, 4, 18748800, 3,
     12700800, 4, 18748800, 3, 12700800, 4, 18748800, 3, 13305600, 4, 18144000, 3, 13305600, 4,
     18144000, 3, 13305600, 4, 18748800, 3, 12700800, 4, 18748800, 3, 12700800, 4, 18748800, 3,
     12700800, 4, 18748800, 3, 13305600, 4, 18144000, 3, 13305600, 4, 18144000, 3]⟩,
  ⟨"Asia/Gaza", "EET-2EEST,M3.4.4/50,M10.4.4/50",
    [10, 16544, 0, 21600, 1, 14400, 0, 14400, 0, 21600, 1, 21600, 1, 14400, 0, 21600, 1, 14400, 0,
     14400, 0, 308, 4370819743, 3, 1251771472, 1, 10540800, 2, 4060800, 1, 61689600, 2, 13046400, 1,
     18489600, 2, 13132800, 1, 18489600, 2, 14342400, 1, 17193600, 2, 14342400, 1, 17193600, 2,
     332028000, 4, 12438000, 3, 18320400, 4, 13215600, 3, 18324000, 4, 13136400, 3, 18486000, 4,
     13136400, 3, 18399600, 4, 13136400, 3, 18399600, 4, 13136400, 3, 18399600, 4, 13136400, 3,
     18486000, 4, 13136400, 3, 18399600, 4, 13136400, 3, 18399600, 4, 13222800, 3, 18313200, 4,
     3016800, 6, 223693200, 5, 8463600, 6, 16333200, 5, 11487600, 6, 155437200, 7, 3628800, 8,
     114912000, 7, 9676800, 8, 19958400, 5, 12092400, 6, 22381200, 5, 9673200, 6, 19011600, 5,
     13042800, 6, 18147600, 5, 12697200, 6, 20566800, 5, 10882800, 6, 17542800, 5, 13302000, 6,
     18147600, 5, 13906800, 6, 18147600, 5, 13906800, 6, 17974800, 5, 13474800, 6, 17974800, 5,
     12870000, 6, 18579600, 5, 13474800, 6, 10371600, 3, 8208000, 4, 14515200, 9, 16934400, 4,
     14515200, 9, 16934400, 4, 14515200, 9, 18144000, 4, 15721200, 3, 16333200, 4, 15721200, 3,
     15728400, 4, 15721200, 3, 15728400, 4, 15721200, 3, 15728400, 4, 15721200, 3, 15728400, 4,
     14515200, 3, 16934400, 4, 14864400, 3, 15462000, 4, 15030000, 3, 16506000, 4, 14259600, 3,
     17017200, 4, 13302000, 3, 18147600, 4, 13910400, 3, 17625660, 4, 11833140, 3, 20134860, 4,
     10537140, 3, 20912400, 4, 15120000, 3, 16329600, 4, 15721200, 3, 15728400, 4, 18140400, 3,
     13395600, 4, 18057600, 3, 13395600, 4, 18745200, 3, 12704400, 4, 18745200, 3, 12704400, 4,
     18745200, 3, 13219200, 4, 18226800, 3, 13309200, 4, 18144000, 3, 13305600, 4, 18662400, 3,
     12873600, 4, 18666000, 3, 15728400, 4, 15721200, 3, 15123600, 4, 16326000, 3, 14518800, 4,
     16930800, 3, 13309200, 4, 18140400, 3, 13309200, 4, 18745200, 3, 12704400, 4, 18745200, 3,
     12704400, 4, 18745200, 3, 13309200, 4, 18140400, 3, 13309200, 4, 18140400, 3, 13309200, 4,
     18745200, 3, 12704400, 4, 18745200, 3, 12704400, 4, 18745200, 3, 12704400, 4, 18745200, 3,
     13309200, 4, 17535600, 3, 13914000, 4, 16930800, 3, 14518800, 4, 15721200, 3, 15728400, 4,
     15116400, 3, 16333200, 4, 13906800, 3, 4237200, 4, 601200, 3, 13309200, 4, 12697200, 3,
     3632400, 4, 1810800, 3, 13309200, 4, 12092400, 3, 3632400, 4, 2415600, 3, 13309200, 4,
     10882800, 3, 4237200, 4, 3020400, 3, 13309200, 4, 10278000, 3, 3632400, 4, 4834800, 3,
     12704400, 4, 9673200, 3, 3632400, 4, 5439600, 3, 12704400, 4, 8463600, 3, 4237200, 4, 6044400,
     3, 13309200, 4, 7254000, 3, 3632400, 4, 7254000, 3, 13309200, 4, 6044400, 3, 4237200, 4,
     7858800, 3, 13309200, 4, 5439600, 3, 3632400, 4, 9673200, 3, 12704400, 4, 4834800, 3, 3632400,
     4, 10278000, 3, 12704400, 4, 3625200, 3, 4237200, 4, 10882800, 3, 13309200, 4, 2415600, 3,
     3632400, 4, 12092400, 3, 13309200, 4, 1206000, 3, 4237200, 4, 12697200, 3, 13309200, 4, 601200,
     3, 4237200, 4, 13302000, 3, 16938000, 4, 15116400, 3, 15728400, 4, 15721200, 3, 14518800, 4,
     16930800, 3, 13914000, 4, 17535600, 3, 13309200, 4, 18140400, 3, 13309200, 4, 18745200, 3,
     12704400, 4, 18745200, 3, 12704400, 4, 18745200, 3, 12704400, 4, 18745200, 3, 13309200, 4,
     18140400, 3, 13309200, 4, 18140400, 3, 13309200, 4, 18745200, 3, 12704400, 4, 18745200, 3,
     12704400, 4, 18140400, 3, 13914000, 4, 16930800, 3, 14518800, 4, 16326000, 3, 15123600, 4,
     15116400, 3, 16333200, 4, 14511600, 3, 3632400, 4, 601200, 3, 12704400, 4, 13906800, 3,
     3632400, 4, 1206000, 3, 12704400, 4, 12697200, 3, 4237200, 4, 1810800, 3, 13309200, 4,
     11487600, 3, 3632400, 4, 3020400, 3, 13309200, 4, 10278000, 3, 4237200, 4, 3625200, 3,
     13309200, 4, 9673200, 3, 4237200, 4, 4834800, 3, 12704400, 4, 9068400, 3, 3632400, 4, 6044400,
     3, 12704400, 4, 7858800, 3, 4237200, 4, 6649200, 3, 13309200, 4, 6649200, 3, 3632400, 4,
     7858800, 3, 13309200, 4, 6044400, 3, 3632400, 4, 8463600, 3, 13309200, 4, 4834800, 3, 4237200,
     4, 9068400, 3, 13309200, 4, 4230000, 3, 3632400, 4, 10882800, 3, 12704400, 4, 3020400, 3,
     4237200, 4, 11487600, 3, 12704400, 4, 2415600, 3, 4237200, 4, 12092400, 3, 13309200, 4,
     1206000, 3, 3632400, 4, 13302000, 3]⟩,
  ⟨"Asia/Hebron", "EET-2EEST,M3.4.4/50,M10.4.4/50",
    [10, 16846, 0, 21600, 1, 14400, 0, 14400, 0, 21600, 1, 21600, 1, 14400, 0, 21600, 1, 14400, 0,
     14400, 0, 310, 4370820045, 3, 1251771623, 1, 10540800, 2, 4060800, 1, 61689600, 2, 13046400, 1,
     18489600, 2, 13132800, 1, 18489600, 2, 14342400, 1, 17193600, 2, 14342400, 1, 17193600, 2,
     332028000, 4, 12438000, 3, 18320400, 4, 13215600, 3, 18324000, 4, 13136400, 3, 18486000, 4,
     13136400, 3, 18399600, 4, 13136400, 3, 18399600, 4, 13136400, 3, 18399600, 4, 13136400, 3,
     18486000, 4, 13136400, 3, 18399600, 4, 13136400, 3, 18399600, 4, 13222800, 3, 18313200, 4,
     3016800, 6, 223693200, 5, 8463600, 6, 16333200, 5, 11487600, 6, 155437200, 7, 3628800, 8,
     114912000, 7, 9676800, 8, 19958400, 5, 12092400, 6, 22381200, 5, 9673200, 6, 19011600, 5,
     13042800, 6, 18147600, 5, 12697200, 6, 20566800, 5, 10882800, 6, 17542800, 5, 13302000, 6,
     18147600, 5, 13906800, 6, 18147600, 5, 13906800, 6, 17974800, 5, 13474800, 6, 17974800, 5,
     12870000, 6, 18579600, 5, 13474800, 6, 10371600, 3, 8208000, 4, 14515200, 9, 16934400, 4,
     14515200, 9, 16934400, 4, 14515200, 9, 18144000, 4, 15721200, 3, 16333200, 4, 15721200, 3,
     15728400, 4, 15721200, 3, 15728400, 4, 15721200, 3, 15728400, 4, 15721200, 3, 15728400, 4,
     14515200, 3, 16934400, 4, 14864400, 3, 15462000, 4, 15030000, 3, 16506000, 4, 14259600, 3,
     17017200, 4, 13561200, 3, 17888400, 4, 13910400, 3, 17539200, 4, 11919600, 3, 20134860, 4,
     10537140, 3, 2509200, 4, 2674800, 3, 15728400, 4, 15120000, 3, 16329600, 4, 15721200, 3,
     15728400, 4, 18140400, 3, 13395600, 4, 18057600, 3, 13395600, 4, 18745200, 3, 12704400, 4,
     18745200, 3, 12704400, 4, 18745200, 3, 13219200, 4, 18226800, 3, 13309200, 4, 18144000, 3,
     13305600, 4, 18662400, 3, 12873600, 4, 18666000, 3, 15728400, 4, 15721200, 3, 15123600, 4,
     16326000, 3, 14518800, 4, 16930800, 3, 13309200, 4, 18140400, 3, 13309200, 4, 18745200, 3,
     12704400, 4, 18745200, 3, 12704400, 4, 18745200, 3, 13309200, 4, 18140400, 3, 13309200, 4,
     18140400, 3, 13309200, 4, 18745200, 3, 12704400, 4, 18745200, 3, 12704400, 4, 18745200, 3,
     12704400, 4, 18745200, 3, 13309200, 4, 17535600, 3, 13914000, 4, 16930800, 3, 14518800, 4,
     15721200, 3, 15728400, 4, 15116400, 3, 16333200, 4, 13906800, 3, 4237200, 4, 601200, 3,
     13309200, 4, 12697200, 3, 3632400, 4, 1810800, 3, 13309200, 4, 12092400, 3, 3632400, 4,
     2415600, 3, 13309200, 4, 10882800, 3, 4237200, 4, 3020400, 3, 13309200, 4, 10278000, 3,
     3632400, 4, 4834800, 3, 12704400, 4, 9673200, 3, 3632400, 4, 5439600, 3, 12704400, 4, 8463600,
     3, 4237200, 4, 6044400, 3, 13309200, 4, 7254000, 3, 3632400, 4, 7254000, 3, 13309200, 4,
     6044400, 3, 4237200, 4, 7858800, 3, 13309200, 4, 5439600, 3, 3632400, 4, 9673200, 3, 12704400,
     4, 4834800, 3, 3632400, 4, 10278000, 3, 12704400, 4, 3625200, 3, 4237200, 4, 10882800, 3,
     13309200, 4, 2415600, 3, 3632400, 4, 12092400, 3, 13309200, 4, 1206000, 3, 4237200, 4,
     12697200, 3, 13309200, 4, 601200, 3, 4237200, 4, 13302000, 3, 16938000, 4, 15116400, 3,
     15728400, 4, 15721200, 3, 14518800, 4, 16930800, 3, 13914000, 4, 17535600, 3, 13309200, 4,
     18140400, 3, 13309200, 4, 18745200, 3, 12704400, 4, 18745200, 3, 12704400, 4, 18745200, 3,
     12704400, 4, 18745200, 3, 13309200, 4, 18140400, 3, 13309200, 4, 18140400, 3, 13309200, 4,
     18745200, 3, 12704400, 4, 18745200, 3, 12704400, 4, 18140400, 3, 13914000, 4, 16930800, 3,
     14518800, 4, 16326000, 3, 15123600, 4, 15116400, 3, 16333200, 4, 14511600, 3, 3632400, 4,
     601200, 3, 12704400, 4, 13906800, 3, 3632400, 4, 1206000, 3, 12704400, 4, 12697200, 3, 4237200,
     4, 1810800, 3, 13309200, 4, 11487600, 3, 3632400, 4, 3020400, 3, 13309200, 4, 10278000, 3,
     4237200, 4, 3625200, 3, 13309200, 4, 9673200, 3, 4237200, 4, 4834800, 3, 12704400, 4, 9068400,
     3, 3632400, 4, 6044400, 3, 12704400, 4, 7858800, 3, 4237200, 4, 6649200, 3, 13309200, 4,
     6649200, 3, 3632400, 4, 7858800, 3, 13309200, 4, 6044400, 3, 3632400, 4, 8463600, 3, 13309200,
     4, 4834800, 3, 4237200, 4, 9068400, 3, 13309200, 4, 4230000, 3, 3632400, 4, 10882800, 3,
     12704400, 4, 3020400, 3, 4237200, 4, 11487600, 3, 12704400, 4, 2415600, 3, 4237200, 4,
     12092400, 3, 13309200, 4, 1206000, 3, 3632400, 4, 13302000, 3]⟩,
  ⟨"Asia/Ho_Chi_Minh", "<+07>-7",
    [6, 51180, 0, 51180, 0, 50400, 0, 57600, 0, 64800, 0, 50400, 0, 10, 4008147179, 1, 152496000, 2,
     999471990, 3, 69462000, 4, 14774400, 2, 49773600, 3, 260323200, 2, 142124400, 3, 487468800, 2,
     1975662847, 2]⟩,
  ⟨"Asia/Hong_Kong", "HKT-8",
    [8, 54804, 0, 57600, 0, 64800, 1, 61200, 1, 64800, 0, 57600, 0, 64800, 1, 57600, 0, 69,
     4113381599, 1, 1155780000, 2, 9331200, 3, 7331400, 4, 123039000, 7, 13302000, 2, 19366200, 5,
     11491200, 6, 19958400, 5, 13305600, 6, 15724800, 5, 13305600, 2, 18144000, 5, 13305600, 2,
     18144000, 5, 13305600, 2, 18144000, 5, 13910400, 2, 18144000, 5, 13305600, 2, 18140400, 7,
     12099600, 2, 19350000, 7, 12099600, 2, 19954800, 7, 11494800, 2, 19954800, 7, 12099600, 2,
     19350000, 7, 12099600, 2, 19350000, 7, 12099600, 2, 19350000, 7, 12099600, 2, 19954800, 7,
     11494800, 2, 19954800, 7, 11494800, 2, 19954800, 7, 12099600, 2, 19350000, 7, 12099600, 2,
     19350000, 7, 14518800, 2, 15721200, 7, 15728400, 2, 15721200, 7, 15728400, 2, 16326000, 7,
     15728400, 2, 15721200, 7, 15728400, 2, 15721200, 7, 15728400, 2, 15721200, 7, 15728400, 2,
     15721200, 7, 15728400, 2, 16326000, 7, 15728400, 2, 15721200, 7, 6051600, 2, 25398000, 7,
     15728400, 2, 15721200, 7, 15728400, 2, 15721200, 7, 81046800, 2, 13906800, 7]⟩,
  ⟨"Asia/Hovd", "<+07>-7",
    [4, 43992, 0, 43200, 0, 57600, 1, 50400, 0, 51, 4065855191, 1, 2285366796, 3, 165538800, 2,
     15807600, 3, 15814800, 2, 15721200, 3, 15728400, 2, 15721200, 3, 15728400, 2, 15721200, 3,
     15728400, 2, 15721200, 3, 15728400, 2, 15721200, 3, 15728400, 2, 15721200, 3, 15728400, 2,
     16326000, 3, 15728400, 2, 15721200, 3, 15728400, 2, 15721200, 3, 15728400, 2, 15721200, 3,
     15728400, 2, 15721200, 3, 15728400, 2, 15721200, 3, 16333200, 2, 15721200, 3, 15728400, 2,
     15721200, 3, 15728400, 2, 15721200, 3, 81572400, 2, 13302000, 3, 15728400, 2, 15721200, 3,
     15728400, 2, 15721200, 3, 15728400, 2, 15721200, 3, 15728400, 2, 15721200, 3, 15728400, 2,
     16326000, 3, 267930000, 2, 15714000, 3, 15735600, 2, 15714000, 3, 672837247, 3]⟩,
  ⟨"Asia/Irkutsk", "<+08>-8",
    [12, 50050, 0, 50050, 0, 50400, 0, 64800, 1, 57600, 0, 57600, 0, 64800, 1, 57600, 1, 50400, 0,
     64800, 0, 64800, 1, 57600, 0, 67, 5680331649, 1, 1264291200, 2, 328319825, 4, 1602457200, 3,
     15807600, 4, 15728400, 3, 15807600, 4, 15728400, 3, 15807600, 4, 15814800, 3, 15732000, 5,
     15724800, 6, 15724800, 5, 15724800, 6, 15724800, 5, 15724800, 6, 15724800, 5, 15724800, 6,
     15724800, 5, 15724800, 6, 15724800, 5, 15724800, 6, 16329600, 5, 15724800, 7, 15728400, 8,
     9676800, 5, 6044400, 6, 15724800, 5, 15724800, 6, 15724800, 5, 15724800, 6, 15724800, 5,
     15724800, 6, 15724800, 5, 16329600, 6, 18144000, 5, 13305600, 6, 18144000, 5, 13305600, 6,
     18144000, 5, 13305600, 6, 18748800, 5, 12700800, 6, 18748800, 5, 12700800, 6, 18748800, 5,
     13305600, 6, 18144000, 5, 13305600, 6, 18144000, 5, 13305600, 6, 18748800, 5, 12700800, 6,
     18748800, 5, 12700800, 6, 18748800, 5, 12700800, 6, 18748800, 5, 13305600, 6, 18144000, 5,
     13305600, 6, 18144000, 5, 13305600, 6, 18748800, 5, 12700800, 9, 113094000, 5, 733227247, 5]⟩,
  ⟨"Asia/Jakarta", "WIB-7",
    [7, 51264, 0, 51264, 0, 52800, 0, 54000, 0, 64800, 0, 57600, 0, 50400, 0, 8, 6462598463, 1,
     1779580032, 2, 278812800, 3, 296265000, 4, 110586600, 3, 82171800, 5, 63070200, 3, 431397000,
     6]⟩,
  ⟨"Asia/Jayapura", "WIT-9",
    [4, 67536, 0, 64800, 0, 68400, 0, 64800, 0, 3, 2345827535, 1, 373422168, 2, 610068600, 3]⟩,
  ⟨"Asia/Jerusalem", "IST-2IDT,M3.4.4/26,M10.5.0",
    [9, 16908, 0, 16880, 0, 21600, 1, 14400, 0, 28800, 1, 21600, 1, 14400, 0, 21600, 1, 14400, 0,
     149, 5680298507, 1, 1199145614, 6, 707365240, 2, 10540800, 3, 4060800, 2, 61689600, 3,
     13046400, 2, 18489600, 3, 13132800, 2, 18489600, 3, 14342400, 2, 17193600, 3, 14342400, 2,
     17193600, 3, 49161600, 4, 8726400, 2, 5270400, 3, 15638400, 2, 15897600, 3, 14342400, 2,
     13132800, 3, 17107200, 2, 19353600, 3, 13910400, 2, 15724800, 3, 15120000, 2, 13305600, 3,
     23587200, 2, 7862400, 3, 23587200, 2, 7862400, 3, 22982400, 2, 10281600, 3, 18144000, 2,
     12700800, 3, 529797600, 5, 8463600, 6, 16333200, 5, 11487600, 6, 155437200, 7, 3628800, 8,
     114912000, 7, 9676800, 8, 19958400, 5, 12092400, 6, 22381200, 5, 9673200, 6, 19011600, 5,
     13042800, 6, 18147600, 5, 12697200, 6, 20566800, 5, 10882800, 6, 17542800, 5, 13302000, 6,
     18147600, 5, 13906800, 6, 18147600, 5, 13906800, 6, 17974800, 5, 13474800, 6, 17974800, 5,
     12870000, 6, 18579600, 5, 13474800, 6, 16765200, 5, 15980400, 6, 16074000, 5, 15289200, 6,
     16160400, 5, 14684400, 6, 17982000, 5, 13302000, 6, 19357200, 5, 15112800, 6, 15987600, 5,
     14511600, 6, 16074000, 5, 16585200, 6, 14864400, 5, 16326000, 6, 16160400, 5, 14511600, 6,
     16509600, 5, 16498800, 6, 14950800, 5, 15894000, 6, 15555600, 5, 14684400, 6, 16765200, 5,
     16498800, 6, 14950800, 5, 15894000, 6, 15555600, 5, 14684400, 6, 17370000, 5, 15894000, 6,
     15555600, 5, 15289200, 6, 16160400, 5, 18313200, 6, 13136400, 5, 18313200, 6, 13136400, 5,
     18313200, 6, 13136400, 5, 18918000, 6, 12531600, 5, 18918000, 6, 12531600, 5, 18918000, 6,
     13136400, 5, 18313200, 6, 13136400, 5, 18313200, 6, 13136400, 5, 18918000, 6, 12531600, 5,
     18918000, 6, 12531600, 5, 18918000, 6, 13136400, 5, 18313200, 6, 13136400, 5, 18313200, 6,
     13136400, 5, 18313200, 6, 13136400, 5, 18918000, 6, 12531600, 5, 18918000, 6, 12531600, 5,
     18918000, 6, 13136400, 5, 18313200, 6, 13136400, 5, 18313200, 6, 13136400, 5, 18918000, 6,
     12531600, 5, 18918000, 6, 12531600, 5, 18918000, 6, 12531600, 5, 18918000, 6, 13136400, 5,
     18313200, 6, 13136400, 5, 18313200, 6]⟩,
  ⟨"Asia/Kabul", "<+0430>-4:30",
    [3, 33216, 0, 28800, 0, 32400, 0, 3, 5049076415, 1, 1735605408, 2, 2936416447, 2]⟩,
  ⟨"Asia/Kamchatka", "<+12>-12",
    [9, 76152, 0, 79200, 0, 93600, 1, 86400, 0, 86400, 0, 93600, 1, 86400, 1, 79200, 0, 86400, 0,
     65, 2975519351, 1, 240190476, 3, 1602457200, 2, 15807600, 3, 15728400, 2, 15807600, 3,
     15728400, 2, 15807600, 3, 15814800, 2, 15732000, 4, 15724800, 5, 15724800, 4, 15724800, 5,
     15724800, 4, 15724800, 5, 15724800, 4, 15724800, 5, 15724800, 4, 15724800, 5, 15724800, 4,
     15724800, 5, 16329600, 4, 15724800, 6, 15728400, 7, 9676800, 4, 6044400, 5, 15724800, 4,
     15724800, 5, 15724800, 4, 15724800, 5, 15724800, 4, 15724800, 5, 15724800, 4, 16329600, 5,
     18144000, 4, 13305600, 5, 18144000, 4, 13305600, 5, 18144000, 4, 13305600, 5, 18748800, 4,
     12700800, 5, 18748800, 4, 12700800, 5, 18748800, 4, 13305600, 5, 18144000, 4, 13305600, 5,
     18144000, 4, 13305600, 5, 18748800, 4, 12700800, 5, 18748800, 4, 12700800, 5, 18748800, 4,
     12700800, 5, 18748800, 4, 13305600, 5, 18144000, 4, 13305600, 5, 18144000, 4, 13305600, 6,
     18752400, 7, 12700800, 4, 846332047, 4]⟩,
  ⟨"Asia/Karachi", "PKT-5",
    [6, 32184, 0, 39600, 0, 46800, 1, 36000, 0, 43200, 1, 36000, 0, 11, 3976332983, 1, 1125529092,
     2, 98492400, 1, 188010000, 3, 614910600, 5, 979344000, 4, 15721200, 5, 178419600, 4, 13215600,
     5, 14259600, 4, 17276400, 5]⟩,
  ⟨"Asia/Kathmandu", "<+0545>-5:45",
    [3, 40952, 0, 39600, 0, 41400, 0, 3, 3155887351, 1, 2082845476, 2, 1642581847, 2]⟩,
  ⟨"Asia/Khandyga", "<+09>-9",
    [13, 65066, 0, 57600, 0, 72000, 1, 64800, 0, 64800, 0, 72000, 1, 64800, 1, 57600, 0, 79200, 1,
     72000, 0, 72000, 0, 79200, 0, 64800, 0, 68, 3158849065, 1, 331866133, 3, 1602457200, 2,
     15807600, 3, 15728400, 2, 15807600, 3, 15728400, 2, 15807600, 3, 15814800, 2, 15732000, 4,
     15724800, 5, 15724800, 4, 15724800, 5, 15724800, 4, 15724800, 5, 15724800, 4, 15724800, 5,
     15724800, 4, 15724800, 5, 15724800, 4, 15724800, 5, 16329600, 4, 15724800, 6, 15728400, 7,
     9676800, 4, 6044400, 5, 15724800, 4, 15724800, 5, 15724800, 4, 15724800, 5, 15724800, 4,
     15724800, 5, 15724800, 4, 16329600, 5, 18144000, 4, 13305600, 5, 18144000, 4, 13305600, 5,
     18144000, 4, 13305600, 5, 18748800, 4, 12700800, 5, 18748800, 4, 12700800, 5, 18748800, 4,
     13305600, 5, 18144000, 4, 13305600, 5, 18144000, 4, 5781600, 10, 7520400, 8, 18748800, 9,
     12700800, 8, 18748800, 9, 12700800, 8, 18748800, 9, 12700800, 8, 18748800, 9, 13305600, 8,
     18144000, 9, 13305600, 8, 18144000, 9, 13305600, 8, 18748800, 9, 12700800, 11, 14677200, 9,
     98420400, 4, 733230847, 4]⟩,
  ⟨"Asia/Kolkata", "IST-5:30",
    [5, 42416, 0, 42400, 0, 38540, 0, 39600, 0, 46800, 1, 7, 7290474415, 1, 489542408, 2,
     1135989130, 3, 1128124270, 4, 19522800, 3, 9421200, 4, 98492400, 3]⟩,
  ⟨"Asia/Krasnoyarsk", "<+07>-7",
    [11, 44572, 0, 43200, 0, 57600, 1, 50400, 0, 50400, 0, 57600, 1, 50400, 1, 43200, 0, 57600, 0,
     57600, 1, 50400, 0, 66, 3155026971, 1, 329962286, 3, 1602457200, 2, 15807600, 3, 15728400, 2,
     15807600, 3, 15728400, 2, 15807600, 3, 15814800, 2, 15732000, 4, 15724800, 5, 15724800, 4,
     15724800, 5, 15724800, 4, 15724800, 5, 15724800, 4, 15724800, 5, 15724800, 4, 15724800, 5,
     15724800, 4, 15724800, 5, 16329600, 4, 15724800, 6, 15728400, 7, 9676800, 4, 6044400, 5,
     15724800, 4, 15724800, 5, 15724800, 4, 15724800, 5, 15724800, 4, 15724800, 5, 15724800, 4,
     16329600, 5, 18144000, 4, 13305600, 5, 18144000, 4, 13305600, 5, 18144000, 4, 13305600, 5,
     18748800, 4, 12700800, 5, 18748800, 4, 12700800, 5, 18748800, 4, 13305600, 5, 18144000, 4,
     13305600, 5, 18144000, 4, 13305600, 5, 18748800, 4, 12700800, 5, 18748800, 4, 12700800, 5,
     18748800, 4, 12700800, 5, 18748800, 4, 13305600, 5, 18144000, 4, 13305600, 5, 18144000, 4,
     13305600, 5, 18748800, 4, 12700800, 8, 113094000, 4, 733223647, 4]⟩,
  ⟨"Asia/Kuala_Lumpur", "<+08>-8",
    [8, 48812, 0, 49850, 0, 50400, 0, 52800, 1, 52800, 0, 54000, 0, 64800, 0, 57600, 0, 9,
     4354954411, 1, 139276281, 2, 870566125, 3, 94606800, 4, 178848000, 5, 14514600, 6, 112660200,
     5, 1145667600, 7, 1768821247, 7]⟩,
  ⟨"Asia/Kuching", "<+08>-8",
    [6, 52960, 0, 54000, 0, 60000, 1, 57600, 0, 64800, 0, 57600, 0, 19, 2766926559, 1, 215826680, 3,
     85188600, 2, 7861200, 3, 23761200, 2, 7861200, 3, 23674800, 2, 7861200, 3, 23674800, 2,
     7861200, 3, 23674800, 2, 7861200, 3, 23761200, 2, 7861200, 3, 23674800, 2, 7861200, 3, 5530800,
     4, 112662000, 3, 2914488847, 3]⟩,
  ⟨"Asia/Kuwait", "<+03>-3",
    [2, 23032, 0, 21600, 0, 2, 1262327031, 1, 2778647163, 1]⟩,
  ⟨"Asia/Macau", "CST-8",
    [7, 54500, 0, 57600, 0, 72000, 1, 64800, 0, 64800, 1, 57600, 0, 64800, 1, 71, 4113385699, 1,
     1172183650, 3, 11228400, 2, 17362800, 3, 14173200, 2, 13215600, 3, 63165600, 1, 18316800, 4,
     13219200, 5, 17366400, 4, 19440000, 5, 13305600, 4, 15724800, 5, 13219200, 4, 18144000, 5,
     13305600, 4, 18144000, 5, 13305600, 4, 18230400, 5, 13824000, 4, 18144000, 5, 13305600, 4,
     18144000, 5, 12096000, 4, 19353600, 5, 12096000, 4, 19958400, 5, 11491200, 4, 19971000, 1,
     12099600, 6, 19350000, 1, 12099600, 6, 19350000, 1, 12099600, 6, 19350000, 1, 12099600, 6,
     19954800, 1, 11494800, 6, 19954800, 1, 11494800, 6, 19954800, 1, 12099600, 6, 19350000, 1,
     12099600, 6, 19350000, 1, 14518800, 6, 15717600, 1, 15732000, 6, 15717600, 1, 15732000, 6,
     16326000, 1, 15728400, 6, 15721200, 1, 15728400, 6, 15721200, 1, 15728400, 6, 15721200, 1,
     15728400, 6, 15721200, 1, 15728400, 6, 16326000, 1, 15728400, 6, 15721200, 1, 6051600, 6,
     25398000, 1, 15728400, 6, 15721200, 1, 15728400, 6, 15721200, 1, 81046800, 6, 13906800, 1]⟩,
  ⟨"Asia/Magadan", "<+11>-11",
    [11, 72384, 0, 72000, 0, 86400, 1, 79200, 0, 79200, 0, 86400, 1, 79200, 1, 72000, 0, 86400, 0,
     86400, 1, 79200, 0, 67, 2882376383, 1, 193622592, 3, 1602457200, 2, 15807600, 3, 15728400, 2,
     15807600, 3, 15728400, 2, 15807600, 3, 15814800, 2, 15732000, 4, 15724800, 5, 15724800, 4,
     15724800, 5, 15724800, 4, 15724800, 5, 15724800, 4, 15724800, 5, 15724800, 4, 15724800, 5,
     15724800, 4, 15724800, 5, 16329600, 4, 15724800, 6, 15728400, 7, 9676800, 4, 6044400, 5,
     15724800, 4, 15724800, 5, 15724800, 4, 15724800, 5, 15724800, 4, 15724800, 5, 15724800, 4,
     16329600, 5, 18144000, 4, 13305600, 5, 18144000, 4, 13305600, 5, 18144000, 4, 13305600, 5,
     18748800, 4, 12700800, 5, 18748800, 4, 12700800, 5, 18748800, 4, 13305600, 5, 18144000, 4,
     13305600, 5, 18144000, 4, 13305600, 5, 18748800, 4, 12700800, 5, 18748800, 4, 12700800, 5,
     18748800, 4, 12700800, 5, 18748800, 4, 13305600, 5, 18144000, 4, 13305600, 5, 18144000, 4,
     13305600, 5, 18748800, 4, 12700800, 8, 113094000, 7, 47181600, 4, 686056447, 4]⟩,
  ⟨"Asia/Makassar", "WITA-8",
    [5, 57312, 0, 57312, 0, 57600, 0, 64800, 0, 57600, 0, 4, 3155903711, 1, 405043200, 2, 292636656,
     3, 114217200, 4]⟩,
  ⟨"Asia/Manila", "PST-8",
    [7, 114735, 0, 58064, 0, 64800, 1, 57600, 0, 57600, 0, 64800, 0, 57600, 0, 14, 7889242063, 1,
     1725537832, 4, 1172404800, 2, 6562800, 3, 155091600, 2, 5007600, 5, 96422400, 2, 23500800, 3,
     263869200, 2, 4662000, 3, 719888400, 2, 15375600, 3, 399517200, 2, 5958000, 3]⟩,
  ⟨"Asia/Muscat", "<+04>-4",
    [2, 28128, 0, 28800, 0, 2, 3155874527, 1, 3725420911, 1]⟩,
  ⟨"Asia/Nicosia", "EET-2EEST,M3.5.0/3,M10.5.0/4",
    [5, 16016, 0, 21600, 1, 14400, 0, 14400, 0, 21600, 1, 127, 3037840015, 2, 1685492008, 1,
     15721200, 2, 18666000, 1, 12870000, 2, 15037200, 1, 15116400, 2, 16333200, 1, 15807600, 2,
     15642000, 1, 15721200, 2, 16333200, 1, 15116400, 2, 15728400, 1, 15721200, 2, 15728400, 1,
     15721200, 2, 15728400, 1, 15721200, 2, 15728400, 1, 16326000, 2, 15728400, 1, 15721200, 2,
     15728400, 1, 15721200, 2, 15728400, 1, 15721200, 2, 15728400, 1, 15721200, 2, 15728400, 1,
     15721200, 2, 15728400, 1, 16326000, 2, 15728400, 1, 15721200, 2, 15728400, 1, 15721200, 2,
     15728400, 1, 15721200, 2, 15728400, 1, 15721200, 2, 15728400, 1, 15721200, 2, 16333200, 1,
     15721200, 2, 15728400, 1, 15721200, 2, 15728400, 1, 18154800, 3, 13305600, 4, 18748800, 3,
     12700800, 4, 18748800, 3, 12700800, 4, 18748800, 3, 13305600, 4, 18144000, 3, 13305600, 4,
     18144000, 3, 13305600, 4, 18748800, 3, 12700800, 4, 18748800, 3, 12700800, 4, 18748800, 3,
     12700800, 4, 18748800, 3, 13305600, 4, 18144000, 3, 13305600, 4, 18144000, 3, 13305600, 4,
     18748800, 3, 12700800, 4, 18748800, 3, 12700800, 4, 18748800, 3, 13305600, 4, 18144000, 3,
     13305600, 4, 18144000, 3, 13305600, 4, 18144000, 3, 13305600, 4, 18748800, 3, 12700800, 4,
     18748800, 3, 12700800, 4, 18748800, 3, 13305600, 4, 18144000, 3, 13305600, 4, 18144000, 3,
     13305600, 4, 18748800, 3, 12700800, 4, 18748800, 3, 12700800, 4, 18748800, 3, 13305600, 4,
     18144000, 3, 13305600, 4, 18144000, 3, 13305600, 4, 18144000, 3, 13305600, 4, 18748800, 3,
     12700800, 4, 18748800, 3, 12700800, 4, 18748800, 3, 13305600, 4, 18144000, 3, 13305600, 4,
     18144000, 3, 13305600, 4, 18748800, 3, 12700800, 4, 18748800, 3, 12700800, 4, 18748800, 3,
     12700800, 4, 18748800, 3, 13305600, 4, 18144000, 3, 13305600, 4, 18144000, 3]⟩,
  ⟨"Asia/Novokuznetsk", "<+07>-7",
    [9, 41856, 0, 43200, 0, 57600, 1, 50400, 0, 50400, 0, 57600, 1, 50400, 1, 43200, 0, 50400, 0,
     65, 2882518655, 1, 193708128, 3, 1602457200, 2, 15807600, 3, 15728400, 2, 15807600, 3,
     15728400, 2, 15807600, 3, 15814800, 2, 15732000, 4, 15724800, 5, 15724800, 4, 15724800, 5,
     15724800, 4, 15724800, 5, 15724800, 4, 15724800, 5, 15724800, 4, 15724800, 5, 15724800, 4,
     15724800, 5, 16329600, 4, 15724800, 6, 15728400, 7, 9676800, 4, 6044400, 5, 15724800, 4,
     15724800, 5, 15724800, 4, 15724800, 5, 15724800, 4, 15724800, 5, 15724800, 4, 16329600, 5,
     18144000, 4, 13305600, 5, 18144000, 4, 13305600, 5, 18144000, 4, 13305600, 5, 18748800, 4,
     12700800, 5, 18748800, 4, 12700800, 5, 18748800, 4, 13305600, 5, 18144000, 4, 13305600, 5,
     18144000, 4, 13305600, 5, 18748800, 4, 12700800, 5, 18748800, 4, 12700800, 5, 18748800, 4,
     12700800, 5, 18748800, 4, 13305600, 5, 18144000, 4, 13305600, 5, 18144000, 4, 13305600, 6,
     18752400, 7, 12700800, 4, 846314047, 4]⟩,
  ⟨"Asia/Novosibirsk", "<+07>-7",
    [10, 39800, 0, 43200, 0, 57600, 1, 50400, 0, 50400, 0, 57600, 1, 50400, 1, 43200, 0, 50400, 1,
     50400, 0, 68, 3158953399, 1, 331925500, 3, 1602457200, 2, 15807600, 3, 15728400, 2, 15807600,
     3, 15728400, 2, 15807600, 3, 15814800, 2, 15732000, 4, 15724800, 5, 15724800, 4, 15724800, 5,
     15724800, 4, 15724800, 5, 15724800, 4, 15724800, 5, 15724800, 4, 15724800, 5, 15724800, 4,
     15724800, 5, 16329600, 4, 15724800, 6, 15728400, 7, 9676800, 4, 6044400, 5, 15724800, 4,
     15724800, 5, 4827600, 8, 10900800, 7, 15724800, 6, 15724800, 7, 15724800, 6, 15724800, 7,
     16329600, 6, 18144000, 7, 13305600, 6, 18144000, 7, 13305600, 6, 18144000, 7, 13305600, 6,
     18748800, 7, 12700800, 6, 18748800, 7, 12700800, 6, 18748800, 7, 13305600, 6, 18144000, 7,
     13305600, 6, 18144000, 7, 13305600, 6, 18748800, 7, 12700800, 6, 18748800, 7, 12700800, 6,
     18748800, 7, 12700800, 6, 18748800, 7, 13305600, 6, 18144000, 7, 13305600, 6, 18144000, 7,
     13305600, 6, 18748800, 7, 12700800, 4, 113094000, 7, 55040400, 4, 678179647, 4]⟩,
  ⟨"Asia/Omsk", "<+06>-6",
    [11, 35220, 0, 36000, 0, 50400, 1, 43200, 0, 43200, 0, 50400, 1, 43200, 1, 36000, 0, 50400, 0,
     50400, 1, 43200, 0, 66, 3164176019, 1, 334540410, 3, 1602457200, 2, 15807600, 3, 15728400, 2,
     15807600, 3, 15728400, 2, 15807600, 3, 15814800, 2, 15732000, 4, 15724800, 5, 15724800, 4,
     15724800, 5, 15724800, 4, 15724800, 5, 15724800, 4, 15724800, 5, 15724800, 4, 15724800, 5,
     15724800, 4, 15724800, 5, 16329600, 4, 15724800, 6, 15728400, 7, 9676800, 4, 6044400, 5,
     15724800, 4, 15724800, 5, 15724800, 4, 15724800, 5, 15724800, 4, 15724800, 5, 15724800, 4,
     16329600, 5, 18144000, 4, 13305600, 5, 18144000, 4, 13305600, 5, 18144000, 4, 13305600, 5,
     18748800, 4, 12700800, 5, 18748800, 4, 12700800, 5, 18748800, 4, 13305600, 5, 18144000, 4,
     13305600, 5, 18144000, 4, 13305600, 5, 18748800, 4, 12700800, 5, 18748800, 4, 12700800, 5,
     18748800, 4, 12700800, 5, 18748800, 4, 13305600, 5, 18144000, 4, 13305600, 5, 18144000, 4,
     13305600, 5, 18748800, 4, 12700800, 8, 113094000, 4, 733220047, 4]⟩,
  ⟨"Asia/Oral", "<+05>-5",
    [10, 24648, 0, 21600, 0, 36000, 0, 43200, 1, 43200, 0, 36000, 0, 43200, 1, 36000, 1, 28800, 0,
     36000, 0, 52, 2882328647, 1, 193623924, 2, 1602453600, 3, 15807600, 4, 15724800, 3, 15811200,
     2, 15728400, 3, 15807600, 2, 15814800, 3, 15732000, 5, 15724800, 6, 15724800, 5, 15724800, 6,
     15724800, 5, 15724800, 6, 15724800, 5, 15724800, 6, 15724800, 5, 15724800, 7, 15728400, 8,
     15724800, 7, 16329600, 8, 15724800, 7, 15724800, 8, 9676800, 5, 6044400, 7, 15728400, 8,
     15724800, 7, 15724800, 8, 15724800, 7, 15724800, 8, 15724800, 7, 15724800, 8, 16329600, 7,
     18144000, 8, 13305600, 7, 18144000, 8, 13305600, 7, 18144000, 8, 13305600, 7, 18748800, 8,
     12700800, 7, 18748800, 8, 12700800, 7, 18748800, 8, 13305600, 7, 18144000, 8, 13305600, 7,
     18144000, 8, 13305600, 7, 18748800, 5, 1048310047, 5]⟩,
  ⟨"Asia/Phnom_Penh", "<+07>-7",
    [6, 50360, 0, 51180, 0, 50400, 0, 57600, 0, 64800, 0, 50400, 0, 6, 4008146359, 1, 152495590, 2,
     999471990, 3, 69462000, 4, 14774400, 2, 2915352847, 2]⟩,
  ⟨"Asia/Pontianak", "WIB-7",
    [7, 52480, 0, 52480, 0, 54000, 0, 64800, 0, 57600, 0, 57600, 0, 50400, 0, 8, 3892372479, 1,
     773280000, 2, 291685640, 3, 115165800, 2, 82171800, 4, 63070200, 2, 431397000, 5, 757380600, 6]⟩,
  ⟨"Asia/Pyongyang", "KST-9",
    [4, 60360, 0, 61200, 0, 64800, 0, 64800, 0, 5, 3897564359, 1, 118367580, 2, 1061767800, 3,
     2208211200, 1, 85881600, 3]⟩,
  ⟨"Asia/Qatar", "<+03>-3",
    [3, 24736, 0, 28800, 0, 21600, 0, 3, 3155871135, 1, 1654125968, 2, 2071293247, 2]⟩,
  ⟨"Asia/Qostanay", "<+05>-5",
    [12, 30536, 0, 28800, 0, 36000, 0, 43200, 1, 43200, 0, 36000, 0, 43200, 1, 36000, 1, 28800, 0,
     43200, 0, 43200, 1, 36000, 0, 53, 2882334535, 1, 193623268, 2, 1602457200, 3, 15807600, 4,
     15724800, 3, 15811200, 2, 15728400, 3, 15807600, 2, 15814800, 3, 15732000, 5, 15724800, 6,
     15724800, 5, 15724800, 6, 15724800, 5, 15724800, 6, 15724800, 5, 15724800, 6, 15724800, 5,
     15724800, 6, 15724800, 5, 15724800, 6, 16329600, 5, 15724800, 7, 15728400, 8, 9676800, 5,
     6044400, 6, 15724800, 5, 15724800, 6, 15724800, 5, 15724800, 6, 15724800, 5, 15724800, 6,
     15724800, 5, 16329600, 6, 18144000, 5, 13305600, 6, 18144000, 5, 13305600, 6, 18144000, 5,
     13305600, 6, 18748800, 5, 12700800, 6, 18748800, 5, 12700800, 6, 18748800, 5, 13305600, 6,
     18144000, 5, 13305600, 6, 18144000, 5, 13305600, 6, 18748800, 9, 610059600, 2, 438254047, 2]⟩,
  ⟨"Asia/Qyzylorda", "<+05>-5",
    [11, 31424, 0, 28800, 0, 36000, 0, 43200, 1, 43200, 0, 36000, 0, 43200, 1, 36000, 1, 43200, 0,
     43200, 1, 36000, 0, 53, 2882335423, 1, 193623712, 2, 1602457200, 3, 15807600, 4, 15724800, 3,
     15811200, 2, 15728400, 3, 15807600, 2, 15814800, 3, 15732000, 5, 15724800, 6, 15724800, 5,
     15724800, 6, 15724800, 5, 15724800, 6, 15724800, 5, 15724800, 6, 15724800, 5, 15724800, 6,
     15724800, 5, 15724800, 6, 16329600, 5, 15724800, 7, 15728400, 5, 9673200, 8, 6044400, 6,
     15728400, 5, 15724800, 6, 15724800, 5, 15724800, 6, 15724800, 5, 15724800, 6, 15724800, 5,
     16329600, 6, 18144000, 5, 13305600, 6, 18144000, 5, 13305600, 6, 18144000, 5, 13305600, 6,
     18748800, 5, 12700800, 6, 18748800, 5, 12700800, 6, 18748800, 5, 13305600, 6, 18144000, 5,
     13305600, 6, 18144000, 5, 13305600, 6, 18748800, 8, 446158800, 2, 602154847, 2]⟩,
  ⟨"Asia/Riyadh", "<+03>-3",
    [2, 22424, 0, 21600, 0, 2, 1439273623, 1, 2867120459, 1]⟩,
  ⟨"Asia/Sakhalin", "<+11>-11",
    [9, 68496, 0, 64800, 0, 86400, 1, 79200, 0, 79200, 0, 86400, 1, 79200, 1, 72000, 0, 79200, 0,
     67, 4062078095, 1, 1262478648, 3, 1123452000, 2, 15807600, 3, 15728400, 2, 15807600, 3,
     15728400, 2, 15807600, 3, 15814800, 2, 15732000, 4, 15724800, 5, 15724800, 4, 15724800, 5,
     15724800, 4, 15724800, 5, 15724800, 4, 15724800, 5, 15724800, 4, 15724800, 5, 15724800, 4,
     15724800, 5, 16329600, 4, 15724800, 6, 15728400, 7, 9676800, 4, 6044400, 5, 15724800, 4,
     15724800, 5, 15724800, 4, 15724800, 5, 15724800, 4, 15724800, 5, 15724800, 4, 16329600, 5,
     18144000, 4, 13305600, 6, 18147600, 7, 13305600, 6, 18144000, 7, 13305600, 6, 18748800, 7,
     12700800, 6, 18748800, 7, 12700800, 6, 18748800, 7, 13305600, 6, 18144000, 7, 13305600, 6,
     18144000, 7, 13305600, 6, 18748800, 7, 12700800, 6, 18748800, 7, 12700800, 6, 18748800, 7,
     12700800, 6, 18748800, 7, 13305600, 6, 18144000, 7, 13305600, 6, 18144000, 7, 13305600, 6,
     18748800, 7, 12700800, 4, 113094000, 7, 44758800, 4, 688475647, 4]⟩,
  ⟨"Asia/Samarkand", "<+05>-5",
    [7, 32146, 0, 28800, 0, 36000, 0, 43200, 1, 43200, 0, 36000, 0, 43200, 1, 25, 2882336145, 1,
     193624073, 2, 1602457200, 3, 15807600, 4, 15724800, 3, 15811200, 2, 15728400, 3, 15807600, 2,
     15814800, 3, 15732000, 5, 15724800, 6, 15724800, 5, 15724800, 6, 15724800, 5, 15724800, 6,
     15724800, 5, 15724800, 6, 15724800, 5, 15724800, 6, 15724800, 5, 15724800, 6, 16329600, 5,
     15724800, 6, 15724800, 5, 1461392047, 5]⟩,
  ⟨"Asia/Seoul", "KST-9",
    [7, 60944, 0, 61200, 0, 64800, 0, 72000, 1, 64800, 0, 68400, 1, 72000, 1, 29, 3897564943, 1,
     118367872, 2, 1063063800, 4, 86140800, 3, 8982000, 4, 17456400, 3, 13906800, 4, 17456400, 3,
     13993200, 4, 20566800, 3, 10882800, 4, 79837200, 1, 35425800, 5, 10969200, 1, 21949200, 5,
     11487600, 1, 18752400, 5, 12092400, 1, 19357200, 5, 12092400, 1, 19357200, 5, 12092400, 1,
     19357200, 5, 12092400, 1, 28170000, 4, 812511000, 3, 13305600, 4, 18144000, 3, 13305600, 4]⟩,
  ⟨"Asia/Shanghai", "CST-8",
    [3, 58286, 0, 64800, 1, 57600, 0, 29, 4354963885, 2, 576806743, 1, 14770800, 2, 652237200, 1,
     11574000, 2, 13222800, 1, 20041200, 2, 7779600, 1, 113180400, 2, 22035600, 1, 12006000, 2,
     16938000, 1, 17276400, 2, 15728400, 1, 13215600, 2, 18320400, 1, 2329200, 2, 1165546800, 1,
     11487600, 2, 18147600, 1, 13302000, 2, 18752400, 1, 12697200, 2, 18752400, 1, 13302000, 2,
     18147600, 1, 13302000, 2, 18147600, 1, 13302000, 2]⟩,
  ⟨"Asia/Singapore", "<+08>-8",
    [8, 49850, 0, 49850, 0, 50400, 0, 52800, 1, 52800, 0, 54000, 0, 64800, 0, 57600, 0, 9,
     4354955449, 1, 139276800, 2, 870566125, 3, 94606800, 4, 178848000, 5, 14514600, 6, 112660200,
     5, 1145667600, 7, 1768821247, 7]⟩,
  ⟨"Asia/Srednekolymsk", "<+11>-11",
    [11, 73784, 0, 72000, 0, 86400, 1, 79200, 0, 79200, 0, 86400, 1, 79200, 1, 72000, 0, 86400, 0,
     86400, 1, 79200, 0, 66, 2882377783, 1, 193623292, 3, 1602457200, 2, 15807600, 3, 15728400, 2,
     15807600, 3, 15728400, 2, 15807600, 3, 15814800, 2, 15732000, 4, 15724800, 5, 15724800, 4,
     15724800, 5, 15724800, 4, 15724800, 5, 15724800, 4, 15724800, 5, 15724800, 4, 15724800, 5,
     15724800, 4, 15724800, 5, 16329600, 4, 15724800, 6, 15728400, 7, 9676800, 4, 6044400, 5,
     15724800, 4, 15724800, 5, 15724800, 4, 15724800, 5, 15724800, 4, 15724800, 5, 15724800, 4,
     16329600, 5, 18144000, 4, 13305600, 5, 18144000, 4, 13305600, 5, 18144000, 4, 13305600, 5,
     18748800, 4, 12700800, 5, 18748800, 4, 12700800, 5, 18748800, 4, 13305600, 5, 18144000, 4,
     13305600, 5, 18144000, 4, 13305600, 5, 18748800, 4, 12700800, 5, 18748800, 4, 12700800, 5,
     18748800, 4, 12700800, 5, 18748800, 4, 13305600, 5, 18144000, 4, 13305600, 5, 18144000, 4,
     13305600, 5, 18748800, 4, 12700800, 8, 113094000, 4, 733238047, 4]⟩,
  ⟨"Asia/Taipei", "CST-8",
    [5, 58320, 0, 57600, 0, 64800, 0, 64800, 1, 57600, 0, 41, 4670496719, 1, 1317427560, 2,
     251596800, 1, 20390400, 3, 12006000, 1, 16938000, 3, 17276400, 1, 15728400, 3, 13215600, 1,
     18320400, 3, 13215600, 1, 18320400, 3, 13215600, 1, 18320400, 3, 13215600, 1, 13136400, 3,
     21164400, 1, 13050000, 3, 18486000, 1, 13050000, 3, 18486000, 1, 13050000, 3, 15807600, 1,
     15814800, 3, 15807600, 1, 15728400, 3, 15807600, 1, 15728400, 3, 15807600, 1, 15728400, 3,
     15807600, 1, 21085200, 3, 10537200, 1, 20998800, 3, 10537200, 1, 394419600, 3, 15807600, 1,
     15728400, 3, 15807600, 1, 118285200, 3, 7945200, 1]⟩,
  ⟨"Asia/Tashkent", "<+05>-5",
    [8, 33262, 0, 36000, 0, 50400, 1, 43200, 0, 43200, 0, 50400, 1, 43200, 1, 36000, 0, 25,
     2882337261, 1, 193621031, 3, 1602457200, 2, 15807600, 3, 15728400, 2, 15807600, 3, 15728400, 2,
     15807600, 3, 15814800, 2, 15732000, 4, 15724800, 5, 15724800, 4, 15724800, 5, 15724800, 4,
     15724800, 5, 15724800, 4, 15724800, 5, 15724800, 4, 15724800, 5, 15724800, 4, 15724800, 5,
     16329600, 4, 15724800, 6, 15728400, 7, 1461392047, 7]⟩,
  ⟨"Asia/Tbilisi", "<+04>-4",
    [11, 21502, 0, 21502, 0, 21600, 0, 36000, 1, 28800, 0, 28800, 0, 36000, 1, 28800, 1, 21600, 0,
     28800, 1, 28800, 0, 53, 5680303101, 1, 1398988800, 2, 1036022351, 4, 760057200, 3, 15807600, 4,
     15728400, 3, 15807600, 4, 15728400, 3, 15807600, 4, 15814800, 3, 15732000, 5, 15724800, 6,
     15724800, 5, 15724800, 6, 15724800, 5, 15724800, 6, 15724800, 5, 15724800, 6, 15724800, 5,
     15724800, 6, 15724800, 5, 15724800, 6, 16329600, 5, 15724800, 7, 15728400, 8, 15717600, 9,
     15721200, 2, 15728400, 9, 15721200, 2, 15728400, 9, 15721200, 4, 15724800, 3, 15721200, 4,
     16333200, 3, 31446000, 3, 18144000, 4, 13309200, 3, 18140400, 4, 13309200, 3, 18745200, 4,
     12704400, 3, 18745200, 4, 12704400, 3, 18745200, 4, 13309200, 3, 18140400, 4, 13309200, 3,
     18140400, 4, 13309200, 3, 7858800, 9, 10900800, 8, 12700800, 4, 1035605647, 4]⟩,
  ⟨"Asia/Tehran", "<+0330>-3:30",
    [8, 24688, 0, 24688, 0, 32400, 1, 25200, 0, 36000, 1, 28800, 0, 32400, 1, 25200, 0, 72,
     3408331887, 1, 613699200, 3, 1318287344, 2, 18403200, 5, 13393800, 4, 11491200, 5, 8467200, 3,
     17022600, 2, 9932400, 3, 15901200, 2, 16066800, 3, 334717200, 2, 12265200, 3, 15728400, 2,
     15894000, 3, 15642000, 2, 15894000, 3, 15642000, 2, 15894000, 3, 15642000, 2, 15894000, 3,
     15642000, 2, 15894000, 3, 15728400, 2, 15894000, 3, 15642000, 2, 15894000, 3, 15642000, 2,
     15894000, 3, 15642000, 2, 15894000, 3, 15728400, 2, 15894000, 3, 15642000, 2, 15894000, 3,
     15642000, 2, 15894000, 3, 15642000, 2, 15894000, 3, 15728400, 2, 15894000, 3, 78714000, 2,
     15894000, 3, 15728400, 2, 15894000, 3, 15642000, 2, 15894000, 3, 15642000, 2, 15894000, 3,
     15642000, 2, 15894000, 3, 15728400, 2, 15894000, 3, 15642000, 2, 15894000, 3, 15642000, 2,
     15894000, 3, 15642000, 2, 15894000, 3, 15728400, 2, 15894000, 3, 15642000, 2, 15894000, 3,
     15642000, 2, 15894000, 3, 15642000, 2, 15894000, 3, 15728400, 2, 15894000, 3, 15642000, 2,
     15894000, 3, 483695047, 3]⟩,
  ⟨"Asia/Thimphu", "<+06>-6",
    [3, 43032, 0, 39600, 0, 43200, 0, 3, 1412683031, 1, 1266366516, 2, 1587458647, 2]⟩,
  ⟨"Asia/Tokyo", "JST-9",
    [4, 67078, 0, 72000, 1, 64800, 0, 64800, 0, 9, 5175424799, 3, 1903910400, 1, 11491200, 2,
     17539200, 1, 13910400, 2, 20563200, 1, 10886400, 2, 20563200, 1, 10886400, 2]⟩,
  ⟨"Asia/Tomsk", "<+07>-7",
    [10, 40782, 0, 43200, 0, 57600, 1, 50400, 0, 50400, 0, 57600, 1, 50400, 1, 43200, 0, 50400, 1,
     50400, 0, 68, 3157615181, 1, 331256391, 3, 1602457200, 2, 15807600, 3, 15728400, 2, 15807600,
     3, 15728400, 2, 15807600, 3, 15814800, 2, 15732000, 4, 15724800, 5, 15724800, 4, 15724800, 5,
     15724800, 4, 15724800, 5, 15724800, 4, 15724800, 5, 15724800, 4, 15724800, 5, 15724800, 4,
     15724800, 5, 16329600, 4, 15724800, 6, 15728400, 7, 9676800, 4, 6044400, 5, 15724800, 4,
     15724800, 5, 15724800, 4, 15724800, 5, 15724800, 4, 15724800, 5, 15724800, 4, 16329600, 5,
     18144000, 4, 13305600, 5, 18144000, 4, 13305600, 5, 18144000, 4, 13305600, 5, 18748800, 4,
     12700800, 5, 18748800, 4, 12700800, 5, 18748800, 4, 13305600, 5, 2678400, 8, 15469200, 7,
     13305600, 6, 18144000, 7, 13305600, 6, 18748800, 7, 12700800, 6, 18748800, 7, 12700800, 6,
     18748800, 7, 12700800, 6, 18748800, 7, 13305600, 6, 18144000, 7, 13305600, 6, 18144000, 7,
     13305600, 6, 18748800, 7, 12700800, 4, 113094000, 7, 50202000, 4, 683018047, 4]⟩,
  ⟨"Asia/Ulaanbaatar", "<+08>-8",
    [4, 51304, 0, 50400, 0, 64800, 1, 57600, 0, 51, 4065862503, 1, 2285366852, 3, 165538800, 2,
     15807600, 3, 15814800, 2, 15721200, 3, 15728400, 2, 15721200, 3, 15728400, 2, 15721200, 3,
     15728400, 2, 15721200, 3, 15728400, 2, 15721200, 3, 15728400, 2, 15721200, 3, 15728400, 2,
     16326000, 3, 15728400, 2, 15721200, 3, 15728400, 2, 15721200, 3, 15728400, 2, 15721200, 3,
     15728400, 2, 15721200, 3, 15728400, 2, 15721200, 3, 16333200, 2, 15721200, 3, 15728400, 2,
     15721200, 3, 15728400, 2, 15721200, 3, 81572400, 2, 13302000, 3, 15728400, 2, 15721200, 3,
     15728400, 2, 15721200, 3, 15728400, 2, 15721200, 3, 15728400, 2, 15721200, 3, 15728400, 2,
     16326000, 3, 267930000, 2, 15714000, 3, 15735600, 2, 15714000, 3, 672840847, 3]⟩,
  ⟨"Asia/Urumqi", "<+06>-6",
    [2, 42040, 0, 43200, 0, 2, 2650966839, 1, 3472967067, 1]⟩,
  ⟨"Asia/Ust-Nera", "<+10>-10",
    [12, 68748, 0, 57600, 0, 64800, 0, 79200, 0, 86400, 1, 79200, 0, 86400, 1, 79200, 1, 72000, 0,
     86400, 0, 86400, 1, 72000, 0, 67, 3158852747, 1, 331867974, 2, 1602457200, 4, 15800400, 3,
     15728400, 4, 15807600, 3, 15728400, 4, 15807600, 3, 15814800, 4, 15732000, 5, 15724800, 6,
     15724800, 5, 15724800, 6, 15724800, 5, 15724800, 6, 15724800, 5, 15724800, 6, 15724800, 5,
     15724800, 6, 15724800, 5, 15724800, 6, 16329600, 5, 15724800, 7, 15728400, 8, 9676800, 5,
     6044400, 6, 15724800, 5, 15724800, 6, 15724800, 5, 15724800, 6, 15724800, 5, 15724800, 6,
     15724800, 5, 16329600, 6, 18144000, 5, 13305600, 6, 18144000, 5, 13305600, 6, 18144000, 5,
     13305600, 6, 18748800, 5, 12700800, 6, 18748800, 5, 12700800, 6, 18748800, 5, 13305600, 6,
     18144000, 5, 13305600, 6, 18144000, 5, 13305600, 6, 18748800, 5, 12700800, 6, 18748800, 5,
     12700800, 6, 18748800, 5, 12700800, 6, 18748800, 5, 13305600, 6, 18144000, 5, 13305600, 6,
     18144000, 5, 13305600, 6, 18748800, 5, 12700800, 9, 14677200, 5, 98420400, 8, 733234447, 8]⟩,
  ⟨"Asia/Vientiane", "<+07>-7",
    [6, 49248, 0, 51180, 0, 50400, 0, 57600, 0, 64800, 0, 50400, 0, 8, 4008145247, 1, 152495034, 2,
     999471990, 3, 69462000, 4, 14774400, 2, 49773600, 3, 253666800, 2, 2611912447, 2]⟩,
  ⟨"Asia/Vladivostok", "<+10>-10",
    [11, 63302, 0, 64800, 0, 79200, 1, 72000, 0, 72000, 0, 79200, 1, 72000, 1, 64800, 0, 79200, 0,
     79200, 1, 72000, 0, 66, 2974642501, 1, 239759251, 3, 1602457200, 2, 15807600, 3, 15728400, 2,
     15807600, 3, 15728400, 2, 15807600, 3, 15814800, 2, 15732000, 4, 15724800, 5, 15724800, 4,
     15724800, 5, 15724800, 4, 15724800, 5, 15724800, 4, 15724800, 5, 15724800, 4, 15724800, 5,
     15724800, 4, 15724800, 5, 16329600, 4, 15724800, 6, 15728400, 7, 9676800, 4, 6044400, 5,
     15724800, 4, 15724800, 5, 15724800, 4, 15724800, 5, 15724800, 4, 15724800, 5, 15724800, 4,
     16329600, 5, 18144000, 4, 13305600, 5, 18144000, 4, 13305600, 5, 18144000, 4, 13305600, 5,
     18748800, 4, 12700800, 5, 18748800, 4, 12700800, 5, 18748800, 4, 13305600, 5, 18144000, 4,
     13305600, 5, 18144000, 4, 13305600, 5, 18748800, 4, 12700800, 5, 18748800, 4, 12700800, 5,
     18748800, 4, 12700800, 5, 18748800, 4, 13305600, 5, 18144000, 4, 13305600, 5, 18144000, 4,
     13305600, 5, 18748800, 4, 12700800, 8, 113094000, 4, 733234447, 4]⟩,
  ⟨"Asia/Yakutsk", "<+09>-9",
    [11, 62276, 0, 57600, 0, 72000, 1, 64800, 0, 64800, 0, 72000, 1, 64800, 1, 57600, 0, 72000, 0,
     72000, 1, 64800, 0, 66, 3158846275, 1, 331864738, 3, 1602457200, 2, 15807600, 3, 15728400, 2,
     15807600, 3, 15728400, 2, 15807600, 3, 15814800, 2, 15732000, 4, 15724800, 5, 15724800, 4,
     15724800, 5, 15724800, 4, 15724800, 5, 15724800, 4, 15724800, 5, 15724800, 4, 15724800, 5,
     15724800, 4, 15724800, 5, 16329600, 4, 15724800, 6, 15728400, 7, 9676800, 4, 6044400, 5,
     15724800, 4, 15724800, 5, 15724800, 4, 15724800, 5, 15724800, 4, 15724800, 5, 15724800, 4,
     16329600, 5, 18144000, 4, 13305600, 5, 18144000, 4, 13305600, 5, 18144000, 4, 13305600, 5,
     18748800, 4, 12700800, 5, 18748800, 4, 12700800, 5, 18748800, 4, 13305600, 5, 18144000, 4,
     13305600, 5, 18144000, 4, 13305600, 5, 18748800, 4, 12700800, 5, 18748800, 4, 12700800, 5,
     18748800, 4, 12700800, 5, 18748800, 4, 13305600, 5, 18144000, 4, 13305600, 5, 18144000, 4,
     13305600, 5, 18748800, 4, 12700800, 8, 113094000, 4, 733230847, 4]⟩,
  ⟨"Asia/Yangon", "<+0630>-6:30",
    [5, 46174, 0, 46174, 0, 46800, 0, 64800, 0, 46800, 0, 5, 5680327773, 1, 1262217600, 2,
     704678087, 3, 94858200, 2, 2925893647, 2]⟩,
  ⟨"Asia/Yekaterinburg", "<+05>-5",
    [12, 29106, 0, 27010, 0, 28800, 0, 43200, 1, 36000, 0, 36000, 0, 43200, 1, 36000, 1, 28800, 0,
     43200, 0, 43200, 1, 36000, 0, 67, 3376541105, 1, 95660248, 2, 345066305, 4, 1602457200, 3,
     15807600, 4, 15728400, 3, 15807600, 4, 15728400, 3, 15807600, 4, 15814800, 3, 15732000, 5,
     15724800, 6, 15724800, 5, 15724800, 6, 15724800, 5, 15724800, 6, 15724800, 5, 15724800, 6,
     15724800, 5, 15724800, 6, 15724800, 5, 15724800, 6, 16329600, 5, 15724800, 7, 15728400, 8,
     9676800, 5, 6044400, 6, 15724800, 5, 15724800, 6, 15724800, 5, 15724800, 6, 15724800, 5,
     15724800, 6, 15724800, 5, 16329600, 6, 18144000, 5, 13305600, 6, 18144000, 5, 13305600, 6,
     18144000, 5, 13305600, 6, 18748800, 5, 12700800, 6, 18748800, 5, 12700800, 6, 18748800, 5,
     13305600, 6, 18144000, 5, 13305600, 6, 18144000, 5, 13305600, 6, 18748800, 5, 12700800, 6,
     18748800, 5, 12700800, 6, 18748800, 5, 12700800, 6, 18748800, 5, 13305600, 6, 18144000, 5,
     13305600, 6, 18144000, 5, 13305600, 6, 18748800, 5, 12700800, 9, 113094000, 5, 733216447, 5]⟩,
  ⟨"Asia/Yerevan", "<+04>-4",
    [10, 21360, 0, 21600, 0, 36000, 1, 28800, 0, 28800, 0, 36000, 1, 28800, 1, 21600, 0, 36000, 1,
     28800, 0, 63, 2882325359, 1, 1036022280, 3, 760057200, 2, 15807600, 3, 15728400, 2, 15807600,
     3, 15728400, 2, 15807600, 3, 15814800, 2, 15732000, 4, 15724800, 5, 15724800, 4, 15724800, 5,
     15724800, 4, 15724800, 5, 15724800, 4, 15724800, 5, 15724800, 4, 15724800, 5, 15724800, 4,
     15724800, 5, 16329600, 4, 15724800, 6, 15728400, 7, 15724800, 6, 15724800, 7, 15724800, 6,
     15724800, 7, 15724800, 6, 15724800, 7, 15724800, 6, 15724800, 4, 47775600, 5, 18144000, 4,
     13305600, 5, 18144000, 4, 13305600, 5, 18748800, 4, 12700800, 5, 18748800, 4, 12700800, 5,
     18748800, 4, 13305600, 5, 18144000, 4, 13305600, 5, 18144000, 4, 13305600, 5, 18748800, 4,
     12700800, 5, 18748800, 4, 12700800, 5, 18748800, 4, 12700800, 5, 18748800, 4, 13305600, 5,
     18144000, 4, 13305600, 5, 18144000, 4, 13305600, 5, 18748800, 4, 12700800, 5, 18748800, 4,
     827558047, 4]⟩
]

end SalonBooking.Zone.Data
