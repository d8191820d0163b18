import SalonBooking.Zone.Record

/-!
Compiled rules of the European zones of the time zone database: each record
holds the zone name, the rule string for instants after the last listed
transition, and the local time types and transitions as a list of numbers.
-/

namespace SalonBooking.Zone.Data

set_option maxRecDepth 20000 in
/-- The European zones, by name. -/
def europeZones : List ZoneRecord := [
  ⟨"Europe/Amsterdam", "CET-1CEST,M3.5.0,M10.5.0/3",
    [13, 2344, 0, 9544, 1, 2344, 0, 9544, 1, 2344, 0, 2400, 0, 9600, 1, 9600, 1, 7200, 0, 14400, 1,
     14400, 1, 14400, 1, 7200, 0, 180, 8520424743, 2, 2566512000, 1, 13215600, 2, 17031600, 3,
     13305600, 4, 16934400, 3, 15724800, 4, 16329600, 3, 15120000, 4, 16329600, 3, 15120000, 4,
     16329600, 3, 15120000, 4, 15638400, 3, 16934400, 4, 20390400, 3, 11059200, 4, 15120000, 3,
     16329600, 4, 20995200, 3, 10454400, 4, 19267200, 3, 12182400, 4, 19353600, 3, 12096000, 4,
     19526400, 3, 12528000, 4, 19008000, 3, 12441600, 4, 19094400, 3, 12355200, 4, 19180800, 3,
     12268800, 4, 19958400, 3, 11491200, 4, 19440000, 3, 12614400, 4, 18921600, 3, 12528000, 4,
     19008000, 3, 12441600, 4, 19180800, 3, 12268800, 4, 19872000, 3, 3445200, 7, 8132372, 5,
     19353600, 6, 12096000, 5, 19440000, 6, 12614400, 5, 19087200, 10, 77764800, 8, 12700800, 9,
     16329600, 8, 15724800, 9, 15724800, 8, 15724800, 9, 14428800, 8, 995500800, 11, 15120000, 12,
     16329600, 11, 15724800, 12, 15724800, 11, 15724800, 12, 16329600, 11, 15120000, 12, 15724800,
     11, 15724800, 12, 15724800, 11, 15724800, 12, 15724800, 11, 15724800, 12, 15724800, 11,
     16329600, 12, 15724800, 11, 15724800, 12, 15724800, 11, 15724800, 12, 15724800, 11, 15724800,
     12, 15724800, 11, 15724800, 12, 15724800, 11, 15724800, 12, 15724800, 11, 16329600, 12,
     15724800, 11, 15724800, 12, 15724800, 11, 15724800, 12, 15724800, 11, 15724800, 12, 15724800,
     11, 15724800, 12, 15724800, 11, 15724800, 12, 16329600, 11, 18144000, 12, 13305600, 11,
     18144000, 12, 13305600, 11, 18144000, 12, 13305600, 11, 18748800, 12, 12700800, 11, 18748800,
     12, 12700800, 11, 18748800, 12, 13305600, 11, 18144000, 12, 13305600, 11, 18144000, 12,
     13305600, 11, 18748800, 12, 12700800, 11, 18748800, 12, 12700800, 11, 18748800, 12, 12700800,
     11, 18748800, 12, 13305600, 11, 18144000, 12, 13305600, 11, 18144000, 12, 13305600, 11,
     18748800, 12, 12700800, 11, 18748800, 12, 12700800, 11, 18748800, 12, 13305600, 11, 18144000,
     12, 13305600, 11, 18144000, 12, 13305600, 11, 18144000, 12, 13305600, 11, 18748800, 12,
     12700800, 11, 18748800, 12, 12700800, 11, 18748800, 12, 13305600, 11, 18144000, 12, 13305600,
     11, 18144000, 12, 13305600, 11, 18748800, 12, 12700800, 11, 18748800, 12, 12700800, 11,
     18748800, 12, 13305600, 11, 18144000, 12, 13305600, 11, 18144000, 12, 13305600, 11, 18144000,
     12, 13305600, 11, 18748800, 12, 12700800, 11, 18748800, 12, 12700800, 11, 18748800, 12,
     13305600, 11, 18144000, 12, 13305600, 11, 18144000, 12, 13305600, 11, 18748800, 12, 12700800,
     11, 18748800, 12, 12700800, 11, 18748800, 12, 12700800, 11, 18748800, 12, 13305600, 11,
     18144000, 12, 13305600, 11, 18144000, 12]⟩,
  ⟨"Europe/Andorra", "CET-1CEST,M3.5.0,M10.5.0/3",
    [5, 728, 0, 0, 0, 7200, 0, 14400, 1, 7200, 0, 108, 4354906327, 1, 1443571564, 2, 1214960400, 3,
     15724800, 4, 15724800, 3, 15724800, 4, 15724800, 3, 15724800, 4, 15724800, 3, 15724800, 4,
     15724800, 3, 15724800, 4, 15724800, 3, 16329600, 4, 15724800, 3, 15724800, 4, 15724800, 3,
     15724800, 4, 15724800, 3, 15724800, 4, 15724800, 3, 15724800, 4, 15724800, 3, 15724800, 4,
     16329600, 3, 18144000, 4, 13305600, 3, 18144000, 4, 13305600, 3, 18144000, 4, 13305600, 3,
     18748800, 4, 12700800, 3, 18748800, 4, 12700800, 3, 18748800, 4, 13305600, 3, 18144000, 4,
     13305600, 3, 18144000, 4, 13305600, 3, 18748800, 4, 12700800, 3, 18748800, 4, 12700800, 3,
     18748800, 4, 12700800, 3, 18748800, 4, 13305600, 3, 18144000, 4, 13305600, 3, 18144000, 4,
     13305600, 3, 18748800, 4, 12700800, 3, 18748800, 4, 12700800, 3, 18748800, 4, 13305600, 3,
     18144000, 4, 13305600, 3, 18144000, 4, 13305600, 3, 18144000, 4, 13305600, 3, 18748800, 4,
     12700800, 3, 18748800, 4, 12700800, 3, 18748800, 4, 13305600, 3, 18144000, 4, 13305600, 3,
     18144000, 4, 13305600, 3, 18748800, 4, 12700800, 3, 18748800, 4, 12700800, 3, 18748800, 4,
     13305600, 3, 18144000, 4, 13305600, 3, 18144000, 4, 13305600, 3, 18144000, 4, 13305600, 3,
     18748800, 4, 12700800, 3, 18748800, 4, 12700800, 3, 18748800, 4, 13305600, 3, 18144000, 4,
     13305600, 3, 18144000, 4, 13305600, 3, 18748800, 4, 12700800, 3, 18748800, 4, 12700800, 3,
     18748800, 4, 12700800, 3, 18748800, 4, 13305600, 3, 18144000, 4, 13305600, 3, 18144000, 4]⟩,
  ⟨"Europe/Astrakhan", "<+04>-4",
    [9, 23064, 0, 21600, 0, 36000, 1, 28800, 0, 28800, 0, 36000, 1, 28800, 1, 21600, 0, 28800, 0,
     65, 2882499863, 1, 193709532, 3, 1602457200, 2, 15807600, 3, 15728400, 2, 15807600, 3,
     15728400, 2, 15807600, 3, 15814800, 2, 15732000, 4, 15724800, 5, 15724800, 4, 15724800, 5,
     15724800, 4, 15724800, 5, 15724800, 4, 15724800, 5, 15724800, 4, 15724800, 6, 15728400, 7,
     15724800, 6, 16329600, 7, 15724800, 4, 31446000, 6, 15728400, 7, 15724800, 6, 15724800, 7,
     15724800, 6, 15724800, 7, 15724800, 6, 15724800, 7, 16329600, 6, 18144000, 7, 13305600, 6,
     18144000, 7, 13305600, 6, 18144000, 7, 13305600, 6, 18748800, 7, 12700800, 6, 18748800, 7,
     12700800, 6, 18748800, 7, 13305600, 6, 18144000, 7, 13305600, 6, 18144000, 7, 13305600, 6,
     18748800, 7, 12700800, 6, 18748800, 7, 12700800, 6, 18748800, 7, 12700800, 6, 18748800, 7,
     13305600, 6, 18144000, 7, 13305600, 6, 18144000, 7, 13305600, 6, 18748800, 7, 12700800, 4,
     113094000, 7, 44758800, 4, 688450447, 4]⟩,
  ⟨"Europe/Athens", "EET-2EEST,M3.5.0/3,M10.5.0/4",
    [10, 11384, 0, 11384, 0, 21600, 1, 14400, 0, 7200, 0, 14400, 1, 21600, 1, 14400, 0, 21600, 1,
     14400, 0, 138, 4689284983, 1, 658540860, 3, 503105632, 2, 4834800, 3, 271299600, 2, 1983600, 5,
     47620800, 4, 12780000, 5, 16239600, 4, 15814800, 3, 260060400, 2, 10710000, 3, 708138000, 6,
     19699200, 7, 11844000, 6, 15724800, 7, 15120000, 6, 15206400, 7, 16243200, 6, 15123600, 3,
     16351200, 2, 15609600, 3, 15980400, 2, 15548400, 3, 15739200, 8, 15724800, 9, 15724800, 8,
     15724800, 9, 15724800, 8, 15724800, 9, 15724800, 8, 16329600, 9, 15724800, 8, 15724800, 9,
     15724800, 8, 15724800, 9, 15724800, 8, 15724800, 9, 15724800, 8, 15724800, 9, 15724800, 8,
     15724800, 9, 15724800, 8, 16329600, 9, 15724800, 8, 15724800, 9, 15724800, 8, 15724800, 9,
     15724800, 8, 15724800, 9, 15724800, 8, 15724800, 9, 15724800, 8, 15724800, 9, 16329600, 8,
     18144000, 9, 13305600, 8, 18144000, 9, 13305600, 8, 18144000, 9, 13305600, 8, 18748800, 9,
     12700800, 8, 18748800, 9, 12700800, 8, 18748800, 9, 13305600, 8, 18144000, 9, 13305600, 8,
     18144000, 9, 13305600, 8, 18748800, 9, 12700800, 8, 18748800, 9, 12700800, 8, 18748800, 9,
     12700800, 8, 18748800, 9, 13305600, 8, 18144000, 9, 13305600, 8, 18144000, 9, 13305600, 8,
     18748800, 9, 12700800, 8, 18748800, 9, 12700800, 8, 18748800, 9, 13305600, 8, 18144000, 9,
     13305600, 8, 18144000, 9, 13305600, 8, 18144000, 9, 13305600, 8, 18748800, 9, 12700800, 8,
     18748800, 9, 12700800, 8, 18748800, 9, 13305600, 8, 18144000, 9, 13305600, 8, 18144000, 9,
     13305600, 8, 18748800, 9, 12700800, 8, 18748800, 9, 12700800, 8, 18748800, 9, 13305600, 8,
     18144000, 9, 13305600, 8, 18144000, 9, 13305600, 8, 18144000, 9, 13305600, 8, 18748800, 9,
     12700800, 8, 18748800, 9, 12700800, 8, 18748800, 9, 13305600, 8, 18144000, 9, 13305600, 8,
     18144000, 9, 13305600, 8, 18748800, 9, 12700800, 8, 18748800, 9, 12700800, 8, 18748800, 9,
     12700800, 8, 18748800, 9, 13305600, 8, 18144000, 9, 13305600, 8, 18144000, 9]⟩,
  ⟨"Europe/Belgrade", "CET-1CEST,M3.5.0,M10.5.0/3",
    [7, 9840, 0, 7200, 0, 7200, 0, 14400, 1, 14400, 1, 14400, 1, 7200, 0, 119, 5427830639, 1,
     1808090520, 4, 48567600, 2, 12700800, 3, 16329600, 2, 15724800, 3, 15724800, 2, 18835200, 3,
     11318400, 2, 1184198400, 5, 15724800, 6, 15724800, 5, 16329600, 6, 15724800, 5, 15724800, 6,
     15724800, 5, 15724800, 6, 15724800, 5, 15724800, 6, 15724800, 5, 15724800, 6, 15724800, 5,
     15724800, 6, 15724800, 5, 16329600, 6, 15724800, 5, 15724800, 6, 15724800, 5, 15724800, 6,
     15724800, 5, 15724800, 6, 15724800, 5, 15724800, 6, 15724800, 5, 15724800, 6, 16329600, 5,
     18144000, 6, 13305600, 5, 18144000, 6, 13305600, 5, 18144000, 6, 13305600, 5, 18748800, 6,
     12700800, 5, 18748800, 6, 12700800, 5, 18748800, 6, 13305600, 5, 18144000, 6, 13305600, 5,
     18144000, 6, 13305600, 5, 18748800, 6, 12700800, 5, 18748800, 6, 12700800, 5, 18748800, 6,
     12700800, 5, 18748800, 6, 13305600, 5, 18144000, 6, 13305600, 5, 18144000, 6, 13305600, 5,
     18748800, 6, 12700800, 5, 18748800, 6, 12700800, 5, 18748800, 6, 13305600, 5, 18144000, 6,
     13305600, 5, 18144000, 6, 13305600, 5, 18144000, 6, 13305600, 5, 18748800, 6, 12700800, 5,
     18748800, 6, 12700800, 5, 18748800, 6, 13305600, 5, 18144000, 6, 13305600, 5, 18144000, 6,
     13305600, 5, 18748800, 6, 12700800, 5, 18748800, 6, 12700800, 5, 18748800, 6, 13305600, 5,
     18144000, 6, 13305600, 5, 18144000, 6, 13305600, 5, 18144000, 6, 13305600, 5, 18748800, 6,
     12700800, 5, 18748800, 6, 12700800, 5, 18748800, 6, 13305600, 5, 18144000, 6, 13305600, 5,
     18144000, 6, 13305600, 5, 18748800, 6, 12700800, 5, 18748800, 6, 12700800, 5, 18748800, 6,
     12700800, 5, 18748800, 6, 13305600, 5, 18144000, 6, 13305600, 5, 18144000, 6]⟩,
  ⟨"Europe/Berlin", "CET-1CEST,M3.5.0,M10.5.0/3",
    [9, 6416, 0, 14400, 1, 7200, 0, 14400, 1, 7200, 0, 21600, 1, 21600, 1, 14400, 1, 7200, 0, 143,
     4844108815, 2, 728348008, 1, 13222800, 2, 17028000, 3, 13305600, 4, 18144000, 3, 13305600, 4,
     679795200, 3, 81648000, 4, 12700800, 3, 16329600, 4, 15724800, 3, 15724800, 4, 15724800, 3,
     4489200, 5, 10627200, 1, 4755600, 4, 12700800, 3, 15206400, 4, 15642000, 3, 3020400, 6,
     4230000, 1, 8470800, 4, 16934400, 3, 14515200, 4, 16329600, 3, 15120000, 4, 962841600, 7,
     15120000, 8, 15724800, 7, 15724800, 8, 15724800, 7, 15724800, 8, 15724800, 7, 15724800, 8,
     15724800, 7, 16329600, 8, 15724800, 7, 15724800, 8, 15724800, 7, 15724800, 8, 15724800, 7,
     15724800, 8, 15724800, 7, 15724800, 8, 15724800, 7, 15724800, 8, 15724800, 7, 16329600, 8,
     15724800, 7, 15724800, 8, 15724800, 7, 15724800, 8, 15724800, 7, 15724800, 8, 15724800, 7,
     15724800, 8, 15724800, 7, 15724800, 8, 16329600, 7, 18144000, 8, 13305600, 7, 18144000, 8,
     13305600, 7, 18144000, 8, 13305600, 7, 18748800, 8, 12700800, 7, 18748800, 8, 12700800, 7,
     18748800, 8, 13305600, 7, 18144000, 8, 13305600, 7, 18144000, 8, 13305600, 7, 18748800, 8,
     12700800, 7, 18748800, 8, 12700800, 7, 18748800, 8, 12700800, 7, 18748800, 8, 13305600, 7,
     18144000, 8, 13305600, 7, 18144000, 8, 13305600, 7, 18748800, 8, 12700800, 7, 18748800, 8,
     12700800, 7, 18748800, 8, 13305600, 7, 18144000, 8, 13305600, 7, 18144000, 8, 13305600, 7,
     18144000, 8, 13305600, 7, 18748800, 8, 12700800, 7, 18748800, 8, 12700800, 7, 18748800, 8,
     13305600, 7, 18144000, 8, 13305600, 7, 18144000, 8, 13305600, 7, 18748800, 8, 12700800, 7,
     18748800, 8, 12700800, 7, 18748800, 8, 13305600, 7, 18144000, 8, 13305600, 7, 18144000, 8,
     13305600, 7, 18144000, 8, 13305600, 7, 18748800, 8, 12700800, 7, 18748800, 8, 12700800, 7,
     18748800, 8, 13305600, 7, 18144000, 8, 13305600, 7, 18144000, 8, 13305600, 7, 18748800, 8,
     12700800, 7, 18748800, 8, 12700800, 7, 18748800, 8, 12700800, 7, 18748800, 8, 13305600, 7,
     18144000, 8, 13305600, 7, 18144000, 8]⟩,
  ⟨"Europe/Brussels", "CET-1CEST,M3.5.0,M10.5.0/3",
    [12, 2100, 0, 2100, 0, 0, 0, 7200, 0, 14400, 1, 7200, 0, 14400, 1, 7200, 1, 0, 0, 0, 0, 14400,
     1, 7200, 0, 185, 5680283699, 1, 389146650, 2, 710640000, 3, 46652400, 6, 13219200, 3, 17028000,
     4, 13305600, 5, 18144000, 4, 13305600, 5, 4874400, 9, 9547200, 7, 18748800, 8, 11491200, 7,
     21772800, 8, 12268800, 7, 19440000, 8, 13046400, 7, 16934400, 8, 16934400, 7, 14515200, 8,
     15120000, 7, 16329600, 8, 15724800, 7, 15724800, 8, 16934400, 7, 14515200, 8, 16329600, 7,
     15120000, 8, 16934400, 7, 15130800, 8, 16934400, 7, 14515200, 8, 16329600, 7, 15120000, 8,
     16934400, 7, 14515200, 8, 15724800, 7, 15724800, 8, 15120000, 7, 16934400, 8, 15724800, 7,
     15724800, 8, 15120000, 7, 16329600, 8, 16934400, 7, 14515200, 8, 15724800, 7, 15724800, 8,
     15120000, 7, 16329600, 8, 16934400, 7, 18748800, 8, 8467200, 7, 7344000, 4, 77410800, 5,
     12700800, 4, 16329600, 5, 15724800, 4, 14428800, 5, 17020800, 4, 14428800, 5, 21168000, 4,
     12182400, 5, 962150400, 10, 15120000, 11, 16329600, 10, 15724800, 11, 15724800, 10, 15724800,
     11, 16329600, 10, 15120000, 11, 15724800, 10, 15724800, 11, 15724800, 10, 15724800, 11,
     15724800, 10, 15724800, 11, 15724800, 10, 16329600, 11, 15724800, 10, 15724800, 11, 15724800,
     10, 15724800, 11, 15724800, 10, 15724800, 11, 15724800, 10, 15724800, 11, 15724800, 10,
     15724800, 11, 15724800, 10, 16329600, 11, 15724800, 10, 15724800, 11, 15724800, 10, 15724800,
     11, 15724800, 10, 15724800, 11, 15724800, 10, 15724800, 11, 15724800, 10, 15724800, 11,
     16329600, 10, 18144000, 11, 13305600, 10, 18144000, 11, 13305600, 10, 18144000, 11, 13305600,
     10, 18748800, 11, 12700800, 10, 18748800, 11, 12700800, 10, 18748800, 11, 13305600, 10,
     18144000, 11, 13305600, 10, 18144000, 11, 13305600, 10, 18748800, 11, 12700800, 10, 18748800,
     11, 12700800, 10, 18748800, 11, 12700800, 10, 18748800, 11, 13305600, 10, 18144000, 11,
     13305600, 10, 18144000, 11, 13305600, 10, 18748800, 11, 12700800, 10, 18748800, 11, 12700800,
     10, 18748800, 11, 13305600, 10, 18144000, 11, 13305600, 10, 18144000, 11, 13305600, 10,
     18144000, 11, 13305600, 10, 18748800, 11, 12700800, 10, 18748800, 11, 12700800, 10, 18748800,
     11, 13305600, 10, 18144000, 11, 13305600, 10, 18144000, 11, 13305600, 10, 18748800, 11,
     12700800, 10, 18748800, 11, 12700800, 10, 18748800, 11, 13305600, 10, 18144000, 11, 13305600,
     10, 18144000, 11, 13305600, 10, 18144000, 11, 13305600, 10, 18748800, 11, 12700800, 10,
     18748800, 11, 12700800, 10, 18748800, 11, 13305600, 10, 18144000, 11, 13305600, 10, 18144000,
     11, 13305600, 10, 18748800, 11, 12700800, 10, 18748800, 11, 12700800, 10, 18748800, 11,
     12700800, 10, 18748800, 11, 13305600, 10, 18144000, 11, 13305600, 10, 18144000, 11]⟩,
  ⟨"Europe/Bucharest", "EET-2EEST,M3.5.0/3,M10.5.0/4",
    [8, 12528, 0, 12528, 0, 21600, 1, 14400, 0, 21600, 1, 14400, 0, 21600, 1, 14400, 0, 136,
     4938809327, 1, 1256256000, 5, 26091864, 2, 11577600, 3, 15724800, 2, 15724800, 3, 16329600, 2,
     15724800, 3, 15724800, 2, 15724800, 3, 15724800, 2, 15724800, 3, 15724800, 2, 15724800, 3,
     15724800, 2, 15724800, 3, 15724800, 2, 15724800, 3, 1251331200, 4, 10882800, 5, 16329600, 4,
     15123600, 5, 15732000, 2, 15724800, 3, 15724800, 2, 15724800, 3, 15724800, 2, 15724800, 3,
     15724800, 2, 16329600, 3, 15724800, 2, 15724800, 3, 15724800, 2, 15724800, 3, 15724800, 2,
     15724800, 3, 15724800, 2, 15724800, 3, 15724800, 2, 15724800, 3, 15724800, 2, 16329600, 3,
     15717600, 2, 15724800, 3, 15724800, 2, 15724800, 3, 15724800, 2, 15724800, 3, 15724800, 4,
     15721200, 5, 15728400, 4, 15721200, 5, 16333200, 4, 18140400, 5, 13320000, 6, 18144000, 7,
     13305600, 6, 18144000, 7, 13305600, 6, 18748800, 7, 12700800, 6, 18748800, 7, 12700800, 6,
     18748800, 7, 13305600, 6, 18144000, 7, 13305600, 6, 18144000, 7, 13305600, 6, 18748800, 7,
     12700800, 6, 18748800, 7, 12700800, 6, 18748800, 7, 12700800, 6, 18748800, 7, 13305600, 6,
     18144000, 7, 13305600, 6, 18144000, 7, 13305600, 6, 18748800, 7, 12700800, 6, 18748800, 7,
     12700800, 6, 18748800, 7, 13305600, 6, 18144000, 7, 13305600, 6, 18144000, 7, 13305600, 6,
     18144000, 7, 13305600, 6, 18748800, 7, 12700800, 6, 18748800, 7, 12700800, 6, 18748800, 7,
     13305600, 6, 18144000, 7, 13305600, 6, 18144000, 7, 13305600, 6, 18748800, 7, 12700800, 6,
     18748800, 7, 12700800, 6, 18748800, 7, 13305600, 6, 18144000, 7, 13305600, 6, 18144000, 7,
     13305600, 6, 18144000, 7, 13305600, 6, 18748800, 7, 12700800, 6, 18748800, 7, 12700800, 6,
     18748800, 7, 13305600, 6, 18144000, 7, 13305600, 6, 18144000, 7, 13305600, 6, 18748800, 7,
     12700800, 6, 18748800, 7, 12700800, 6, 18748800, 7, 12700800, 6, 18748800, 7, 13305600, 6,
     18144000, 7, 13305600, 6, 18144000, 7]⟩,
  ⟨"Europe/Budapest", "CET-1CEST,M3.5.0,M10.5.0/3",
    [7, 9160, 0, 14400, 1, 7200, 0, 14400, 1, 7200, 0, 14400, 1, 7200, 0, 151, 4996521159, 2,
     804554180, 1, 13222800, 2, 17028000, 3, 13305600, 4, 18144000, 1, 13305600, 2, 18230400, 1,
     13219200, 2, 17539200, 1, 14515200, 2, 648421200, 1, 49518000, 4, 12700800, 3, 16329600, 4,
     15724800, 3, 15724800, 4, 18306000, 1, 15814800, 2, 12967200, 3, 16412400, 2, 15642000, 3,
     15724800, 4, 15724800, 3, 15724800, 4, 16329600, 3, 15120000, 4, 146354400, 1, 11487600, 2,
     19969200, 1, 11491200, 2, 21168000, 1, 10281600, 2, 21168000, 1, 10281600, 2, 710632800, 1,
     15120000, 2, 15724800, 1, 15724800, 2, 15724800, 1, 15724800, 2, 15724800, 1, 15724800, 2,
     15732000, 5, 16329600, 6, 15724800, 5, 15724800, 6, 15724800, 5, 15724800, 6, 15724800, 5,
     15724800, 6, 15724800, 5, 15724800, 6, 15724800, 5, 15724800, 6, 15724800, 5, 16329600, 6,
     15724800, 5, 15724800, 6, 15724800, 5, 15724800, 6, 15724800, 5, 15724800, 6, 15724800, 5,
     15724800, 6, 15724800, 5, 15724800, 6, 16329600, 5, 18144000, 6, 13305600, 5, 18144000, 6,
     13305600, 5, 18144000, 6, 13305600, 5, 18748800, 6, 12700800, 5, 18748800, 6, 12700800, 5,
     18748800, 6, 13305600, 5, 18144000, 6, 13305600, 5, 18144000, 6, 13305600, 5, 18748800, 6,
     12700800, 5, 18748800, 6, 12700800, 5, 18748800, 6, 12700800, 5, 18748800, 6, 13305600, 5,
     18144000, 6, 13305600, 5, 18144000, 6, 13305600, 5, 18748800, 6, 12700800, 5, 18748800, 6,
     12700800, 5, 18748800, 6, 13305600, 5, 18144000, 6, 13305600, 5, 18144000, 6, 13305600, 5,
     18144000, 6, 13305600, 5, 18748800, 6, 12700800, 5, 18748800, 6, 12700800, 5, 18748800, 6,
     13305600, 5, 18144000, 6, 13305600, 5, 18144000, 6, 13305600, 5, 18748800, 6, 12700800, 5,
     18748800, 6, 12700800, 5, 18748800, 6, 13305600, 5, 18144000, 6, 13305600, 5, 18144000, 6,
     13305600, 5, 18144000, 6, 13305600, 5, 18748800, 6, 12700800, 5, 18748800, 6, 12700800, 5,
     18748800, 6, 13305600, 5, 18144000, 6, 13305600, 5, 18144000, 6, 13305600, 5, 18748800, 6,
     12700800, 5, 18748800, 6, 12700800, 5, 18748800, 6, 12700800, 5, 18748800, 6, 13305600, 5,
     18144000, 6, 13305600, 5, 18144000, 6]⟩,
  ⟨"Europe/Chisinau", "EET-2EEST,M3.5.0/3,M10.5.0/4",
    [16, 13840, 0, 13800, 0, 12528, 0, 21600, 1, 14400, 0, 14400, 0, 21600, 1, 7200, 0, 14400, 1,
     14400, 1, 28800, 1, 21600, 0, 21600, 0, 28800, 1, 21600, 1, 14400, 0, 141, 5680295439, 1,
     1203033620, 2, 423965436, 5, 26091864, 3, 11577600, 4, 15724800, 3, 15724800, 4, 16329600, 3,
     15724800, 4, 15724800, 3, 15724800, 4, 15724800, 3, 15724800, 4, 15724800, 3, 15724800, 4,
     15724800, 3, 15724800, 4, 15724800, 3, 15724800, 4, 27561600, 6, 29026800, 9, 40881600, 7,
     12700800, 8, 16329600, 7, 15724800, 8, 12344400, 11, 1155078000, 10, 15807600, 11, 15728400,
     10, 15807600, 11, 15728400, 10, 15807600, 11, 15814800, 10, 15732000, 12, 15724800, 13,
     15724800, 12, 15724800, 13, 15724800, 12, 15724800, 13, 15724800, 12, 15724800, 13, 15724800,
     12, 15724800, 13, 15724800, 12, 15724800, 13, 3625200, 6, 12708000, 4, 15724800, 3, 15724800,
     4, 15717600, 6, 15721200, 5, 15728400, 6, 15721200, 5, 15728400, 6, 15721200, 5, 15728400, 6,
     15721200, 5, 16333200, 6, 18140400, 5, 13316400, 6, 18144000, 5, 13305600, 6, 18144000, 5,
     13305600, 6, 18748800, 5, 12700800, 6, 18748800, 5, 12700800, 6, 18748800, 5, 13305600, 6,
     18144000, 5, 13305600, 6, 18144000, 5, 13305600, 6, 18748800, 5, 12700800, 6, 18748800, 5,
     12700800, 6, 18748800, 5, 12700800, 6, 18748800, 5, 13305600, 6, 18144000, 5, 13305600, 6,
     18144000, 5, 13305600, 6, 18748800, 5, 12700800, 6, 18748800, 5, 12700800, 6, 18748800, 5,
     13305600, 6, 18144000, 5, 13305600, 6, 18144000, 5, 13305600, 6, 18144000, 5, 13305600, 6,
     18748800, 5, 12700800, 6, 18748800, 5, 12700800, 6, 18748800, 5, 13305600, 6, 18144000, 5,
     13305600, 6, 18144000, 5, 13305600, 6, 18748800, 5, 12704400, 14, 18748800, 15, 12700800, 14,
     18748800, 15, 13305600, 14, 18144000, 15, 13305600, 14, 18144000, 15, 13305600, 14, 18144000,
     15, 13305600, 14, 18748800, 15, 12700800, 14, 18748800, 15, 12700800, 14, 18748800, 15,
     13305600, 14, 18144000, 15, 13305600, 14, 18144000, 15, 13305600, 14, 18748800, 15, 12700800,
     14, 18748800, 15, 12700800, 14, 18748800, 15, 12700800, 14, 18748800, 15, 13305600, 14,
     18144000, 15, 13305600, 14, 18144000, 15]⟩,
  ⟨"Europe/Copenhagen", "CET-1CEST,M3.5.0,M10.5.0/3",
    [8, 6040, 0, 6040, 0, 14400, 1, 7200, 0, 7200, 0, 14400, 1, 14400, 1, 7200, 0, 134, 5049049239,
     1, 126230400, 3, 705797420, 2, 12006000, 3, 745380000, 2, 77853600, 4, 12700800, 5, 16329600,
     4, 15724800, 5, 15724800, 4, 15724800, 5, 11664000, 4, 22377600, 5, 10627200, 4, 21168000, 5,
     8467200, 4, 23587200, 5, 7862400, 4, 999129600, 6, 15120000, 7, 15724800, 6, 15724800, 7,
     15724800, 6, 15724800, 7, 15724800, 6, 15724800, 7, 15724800, 6, 16329600, 7, 15724800, 6,
     15724800, 7, 15724800, 6, 15724800, 7, 15724800, 6, 15724800, 7, 15724800, 6, 15724800, 7,
     15724800, 6, 15724800, 7, 15724800, 6, 16329600, 7, 15724800, 6, 15724800, 7, 15724800, 6,
     15724800, 7, 15724800, 6, 15724800, 7, 15724800, 6, 15724800, 7, 15724800, 6, 15724800, 7,
     16329600, 6, 18144000, 7, 13305600, 6, 18144000, 7, 13305600, 6, 18144000, 7, 13305600, 6,
     18748800, 7, 12700800, 6, 18748800, 7, 12700800, 6, 18748800, 7, 13305600, 6, 18144000, 7,
     13305600, 6, 18144000, 7, 13305600, 6, 18748800, 7, 12700800, 6, 18748800, 7, 12700800, 6,
     18748800, 7, 12700800, 6, 18748800, 7, 13305600, 6, 18144000, 7, 13305600, 6, 18144000, 7,
     13305600, 6, 18748800, 7, 12700800, 6, 18748800, 7, 12700800, 6, 18748800, 7, 13305600, 6,
     18144000, 7, 13305600, 6, 18144000, 7, 13305600, 6, 18144000, 7, 13305600, 6, 18748800, 7,
     12700800, 6, 18748800, 7, 12700800, 6, 18748800, 7, 13305600, 6, 18144000, 7, 13305600, 6,
     18144000, 7, 13305600, 6, 18748800, 7, 12700800, 6, 18748800, 7, 12700800, 6, 18748800, 7,
     13305600, 6, 18144000, 7, 13305600, 6, 18144000, 7, 13305600, 6, 18144000, 7, 13305600, 6,
     18748800, 7, 12700800, 6, 18748800, 7, 12700800, 6, 18748800, 7, 13305600, 6, 18144000, 7,
     13305600, 6, 18144000, 7, 13305600, 6, 18748800, 7, 12700800, 6, 18748800, 7, 12700800, 6,
     18748800, 7, 12700800, 6, 18748800, 7, 13305600, 6, 18144000, 7, 13305600, 6, 18144000, 7]⟩,
  ⟨"Europe/Dublin", "GMT0IST,M3.5.0/1,M10.5.0",
    [9, 3041, 0, 3041, 0, 4158, 1, 7200, 1, 0, 0, 7200, 1, 7200, 0, 7200, 1, 0, 0, 228, 5643299357,
     1, 1129687200, 2, 11491200, 4, 16328079, 3, 13996800, 4, 16243200, 3, 16416000, 4, 15638400, 3,
     15811200, 4, 15638400, 3, 18230400, 4, 13824000, 3, 15811200, 4, 15033600, 5, 16934400, 4,
     16934400, 5, 12700800, 4, 18144000, 5, 13910400, 4, 18144000, 5, 14515200, 4, 16934400, 5,
     14515200, 4, 16329600, 5, 15120000, 4, 17539200, 5, 14515200, 4, 16934400, 5, 14515200, 4,
     16329600, 5, 15120000, 4, 16934400, 5, 14515200, 4, 16934400, 5, 14515200, 4, 16329600, 5,
     15724800, 4, 16934400, 5, 14515200, 4, 16329600, 5, 15120000, 4, 16934400, 5, 14515200, 4,
     16934400, 5, 14515200, 4, 16329600, 5, 15120000, 4, 16934400, 5, 18748800, 4, 8467200, 5,
     208656000, 4, 13910400, 5, 19958400, 4, 14515200, 5, 16934400, 4, 13305600, 5, 18144000, 4,
     14515200, 5, 16329600, 4, 15120000, 5, 16329600, 4, 15724800, 5, 16329600, 4, 15120000, 5,
     14515200, 4, 16329600, 5, 15120000, 4, 16934400, 5, 14515200, 4, 17539200, 5, 14515200, 4,
     16329600, 5, 15120000, 4, 16934400, 5, 14515200, 4, 16934400, 5, 14515200, 4, 16329600, 5,
     15120000, 4, 15120000, 5, 18748800, 4, 12700800, 5, 18748800, 4, 13305600, 5, 18144000, 4,
     12700800, 5, 18748800, 4, 12700800, 5, 18748800, 4, 12700800, 5, 18748800, 4, 12700800, 5,
     19353600, 4, 9676800, 5, 21762000, 6, 94964400, 8, 12096000, 5, 19353600, 4, 12096000, 5,
     19353600, 4, 12096000, 5, 19353600, 4, 12096000, 5, 19353600, 4, 12700800, 5, 18748800, 4,
     12700800, 5, 18748800, 4, 12700800, 5, 19353600, 4, 12096000, 5, 19353600, 4, 12096000, 5,
     19353600, 4, 13302000, 7, 18144000, 8, 13305600, 7, 18144000, 8, 13305600, 7, 18144000, 8,
     13305600, 7, 18748800, 8, 13305600, 7, 18144000, 8, 13305600, 7, 18144000, 8, 13305600, 7,
     18144000, 8, 13305600, 7, 18144000, 8, 13305600, 7, 18748800, 8, 12700800, 7, 18748800, 8,
     13305600, 7, 18144000, 8, 13305600, 7, 18144000, 8, 13305600, 7, 18144000, 8, 13305600, 7,
     18144000, 8, 13305600, 7, 18144000, 8, 13910400, 7, 18144000, 8, 13305600, 7, 18144000, 8,
     13305600, 7, 18144000, 8, 13305600, 7, 18748800, 8, 12700800, 7, 18748800, 8, 12700800, 7,
     18748800, 8, 13305600, 7, 18144000, 8, 13305600, 7, 18144000, 8, 13305600, 7, 18748800, 8,
     12700800, 7, 18748800, 8, 12700800, 7, 18748800, 8, 12700800, 7, 18748800, 8, 13305600, 7,
     18144000, 8, 13305600, 7, 18144000, 8, 13305600, 7, 18748800, 8, 12700800, 7, 18748800, 8,
     12700800, 7, 18748800, 8, 13305600, 7, 18144000, 8, 13305600, 7, 18144000, 8, 13305600, 7,
     18144000, 8, 13305600, 7, 18748800, 8, 12700800, 7, 18748800, 8, 12700800, 7, 18748800, 8,
     13305600, 7, 18144000, 8, 13305600, 7, 18144000, 8, 13305600, 7, 18748800, 8, 12700800, 7,
     18748800, 8, 12700800, 7, 18748800, 8, 13305600, 7, 18144000, 8, 13305600, 7, 18144000, 8,
     13305600, 7, 18144000, 8, 13305600, 7, 18748800, 8, 12700800, 7, 18748800, 8, 12700800, 7,
     18748800, 8, 13305600, 7, 18144000, 8, 13305600, 7, 18144000, 8, 13305600, 7, 18748800, 8,
     12700800, 7, 18748800, 8, 12700800, 7, 18748800, 8, 12700800, 7, 18748800, 8, 13305600, 7,
     18144000, 8, 13305600, 7, 18144000, 8]⟩,
  ⟨"Europe/Gibraltar", "CET-1CEST,M3.5.0,M10.5.0/3",
    [8, 2567, 0, 7200, 1, 0, 0, 14400, 1, 0, 0, 7200, 0, 14400, 1, 7200, 0, 198, 5643299831, 4,
     1129685916, 1, 11491200, 2, 16329600, 1, 13996800, 2, 16243200, 1, 16416000, 2, 15638400, 1,
     15811200, 2, 15638400, 1, 18230400, 2, 13824000, 1, 15811200, 2, 15033600, 1, 16934400, 2,
     16934400, 1, 12700800, 2, 18144000, 1, 13910400, 2, 18144000, 1, 14515200, 2, 16934400, 1,
     14515200, 2, 16329600, 1, 15120000, 2, 17539200, 1, 14515200, 2, 16934400, 1, 14515200, 2,
     16329600, 1, 15120000, 2, 16934400, 1, 14515200, 2, 16934400, 1, 14515200, 2, 16329600, 1,
     15724800, 2, 16934400, 1, 14515200, 2, 16329600, 1, 15120000, 2, 16934400, 1, 14515200, 2,
     16934400, 1, 14515200, 2, 16329600, 1, 15120000, 2, 16934400, 1, 18748800, 2, 8467200, 1,
     37494000, 3, 8467200, 1, 20563200, 3, 10886400, 1, 20563200, 3, 11491200, 1, 19958400, 3,
     14515200, 1, 17020800, 3, 8985600, 1, 7261200, 2, 16329600, 1, 15120000, 2, 13910400, 1,
     2415600, 3, 10281600, 1, 7261200, 2, 11491200, 1, 19958400, 2, 13305600, 1, 18144000, 2,
     14515200, 1, 16329600, 2, 15120000, 1, 16329600, 2, 15724800, 1, 16329600, 2, 15120000, 1,
     14515200, 2, 16329600, 1, 15120000, 2, 16934400, 1, 14515200, 2, 17539200, 1, 14515200, 2,
     16329600, 5, 787446000, 6, 15724800, 7, 15724800, 6, 15724800, 7, 15724800, 6, 16329600, 7,
     15724800, 6, 15724800, 7, 15724800, 6, 15724800, 7, 15724800, 6, 15724800, 7, 15724800, 6,
     15724800, 7, 15724800, 6, 15724800, 7, 15724800, 6, 16329600, 7, 15724800, 6, 15724800, 7,
     15724800, 6, 15724800, 7, 15724800, 6, 15724800, 7, 15724800, 6, 15724800, 7, 15724800, 6,
     15724800, 7, 16329600, 6, 18144000, 7, 13305600, 6, 18144000, 7, 13305600, 6, 18144000, 7,
     13305600, 6, 18748800, 7, 12700800, 6, 18748800, 7, 12700800, 6, 18748800, 7, 13305600, 6,
     18144000, 7, 13305600, 6, 18144000, 7, 13305600, 6, 18748800, 7, 12700800, 6, 18748800, 7,
     12700800, 6, 18748800, 7, 12700800, 6, 18748800, 7, 13305600, 6, 18144000, 7, 13305600, 6,
     18144000, 7, 13305600, 6, 18748800, 7, 12700800, 6, 18748800, 7, 12700800, 6, 18748800, 7,
     13305600, 6, 18144000, 7, 13305600, 6, 18144000, 7, 13305600, 6, 18144000, 7, 13305600, 6,
     18748800, 7, 12700800, 6, 18748800, 7, 12700800, 6, 18748800, 7, 13305600, 6, 18144000, 7,
     13305600, 6, 18144000, 7, 13305600, 6, 18748800, 7, 12700800, 6, 18748800, 7, 12700800, 6,
     18748800, 7, 13305600, 6, 18144000, 7, 13305600, 6, 18144000, 7, 13305600, 6, 18144000, 7,
     13305600, 6, 18748800, 7, 12700800, 6, 18748800, 7, 12700800, 6, 18748800, 7, 13305600, 6,
     18144000, 7, 13305600, 6, 18144000, 7, 13305600, 6, 18748800, 7, 12700800, 6, 18748800, 7,
     12700800, 6, 18748800, 7, 12700800, 6, 18748800, 7, 13305600, 6, 18144000, 7, 13305600, 6,
     18144000, 7]⟩,
  ⟨"Europe/Guernsey", "GMT0BST,M3.5.0/1,M10.5.0",
    [12, 1217, 0, 7200, 1, 0, 0, 0, 0, 7200, 0, 14400, 1, 14400, 1, 14400, 1, 14400, 1, 7200, 0,
     7200, 1, 0, 0, 241, 3568491581, 3, 92281791, 1, 11491200, 2, 16329600, 1, 13996800, 2,
     16243200, 1, 16416000, 2, 15638400, 1, 15811200, 2, 15638400, 1, 18230400, 2, 13824000, 1,
     15811200, 2, 15033600, 1, 16934400, 2, 16934400, 1, 12700800, 2, 18144000, 1, 13910400, 2,
     18144000, 1, 14515200, 2, 16934400, 1, 14515200, 2, 16329600, 1, 15120000, 2, 17539200, 1,
     14515200, 2, 16934400, 1, 14515200, 2, 16329600, 1, 15120000, 2, 16934400, 1, 14515200, 2,
     16934400, 1, 14515200, 2, 16329600, 1, 15724800, 2, 16934400, 1, 14515200, 2, 16329600, 1,
     15120000, 2, 16934400, 1, 14515200, 2, 16934400, 1, 14515200, 2, 16329600, 1, 15120000, 2,
     16934400, 1, 18748800, 2, 8467200, 1, 11048400, 6, 73706400, 4, 12700800, 5, 16329600, 4,
     15724800, 5, 15724800, 4, 15724800, 5, 3099600, 8, 5886000, 1, 7261200, 2, 16329600, 1,
     15120000, 2, 13910400, 1, 2415600, 7, 10281600, 1, 7261200, 2, 11491200, 1, 19958400, 2,
     13305600, 1, 18144000, 2, 14515200, 1, 16329600, 2, 15120000, 1, 16329600, 2, 15724800, 1,
     16329600, 2, 15120000, 1, 14515200, 2, 16329600, 1, 15120000, 2, 16934400, 1, 14515200, 2,
     17539200, 1, 14515200, 2, 16329600, 1, 15120000, 2, 16934400, 1, 14515200, 2, 16934400, 1,
     14515200, 2, 16329600, 1, 15120000, 2, 15120000, 1, 18748800, 2, 12700800, 1, 18748800, 2,
     13305600, 1, 18144000, 2, 12700800, 1, 18748800, 2, 12700800, 1, 18748800, 2, 12700800, 1,
     18748800, 2, 12700800, 1, 19353600, 2, 9676800, 1, 21762000, 9, 94964400, 11, 12096000, 1,
     19353600, 2, 12096000, 1, 19353600, 2, 12096000, 1, 19353600, 2, 12096000, 1, 19353600, 2,
     12700800, 1, 18748800, 2, 12700800, 1, 18748800, 2, 12700800, 1, 19353600, 2, 12096000, 1,
     19353600, 2, 12096000, 1, 19353600, 2, 13302000, 10, 18144000, 11, 13305600, 10, 18144000, 11,
     13305600, 10, 18144000, 11, 13305600, 10, 18748800, 11, 13305600, 10, 18144000, 11, 13305600,
     10, 18144000, 11, 13305600, 10, 18144000, 11, 13305600, 10, 18144000, 11, 13305600, 10,
     18748800, 11, 12700800, 10, 18748800, 11, 13305600, 10, 18144000, 11, 13305600, 10, 18144000,
     11, 13305600, 10, 18144000, 11, 13305600, 10, 18144000, 11, 13305600, 10, 18144000, 11,
     13910400, 10, 18144000, 11, 13305600, 10, 18144000, 11, 13305600, 10, 18144000, 11, 13305600,
     10, 18748800, 11, 12700800, 10, 18748800, 11, 12700800, 10, 18748800, 11, 13305600, 10,
     18144000, 11, 13305600, 10, 18144000, 11, 13305600, 10, 18748800, 11, 12700800, 10, 18748800,
     11, 12700800, 10, 18748800, 11, 12700800, 10, 18748800, 11, 13305600, 10, 18144000, 11,
     13305600, 10, 18144000, 11, 13305600, 10, 18748800, 11, 12700800, 10, 18748800, 11, 12700800,
     10, 18748800, 11, 13305600, 10, 18144000, 11, 13305600, 10, 18144000, 11, 13305600, 10,
     18144000, 11, 13305600, 10, 18748800, 11, 12700800, 10, 18748800, 11, 12700800, 10, 18748800,
     11, 13305600, 10, 18144000, 11, 13305600, 10, 18144000, 11, 13305600, 10, 18748800, 11,
     12700800, 10, 18748800, 11, 12700800, 10, 18748800, 11, 13305600, 10, 18144000, 11, 13305600,
     10, 18144000, 11, 13305600, 10, 18144000, 11, 13305600, 10, 18748800, 11, 12700800, 10,
     18748800, 11, 12700800, 10, 18748800, 11, 13305600, 10, 18144000, 11, 13305600, 10, 18144000,
     11, 13305600, 10, 18748800, 11, 12700800, 10, 18748800, 11, 12700800, 10, 18748800, 11,
     12700800, 10, 18748800, 11, 13305600, 10, 18144000, 11, 13305600, 10, 18144000, 11]⟩,
  ⟨"Europe/Helsinki", "EET-2EEST,M3.5.0/3,M10.5.0/4",
    [6, 11978, 0, 11978, 0, 21600, 1, 14400, 0, 21600, 1, 14400, 0, 118, 5780517577, 1, 1354320000,
     3, 660267589, 2, 15897600, 3, 1214445600, 2, 15724800, 3, 15724800, 2, 15724800, 3, 15728400,
     4, 15724800, 5, 15724800, 4, 16329600, 5, 15724800, 4, 15724800, 5, 15724800, 4, 15724800, 5,
     15724800, 4, 15724800, 5, 15724800, 4, 15724800, 5, 15724800, 4, 15724800, 5, 15724800, 4,
     16329600, 5, 15724800, 4, 15724800, 5, 15724800, 4, 15724800, 5, 15724800, 4, 15724800, 5,
     15724800, 4, 15724800, 5, 15724800, 4, 15724800, 5, 16329600, 4, 18144000, 5, 13305600, 4,
     18144000, 5, 13305600, 4, 18144000, 5, 13305600, 4, 18748800, 5, 12700800, 4, 18748800, 5,
     12700800, 4, 18748800, 5, 13305600, 4, 18144000, 5, 13305600, 4, 18144000, 5, 13305600, 4,
     18748800, 5, 12700800, 4, 18748800, 5, 12700800, 4, 18748800, 5, 12700800, 4, 18748800, 5,
     13305600, 4, 18144000, 5, 13305600, 4, 18144000, 5, 13305600, 4, 18748800, 5, 12700800, 4,
     18748800, 5, 12700800, 4, 18748800, 5, 13305600, 4, 18144000, 5, 13305600, 4, 18144000, 5,
     13305600, 4, 18144000, 5, 13305600, 4, 18748800, 5, 12700800, 4, 18748800, 5, 12700800, 4,
     18748800, 5, 13305600, 4, 18144000, 5, 13305600, 4, 18144000, 5, 13305600, 4, 18748800, 5,
     12700800, 4, 18748800, 5, 12700800, 4, 18748800, 5, 13305600, 4, 18144000, 5, 13305600, 4,
     18144000, 5, 13305600, 4, 18144000, 5, 13305600, 4, 18748800, 5, 12700800, 4, 18748800, 5,
     12700800, 4, 18748800, 5, 13305600, 4, 18144000, 5, 13305600, 4, 18144000, 5, 13305600, 4,
     18748800, 5, 12700800, 4, 18748800, 5, 12700800, 4, 18748800, 5, 12700800, 4, 18748800, 5,
     13305600, 4, 18144000, 5, 13305600, 4, 18144000, 5]⟩,
  ⟨"Europe/Isle_of_Man", "GMT0BST,M3.5.0/1,M10.5.0",
    [7, 2149, 0, 7200, 1, 0, 0, 14400, 1, 7200, 0, 7200, 1, 0, 0, 242, 5475684249, 2, 1045878125, 1,
     11491200, 2, 16329600, 1, 13996800, 2, 16243200, 1, 16416000, 2, 15638400, 1, 15811200, 2,
     15638400, 1, 18230400, 2, 13824000, 1, 15811200, 2, 15033600, 1, 16934400, 2, 16934400, 1,
     12700800, 2, 18144000, 1, 13910400, 2, 18144000, 1, 14515200, 2, 16934400, 1, 14515200, 2,
     16329600, 1, 15120000, 2, 17539200, 1, 14515200, 2, 16934400, 1, 14515200, 2, 16329600, 1,
     15120000, 2, 16934400, 1, 14515200, 2, 16934400, 1, 14515200, 2, 16329600, 1, 15724800, 2,
     16934400, 1, 14515200, 2, 16329600, 1, 15120000, 2, 16934400, 1, 14515200, 2, 16934400, 1,
     14515200, 2, 16329600, 1, 15120000, 2, 16934400, 1, 18748800, 2, 8467200, 1, 37494000, 3,
     8467200, 1, 20563200, 3, 10886400, 1, 20563200, 3, 11491200, 1, 19958400, 3, 14515200, 1,
     17020800, 3, 8985600, 1, 7261200, 2, 16329600, 1, 15120000, 2, 13910400, 1, 2415600, 3,
     10281600, 1, 7261200, 2, 11491200, 1, 19958400, 2, 13305600, 1, 18144000, 2, 14515200, 1,
     16329600, 2, 15120000, 1, 16329600, 2, 15724800, 1, 16329600, 2, 15120000, 1, 14515200, 2,
     16329600, 1, 15120000, 2, 16934400, 1, 14515200, 2, 17539200, 1, 14515200, 2, 16329600, 1,
     15120000, 2, 16934400, 1, 14515200, 2, 16934400, 1, 14515200, 2, 16329600, 1, 15120000, 2,
     15120000, 1, 18748800, 2, 12700800, 1, 18748800, 2, 13305600, 1, 18144000, 2, 12700800, 1,
     18748800, 2, 12700800, 1, 18748800, 2, 12700800, 1, 18748800, 2, 12700800, 1, 19353600, 2,
     9676800, 1, 21762000, 4, 94964400, 6, 12096000, 1, 19353600, 2, 12096000, 1, 19353600, 2,
     12096000, 1, 19353600, 2, 12096000, 1, 19353600, 2, 12700800, 1, 18748800, 2, 12700800, 1,
     18748800, 2, 12700800, 1, 19353600, 2, 12096000, 1, 19353600, 2, 12096000, 1, 19353600, 2,
     13302000, 5, 18144000, 6, 13305600, 5, 18144000, 6, 13305600, 5, 18144000, 6, 13305600, 5,
     18748800, 6, 13305600, 5, 18144000, 6, 13305600, 5, 18144000, 6, 13305600, 5, 18144000, 6,
     13305600, 5, 18144000, 6, 13305600, 5, 18748800, 6, 12700800, 5, 18748800, 6, 13305600, 5,
     18144000, 6, 13305600, 5, 18144000, 6, 13305600, 5, 18144000, 6, 13305600, 5, 18144000, 6,
     13305600, 5, 18144000, 6, 13910400, 5, 18144000, 6, 13305600, 5, 18144000, 6, 13305600, 5,
     18144000, 6, 13305600, 5, 18748800, 6, 12700800, 5, 18748800, 6, 12700800, 5, 18748800, 6,
     13305600, 5, 18144000, 6, 13305600, 5, 18144000, 6, 13305600, 5, 18748800, 6, 12700800, 5,
     18748800, 6, 12700800, 5, 18748800, 6, 12700800, 5, 18748800, 6, 13305600, 5, 18144000, 6,
     13305600, 5, 18144000, 6, 13305600, 5, 18748800, 6, 12700800, 5, 18748800, 6, 12700800, 5,
     18748800, 6, 13305600, 5, 18144000, 6, 13305600, 5, 18144000, 6, 13305600, 5, 18144000, 6,
     13305600, 5, 18748800, 6, 12700800, 5, 18748800, 6, 12700800, 5, 18748800, 6, 13305600, 5,
     18144000, 6, 13305600, 5, 18144000, 6, 13305600, 5, 18748800, 6, 12700800, 5, 18748800, 6,
     12700800, 5, 18748800, 6, 13305600, 5, 18144000, 6, 13305600, 5, 18144000, 6, 13305600, 5,
     18144000, 6, 13305600, 5, 18748800, 6, 12700800, 5, 18748800, 6, 12700800, 5, 18748800, 6,
     13305600, 5, 18144000, 6, 13305600, 5, 18144000, 6, 13305600, 5, 18748800, 6, 12700800, 5,
     18748800, 6, 12700800, 5, 18748800, 6, 12700800, 5, 18748800, 6, 13305600, 5, 18144000, 6,
     13305600, 5, 18144000, 6]⟩,
  ⟨"Europe/Istanbul", "<+03>-3",
    [11, 13904, 0, 14032, 0, 21600, 1, 14400, 0, 21600, 0, 28800, 1, 21600, 1, 14400, 0, 21600, 1,
     14400, 0, 21600, 0, 116, 5680295503, 1, 970271936, 3, 176169416, 2, 13215600, 3, 110077200, 2,
     18226800, 3, 13827600, 2, 15807600, 3, 15037200, 2, 16930800, 3, 50374800, 2, 12178800, 3,
     18320400, 2, 13215600, 3, 465440400, 2, 8377200, 3, 4842000, 2, 25398000, 3, 16592400, 2,
     111106800, 3, 20394000, 2, 10537200, 3, 17370000, 2, 14511600, 3, 16938000, 2, 14511600, 3,
     16333200, 2, 15116400, 3, 16938000, 2, 15116400, 3, 16938000, 2, 14511600, 3, 339901200, 2,
     40777200, 3, 17110800, 2, 12006000, 3, 273636000, 2, 13305600, 3, 12704400, 2, 18745200, 3,
     12013200, 2, 19436400, 3, 12099600, 2, 19350000, 3, 13309200, 2, 16930800, 3, 14518800, 2,
     7592400, 4, 160538400, 5, 5439600, 4, 34218000, 3, 14688000, 6, 13910400, 7, 15811200, 6,
     15724800, 7, 15724800, 6, 15724800, 7, 15724800, 6, 15724800, 7, 15724800, 6, 15724800, 7,
     15724800, 6, 16329600, 7, 15724800, 6, 15724800, 7, 15724800, 6, 15724800, 7, 15724800, 6,
     15724800, 7, 15120000, 6, 16329600, 7, 15724800, 6, 15724800, 7, 16329600, 6, 18144000, 7,
     13305600, 6, 18144000, 7, 13305600, 6, 18144000, 7, 13305600, 6, 18748800, 7, 12700800, 6,
     18748800, 7, 12700800, 6, 18748800, 7, 13305600, 6, 18144000, 7, 13305600, 6, 18144000, 7,
     13305600, 6, 18748800, 7, 12700800, 6, 18748800, 7, 12700800, 6, 18748800, 7, 12708000, 8,
     18748800, 9, 13305600, 8, 18144000, 9, 13305600, 8, 18144000, 9, 13305600, 8, 18748800, 9,
     12787200, 8, 18662400, 9, 12700800, 8, 18748800, 9, 13305600, 8, 18144000, 9, 13392000, 8,
     18057600, 9, 13305600, 8, 19353600, 9, 12096000, 8, 14155200, 4, 674288047, 4]⟩,
  ⟨"Europe/Jersey", "GMT0BST,M3.5.0/1,M10.5.0",
    [12, 1011, 0, 7200, 1, 0, 0, 0, 0, 7200, 0, 14400, 1, 14400, 1, 14400, 1, 14400, 1, 7200, 0,
     7200, 1, 0, 0, 241, 4516185599, 3, 566128800, 1, 11491200, 2, 16329600, 1, 13996800, 2,
     16243200, 1, 16416000, 2, 15638400, 1, 15811200, 2, 15638400, 1, 18230400, 2, 13824000, 1,
     15811200, 2, 15033600, 1, 16934400, 2, 16934400, 1, 12700800, 2, 18144000, 1, 13910400, 2,
     18144000, 1, 14515200, 2, 16934400, 1, 14515200, 2, 16329600, 1, 15120000, 2, 17539200, 1,
     14515200, 2, 16934400, 1, 14515200, 2, 16329600, 1, 15120000, 2, 16934400, 1, 14515200, 2,
     16934400, 1, 14515200, 2, 16329600, 1, 15724800, 2, 16934400, 1, 14515200, 2, 16329600, 1,
     15120000, 2, 16934400, 1, 14515200, 2, 16934400, 1, 14515200, 2, 16329600, 1, 15120000, 2,
     16934400, 1, 18748800, 2, 8467200, 1, 11048400, 6, 73706400, 4, 12700800, 5, 16329600, 4,
     15724800, 5, 15724800, 4, 15724800, 5, 3099600, 8, 5886000, 1, 7261200, 2, 16329600, 1,
     15120000, 2, 13910400, 1, 2415600, 7, 10281600, 1, 7261200, 2, 11491200, 1, 19958400, 2,
     13305600, 1, 18144000, 2, 14515200, 1, 16329600, 2, 15120000, 1, 16329600, 2, 15724800, 1,
     16329600, 2, 15120000, 1, 14515200, 2, 16329600, 1, 15120000, 2, 16934400, 1, 14515200, 2,
     17539200, 1, 14515200, 2, 16329600, 1, 15120000, 2, 16934400, 1, 14515200, 2, 16934400, 1,
     14515200, 2, 16329600, 1, 15120000, 2, 15120000, 1, 18748800, 2, 12700800, 1, 18748800, 2,
     13305600, 1, 18144000, 2, 12700800, 1, 18748800, 2, 12700800, 1, 18748800, 2, 12700800, 1,
     18748800, 2, 12700800, 1, 19353600, 2, 9676800, 1, 21762000, 9, 94964400, 3, 12096000, 1,
     19353600, 2, 12096000, 1, 19353600, 2, 12096000, 1, 19353600, 2, 12096000, 1, 19353600, 2,
     12700800, 1, 18748800, 2, 12700800, 1, 18748800, 2, 12700800, 1, 19353600, 2, 12096000, 1,
     19353600, 2, 12096000, 1, 19353600, 2, 13302000, 10, 18144000, 3, 13305600, 10, 18144000, 3,
     13305600, 10, 18144000, 3, 13305600, 10, 18748800, 3, 13305600, 10, 18144000, 3, 13305600, 10,
     18144000, 3, 13305600, 10, 18144000, 3, 13305600, 10, 18144000, 3, 13305600, 10, 18748800, 3,
     12700800, 10, 18748800, 3, 13305600, 10, 18144000, 3, 13305600, 10, 18144000, 3, 13305600, 10,
     18144000, 3, 13305600, 10, 18144000, 3, 13305600, 10, 18144000, 3, 13910400, 10, 18144000, 3,
     13305600, 10, 18144000, 3, 13305600, 10, 18144000, 3, 13305600, 10, 18748800, 3, 12700800, 10,
     18748800, 3, 12700800, 10, 18748800, 3, 13305600, 10, 18144000, 3, 13305600, 10, 18144000, 3,
     13305600, 10, 18748800, 3, 12700800, 10, 18748800, 3, 12700800, 10, 18748800, 3, 12700800, 10,
     18748800, 3, 13305600, 10, 18144000, 3, 13305600, 10, 18144000, 3, 13305600, 10, 18748800, 3,
     12700800, 10, 18748800, 3, 12700800, 10, 18748800, 3, 13305600, 10, 18144000, 3, 13305600, 10,
     18144000, 3, 13305600, 10, 18144000, 3, 13305600, 10, 18748800, 3, 12700800, 10, 18748800, 3,
     12700800, 10, 18748800, 3, 13305600, 10, 18144000, 3, 13305600, 10, 18144000, 3, 13305600, 10,
     18748800, 3, 12700800, 10, 18748800, 3, 12700800, 10, 18748800, 3, 13305600, 10, 18144000, 3,
     13305600, 10, 18144000, 3, 13305600, 10, 18144000, 3, 13305600, 10, 18748800, 3, 12700800, 10,
     18748800, 3, 12700800, 10, 18748800, 3, 13305600, 10, 18144000, 3, 13305600, 10, 18144000, 3,
     13305600, 10, 18748800, 3, 12700800, 10, 18748800, 3, 12700800, 10, 18748800, 3, 12700800, 10,
     18748800, 3, 13305600, 10, 18144000, 3, 13305600, 10, 18144000, 3]⟩,
  ⟨"Europe/Kaliningrad", "EET-2",
    [15, 9840, 0, 14400, 1, 7200, 0, 14400, 1, 7200, 0, 21600, 1, 14400, 0, 28800, 1, 21600, 0,
     21600, 0, 28800, 1, 21600, 1, 14400, 0, 21600, 0, 14400, 0, 80, 4844112239, 2, 728349720, 1,
     13222800, 2, 17028000, 3, 13305600, 4, 18144000, 3, 13305600, 4, 679795200, 3, 81648000, 4,
     12700800, 3, 16329600, 4, 15724800, 3, 15724800, 4, 15724800, 3, 680400, 6, 1641600, 5,
     16066800, 6, 13568400, 8, 1104015600, 7, 15807600, 8, 15728400, 7, 15807600, 8, 15728400, 7,
     15807600, 8, 15814800, 7, 15732000, 9, 15724800, 10, 15724800, 9, 15724800, 10, 15724800, 9,
     15724800, 10, 15724800, 9, 15724800, 10, 15724800, 9, 15724800, 11, 15728400, 12, 15724800, 11,
     16329600, 12, 15724800, 11, 15724800, 12, 15724800, 11, 15724800, 12, 15724800, 11, 15724800,
     12, 15724800, 11, 15724800, 12, 15724800, 11, 15724800, 12, 16329600, 11, 18144000, 12,
     13305600, 11, 18144000, 12, 13305600, 11, 18144000, 12, 13305600, 11, 18748800, 12, 12700800,
     11, 18748800, 12, 12700800, 11, 18748800, 12, 13305600, 11, 18144000, 12, 13305600, 11,
     18144000, 12, 13305600, 11, 18748800, 12, 12700800, 11, 18748800, 12, 12700800, 11, 18748800,
     12, 12700800, 11, 18748800, 12, 13305600, 11, 18144000, 12, 13305600, 11, 18144000, 12,
     13305600, 11, 18748800, 12, 12700800, 13, 113094000, 12]⟩,
  ⟨"Europe/Kirov", "MSK-3",
    [10, 23856, 0, 21600, 0, 36000, 1, 28800, 0, 28800, 0, 36000, 1, 28800, 1, 21600, 0, 28800, 0,
     21600, 0, 63, 3187641599, 1, 346280400, 3, 1602457200, 2, 15807600, 3, 15728400, 2, 15807600,
     3, 15728400, 2, 15807600, 3, 15814800, 2, 15732000, 4, 15724800, 5, 15724800, 4, 15724800, 5,
     15724800, 4, 15724800, 5, 15724800, 4, 15724800, 5, 15724800, 4, 15724800, 6, 15728400, 7,
     15724800, 6, 16329600, 7, 15724800, 4, 31446000, 6, 15728400, 7, 15724800, 6, 15724800, 7,
     15724800, 6, 15724800, 7, 15724800, 6, 15724800, 7, 16329600, 6, 18144000, 7, 13305600, 6,
     18144000, 7, 13305600, 6, 18144000, 7, 13305600, 6, 18748800, 7, 12700800, 6, 18748800, 7,
     12700800, 6, 18748800, 7, 13305600, 6, 18144000, 7, 13305600, 6, 18144000, 7, 13305600, 6,
     18748800, 7, 12700800, 6, 18748800, 7, 12700800, 6, 18748800, 7, 12700800, 6, 18748800, 7,
     13305600, 6, 18144000, 7, 13305600, 6, 18144000, 7, 13305600, 6, 18748800, 7, 12700800, 8,
     113094000, 7]⟩,
  ⟨"Europe/Kyiv", "EET-2EEST,M3.5.0/3,M10.5.0/4",
    [15, 14648, 0, 14648, 0, 14400, 0, 21600, 0, 7200, 0, 14400, 1, 14400, 1, 28800, 1, 21600, 0,
     28800, 1, 21600, 1, 14400, 0, 21600, 1, 14400, 0, 21600, 1, 121, 5680296247, 1, 1398988800, 2,
     193622524, 3, 355014000, 6, 35265600, 4, 12700800, 5, 16329600, 4, 2844000, 3, 1180303200, 7,
     15807600, 3, 15728400, 7, 15807600, 3, 15728400, 7, 15807600, 3, 15814800, 7, 15732000, 8,
     15724800, 9, 15724800, 8, 15724800, 9, 15724800, 8, 15724800, 9, 15724800, 8, 15724800, 9,
     15724800, 8, 15724800, 9, 15724800, 8, 15724800, 9, 8463600, 10, 39319200, 11, 15724800, 12,
     15724800, 11, 15724800, 12, 15724800, 11, 15724800, 12, 15724800, 11, 15724800, 12, 15724800,
     11, 16329600, 12, 18147600, 13, 13305600, 14, 18144000, 13, 13305600, 14, 18144000, 13,
     13305600, 14, 18748800, 13, 12700800, 14, 18748800, 13, 12700800, 14, 18748800, 13, 13305600,
     14, 18144000, 13, 13305600, 14, 18144000, 13, 13305600, 14, 18748800, 13, 12700800, 14,
     18748800, 13, 12700800, 14, 18748800, 13, 12700800, 14, 18748800, 13, 13305600, 14, 18144000,
     13, 13305600, 14, 18144000, 13, 13305600, 14, 18748800, 13, 12700800, 14, 18748800, 13,
     12700800, 14, 18748800, 13, 13305600, 14, 18144000, 13, 13305600, 14, 18144000, 13, 13305600,
     14, 18144000, 13, 13305600, 14, 18748800, 13, 12700800, 14, 18748800, 13, 12700800, 14,
     18748800, 13, 13305600, 14, 18144000, 13, 13305600, 14, 18144000, 13, 13305600, 14, 18748800,
     13, 12700800, 14, 18748800, 13, 12700800, 14, 18748800, 13, 13305600, 14, 18144000, 13,
     13305600, 14, 18144000, 13, 13305600, 14, 18144000, 13, 13305600, 14, 18748800, 13, 12700800,
     14, 18748800, 13, 12700800, 14, 18748800, 13, 13305600, 14, 18144000, 13, 13305600, 14,
     18144000, 13, 13305600, 14, 18748800, 13, 12700800, 14, 18748800, 13, 12700800, 14, 18748800,
     13, 12700800, 14, 18748800, 13, 13305600, 14, 18144000, 13, 13305600, 14, 18144000, 13]⟩,
  ⟨"Europe/Lisbon", "WET0WEST,M3.5.0/1,M10.5.0",
    [13, 4409, 0, 7200, 1, 0, 0, 7200, 1, 0, 0, 14400, 1, 0, 0, 7200, 0, 7200, 1, 7200, 0, 14400, 1,
     7200, 1, 0, 0, 225, 5427816389, 0, 883524195, 6, 140828400, 1, 11754000, 2, 10368000, 1,
     19695600, 2, 11840400, 1, 19695600, 2, 11840400, 1, 19695600, 2, 11926800, 1, 19695600, 2,
     11840400, 1, 19695600, 2, 79056000, 3, 14774400, 4, 48384000, 3, 14515200, 4, 16329600, 3,
     15120000, 4, 16934400, 3, 15120000, 4, 16934400, 3, 14515200, 4, 48384000, 3, 14515200, 4,
     15724800, 3, 15724800, 4, 47779200, 3, 15724800, 4, 15120000, 3, 16329600, 4, 16934400, 3,
     14515200, 4, 15724800, 3, 15724800, 4, 15120000, 3, 16329600, 4, 16934400, 3, 18748800, 4,
     8467200, 3, 19526400, 4, 15552000, 3, 15811200, 4, 13824000, 3, 3625200, 5, 9676800, 3,
     6051600, 4, 12096000, 3, 3020400, 5, 11491200, 3, 5446800, 4, 11491200, 3, 3625200, 5,
     10886400, 3, 5446800, 4, 11491200, 3, 3625200, 5, 10886400, 3, 5446800, 4, 13910400, 3,
     15724800, 4, 15735600, 3, 15724800, 4, 15724800, 3, 15724800, 4, 15724800, 3, 15724800, 4,
     15724800, 3, 15724800, 4, 15724800, 3, 16329600, 4, 15724800, 3, 15724800, 4, 15724800, 3,
     15724800, 4, 15724800, 3, 15724800, 4, 15724800, 3, 15724800, 4, 15724800, 3, 16329600, 4,
     15724800, 3, 15724800, 4, 15724800, 3, 15724800, 4, 15724800, 3, 15724800, 4, 15724800, 3,
     15724800, 4, 15724800, 3, 15724800, 4, 15724800, 3, 16329600, 4, 15724800, 3, 15724800, 4,
     15724800, 3, 15724800, 4, 15724800, 3, 15724800, 4, 15724800, 3, 15724800, 7, 315093600, 2,
     15724800, 3, 15724800, 4, 16333200, 3, 15724800, 4, 15724800, 3, 15724800, 4, 16329600, 3,
     15120000, 4, 15721200, 3, 15724800, 4, 15724800, 3, 15724800, 4, 15724800, 3, 15724800, 4,
     15724800, 3, 16329600, 4, 15724800, 3, 15724800, 4, 15728400, 8, 15724800, 6, 15724800, 8,
     15724800, 6, 15724800, 8, 15724800, 6, 15724800, 8, 15724800, 6, 15724800, 8, 16329600, 6,
     15724800, 8, 15724800, 6, 15724800, 8, 15724800, 9, 15724800, 10, 15724800, 9, 15724800, 10,
     15724800, 9, 15724800, 10, 15724800, 9, 16329600, 8, 18144000, 6, 13305600, 8, 18144000, 6,
     13305600, 8, 18144000, 6, 13305600, 8, 18748800, 6, 12700800, 8, 18748800, 6, 12700800, 8,
     18748800, 6, 13305600, 8, 18144000, 6, 13305600, 8, 18144000, 6, 13305600, 8, 18748800, 6,
     12700800, 8, 18748800, 6, 12700800, 8, 18748800, 6, 12700800, 8, 18748800, 6, 13305600, 8,
     18144000, 6, 13305600, 8, 18144000, 6, 13305600, 8, 18748800, 6, 12700800, 8, 18748800, 6,
     12700800, 8, 18748800, 6, 13305600, 8, 18144000, 6, 13305600, 8, 18144000, 6, 13305600, 8,
     18144000, 6, 13305600, 8, 18748800, 6, 12700800, 8, 18748800, 6, 12700800, 8, 18748800, 6,
     13305600, 8, 18144000, 6, 13305600, 8, 18144000, 6, 13305600, 8, 18748800, 6, 12700800, 8,
     18748800, 6, 12700800, 8, 18748800, 6, 13305600, 8, 18144000, 6, 13305600, 8, 18144000, 6,
     13305600, 8, 18144000, 6, 13305600, 8, 18748800, 6, 12700800, 8, 18748800, 6, 12700800, 8,
     18748800, 6, 13305600, 8, 18144000, 6, 13305600, 8, 18144000, 6, 13305600, 8, 18748800, 6,
     12700800, 8, 18748800, 6, 12700800, 8, 18748800, 6, 12700800, 8, 18748800, 6, 13305600, 8,
     18144000, 6, 13305600, 8, 18144000, 6]⟩,
  ⟨"Europe/Ljubljana", "CET-1CEST,M3.5.0,M10.5.0/3",
    [7, 6968, 0, 7200, 0, 7200, 0, 14400, 1, 14400, 1, 14400, 1, 7200, 0, 119, 5427827767, 1,
     1808089084, 4, 48567600, 2, 12700800, 3, 16329600, 2, 15724800, 3, 15724800, 2, 15724800, 3,
     14428800, 2, 1184198400, 5, 15724800, 6, 15724800, 5, 16329600, 6, 15724800, 5, 15724800, 6,
     15724800, 5, 15724800, 6, 15724800, 5, 15724800, 6, 15724800, 5, 15724800, 6, 15724800, 5,
     15724800, 6, 15724800, 5, 16329600, 6, 15724800, 5, 15724800, 6, 15724800, 5, 15724800, 6,
     15724800, 5, 15724800, 6, 15724800, 5, 15724800, 6, 15724800, 5, 15724800, 6, 16329600, 5,
     18144000, 6, 13305600, 5, 18144000, 6, 13305600, 5, 18144000, 6, 13305600, 5, 18748800, 6,
     12700800, 5, 18748800, 6, 12700800, 5, 18748800, 6, 13305600, 5, 18144000, 6, 13305600, 5,
     18144000, 6, 13305600, 5, 18748800, 6, 12700800, 5, 18748800, 6, 12700800, 5, 18748800, 6,
     12700800, 5, 18748800, 6, 13305600, 5, 18144000, 6, 13305600, 5, 18144000, 6, 13305600, 5,
     18748800, 6, 12700800, 5, 18748800, 6, 12700800, 5, 18748800, 6, 13305600, 5, 18144000, 6,
     13305600, 5, 18144000, 6, 13305600, 5, 18144000, 6, 13305600, 5, 18748800, 6, 12700800, 5,
     18748800, 6, 12700800, 5, 18748800, 6, 13305600, 5, 18144000, 6, 13305600, 5, 18144000, 6,
     13305600, 5, 18748800, 6, 12700800, 5, 18748800, 6, 12700800, 5, 18748800, 6, 13305600, 5,
     18144000, 6, 13305600, 5, 18144000, 6, 13305600, 5, 18144000, 6, 13305600, 5, 18748800, 6,
     12700800, 5, 18748800, 6, 12700800, 5, 18748800, 6, 13305600, 5, 18144000, 6, 13305600, 5,
     18144000, 6, 13305600, 5, 18748800, 6, 12700800, 5, 18748800, 6, 12700800, 5, 18748800, 6,
     12700800, 5, 18748800, 6, 13305600, 5, 18144000, 6, 13305600, 5, 18144000, 6]⟩,
  ⟨"Europe/London", "GMT0BST,M3.5.0/1,M10.5.0",
    [8, 149, 0, 7200, 1, 0, 0, 14400, 1, 0, 0, 7200, 0, 7200, 1, 0, 0, 242, 7705324649, 4,
     2160698325, 1, 11491200, 2, 16329600, 1, 13996800, 2, 16243200, 1, 16416000, 2, 15638400, 1,
     15811200, 2, 15638400, 1, 18230400, 2, 13824000, 1, 15811200, 2, 15033600, 1, 16934400, 2,
     16934400, 1, 12700800, 2, 18144000, 1, 13910400, 2, 18144000, 1, 14515200, 2, 16934400, 1,
     14515200, 2, 16329600, 1, 15120000, 2, 17539200, 1, 14515200, 2, 16934400, 1, 14515200, 2,
     16329600, 1, 15120000, 2, 16934400, 1, 14515200, 2, 16934400, 1, 14515200, 2, 16329600, 1,
     15724800, 2, 16934400, 1, 14515200, 2, 16329600, 1, 15120000, 2, 16934400, 1, 14515200, 2,
     16934400, 1, 14515200, 2, 16329600, 1, 15120000, 2, 16934400, 1, 18748800, 2, 8467200, 1,
     37494000, 3, 8467200, 1, 20563200, 3, 10886400, 1, 20563200, 3, 11491200, 1, 19958400, 3,
     14515200, 1, 17020800, 3, 8985600, 1, 7261200, 2, 16329600, 1, 15120000, 2, 13910400, 1,
     2415600, 3, 10281600, 1, 7261200, 2, 11491200, 1, 19958400, 2, 13305600, 1, 18144000, 2,
     14515200, 1, 16329600, 2, 15120000, 1, 16329600, 2, 15724800, 1, 16329600, 2, 15120000, 1,
     14515200, 2, 16329600, 1, 15120000, 2, 16934400, 1, 14515200, 2, 17539200, 1, 14515200, 2,
     16329600, 1, 15120000, 2, 16934400, 1, 14515200, 2, 16934400, 1, 14515200, 2, 16329600, 1,
     15120000, 2, 15120000, 1, 18748800, 2, 12700800, 1, 18748800, 2, 13305600, 1, 18144000, 2,
     12700800, 1, 18748800, 2, 12700800, 1, 18748800, 2, 12700800, 1, 18748800, 2, 12700800, 1,
     19353600, 2, 9676800, 1, 21762000, 5, 94964400, 7, 12096000, 1, 19353600, 2, 12096000, 1,
     19353600, 2, 12096000, 1, 19353600, 2, 12096000, 1, 19353600, 2, 12700800, 1, 18748800, 2,
     12700800, 1, 18748800, 2, 12700800, 1, 19353600, 2, 12096000, 1, 19353600, 2, 12096000, 1,
     19353600, 2, 13302000, 6, 18144000, 7, 13305600, 6, 18144000, 7, 13305600, 6, 18144000, 7,
     13305600, 6, 18748800, 7, 13305600, 6, 18144000, 7, 13305600, 6, 18144000, 7, 13305600, 6,
     18144000, 7, 13305600, 6, 18144000, 7, 13305600, 6, 18748800, 7, 12700800, 6, 18748800, 7,
     13305600, 6, 18144000, 7, 13305600, 6, 18144000, 7, 13305600, 6, 18144000, 7, 13305600, 6,
     18144000, 7, 13305600, 6, 18144000, 7, 13910400, 6, 18144000, 7, 13305600, 6, 18144000, 7,
     13305600, 6, 18144000, 7, 13305600, 6, 18748800, 7, 12700800, 6, 18748800, 7, 12700800, 6,
     18748800, 7, 13305600, 6, 18144000, 7, 13305600, 6, 18144000, 7, 13305600, 6, 18748800, 7,
     12700800, 6, 18748800, 7, 12700800, 6, 18748800, 7, 12700800, 6, 18748800, 7, 13305600, 6,
     18144000, 7, 13305600, 6, 18144000, 7, 13305600, 6, 18748800, 7, 12700800, 6, 18748800, 7,
     12700800, 6, 18748800, 7, 13305600, 6, 18144000, 7, 13305600, 6, 18144000, 7, 13305600, 6,
     18144000, 7, 13305600, 6, 18748800, 7, 12700800, 6, 18748800, 7, 12700800, 6, 18748800, 7,
     13305600, 6, 18144000, 7, 13305600, 6, 18144000, 7, 13305600, 6, 18748800, 7, 12700800, 6,
     18748800, 7, 12700800, 6, 18748800, 7, 13305600, 6, 18144000, 7, 13305600, 6, 18144000, 7,
     13305600, 6, 18144000, 7, 13305600, 6, 18748800, 7, 12700800, 6, 18748800, 7, 12700800, 6,
     18748800, 7, 13305600, 6, 18144000, 7, 13305600, 6, 18144000, 7, 13305600, 6, 18748800, 7,
     12700800, 6, 18748800, 7, 12700800, 6, 18748800, 7, 12700800, 6, 18748800, 7, 13305600, 6,
     18144000, 7, 13305600, 6, 18144000, 7]⟩,
  ⟨"Europe/Luxembourg", "CET-1CEST,M3.5.0,M10.5.0/3",
    [14, 2952, 0, 14400, 1, 7200, 0, 14400, 1, 7200, 0, 7200, 1, 0, 0, 0, 0, 7200, 1, 7200, 0,
     14400, 1, 14400, 1, 14400, 1, 7200, 0, 183, 4139426951, 2, 377216676, 1, 12013200, 2, 18140400,
     1, 12186000, 2, 18151200, 3, 13305600, 4, 6040800, 6, 8380800, 5, 18759600, 6, 11480400, 5,
     21780000, 6, 12261600, 5, 19447200, 6, 13039200, 5, 16938000, 6, 16930800, 5, 14522400, 6,
     15112800, 5, 16333200, 6, 15807600, 5, 15642000, 6, 16930800, 5, 14518800, 6, 16326000, 5,
     15123600, 6, 16930800, 5, 15123600, 6, 16930800, 5, 14526000, 7, 16329600, 8, 15120000, 7,
     16934400, 8, 14515200, 7, 15724800, 8, 15724800, 7, 15120000, 8, 16934400, 7, 15724800, 8,
     15724800, 7, 15120000, 8, 16329600, 7, 16934400, 8, 14515200, 7, 15724800, 8, 15724800, 7,
     15120000, 8, 16329600, 7, 16934400, 8, 18748800, 7, 8467200, 8, 6825600, 11, 77929200, 9,
     12700800, 10, 16329600, 9, 15724800, 10, 14515200, 2, 16934400, 3, 14428800, 4, 21168000, 3,
     12182400, 4, 962150400, 12, 15120000, 13, 16329600, 12, 15724800, 13, 15724800, 12, 15724800,
     13, 16329600, 12, 15120000, 13, 15724800, 12, 15724800, 13, 15724800, 12, 15724800, 13,
     15724800, 12, 15724800, 13, 15724800, 12, 16329600, 13, 15724800, 12, 15724800, 13, 15724800,
     12, 15724800, 13, 15724800, 12, 15724800, 13, 15724800, 12, 15724800, 13, 15724800, 12,
     15724800, 13, 15724800, 12, 16329600, 13, 15724800, 12, 15724800, 13, 15724800, 12, 15724800,
     13, 15724800, 12, 15724800, 13, 15724800, 12, 15724800, 13, 15724800, 12, 15724800, 13,
     16329600, 12, 18144000, 13, 13305600, 12, 18144000, 13, 13305600, 12, 18144000, 13, 13305600,
     12, 18748800, 13, 12700800, 12, 18748800, 13, 12700800, 12, 18748800, 13, 13305600, 12,
     18144000, 13, 13305600, 12, 18144000, 13, 13305600, 12, 18748800, 13, 12700800, 12, 18748800,
     13, 12700800, 12, 18748800, 13, 12700800, 12, 18748800, 13, 13305600, 12, 18144000, 13,
     13305600, 12, 18144000, 13, 13305600, 12, 18748800, 13, 12700800, 12, 18748800, 13, 12700800,
     12, 18748800, 13, 13305600, 12, 18144000, 13, 13305600, 12, 18144000, 13, 13305600, 12,
     18144000, 13, 13305600, 12, 18748800, 13, 12700800, 12, 18748800, 13, 12700800, 12, 18748800,
     13, 13305600, 12, 18144000, 13, 13305600, 12, 18144000, 13, 13305600, 12, 18748800, 13,
     12700800, 12, 18748800, 13, 12700800, 12, 18748800, 13, 13305600, 12, 18144000, 13, 13305600,
     12, 18144000, 13, 13305600, 12, 18144000, 13, 13305600, 12, 18748800, 13, 12700800, 12,
     18748800, 13, 12700800, 12, 18748800, 13, 13305600, 12, 18144000, 13, 13305600, 12, 18144000,
     13, 13305600, 12, 18748800, 13, 12700800, 12, 18748800, 13, 12700800, 12, 18748800, 13,
     12700800, 12, 18748800, 13, 13305600, 12, 18144000, 13, 13305600, 12, 18144000, 13]⟩,
  ⟨"Europe/Madrid", "CET-1CEST,M3.5.0,M10.5.0/3",
    [11, 1767, 0, 7200, 1, 0, 0, 14400, 1, 0, 0, 14400, 1, 7200, 0, 14400, 1, 7200, 0, 14400, 1,
     7200, 0, 162, 4354905599, 4, 545526000, 1, 15037200, 2, 15721200, 1, 15814800, 2, 142902000, 1,
     14778000, 2, 48380400, 1, 14518800, 2, 16326000, 1, 15123600, 2, 16934400, 1, 15120000, 2,
     16930800, 1, 14518800, 2, 242866800, 1, 9334800, 2, 15721200, 1, 2415600, 3, 13392000, 1,
     31975200, 2, 13906800, 6, 67129200, 5, 10458000, 6, 19782000, 5, 14518800, 6, 16930800, 5,
     14518800, 6, 16930800, 5, 14518800, 6, 16930800, 5, 14518800, 6, 81644400, 5, 13309200, 6,
     774140400, 5, 15123600, 6, 16326000, 5, 15123600, 6, 15116400, 5, 15728400, 6, 16326000, 5,
     15123600, 6, 16336800, 7, 15724800, 8, 15724800, 9, 15724800, 10, 16329600, 9, 15120000, 10,
     15724800, 9, 15724800, 10, 15724800, 9, 15724800, 10, 15724800, 9, 15724800, 10, 15724800, 9,
     16329600, 10, 15724800, 9, 15724800, 10, 15724800, 9, 15724800, 10, 15724800, 9, 15724800, 10,
     15724800, 9, 15724800, 10, 15724800, 9, 15724800, 10, 15724800, 9, 16329600, 10, 15724800, 9,
     15724800, 10, 15724800, 9, 15724800, 10, 15724800, 9, 15724800, 10, 15724800, 9, 15724800, 10,
     15724800, 9, 15724800, 10, 16329600, 9, 18144000, 10, 13305600, 9, 18144000, 10, 13305600, 9,
     18144000, 10, 13305600, 9, 18748800, 10, 12700800, 9, 18748800, 10, 12700800, 9, 18748800, 10,
     13305600, 9, 18144000, 10, 13305600, 9, 18144000, 10, 13305600, 9, 18748800, 10, 12700800, 9,
     18748800, 10, 12700800, 9, 18748800, 10, 12700800, 9, 18748800, 10, 13305600, 9, 18144000, 10,
     13305600, 9, 18144000, 10, 13305600, 9, 18748800, 10, 12700800, 9, 18748800, 10, 12700800, 9,
     18748800, 10, 13305600, 9, 18144000, 10, 13305600, 9, 18144000, 10, 13305600, 9, 18144000, 10,
     13305600, 9, 18748800, 10, 12700800, 9, 18748800, 10, 12700800, 9, 18748800, 10, 13305600, 9,
     18144000, 10, 13305600, 9, 18144000, 10, 13305600, 9, 18748800, 10, 12700800, 9, 18748800, 10,
     12700800, 9, 18748800, 10, 13305600, 9, 18144000, 10, 13305600, 9, 18144000, 10, 13305600, 9,
     18144000, 10, 13305600, 9, 18748800, 10, 12700800, 9, 18748800, 10, 12700800, 9, 18748800, 10,
     13305600, 9, 18144000, 10, 13305600, 9, 18144000, 10, 13305600, 9, 18748800, 10, 12700800, 9,
     18748800, 10, 12700800, 9, 18748800, 10, 12700800, 9, 18748800, 10, 13305600, 9, 18144000, 10,
     13305600, 9, 18144000, 10]⟩,
  ⟨"Europe/Malta", "CET-1CEST,M3.5.0,M10.5.0/3",
    [7, 6968, 0, 14400, 1, 7200, 0, 7200, 0, 14400, 1, 14400, 1, 7200, 0, 169, 4806957367, 2,
     712713484, 1, 10278000, 2, 15728400, 1, 15807600, 2, 13827600, 1, 18226800, 2, 12618000, 1,
     18745200, 2, 14518800, 1, 15721200, 2, 622861200, 1, 75175200, 3, 12700800, 4, 16329600, 3,
     15638400, 4, 14515200, 3, 17020800, 1, 14335200, 2, 15818400, 4, 17539200, 3, 13903200, 4,
     17539200, 3, 12708000, 4, 18748800, 3, 556408800, 4, 10882800, 2, 21171600, 4, 10281600, 3,
     21168000, 4, 10281600, 3, 21772800, 4, 10281600, 3, 21168000, 4, 10281600, 3, 20563200, 4,
     10886400, 3, 21168000, 4, 10886400, 3, 15638400, 4, 15724800, 3, 17625600, 4, 12787200, 3,
     18669600, 1, 13302000, 2, 18147600, 1, 13302000, 2, 18147600, 1, 13302000, 2, 18147600, 1,
     13302000, 2, 18147600, 1, 13302000, 2, 17024400, 1, 15030000, 2, 16333200, 5, 15724800, 6,
     15724800, 5, 15724800, 6, 15724800, 5, 15724800, 6, 15724800, 5, 16329600, 6, 15724800, 5,
     15724800, 6, 15724800, 5, 15724800, 6, 15724800, 5, 15724800, 6, 15724800, 5, 15724800, 6,
     15724800, 5, 15724800, 6, 15724800, 5, 16329600, 6, 15724800, 5, 15724800, 6, 15724800, 5,
     15724800, 6, 15724800, 5, 15724800, 6, 15724800, 5, 15724800, 6, 15724800, 5, 15724800, 6,
     16329600, 5, 18144000, 6, 13305600, 5, 18144000, 6, 13305600, 5, 18144000, 6, 13305600, 5,
     18748800, 6, 12700800, 5, 18748800, 6, 12700800, 5, 18748800, 6, 13305600, 5, 18144000, 6,
     13305600, 5, 18144000, 6, 13305600, 5, 18748800, 6, 12700800, 5, 18748800, 6, 12700800, 5,
     18748800, 6, 12700800, 5, 18748800, 6, 13305600, 5, 18144000, 6, 13305600, 5, 18144000, 6,
     13305600, 5, 18748800, 6, 12700800, 5, 18748800, 6, 12700800, 5, 18748800, 6, 13305600, 5,
     18144000, 6, 13305600, 5, 18144000, 6, 13305600, 5, 18144000, 6, 13305600, 5, 18748800, 6,
     12700800, 5, 18748800, 6, 12700800, 5, 18748800, 6, 13305600, 5, 18144000, 6, 13305600, 5,
     18144000, 6, 13305600, 5, 18748800, 6, 12700800, 5, 18748800, 6, 12700800, 5, 18748800, 6,
     13305600, 5, 18144000, 6, 13305600, 5, 18144000, 6, 13305600, 5, 18144000, 6, 13305600, 5,
     18748800, 6, 12700800, 5, 18748800, 6, 12700800, 5, 18748800, 6, 13305600, 5, 18144000, 6,
     13305600, 5, 18144000, 6, 13305600, 5, 18748800, 6, 12700800, 5, 18748800, 6, 12700800, 5,
     18748800, 6, 12700800, 5, 18748800, 6, 13305600, 5, 18144000, 6, 13305600, 5, 18144000, 6]⟩,
  ⟨"Europe/Minsk", "<+03>-3",
    [13, 13232, 0, 13200, 0, 14400, 0, 21600, 0, 7200, 0, 14400, 1, 14400, 1, 28800, 1, 21600, 0,
     28800, 1, 21600, 1, 14400, 0, 21600, 0, 69, 5680294831, 1, 1398988816, 2, 193621800, 3,
     347756400, 6, 42523200, 4, 12700800, 5, 16329600, 4, 15724800, 5, 7851600, 3, 1159570800, 7,
     15807600, 3, 15728400, 7, 15807600, 3, 15728400, 7, 15807600, 3, 15814800, 7, 15732000, 8,
     15724800, 9, 15724800, 8, 15724800, 9, 15724800, 8, 15724800, 9, 15724800, 8, 15724800, 9,
     15724800, 8, 15724800, 9, 15724800, 8, 47779200, 10, 15728400, 11, 15724800, 10, 15724800, 11,
     15724800, 10, 15724800, 11, 15724800, 10, 15724800, 11, 15724800, 10, 15724800, 11, 16329600,
     10, 18144000, 11, 13305600, 10, 18144000, 11, 13305600, 10, 18144000, 11, 13305600, 10,
     18748800, 11, 12700800, 10, 18748800, 11, 12700800, 10, 18748800, 11, 13305600, 10, 18144000,
     11, 13305600, 10, 18144000, 11, 13305600, 10, 18748800, 11, 12700800, 10, 18748800, 11,
     12700800, 10, 18748800, 11, 12700800, 10, 18748800, 11, 13305600, 10, 18144000, 11, 13305600,
     10, 18144000, 11, 13305600, 10, 18748800, 11, 12700800, 12, 846299647, 12]⟩,
  ⟨"Europe/Monaco", "CET-1CEST,M3.5.0,M10.5.0/3",
    [11, 3544, 0, 1122, 0, 7200, 1, 0, 0, 7200, 1, 14400, 1, 0, 0, 14400, 1, 7200, 0, 14400, 1,
     7200, 0, 185, 4896637143, 1, 593914811, 6, 164588961, 2, 9417600, 3, 15033600, 2, 17020800, 3,
     13219200, 2, 18230400, 3, 12614400, 2, 18835200, 3, 11404800, 2, 21772800, 3, 12268800, 2,
     19440000, 3, 13046400, 2, 16934400, 3, 19958400, 2, 11491200, 3, 15120000, 2, 16329600, 3,
     15724800, 2, 15724800, 3, 16934400, 2, 14515200, 3, 16329600, 2, 15120000, 3, 16934400, 2,
     15120000, 3, 16934400, 2, 14515200, 3, 16329600, 2, 15120000, 3, 16934400, 2, 14515200, 3,
     15724800, 2, 15724800, 3, 15120000, 2, 16934400, 3, 15724800, 2, 15724800, 3, 15120000, 2,
     16329600, 3, 16934400, 2, 14515200, 3, 15724800, 2, 15724800, 3, 15120000, 2, 16329600, 3,
     16934400, 2, 18748800, 3, 8478000, 4, 37573200, 5, 13302000, 4, 13309200, 5, 20570400, 4,
     12700800, 5, 16329600, 4, 15724800, 5, 16236000, 4, 15213600, 5, 14428800, 8, 963442800, 7,
     15721200, 8, 16336800, 9, 15120000, 10, 16329600, 9, 15724800, 10, 15724800, 9, 15724800, 10,
     16329600, 9, 15120000, 10, 15724800, 9, 15724800, 10, 15724800, 9, 15724800, 10, 15724800, 9,
     15724800, 10, 15724800, 9, 16329600, 10, 15724800, 9, 15724800, 10, 15724800, 9, 15724800, 10,
     15724800, 9, 15724800, 10, 15724800, 9, 15724800, 10, 15724800, 9, 15724800, 10, 15724800, 9,
     16329600, 10, 15724800, 9, 15724800, 10, 15724800, 9, 15724800, 10, 15724800, 9, 15724800, 10,
     15724800, 9, 15724800, 10, 15724800, 9, 15724800, 10, 16329600, 9, 18144000, 10, 13305600, 9,
     18144000, 10, 13305600, 9, 18144000, 10, 13305600, 9, 18748800, 10, 12700800, 9, 18748800, 10,
     12700800, 9, 18748800, 10, 13305600, 9, 18144000, 10, 13305600, 9, 18144000, 10, 13305600, 9,
     18748800, 10, 12700800, 9, 18748800, 10, 12700800, 9, 18748800, 10, 12700800, 9, 18748800, 10,
     13305600, 9, 18144000, 10, 13305600, 9, 18144000, 10, 13305600, 9, 18748800, 10, 12700800, 9,
     18748800, 10, 12700800, 9, 18748800, 10, 13305600, 9, 18144000, 10, 13305600, 9, 18144000, 10,
     13305600, 9, 18144000, 10, 13305600, 9, 18748800, 10, 12700800, 9, 18748800, 10, 12700800, 9,
     18748800, 10, 13305600, 9, 18144000, 10, 13305600, 9, 18144000, 10, 13305600, 9, 18748800, 10,
     12700800, 9, 18748800, 10, 12700800, 9, 18748800, 10, 13305600, 9, 18144000, 10, 13305600, 9,
     18144000, 10, 13305600, 9, 18144000, 10, 13305600, 9, 18748800, 10, 12700800, 9, 18748800, 10,
     12700800, 9, 18748800, 10, 13305600, 9, 18144000, 10, 13305600, 9, 18144000, 10, 13305600, 9,
     18748800, 10, 12700800, 9, 18748800, 10, 12700800, 9, 18748800, 10, 12700800, 9, 18748800, 10,
     13305600, 9, 18144000, 10, 13305600, 9, 18144000, 10]⟩,
  ⟨"Europe/Moscow", "MSK-3",
    [17, 18034, 0, 18034, 0, 25358, 1, 18158, 0, 32558, 1, 28800, 1, 21600, 0, 28800, 1, 36000, 1,
     14400, 0, 21600, 0, 28800, 1, 21600, 1, 14400, 0, 28800, 0, 28800, 1, 21600, 0, 78, 5680299633,
     1, 1151884800, 3, 31445938, 2, 15465600, 3, 13388400, 4, 9248400, 2, 22287600, 4, 2608279, 5,
     3960000, 6, 47433600, 7, 2934000, 8, 14169600, 7, 2595600, 6, 31539600, 9, 243651600, 6,
     1602457200, 7, 15807600, 6, 15728400, 7, 15807600, 6, 15728400, 7, 15807600, 6, 15814800, 7,
     15732000, 10, 15724800, 11, 15724800, 10, 15724800, 11, 15724800, 10, 15724800, 11, 15724800,
     10, 15724800, 11, 15724800, 10, 15724800, 11, 15724800, 10, 15724800, 11, 16329600, 10,
     15724800, 12, 15728400, 13, 9676800, 10, 6044400, 11, 15724800, 10, 15724800, 11, 15724800, 10,
     15724800, 11, 15724800, 10, 15724800, 11, 15724800, 10, 16329600, 11, 18144000, 10, 13305600,
     11, 18144000, 10, 13305600, 11, 18144000, 10, 13305600, 11, 18748800, 10, 12700800, 11,
     18748800, 10, 12700800, 11, 18748800, 10, 13305600, 11, 18144000, 10, 13305600, 11, 18144000,
     10, 13305600, 11, 18748800, 10, 12700800, 11, 18748800, 10, 12700800, 11, 18748800, 10,
     12700800, 11, 18748800, 10, 13305600, 11, 18144000, 10, 13305600, 11, 18144000, 10, 13305600,
     11, 18748800, 10, 12700800, 14, 113094000, 10]⟩,
  ⟨"Europe/Oslo", "CET-1CEST,M3.5.0,M10.5.0/3",
    [7, 5160, 0, 14400, 1, 7200, 0, 7200, 0, 14400, 1, 14400, 1, 7200, 0, 141, 4733515559, 2,
     674872980, 1, 11311200, 2, 753062400, 1, 70254000, 3, 12700800, 4, 16329600, 3, 15724800, 4,
     15724800, 3, 15724800, 4, 15724800, 3, 424483200, 4, 16329600, 3, 15724800, 4, 15724800, 3,
     15724800, 4, 15724800, 3, 15724800, 4, 15724800, 3, 15724800, 4, 15724800, 3, 15724800, 4,
     16329600, 3, 18748800, 4, 12700800, 3, 459043200, 5, 15120000, 6, 15724800, 5, 15724800, 6,
     15724800, 5, 15724800, 6, 15724800, 5, 15724800, 6, 15724800, 5, 16329600, 6, 15724800, 5,
     15724800, 6, 15724800, 5, 15724800, 6, 15724800, 5, 15724800, 6, 15724800, 5, 15724800, 6,
     15724800, 5, 15724800, 6, 15724800, 5, 16329600, 6, 15724800, 5, 15724800, 6, 15724800, 5,
     15724800, 6, 15724800, 5, 15724800, 6, 15724800, 5, 15724800, 6, 15724800, 5, 15724800, 6,
     16329600, 5, 18144000, 6, 13305600, 5, 18144000, 6, 13305600, 5, 18144000, 6, 13305600, 5,
     18748800, 6, 12700800, 5, 18748800, 6, 12700800, 5, 18748800, 6, 13305600, 5, 18144000, 6,
     13305600, 5, 18144000, 6, 13305600, 5, 18748800, 6, 12700800, 5, 18748800, 6, 12700800, 5,
     18748800, 6, 12700800, 5, 18748800, 6, 13305600, 5, 18144000, 6, 13305600, 5, 18144000, 6,
     13305600, 5, 18748800, 6, 12700800, 5, 18748800, 6, 12700800, 5, 18748800, 6, 13305600, 5,
     18144000, 6, 13305600, 5, 18144000, 6, 13305600, 5, 18144000, 6, 13305600, 5, 18748800, 6,
     12700800, 5, 18748800, 6, 12700800, 5, 18748800, 6, 13305600, 5, 18144000, 6, 13305600, 5,
     18144000, 6, 13305600, 5, 18748800, 6, 12700800, 5, 18748800, 6, 12700800, 5, 18748800, 6,
     13305600, 5, 18144000, 6, 13305600, 5, 18144000, 6, 13305600, 5, 18144000, 6, 13305600, 5,
     18748800, 6, 12700800, 5, 18748800, 6, 12700800, 5, 18748800, 6, 13305600, 5, 18144000, 6,
     13305600, 5, 18144000, 6, 13305600, 5, 18748800, 6, 12700800, 5, 18748800, 6, 12700800, 5,
     18748800, 6, 12700800, 5, 18748800, 6, 13305600, 5, 18144000, 6, 13305600, 5, 18144000, 6]⟩,
  ⟨"Europe/Paris", "CET-1CEST,M3.5.0,M10.5.0/3",
    [13, 1122, 0, 1122, 0, 7200, 1, 0, 0, 7200, 1, 0, 0, 7200, 0, 14400, 1, 14400, 1, 14400, 1,
     7200, 0, 14400, 1, 7200, 0, 184, 4973185121, 1, 630633600, 5, 166144161, 2, 9417600, 3,
     15033600, 2, 17020800, 3, 13219200, 2, 18230400, 3, 12614400, 2, 18835200, 3, 11404800, 2,
     21772800, 3, 12268800, 2, 19440000, 3, 13046400, 2, 16934400, 3, 19958400, 2, 11491200, 3,
     15120000, 2, 16329600, 3, 15724800, 2, 15724800, 3, 16934400, 2, 14515200, 3, 16329600, 2,
     15120000, 3, 16934400, 2, 15120000, 3, 16934400, 2, 14515200, 3, 16329600, 2, 15120000, 3,
     16934400, 2, 14515200, 3, 15724800, 2, 15724800, 3, 15120000, 2, 16934400, 3, 15724800, 2,
     15724800, 3, 15120000, 2, 16329600, 3, 16934400, 2, 14515200, 3, 15724800, 2, 15724800, 3,
     15120000, 2, 16329600, 3, 16934400, 2, 18748800, 3, 8478000, 4, 9576000, 8, 75178800, 6,
     12700800, 7, 16329600, 6, 15724800, 7, 12430800, 9, 3805200, 4, 15213600, 9, 14428800, 10,
     963442800, 8, 15721200, 10, 16336800, 11, 15120000, 12, 16329600, 11, 15724800, 12, 15724800,
     11, 15724800, 12, 16329600, 11, 15120000, 12, 15724800, 11, 15724800, 12, 15724800, 11,
     15724800, 12, 15724800, 11, 15724800, 12, 15724800, 11, 16329600, 12, 15724800, 11, 15724800,
     12, 15724800, 11, 15724800, 12, 15724800, 11, 15724800, 12, 15724800, 11, 15724800, 12,
     15724800, 11, 15724800, 12, 15724800, 11, 16329600, 12, 15724800, 11, 15724800, 12, 15724800,
     11, 15724800, 12, 15724800, 11, 15724800, 12, 15724800, 11, 15724800, 12, 15724800, 11,
     15724800, 12, 16329600, 11, 18144000, 12, 13305600, 11, 18144000, 12, 13305600, 11, 18144000,
     12, 13305600, 11, 18748800, 12, 12700800, 11, 18748800, 12, 12700800, 11, 18748800, 12,
     13305600, 11, 18144000, 12, 13305600, 11, 18144000, 12, 13305600, 11, 18748800, 12, 12700800,
     11, 18748800, 12, 12700800, 11, 18748800, 12, 12700800, 11, 18748800, 12, 13305600, 11,
     18144000, 12, 13305600, 11, 18144000, 12, 13305600, 11, 18748800, 12, 12700800, 11, 18748800,
     12, 12700800, 11, 18748800, 12, 13305600, 11, 18144000, 12, 13305600, 11, 18144000, 12,
     13305600, 11, 18144000, 12, 13305600, 11, 18748800, 12, 12700800, 11, 18748800, 12, 12700800,
     11, 18748800, 12, 13305600, 11, 18144000, 12, 13305600, 11, 18144000, 12, 13305600, 11,
     18748800, 12, 12700800, 11, 18748800, 12, 12700800, 11, 18748800, 12, 13305600, 11, 18144000,
     12, 13305600, 11, 18144000, 12, 13305600, 11, 18144000, 12, 13305600, 11, 18748800, 12,
     12700800, 11, 18748800, 12, 12700800, 11, 18748800, 12, 13305600, 11, 18144000, 12, 13305600,
     11, 18144000, 12, 13305600, 11, 18748800, 12, 12700800, 11, 18748800, 12, 12700800, 11,
     18748800, 12, 12700800, 11, 18748800, 12, 13305600, 11, 18144000, 12, 13305600, 11, 18144000,
     12]⟩,
  ⟨"Europe/Prague", "CET-1CEST,M3.5.0,M10.5.0/3",
    [9, 6928, 0, 6928, 0, 14400, 1, 7200, 0, 14400, 1, 7200, 0, 0, 0, 14400, 1, 7200, 0, 144,
     7573658127, 1, 1317427200, 3, 775695464, 2, 13222800, 3, 17028000, 4, 13305600, 5, 18144000, 4,
     13305600, 5, 679795200, 4, 81648000, 5, 12700800, 4, 16329600, 5, 15724800, 4, 15724800, 5,
     15724800, 4, 15724800, 5, 18748800, 4, 13219200, 5, 4842000, 6, 7257600, 3, 4834800, 4,
     14515200, 5, 16934400, 4, 14515200, 5, 16243200, 4, 15206400, 5, 930787200, 7, 15724800, 8,
     16329600, 7, 15120000, 8, 15724800, 7, 15724800, 8, 15724800, 7, 15724800, 8, 15724800, 7,
     15724800, 8, 15724800, 7, 16329600, 8, 15724800, 7, 15724800, 8, 15724800, 7, 15724800, 8,
     15724800, 7, 15724800, 8, 15724800, 7, 15724800, 8, 15724800, 7, 15724800, 8, 15724800, 7,
     16329600, 8, 15724800, 7, 15724800, 8, 15724800, 7, 15724800, 8, 15724800, 7, 15724800, 8,
     15724800, 7, 15724800, 8, 15724800, 7, 15724800, 8, 16329600, 7, 18144000, 8, 13305600, 7,
     18144000, 8, 13305600, 7, 18144000, 8, 13305600, 7, 18748800, 8, 12700800, 7, 18748800, 8,
     12700800, 7, 18748800, 8, 13305600, 7, 18144000, 8, 13305600, 7, 18144000, 8, 13305600, 7,
     18748800, 8, 12700800, 7, 18748800, 8, 12700800, 7, 18748800, 8, 12700800, 7, 18748800, 8,
     13305600, 7, 18144000, 8, 13305600, 7, 18144000, 8, 13305600, 7, 18748800, 8, 12700800, 7,
     18748800, 8, 12700800, 7, 18748800, 8, 13305600, 7, 18144000, 8, 13305600, 7, 18144000, 8,
     13305600, 7, 18144000, 8, 13305600, 7, 18748800, 8, 12700800, 7, 18748800, 8, 12700800, 7,
     18748800, 8, 13305600, 7, 18144000, 8, 13305600, 7, 18144000, 8, 13305600, 7, 18748800, 8,
     12700800, 7, 18748800, 8, 12700800, 7, 18748800, 8, 13305600, 7, 18144000, 8, 13305600, 7,
     18144000, 8, 13305600, 7, 18144000, 8, 13305600, 7, 18748800, 8, 12700800, 7, 18748800, 8,
     12700800, 7, 18748800, 8, 13305600, 7, 18144000, 8, 13305600, 7, 18144000, 8, 13305600, 7,
     18748800, 8, 12700800, 7, 18748800, 8, 12700800, 7, 18748800, 8, 12700800, 7, 18748800, 8,
     13305600, 7, 18144000, 8, 13305600, 7, 18144000, 8]⟩,
  ⟨"Europe/Riga", "EET-2EEST,M3.5.0/3,M10.5.0/4",
    [15, 11588, 0, 11588, 0, 18788, 1, 14400, 0, 21600, 0, 7200, 0, 14400, 1, 14400, 1, 28800, 1,
     21600, 0, 28800, 1, 21600, 1, 14400, 0, 21600, 1, 14400, 0, 126, 5680293187, 1, 1208138400, 2,
     13305600, 1, 17020800, 2, 4406400, 1, 219967200, 3, 449278594, 4, 28508400, 7, 42264000, 5,
     12700800, 6, 16329600, 5, 15724800, 6, 15724800, 5, 943200, 4, 1150754400, 8, 15807600, 4,
     15728400, 8, 15807600, 4, 15728400, 8, 15807600, 4, 15814800, 8, 15732000, 9, 15724800, 10,
     15724800, 9, 15724800, 10, 15724800, 9, 15724800, 10, 15724800, 9, 15724800, 10, 15724800, 9,
     15724800, 11, 15728400, 12, 15724800, 11, 16329600, 12, 15724800, 11, 15724800, 12, 15724800,
     11, 15724800, 12, 15724800, 11, 15724800, 12, 15724800, 11, 15724800, 12, 15724800, 11,
     15724800, 12, 16329600, 11, 15724800, 12, 15728400, 13, 18144000, 14, 13305600, 13, 18144000,
     14, 13305600, 13, 18748800, 14, 44150400, 13, 18748800, 14, 13305600, 13, 18144000, 14,
     13305600, 13, 18144000, 14, 13305600, 13, 18748800, 14, 12700800, 13, 18748800, 14, 12700800,
     13, 18748800, 14, 12700800, 13, 18748800, 14, 13305600, 13, 18144000, 14, 13305600, 13,
     18144000, 14, 13305600, 13, 18748800, 14, 12700800, 13, 18748800, 14, 12700800, 13, 18748800,
     14, 13305600, 13, 18144000, 14, 13305600, 13, 18144000, 14, 13305600, 13, 18144000, 14,
     13305600, 13, 18748800, 14, 12700800, 13, 18748800, 14, 12700800, 13, 18748800, 14, 13305600,
     13, 18144000, 14, 13305600, 13, 18144000, 14, 13305600, 13, 18748800, 14, 12700800, 13,
     18748800, 14, 12700800, 13, 18748800, 14, 13305600, 13, 18144000, 14, 13305600, 13, 18144000,
     14, 13305600, 13, 18144000, 14, 13305600, 13, 18748800, 14, 12700800, 13, 18748800, 14,
     12700800, 13, 18748800, 14, 13305600, 13, 18144000, 14, 13305600, 13, 18144000, 14, 13305600,
     13, 18748800, 14, 12700800, 13, 18748800, 14, 12700800, 13, 18748800, 14, 12700800, 13,
     18748800, 14, 13305600, 13, 18144000, 14, 13305600, 13, 18144000, 14]⟩,
  ⟨"Europe/Rome", "CET-1CEST,M3.5.0,M10.5.0/3",
    [8, 5992, 0, 5992, 0, 14400, 1, 7200, 0, 7200, 0, 14400, 1, 7200, 0, 14400, 1, 170, 6504197991,
     1, 848533796, 6, 712800000, 2, 10278000, 3, 15728400, 2, 15807600, 3, 13827600, 2, 18226800, 3,
     12618000, 2, 18745200, 3, 14518800, 2, 15721200, 3, 622861200, 2, 75175200, 4, 12700800, 5,
     16329600, 4, 15724800, 5, 14428800, 4, 17020800, 2, 14335200, 3, 15818400, 5, 17539200, 4,
     13903200, 5, 17539200, 4, 12708000, 5, 18748800, 4, 556408800, 5, 10882800, 3, 21171600, 5,
     10281600, 4, 21168000, 5, 10281600, 4, 21772800, 5, 10281600, 4, 21168000, 5, 10281600, 4,
     20563200, 5, 10886400, 4, 21168000, 5, 10886400, 4, 21168000, 5, 10281600, 4, 20563200, 5,
     10886400, 4, 21168000, 5, 10281600, 4, 21168000, 5, 10281600, 4, 20563200, 5, 10886400, 4,
     21168000, 5, 10886400, 4, 20563200, 5, 10886400, 4, 16336800, 7, 15120000, 6, 15724800, 7,
     15724800, 6, 15724800, 7, 15724800, 6, 15724800, 7, 15724800, 6, 15724800, 7, 16329600, 6,
     15724800, 7, 15724800, 6, 15724800, 7, 15724800, 6, 15724800, 7, 15724800, 6, 15724800, 7,
     15724800, 6, 15724800, 7, 15724800, 6, 15724800, 7, 16329600, 6, 15724800, 7, 15724800, 6,
     15724800, 7, 15724800, 6, 15724800, 7, 15724800, 6, 15724800, 7, 15724800, 6, 15724800, 7,
     15724800, 6, 16329600, 7, 18144000, 6, 13305600, 7, 18144000, 6, 13305600, 7, 18144000, 6,
     13305600, 7, 18748800, 6, 12700800, 7, 18748800, 6, 12700800, 7, 18748800, 6, 13305600, 7,
     18144000, 6, 13305600, 7, 18144000, 6, 13305600, 7, 18748800, 6, 12700800, 7, 18748800, 6,
     12700800, 7, 18748800, 6, 12700800, 7, 18748800, 6, 13305600, 7, 18144000, 6, 13305600, 7,
     18144000, 6, 13305600, 7, 18748800, 6, 12700800, 7, 18748800, 6, 12700800, 7, 18748800, 6,
     13305600, 7, 18144000, 6, 13305600, 7, 18144000, 6, 13305600, 7, 18144000, 6, 13305600, 7,
     18748800, 6, 12700800, 7, 18748800, 6, 12700800, 7, 18748800, 6, 13305600, 7, 18144000, 6,
     13305600, 7, 18144000, 6, 13305600, 7, 18748800, 6, 12700800, 7, 18748800, 6, 12700800, 7,
     18748800, 6, 13305600, 7, 18144000, 6, 13305600, 7, 18144000, 6, 13305600, 7, 18144000, 6,
     13305600, 7, 18748800, 6, 12700800, 7, 18748800, 6, 12700800, 7, 18748800, 6, 13305600, 7,
     18144000, 6, 13305600, 7, 18144000, 6, 13305600, 7, 18748800, 6, 12700800, 7, 18748800, 6,
     12700800, 7, 18748800, 6, 12700800, 7, 18748800, 6, 13305600, 7, 18144000, 6, 13305600, 7,
     18144000, 6]⟩,
  ⟨"Europe/Samara", "<+04>-4",
    [11, 24040, 0, 21600, 0, 28800, 0, 36000, 1, 28800, 0, 36000, 1, 28800, 1, 21600, 0, 21600, 1,
     28800, 1, 28800, 0, 65, 3187641599, 1, 346280400, 2, 1602457200, 3, 15807600, 2, 15728400, 3,
     15807600, 2, 15728400, 3, 15807600, 2, 15814800, 3, 15732000, 4, 15724800, 5, 15724800, 4,
     15724800, 5, 15724800, 4, 15724800, 5, 15724800, 4, 15724800, 5, 15724800, 4, 15724800, 6,
     15728400, 7, 15724800, 6, 16329600, 7, 15724800, 8, 15728400, 7, 1814400, 2, 13903200, 5,
     15724800, 4, 15724800, 5, 15724800, 4, 15724800, 5, 15724800, 4, 15724800, 5, 15724800, 4,
     16329600, 5, 18144000, 4, 13305600, 5, 18144000, 4, 13305600, 5, 18144000, 4, 13305600, 5,
     18748800, 4, 12700800, 5, 18748800, 4, 12700800, 5, 18748800, 4, 13305600, 5, 18144000, 4,
     13305600, 5, 18144000, 4, 13305600, 5, 18748800, 4, 12700800, 5, 18748800, 4, 12700800, 5,
     18748800, 4, 12700800, 5, 18748800, 4, 13305600, 5, 18144000, 4, 13305600, 5, 18144000, 4,
     13305600, 6, 18752400, 7, 12700800, 4, 846303247, 4]⟩,
  ⟨"Europe/Sarajevo", "CET-1CEST,M3.5.0,M10.5.0/3",
    [7, 8840, 0, 7200, 0, 7200, 0, 14400, 1, 14400, 1, 14400, 1, 7200, 0, 119, 5427829639, 1,
     1808090020, 4, 48567600, 2, 12700800, 3, 16329600, 2, 15724800, 3, 15724800, 2, 15724800, 3,
     14428800, 2, 1184198400, 5, 15724800, 6, 15724800, 5, 16329600, 6, 15724800, 5, 15724800, 6,
     15724800, 5, 15724800, 6, 15724800, 5, 15724800, 6, 15724800, 5, 15724800, 6, 15724800, 5,
     15724800, 6, 15724800, 5, 16329600, 6, 15724800, 5, 15724800, 6, 15724800, 5, 15724800, 6,
     15724800, 5, 15724800, 6, 15724800, 5, 15724800, 6, 15724800, 5, 15724800, 6, 16329600, 5,
     18144000, 6, 13305600, 5, 18144000, 6, 13305600, 5, 18144000, 6, 13305600, 5, 18748800, 6,
     12700800, 5, 18748800, 6, 12700800, 5, 18748800, 6, 13305600, 5, 18144000, 6, 13305600, 5,
     18144000, 6, 13305600, 5, 18748800, 6, 12700800, 5, 18748800, 6, 12700800, 5, 18748800, 6,
     12700800, 5, 18748800, 6, 13305600, 5, 18144000, 6, 13305600, 5, 18144000, 6, 13305600, 5,
     18748800, 6, 12700800, 5, 18748800, 6, 12700800, 5, 18748800, 6, 13305600, 5, 18144000, 6,
     13305600, 5, 18144000, 6, 13305600, 5, 18144000, 6, 13305600, 5, 18748800, 6, 12700800, 5,
     18748800, 6, 12700800, 5, 18748800, 6, 13305600, 5, 18144000, 6, 13305600, 5, 18144000, 6,
     13305600, 5, 18748800, 6, 12700800, 5, 18748800, 6, 12700800, 5, 18748800, 6, 13305600, 5,
     18144000, 6, 13305600, 5, 18144000, 6, 13305600, 5, 18144000, 6, 13305600, 5, 18748800, 6,
     12700800, 5, 18748800, 6, 12700800, 5, 18748800, 6, 13305600, 5, 18144000, 6, 13305600, 5,
     18144000, 6, 13305600, 5, 18748800, 6, 12700800, 5, 18748800, 6, 12700800, 5, 18748800, 6,
     12700800, 5, 18748800, 6, 13305600, 5, 18144000, 6, 13305600, 5, 18144000, 6]⟩,
  ⟨"Europe/Saratov", "<+04>-4",
    [9, 22116, 0, 21600, 0, 36000, 1, 28800, 0, 28800, 0, 36000, 1, 28800, 1, 21600, 0, 28800, 0,
     65, 3187641599, 1, 346280400, 3, 1602457200, 2, 15807600, 3, 15728400, 2, 15807600, 3,
     15728400, 2, 15807600, 3, 15814800, 2, 15732000, 4, 15724800, 5, 15724800, 4, 15724800, 5,
     15724800, 4, 15724800, 5, 15724800, 4, 15724800, 6, 15728400, 7, 15724800, 6, 15724800, 7,
     15724800, 6, 16329600, 7, 15724800, 4, 31446000, 6, 15728400, 7, 15724800, 6, 15724800, 7,
     15724800, 6, 15724800, 7, 15724800, 6, 15724800, 7, 16329600, 6, 18144000, 7, 13305600, 6,
     18144000, 7, 13305600, 6, 18144000, 7, 13305600, 6, 18748800, 7, 12700800, 6, 18748800, 7,
     12700800, 6, 18748800, 7, 13305600, 6, 18144000, 7, 13305600, 6, 18144000, 7, 13305600, 6,
     18748800, 7, 12700800, 6, 18748800, 7, 12700800, 6, 18748800, 7, 12700800, 6, 18748800, 7,
     13305600, 6, 18144000, 7, 13305600, 6, 18144000, 7, 13305600, 6, 18748800, 7, 12700800, 4,
     113094000, 7, 66531600, 4, 666677647, 4]⟩,
  ⟨"Europe/Simferopol", "MSK-3",
    [16, 16368, 0, 16320, 0, 14400, 0, 21600, 0, 7200, 0, 14400, 1, 14400, 1, 28800, 1, 21600, 0,
     28800, 1, 21600, 1, 14400, 0, 21600, 1, 14400, 0, 28800, 0, 21600, 0, 75, 5680297967, 1,
     1398988824, 2, 193623360, 3, 358642800, 6, 31636800, 4, 12700800, 5, 16329600, 4, 15724800, 5,
     853200, 3, 1166569200, 7, 15807600, 3, 15728400, 7, 15807600, 3, 15728400, 7, 15807600, 3,
     15814800, 7, 15732000, 8, 15724800, 9, 15724800, 8, 15724800, 9, 15724800, 8, 15724800, 9,
     15724800, 8, 15724800, 9, 15724800, 8, 15724800, 9, 15724800, 8, 24192000, 2, 55040400, 10,
     15724800, 11, 15724800, 10, 15724800, 11, 15724800, 10, 3013200, 7, 12708000, 8, 15724800, 9,
     15724800, 8, 16322400, 9, 18154800, 8, 13309200, 12, 18144000, 13, 13305600, 12, 18144000, 13,
     13305600, 12, 18748800, 13, 12700800, 12, 18748800, 13, 12700800, 12, 18748800, 13, 13305600,
     12, 18144000, 13, 13305600, 12, 18144000, 13, 13305600, 12, 18748800, 13, 12700800, 12,
     18748800, 13, 12700800, 12, 18748800, 13, 12700800, 12, 18748800, 13, 13305600, 12, 18144000,
     13, 13305600, 12, 18144000, 13, 13305600, 12, 18748800, 13, 12700800, 12, 18748800, 13,
     12700800, 12, 18748800, 13, 13305600, 12, 18144000, 13, 13302000, 14, 18136800, 8]⟩,
  ⟨"Europe/Skopje", "CET-1CEST,M3.5.0,M10.5.0/3",
    [7, 10288, 0, 7200, 0, 7200, 0, 14400, 1, 14400, 1, 14400, 1, 7200, 0, 119, 5427831087, 1,
     1808090744, 4, 48567600, 2, 12700800, 3, 16329600, 2, 15724800, 3, 15724800, 2, 15724800, 3,
     14428800, 2, 1184198400, 5, 15724800, 6, 15724800, 5, 16329600, 6, 15724800, 5, 15724800, 6,
     15724800, 5, 15724800, 6, 15724800, 5, 15724800, 6, 15724800, 5, 15724800, 6, 15724800, 5,
     15724800, 6, 15724800, 5, 16329600, 6, 15724800, 5, 15724800, 6, 15724800, 5, 15724800, 6,
     15724800, 5, 15724800, 6, 15724800, 5, 15724800, 6, 15724800, 5, 15724800, 6, 16329600, 5,
     18144000, 6, 13305600, 5, 18144000, 6, 13305600, 5, 18144000, 6, 13305600, 5, 18748800, 6,
     12700800, 5, 18748800, 6, 12700800, 5, 18748800, 6, 13305600, 5, 18144000, 6, 13305600, 5,
     18144000, 6, 13305600, 5, 18748800, 6, 12700800, 5, 18748800, 6, 12700800, 5, 18748800, 6,
     12700800, 5, 18748800, 6, 13305600, 5, 18144000, 6, 13305600, 5, 18144000, 6, 13305600, 5,
     18748800, 6, 12700800, 5, 18748800, 6, 12700800, 5, 18748800, 6, 13305600, 5, 18144000, 6,
     13305600, 5, 18144000, 6, 13305600, 5, 18144000, 6, 13305600, 5, 18748800, 6, 12700800, 5,
     18748800, 6, 12700800, 5, 18748800, 6, 13305600, 5, 18144000, 6, 13305600, 5, 18144000, 6,
     13305600, 5, 18748800, 6, 12700800, 5, 18748800, 6, 12700800, 5, 18748800, 6, 13305600, 5,
     18144000, 6, 13305600, 5, 18144000, 6, 13305600, 5, 18144000, 6, 13305600, 5, 18748800, 6,
     12700800, 5, 18748800, 6, 12700800, 5, 18748800, 6, 13305600, 5, 18144000, 6, 13305600, 5,
     18144000, 6, 13305600, 5, 18748800, 6, 12700800, 5, 18748800, 6, 12700800, 5, 18748800, 6,
     12700800, 5, 18748800, 6, 13305600, 5, 18144000, 6, 13305600, 5, 18144000, 6]⟩,
  ⟨"Europe/Sofia", "EET-2EEST,M3.5.0/3,M10.5.0/4",
    [10, 11192, 0, 14032, 0, 14400, 0, 7200, 0, 14400, 1, 21600, 1, 14400, 0, 21600, 1, 21600, 1,
     14400, 0, 126, 5680292791, 1, 470619380, 2, 1512269816, 3, 12700800, 4, 16329600, 3, 15724800,
     4, 15724800, 3, 15728400, 2, 1072810800, 5, 15814800, 2, 16239600, 5, 15210000, 2, 16239600, 5,
     15127200, 2, 16322400, 5, 15130800, 6, 15724800, 7, 15724800, 6, 15724800, 7, 16329600, 6,
     15724800, 7, 15724800, 6, 15724800, 7, 15724800, 6, 15724800, 7, 15724800, 6, 15724800, 7,
     15724800, 6, 15724800, 7, 15724800, 6, 15724800, 7, 16329600, 6, 15717600, 5, 15721200, 2,
     15728400, 5, 15721200, 2, 15728400, 5, 15721200, 2, 15728400, 5, 15721200, 2, 15728400, 5,
     15721200, 2, 16333200, 5, 18140400, 2, 13320000, 8, 18144000, 9, 13305600, 8, 18144000, 9,
     13305600, 8, 18748800, 9, 12700800, 8, 18748800, 9, 12700800, 8, 18748800, 9, 13305600, 8,
     18144000, 9, 13305600, 8, 18144000, 9, 13305600, 8, 18748800, 9, 12700800, 8, 18748800, 9,
     12700800, 8, 18748800, 9, 12700800, 8, 18748800, 9, 13305600, 8, 18144000, 9, 13305600, 8,
     18144000, 9, 13305600, 8, 18748800, 9, 12700800, 8, 18748800, 9, 12700800, 8, 18748800, 9,
     13305600, 8, 18144000, 9, 13305600, 8, 18144000, 9, 13305600, 8, 18144000, 9, 13305600, 8,
     18748800, 9, 12700800, 8, 18748800, 9, 12700800, 8, 18748800, 9, 13305600, 8, 18144000, 9,
     13305600, 8, 18144000, 9, 13305600, 8, 18748800, 9, 12700800, 8, 18748800, 9, 12700800, 8,
     18748800, 9, 13305600, 8, 18144000, 9, 13305600, 8, 18144000, 9, 13305600, 8, 18144000, 9,
     13305600, 8, 18748800, 9, 12700800, 8, 18748800, 9, 12700800, 8, 18748800, 9, 13305600, 8,
     18144000, 9, 13305600, 8, 18144000, 9, 13305600, 8, 18748800, 9, 12700800, 8, 18748800, 9,
     12700800, 8, 18748800, 9, 12700800, 8, 18748800, 9, 13305600, 8, 18144000, 9, 13305600, 8,
     18144000, 9]⟩,
  ⟨"Europe/Stockholm", "CET-1CEST,M3.5.0,M10.5.0/3",
    [6, 8664, 0, 7228, 0, 7200, 0, 14400, 1, 14400, 1, 7200, 0, 120, 5743362263, 1, 662688718, 2,
     516495614, 3, 12013200, 2, 2004314400, 4, 15120000, 5, 15724800, 4, 15724800, 5, 15724800, 4,
     15724800, 5, 15724800, 4, 15724800, 5, 15724800, 4, 16329600, 5, 15724800, 4, 15724800, 5,
     15724800, 4, 15724800, 5, 15724800, 4, 15724800, 5, 15724800, 4, 15724800, 5, 15724800, 4,
     15724800, 5, 15724800, 4, 16329600, 5, 15724800, 4, 15724800, 5, 15724800, 4, 15724800, 5,
     15724800, 4, 15724800, 5, 15724800, 4, 15724800, 5, 15724800, 4, 15724800, 5, 16329600, 4,
     18144000, 5, 13305600, 4, 18144000, 5, 13305600, 4, 18144000, 5, 13305600, 4, 18748800, 5,
     12700800, 4, 18748800, 5, 12700800, 4, 18748800, 5, 13305600, 4, 18144000, 5, 13305600, 4,
     18144000, 5, 13305600, 4, 18748800, 5, 12700800, 4, 18748800, 5, 12700800, 4, 18748800, 5,
     12700800, 4, 18748800, 5, 13305600, 4, 18144000, 5, 13305600, 4, 18144000, 5, 13305600, 4,
     18748800, 5, 12700800, 4, 18748800, 5, 12700800, 4, 18748800, 5, 13305600, 4, 18144000, 5,
     13305600, 4, 18144000, 5, 13305600, 4, 18144000, 5, 13305600, 4, 18748800, 5, 12700800, 4,
     18748800, 5, 12700800, 4, 18748800, 5, 13305600, 4, 18144000, 5, 13305600, 4, 18144000, 5,
     13305600, 4, 18748800, 5, 12700800, 4, 18748800, 5, 12700800, 4, 18748800, 5, 13305600, 4,
     18144000, 5, 13305600, 4, 18144000, 5, 13305600, 4, 18144000, 5, 13305600, 4, 18748800, 5,
     12700800, 4, 18748800, 5, 12700800, 4, 18748800, 5, 13305600, 4, 18144000, 5, 13305600, 4,
     18144000, 5, 13305600, 4, 18748800, 5, 12700800, 4, 18748800, 5, 12700800, 4, 18748800, 5,
     12700800, 4, 18748800, 5, 13305600, 4, 18144000, 5, 13305600, 4, 18144000, 5]⟩,
  ⟨"Europe/Tallinn", "EET-2EEST,M3.5.0/3,M10.5.0/4",
    [15, 11880, 0, 11880, 0, 14400, 1, 7200, 0, 7200, 0, 14400, 0, 21600, 0, 14400, 1, 28800, 1,
     21600, 0, 28800, 1, 21600, 1, 14400, 0, 14400, 0, 21600, 1, 123, 5680293479, 1, 1201824000, 4,
     6316740, 2, 13305600, 3, 24876000, 1, 57885660, 5, 607995540, 6, 34988400, 7, 35697600, 3,
     12700800, 2, 16329600, 3, 15724800, 2, 14850000, 6, 1152572400, 8, 15807600, 6, 15728400, 8,
     15807600, 6, 15728400, 8, 15807600, 6, 15814800, 8, 15732000, 9, 15724800, 10, 15724800, 9,
     15724800, 10, 15724800, 9, 15724800, 10, 15724800, 9, 15724800, 10, 15724800, 9, 15724800, 11,
     15728400, 12, 15724800, 11, 16329600, 12, 15724800, 11, 15724800, 12, 15724800, 11, 15724800,
     12, 15724800, 11, 15724800, 12, 15724800, 11, 15724800, 12, 15724800, 11, 15724800, 12,
     16329600, 11, 18144000, 12, 13305600, 11, 18144000, 12, 13305600, 11, 18147600, 13, 13305600,
     14, 18748800, 5, 76204800, 14, 18144000, 13, 13305600, 14, 18144000, 13, 13305600, 14,
     18748800, 13, 12700800, 14, 18748800, 13, 12700800, 14, 18748800, 13, 12700800, 14, 18748800,
     13, 13305600, 14, 18144000, 13, 13305600, 14, 18144000, 13, 13305600, 14, 18748800, 13,
     12700800, 14, 18748800, 13, 12700800, 14, 18748800, 13, 13305600, 14, 18144000, 13, 13305600,
     14, 18144000, 13, 13305600, 14, 18144000, 13, 13305600, 14, 18748800, 13, 12700800, 14,
     18748800, 13, 12700800, 14, 18748800, 13, 13305600, 14, 18144000, 13, 13305600, 14, 18144000,
     13, 13305600, 14, 18748800, 13, 12700800, 14, 18748800, 13, 12700800, 14, 18748800, 13,
     13305600, 14, 18144000, 13, 13305600, 14, 18144000, 13, 13305600, 14, 18144000, 13, 13305600,
     14, 18748800, 13, 12700800, 14, 18748800, 13, 12700800, 14, 18748800, 13, 13305600, 14,
     18144000, 13, 13305600, 14, 18144000, 13, 13305600, 14, 18748800, 13, 12700800, 14, 18748800,
     13, 12700800, 14, 18748800, 13, 12700800, 14, 18748800, 13, 13305600, 14, 18144000, 13,
     13305600, 14, 18144000, 13]⟩,
  ⟨"Europe/Tirane", "CET-1CEST,M3.5.0,M10.5.0/3",
    [5, 9520, 0, 7200, 0, 14400, 1, 7200, 0, 14400, 1, 133, 3534460719, 1, 834884360, 2, 75088800,
     1, 12700800, 2, 1036800, 1, 980373600, 2, 13042800, 1, 18234000, 2, 13302000, 1, 18406800, 2,
     13302000, 1, 18752400, 2, 12697200, 1, 18666000, 2, 12783600, 1, 18666000, 2, 12783600, 1,
     18666000, 2, 13302000, 1, 17629200, 2, 13302000, 1, 18752400, 2, 13302000, 1, 17024400, 2,
     14338800, 1, 15814800, 2, 15732000, 3, 15724800, 4, 15724800, 3, 15724800, 4, 15724800, 3,
     15724800, 4, 15724800, 3, 15724800, 4, 15724800, 3, 15724800, 4, 15724800, 3, 15724800, 4,
     16329600, 3, 15724800, 4, 15724800, 3, 15724800, 4, 15724800, 3, 15724800, 4, 15724800, 3,
     15724800, 4, 15724800, 3, 15724800, 4, 15724800, 3, 16329600, 4, 18144000, 3, 13305600, 4,
     18144000, 3, 13305600, 4, 18144000, 3, 13305600, 4, 18748800, 3, 12700800, 4, 18748800, 3,
     12700800, 4, 18748800, 3, 13305600, 4, 18144000, 3, 13305600, 4, 18144000, 3, 13305600, 4,
     18748800, 3, 12700800, 4, 18748800, 3, 12700800, 4, 18748800, 3, 12700800, 4, 18748800, 3,
     13305600, 4, 18144000, 3, 13305600, 4, 18144000, 3, 13305600, 4, 18748800, 3, 12700800, 4,
     18748800, 3, 12700800, 4, 18748800, 3, 13305600, 4, 18144000, 3, 13305600, 4, 18144000, 3,
     13305600, 4, 18144000, 3, 13305600, 4, 18748800, 3, 12700800, 4, 18748800, 3, 12700800, 4,
     18748800, 3, 13305600, 4, 18144000, 3, 13305600, 4, 18144000, 3, 13305600, 4, 18748800, 3,
     12700800, 4, 18748800, 3, 12700800, 4, 18748800, 3, 13305600, 4, 18144000, 3, 13305600, 4,
     18144000, 3, 13305600, 4, 18144000, 3, 13305600, 4, 18748800, 3, 12700800, 4, 18748800, 3,
     12700800, 4, 18748800, 3, 13305600, 4, 18144000, 3, 13305600, 4, 18144000, 3, 13305600, 4,
     18748800, 3, 12700800, 4, 18748800, 3, 12700800, 4, 18748800, 3, 12700800, 4, 18748800, 3,
     13305600, 4, 18144000, 3, 13305600, 4, 18144000, 3]⟩,
  ⟨"Europe/Ulyanovsk", "<+04>-4",
    [12, 23232, 0, 21600, 0, 36000, 1, 28800, 0, 28800, 0, 36000, 1, 28800, 1, 21600, 0, 21600, 1,
     14400, 0, 28800, 1, 28800, 0, 67, 3187641599, 1, 346280400, 3, 1602457200, 2, 15807600, 3,
     15728400, 2, 15807600, 3, 15728400, 2, 15807600, 3, 15814800, 2, 15732000, 4, 15724800, 5,
     15724800, 4, 15724800, 5, 15724800, 4, 15724800, 5, 15724800, 4, 15724800, 5, 15724800, 4,
     15724800, 6, 15728400, 7, 15724800, 6, 16329600, 7, 15724800, 8, 15728400, 9, 9676800, 7,
     6044400, 6, 15724800, 7, 15724800, 6, 15724800, 7, 15724800, 6, 15724800, 7, 15724800, 6,
     15724800, 7, 16329600, 6, 18144000, 7, 13305600, 6, 18144000, 7, 13305600, 6, 18144000, 7,
     13305600, 6, 18748800, 7, 12700800, 6, 18748800, 7, 12700800, 6, 18748800, 7, 13305600, 6,
     18144000, 7, 13305600, 6, 18144000, 7, 13305600, 6, 18748800, 7, 12700800, 6, 18748800, 7,
     12700800, 6, 18748800, 7, 12700800, 6, 18748800, 7, 13305600, 6, 18144000, 7, 13305600, 6,
     18144000, 7, 13305600, 6, 18748800, 7, 12700800, 4, 113094000, 7, 44758800, 4, 688450447, 4]⟩,
  ⟨"Europe/Vaduz", "CET-1CEST,M3.5.0,M10.5.0/3",
    [5, 4568, 0, 14400, 1, 7200, 0, 14400, 1, 7200, 0, 119, 4770494167, 2, 1480811884, 1, 13305600,
     2, 18144000, 1, 13305600, 2, 1214355600, 3, 15724800, 4, 15724800, 3, 15724800, 4, 15724800, 3,
     15724800, 4, 15724800, 3, 16329600, 4, 15724800, 3, 15724800, 4, 15724800, 3, 15724800, 4,
     15724800, 3, 15724800, 4, 15724800, 3, 15724800, 4, 15724800, 3, 15724800, 4, 15724800, 3,
     16329600, 4, 15724800, 3, 15724800, 4, 15724800, 3, 15724800, 4, 15724800, 3, 15724800, 4,
     15724800, 3, 15724800, 4, 15724800, 3, 15724800, 4, 16329600, 3, 18144000, 4, 13305600, 3,
     18144000, 4, 13305600, 3, 18144000, 4, 13305600, 3, 18748800, 4, 12700800, 3, 18748800, 4,
     12700800, 3, 18748800, 4, 13305600, 3, 18144000, 4, 13305600, 3, 18144000, 4, 13305600, 3,
     18748800, 4, 12700800, 3, 18748800, 4, 12700800, 3, 18748800, 4, 12700800, 3, 18748800, 4,
     13305600, 3, 18144000, 4, 13305600, 3, 18144000, 4, 13305600, 3, 18748800, 4, 12700800, 3,
     18748800, 4, 12700800, 3, 18748800, 4, 13305600, 3, 18144000, 4, 13305600, 3, 18144000, 4,
     13305600, 3, 18144000, 4, 13305600, 3, 18748800, 4, 12700800, 3, 18748800, 4, 12700800, 3,
     18748800, 4, 13305600, 3, 18144000, 4, 13305600, 3, 18144000, 4, 13305600, 3, 18748800, 4,
     12700800, 3, 18748800, 4, 12700800, 3, 18748800, 4, 13305600, 3, 18144000, 4, 13305600, 3,
     18144000, 4, 13305600, 3, 18144000, 4, 13305600, 3, 18748800, 4, 12700800, 3, 18748800, 4,
     12700800, 3, 18748800, 4, 13305600, 3, 18144000, 4, 13305600, 3, 18144000, 4, 13305600, 3,
     18748800, 4, 12700800, 3, 18748800, 4, 12700800, 3, 18748800, 4, 12700800, 3, 18748800, 4,
     13305600, 3, 18144000, 4, 13305600, 3, 18144000, 4]⟩,
  ⟨"Europe/Vienna", "CET-1CEST,M3.5.0,M10.5.0/3",
    [7, 7842, 0, 14400, 1, 7200, 0, 14400, 1, 7200, 0, 14400, 1, 7200, 0, 139, 4844110241, 2,
     728348721, 1, 13222800, 2, 17028000, 3, 13305600, 4, 18144000, 3, 13305600, 4, 48988800, 3,
     13910400, 4, 616896000, 3, 81648000, 4, 12700800, 3, 16329600, 4, 15724800, 3, 15724800, 4,
     15724800, 3, 864000, 4, 31708800, 3, 15206400, 4, 15638400, 3, 15724800, 4, 16934400, 3,
     14515200, 4, 994284000, 1, 15116400, 2, 15735600, 5, 15724800, 6, 15724800, 5, 15724800, 6,
     15724800, 5, 15724800, 6, 15724800, 5, 16329600, 6, 15724800, 5, 15724800, 6, 15724800, 5,
     15724800, 6, 15724800, 5, 15724800, 6, 15724800, 5, 15724800, 6, 15724800, 5, 15724800, 6,
     15724800, 5, 16329600, 6, 15724800, 5, 15724800, 6, 15724800, 5, 15724800, 6, 15724800, 5,
     15724800, 6, 15724800, 5, 15724800, 6, 15724800, 5, 15724800, 6, 16329600, 5, 18144000, 6,
     13305600, 5, 18144000, 6, 13305600, 5, 18144000, 6, 13305600, 5, 18748800, 6, 12700800, 5,
     18748800, 6, 12700800, 5, 18748800, 6, 13305600, 5, 18144000, 6, 13305600, 5, 18144000, 6,
     13305600, 5, 18748800, 6, 12700800, 5, 18748800, 6, 12700800, 5, 18748800, 6, 12700800, 5,
     18748800, 6, 13305600, 5, 18144000, 6, 13305600, 5, 18144000, 6, 13305600, 5, 18748800, 6,
     12700800, 5, 18748800, 6, 12700800, 5, 18748800, 6, 13305600, 5, 18144000, 6, 13305600, 5,
     18144000, 6, 13305600, 5, 18144000, 6, 13305600, 5, 18748800, 6, 12700800, 5, 18748800, 6,
     12700800, 5, 18748800, 6, 13305600, 5, 18144000, 6, 13305600, 5, 18144000, 6, 13305600, 5,
     18748800, 6, 12700800, 5, 18748800, 6, 12700800, 5, 18748800, 6, 13305600, 5, 18144000, 6,
     13305600, 5, 18144000, 6, 13305600, 5, 18144000, 6, 13305600, 5, 18748800, 6, 12700800, 5,
     18748800, 6, 12700800, 5, 18748800, 6, 13305600, 5, 18144000, 6, 13305600, 5, 18144000, 6,
     13305600, 5, 18748800, 6, 12700800, 5, 18748800, 6, 12700800, 5, 18748800, 6, 12700800, 5,
     18748800, 6, 13305600, 5, 18144000, 6, 13305600, 5, 18144000, 6]⟩,
  ⟨"Europe/Vilnius", "EET-2EEST,M3.5.0/3,M10.5.0/4",
    [18, 12152, 0, 10080, 0, 11472, 0, 7200, 0, 14400, 0, 21600, 0, 7200, 0, 14400, 1, 14400, 1,
     28800, 1, 21600, 0, 28800, 1, 21600, 1, 14400, 0, 14400, 1, 7200, 0, 14400, 0, 21600, 1, 120,
     5680293751, 1, 1167610636, 2, 87436104, 3, 23848536, 4, 7686000, 3, 625366800, 5, 28072800, 8,
     42868800, 6, 12700800, 7, 16329600, 6, 15724800, 7, 10357200, 5, 1157065200, 9, 15807600, 5,
     15728400, 9, 15807600, 5, 15728400, 9, 15807600, 5, 15814800, 9, 15732000, 10, 15724800, 11,
     15724800, 10, 15724800, 11, 15724800, 10, 15724800, 11, 15724800, 10, 15724800, 11, 15724800,
     10, 15724800, 12, 15728400, 13, 15724800, 12, 16329600, 13, 15724800, 12, 15724800, 13,
     15724800, 12, 15724800, 13, 15724800, 12, 15724800, 13, 15724800, 12, 15724800, 13, 15724800,
     12, 15724800, 13, 16329600, 12, 18144000, 13, 13305600, 12, 18144000, 13, 13309200, 14,
     18144000, 15, 13305600, 14, 18748800, 16, 107654400, 17, 18144000, 16, 13305600, 17, 18748800,
     16, 12700800, 17, 18748800, 16, 12700800, 17, 18748800, 16, 12700800, 17, 18748800, 16,
     13305600, 17, 18144000, 16, 13305600, 17, 18144000, 16, 13305600, 17, 18748800, 16, 12700800,
     17, 18748800, 16, 12700800, 17, 18748800, 16, 13305600, 17, 18144000, 16, 13305600, 17,
     18144000, 16, 13305600, 17, 18144000, 16, 13305600, 17, 18748800, 16, 12700800, 17, 18748800,
     16, 12700800, 17, 18748800, 16, 13305600, 17, 18144000, 16, 13305600, 17, 18144000, 16,
     13305600, 17, 18748800, 16, 12700800, 17, 18748800, 16, 12700800, 17, 18748800, 16, 13305600,
     17, 18144000, 16, 13305600, 17, 18144000, 16, 13305600, 17, 18144000, 16, 13305600, 17,
     18748800, 16, 12700800, 17, 18748800, 16, 12700800, 17, 18748800, 16, 13305600, 17, 18144000,
     16, 13305600, 17, 18144000, 16, 13305600, 17, 18748800, 16, 12700800, 17, 18748800, 16,
     12700800, 17, 18748800, 16, 12700800, 17, 18748800, 16, 13305600, 17, 18144000, 16, 13305600,
     17, 18144000, 16]⟩,
  ⟨"Europe/Volgograd", "MSK-3",
    [10, 21320, 0, 21600, 0, 28800, 0, 36000, 1, 28800, 0, 36000, 1, 28800, 1, 21600, 0, 28800, 0,
     21600, 0, 65, 3155522119, 1, 330220660, 2, 1602457200, 3, 15807600, 2, 15728400, 3, 15807600,
     2, 15728400, 3, 15807600, 2, 15814800, 3, 15732000, 4, 15724800, 5, 15724800, 4, 15724800, 5,
     15724800, 4, 15724800, 5, 15724800, 4, 15724800, 6, 15728400, 7, 15724800, 6, 15724800, 7,
     15724800, 6, 16329600, 7, 15724800, 4, 31446000, 6, 15728400, 7, 15724800, 6, 15724800, 7,
     15724800, 6, 15724800, 7, 15724800, 6, 15724800, 7, 16329600, 6, 18144000, 7, 13305600, 6,
     18144000, 7, 13305600, 6, 18144000, 7, 13305600, 6, 18748800, 7, 12700800, 6, 18748800, 7,
     12700800, 6, 18748800, 7, 13305600, 6, 18144000, 7, 13305600, 6, 18144000, 7, 13305600, 6,
     18748800, 7, 12700800, 6, 18748800, 7, 12700800, 6, 18748800, 7, 12700800, 6, 18748800, 7,
     13305600, 6, 18144000, 7, 13305600, 6, 18144000, 7, 13305600, 6, 18748800, 7, 12700800, 8,
     113094000, 7, 126406800, 4, 68338800, 7]⟩,
  ⟨"Europe/Warsaw", "CET-1CEST,M3.5.0,M10.5.0/3",
    [11, 10080, 0, 10080, 0, 14400, 1, 7200, 0, 14400, 1, 7200, 0, 21600, 1, 14400, 0, 14400, 0,
     14400, 1, 7200, 0, 165, 5680291679, 1, 1123113600, 3, 23325840, 2, 13222800, 3, 17028000, 4,
     13305600, 5, 18144000, 4, 13305600, 8, 18226800, 6, 13305600, 7, 85442400, 3, 569991600, 2,
     74476800, 5, 12700800, 4, 16329600, 5, 15724800, 4, 15894000, 3, 17881200, 2, 16066800, 3,
     14173200, 4, 15213600, 5, 18057600, 4, 13305600, 5, 16934400, 4, 14515200, 5, 16329600, 4,
     15120000, 5, 241916400, 4, 10281600, 5, 15724800, 4, 15724800, 5, 21168000, 4, 10886400, 5,
     15724800, 4, 15724800, 5, 20563200, 4, 10886400, 5, 20563200, 4, 10886400, 5, 20563200, 4,
     10886400, 5, 21168000, 4, 10281600, 5, 394934400, 4, 15120000, 5, 16329600, 4, 15724800, 5,
     15724800, 4, 15724800, 5, 16329600, 4, 15120000, 5, 15724800, 4, 15724800, 5, 15724800, 4,
     15724800, 5, 15724800, 4, 15724800, 5, 15724800, 4, 16329600, 5, 15724800, 4, 15724800, 5,
     15724800, 4, 15724800, 5, 15724800, 4, 15724800, 5, 15728400, 9, 15724800, 10, 15724800, 9,
     15724800, 10, 15724800, 9, 16329600, 10, 15724800, 9, 15724800, 10, 15724800, 9, 15724800, 10,
     15724800, 9, 15724800, 10, 15724800, 9, 15724800, 10, 15724800, 9, 15724800, 10, 16329600, 9,
     18144000, 10, 13305600, 9, 18144000, 10, 13305600, 9, 18144000, 10, 13305600, 9, 18748800, 10,
     12700800, 9, 18748800, 10, 12700800, 9, 18748800, 10, 13305600, 9, 18144000, 10, 13305600, 9,
     18144000, 10, 13305600, 9, 18748800, 10, 12700800, 9, 18748800, 10, 12700800, 9, 18748800, 10,
     12700800, 9, 18748800, 10, 13305600, 9, 18144000, 10, 13305600, 9, 18144000, 10, 13305600, 9,
     18748800, 10, 12700800, 9, 18748800, 10, 12700800, 9, 18748800, 10, 13305600, 9, 18144000, 10,
     13305600, 9, 18144000, 10, 13305600, 9, 18144000, 10, 13305600, 9, 18748800, 10, 12700800, 9,
     18748800, 10, 12700800, 9, 18748800, 10, 13305600, 9, 18144000, 10, 13305600, 9, 18144000, 10,
     13305600, 9, 18748800, 10, 12700800, 9, 18748800, 10, 12700800, 9, 18748800, 10, 13305600, 9,
     18144000, 10, 13305600, 9, 18144000, 10, 13305600, 9, 18144000, 10, 13305600, 9, 18748800, 10,
     12700800, 9, 18748800, 10, 12700800, 9, 18748800, 10, 13305600, 9, 18144000, 10, 13305600, 9,
     18144000, 10, 13305600, 9, 18748800, 10, 12700800, 9, 18748800, 10, 12700800, 9, 18748800, 10,
     12700800, 9, 18748800, 10, 13305600, 9, 18144000, 10, 13305600, 9, 18144000, 10]⟩,
  ⟨"Europe/Zagreb", "CET-1CEST,M3.5.0,M10.5.0/3",
    [7, 7664, 0, 7200, 0, 7200, 0, 14400, 1, 14400, 1, 14400, 1, 7200, 0, 119, 5427828463, 1,
     1808089432, 4, 48567600, 2, 12700800, 3, 16329600, 2, 15724800, 3, 15724800, 2, 15724800, 3,
     14428800, 2, 1184198400, 5, 15724800, 6, 15724800, 5, 16329600, 6, 15724800, 5, 15724800, 6,
     15724800, 5, 15724800, 6, 15724800, 5, 15724800, 6, 15724800, 5, 15724800, 6, 15724800, 5,
     15724800, 6, 15724800, 5, 16329600, 6, 15724800, 5, 15724800, 6, 15724800, 5, 15724800, 6,
     15724800, 5, 15724800, 6, 15724800, 5, 15724800, 6, 15724800, 5, 15724800, 6, 16329600, 5,
     18144000, 6, 13305600, 5, 18144000, 6, 13305600, 5, 18144000, 6, 13305600, 5, 18748800, 6,
     12700800, 5, 18748800, 6, 12700800, 5, 18748800, 6, 13305600, 5, 18144000, 6, 13305600, 5,
     18144000, 6, 13305600, 5, 18748800, 6, 12700800, 5, 18748800, 6, 12700800, 5, 18748800, 6,
     12700800, 5, 18748800, 6, 13305600, 5, 18144000, 6, 13305600, 5, 18144000, 6, 13305600, 5,
     18748800, 6, 12700800, 5, 18748800, 6, 12700800, 5, 18748800, 6, 13305600, 5, 18144000, 6,
     13305600, 5, 18144000, 6, 13305600, 5, 18144000, 6, 13305600, 5, 18748800, 6, 12700800, 5,
     18748800, 6, 12700800, 5, 18748800, 6, 13305600, 5, 18144000, 6, 13305600, 5, 18144000, 6,
     13305600, 5, 18748800, 6, 12700800, 5, 18748800, 6, 12700800, 5, 18748800, 6, 13305600, 5,
     18144000, 6, 13305600, 5, 18144000, 6, 13305600, 5, 18144000, 6, 13305600, 5, 18748800, 6,
     12700800, 5, 18748800, 6, 12700800, 5, 18748800, 6, 13305600, 5, 18144000, 6, 13305600, 5,
     18144000, 6, 13305600, 5, 18748800, 6, 12700800, 5, 18748800, 6, 12700800, 5, 18748800, 6,
     12700800, 5, 18748800, 6, 13305600, 5, 18144000, 6, 13305600, 5, 18144000, 6]⟩,
  ⟨"Europe/Zurich", "CET-1CEST,M3.5.0,M10.5.0/3",
    [6, 4096, 0, 3572, 0, 14400, 1, 7200, 0, 14400, 1, 7200, 0, 120, 7350397695, 1, 1289952262, 3,
     1480811386, 2, 13305600, 3, 18144000, 2, 13305600, 3, 1214355600, 4, 15724800, 5, 15724800, 4,
     15724800, 5, 15724800, 4, 15724800, 5, 15724800, 4, 16329600, 5, 15724800, 4, 15724800, 5,
     15724800, 4, 15724800, 5, 15724800, 4, 15724800, 5, 15724800, 4, 15724800, 5, 15724800, 4,
     15724800, 5, 15724800, 4, 16329600, 5, 15724800, 4, 15724800, 5, 15724800, 4, 15724800, 5,
     15724800, 4, 15724800, 5, 15724800, 4, 15724800, 5, 15724800, 4, 15724800, 5, 16329600, 4,
     18144000, 5, 13305600, 4, 18144000, 5, 13305600, 4, 18144000, 5, 13305600, 4, 18748800, 5,
     12700800, 4, 18748800, 5, 12700800, 4, 18748800, 5, 13305600, 4, 18144000, 5, 13305600, 4,
     18144000, 5, 13305600, 4, 18748800, 5, 12700800, 4, 18748800, 5, 12700800, 4, 18748800, 5,
     12700800, 4, 18748800, 5, 13305600, 4, 18144000, 5, 13305600, 4, 18144000, 5, 13305600, 4,
     18748800, 5, 12700800, 4, 18748800, 5, 12700800, 4, 18748800, 5, 13305600, 4, 18144000, 5,
     13305600, 4, 18144000, 5, 13305600, 4, 18144000, 5, 13305600, 4, 18748800, 5, 12700800, 4,
     18748800, 5, 12700800, 4, 18748800, 5, 13305600, 4, 18144000, 5, 13305600, 4, 18144000, 5,
     13305600, 4, 18748800, 5, 12700800, 4, 18748800, 5, 12700800, 4, 18748800, 5, 13305600, 4,
     18144000, 5, 13305600, 4, 18144000, 5, 13305600, 4, 18144000, 5, 13305600, 4, 18748800, 5,
     12700800, 4, 18748800, 5, 12700800, 4, 18748800, 5, 13305600, 4, 18144000, 5, 13305600, 4,
     18144000, 5, 13305600, 4, 18748800, 5, 12700800, 4, 18748800, 5, 12700800, 4, 18748800, 5,
     12700800, 4, 18748800, 5, 13305600, 4, 18144000, 5, 13305600, 4, 18144000, 5]⟩
]

end SalonBooking.Zone.Data
