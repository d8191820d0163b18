import SalonBooking.Zone.Record

/-!
Compiled rules of the fixed-offset, legacy and zones of the time zone database: each record
holds the zone name, the rule string for instants after the last listed
transition, and the local time types and transitions as a list of numbers.
-/

namespace SalonBooking.Zone.Data

/-- The fixed-offset, legacy and zones, by name. -/
def otherZones : List ZoneRecord := [
  ⟨"CET", "CET-1CEST,M3.5.0,M10.5.0/3",
    [4, 7200, 0, 14400, 1, 14400, 1, 7200, 0, 136, 3387412799, 1, 13222800, 0, 17028000, 2,
     13305600, 3, 18144000, 2, 13305600, 3, 679795200, 2, 81648000, 3, 12700800, 2, 16329600, 3,
     15724800, 2, 15724800, 3, 15724800, 2, 14428800, 3, 995500800, 2, 15120000, 3, 16329600, 2,
     15724800, 3, 15724800, 2, 15724800, 3, 16329600, 2, 15120000, 3, 15724800, 2, 15724800, 3,
     15724800, 2, 15724800, 3, 15724800, 2, 15724800, 3, 15724800, 2, 16329600, 3, 15724800, 2,
     15724800, 3, 15724800, 2, 15724800, 3, 15724800, 2, 15724800, 3, 15724800, 2, 15724800, 3,
     15724800, 2, 15724800, 3, 15724800, 2, 16329600, 3, 15724800, 2, 15724800, 3, 15724800, 2,
     15724800, 3, 15724800, 2, 15724800, 3, 15724800, 2, 15724800, 3, 15724800, 2, 15724800, 3,
     16329600, 2, 18144000, 3, 13305600, 2, 18144000, 3, 13305600, 2, 18144000, 3, 13305600, 2,
     18748800, 3, 12700800, 2, 18748800, 3, 12700800, 2, 18748800, 3, 13305600, 2, 18144000, 3,
     13305600, 2, 18144000, 3, 13305600, 2, 18748800, 3, 12700800, 2, 18748800, 3, 12700800, 2,
     18748800, 3, 12700800, 2, 18748800, 3, 13305600, 2, 18144000, 3, 13305600, 2, 18144000, 3,
     13305600, 2, 18748800, 3, 12700800, 2, 18748800, 3, 12700800, 2, 18748800, 3, 13305600, 2,
     18144000, 3, 13305600, 2, 18144000, 3, 13305600, 2, 18144000, 3, 13305600, 2, 18748800, 3,
     12700800, 2, 18748800, 3, 12700800, 2, 18748800, 3, 13305600, 2, 18144000, 3, 13305600, 2,
     18144000, 3, 13305600, 2, 18748800, 3, 12700800, 2, 18748800, 3, 12700800, 2, 18748800, 3,
     13305600, 2, 18144000, 3, 13305600, 2, 18144000, 3, 13305600, 2, 18144000, 3, 13305600, 2,
     18748800, 3, 12700800, 2, 18748800, 3, 12700800, 2, 18748800, 3, 13305600, 2, 18144000, 3,
     13305600, 2, 18144000, 3, 13305600, 2, 18748800, 3, 12700800, 2, 18748800, 3, 12700800, 2,
     18748800, 3, 12700800, 2, 18748800, 3, 13305600, 2, 18144000, 3, 13305600, 2, 18144000, 3]⟩,
  ⟨"CST6CDT", "CST6CDT,M3.2.0,M11.1.0",
    [5, 43199, 0, 35999, 1, 35999, 1, 35999, 1, 43199, 0, 149, 3266553599, 1, 18140400, 0, 13309200,
     1, 18140400, 0, 703472400, 2, 110818800, 3, 4003200, 0, 681008400, 1, 15721200, 0, 15728400, 1,
     15721200, 0, 15728400, 1, 15721200, 0, 15728400, 1, 15721200, 0, 15728400, 1, 16326000, 0,
     15728400, 1, 15721200, 0, 15728400, 1, 15721200, 0, 6051600, 1, 25398000, 0, 10285200, 1,
     21164400, 0, 15728400, 1, 16326000, 0, 15123600, 1, 16326000, 0, 15728400, 1, 15721200, 0,
     15728400, 1, 15721200, 0, 15728400, 1, 15721200, 0, 15728400, 1, 15721200, 0, 15728400, 1,
     16326000, 0, 15123600, 1, 16326000, 0, 15728400, 1, 15721200, 0, 15728400, 1, 15721200, 0,
     15728400, 1, 15721200, 0, 13914000, 1, 17535600, 0, 13914000, 1, 18140400, 0, 13309200, 1,
     18140400, 0, 13309200, 1, 18140400, 0, 13914000, 1, 17535600, 0, 13914000, 1, 17535600, 0,
     13914000, 1, 18140400, 0, 13309200, 1, 18140400, 0, 13309200, 1, 18140400, 0, 13914000, 1,
     17535600, 0, 13914000, 1, 17535600, 0, 13914000, 1, 17535600, 0, 13914000, 1, 18140400, 0,
     13309200, 1, 18140400, 0, 13309200, 1, 18140400, 0, 13914000, 1, 17535600, 0, 13914000, 1,
     17535600, 0, 13914000, 1, 18140400, 0, 13309200, 1, 18140400, 0, 13309200, 1, 18140400, 0,
     11494800, 1, 20559600, 0, 10890000, 1, 20559600, 0, 10890000, 1, 20559600, 0, 11494800, 1,
     20559600, 0, 10890000, 1, 20559600, 0, 10890000, 1, 20559600, 0, 10890000, 1, 20559600, 0,
     10890000, 1, 20559600, 0, 10890000, 1, 20559600, 0, 11494800, 1, 20559600, 0, 10890000, 1,
     20559600, 0, 10890000, 1, 20559600, 0, 10890000, 1, 20559600, 0, 10890000, 1, 20559600, 0,
     11494800, 1, 20559600, 0, 10890000, 1, 20559600, 0, 10890000, 1, 20559600, 0, 10890000, 1,
     20559600, 0, 10890000, 1, 20559600, 0, 10890000, 1, 20559600, 0, 11494800, 1, 20559600, 0,
     10890000, 1, 20559600, 0, 10890000, 1, 20559600, 0, 10890000, 1, 20559600, 0, 10890000, 1,
     20559600, 0, 11494800, 1, 20559600, 0, 10890000, 1, 20559600, 0, 10890000, 1, 20559600, 0,
     10890000, 1, 20559600, 0, 10890000, 1, 20559600, 0, 10890000, 1, 20559600, 0]⟩,
  ⟨"EET", "EET-2EEST,M3.5.0/3,M10.5.0/4",
    [4, 14400, 0, 21600, 1, 21600, 1, 14400, 0, 122, 457754400, 1, 15120000, 0, 16329600, 1,
     15724800, 0, 15724800, 1, 15724800, 0, 16329600, 1, 15120000, 0, 15724800, 1, 15724800, 0,
     15724800, 1, 15724800, 0, 15724800, 1, 15724800, 0, 15724800, 1, 16329600, 0, 15724800, 1,
     15724800, 0, 15724800, 1, 15724800, 0, 15724800, 1, 15724800, 0, 15724800, 1, 15724800, 0,
     15724800, 1, 15724800, 0, 15724800, 1, 16329600, 0, 15724800, 1, 15724800, 0, 15724800, 1,
     15724800, 0, 15724800, 1, 15724800, 0, 15724800, 1, 15724800, 0, 15724800, 1, 15724800, 0,
     16329600, 1, 18144000, 0, 13305600, 1, 18144000, 0, 13305600, 1, 18144000, 0, 13305600, 1,
     18748800, 0, 12700800, 1, 18748800, 0, 12700800, 1, 18748800, 0, 13305600, 1, 18144000, 0,
     13305600, 1, 18144000, 0, 13305600, 1, 18748800, 0, 12700800, 1, 18748800, 0, 12700800, 1,
     18748800, 0, 12700800, 1, 18748800, 0, 13305600, 1, 18144000, 0, 13305600, 1, 18144000, 0,
     13305600, 1, 18748800, 0, 12700800, 1, 18748800, 0, 12700800, 1, 18748800, 0, 13305600, 1,
     18144000, 0, 13305600, 1, 18144000, 0, 13305600, 1, 18144000, 0, 13305600, 1, 18748800, 0,
     12700800, 1, 18748800, 0, 12700800, 1, 18748800, 0, 13305600, 1, 18144000, 0, 13305600, 1,
     18144000, 0, 13305600, 1, 18748800, 0, 12700800, 1, 18748800, 0, 12700800, 1, 18748800, 0,
     13305600, 1, 18144000, 0, 13305600, 1, 18144000, 0, 13305600, 1, 18144000, 0, 13305600, 1,
     18748800, 0, 12700800, 1, 18748800, 0, 12700800, 1, 18748800, 0, 13305600, 1, 18144000, 0,
     13305600, 1, 18144000, 0, 13305600, 1, 18748800, 0, 12700800, 1, 18748800, 0, 12700800, 1,
     18748800, 0, 12700800, 1, 18748800, 0, 13305600, 1, 18144000, 0, 13305600, 1, 18144000, 0]⟩,
  ⟨"EST", "EST5",
    [1, 35999, 0, 0]⟩,
  ⟨"EST5EDT", "EST5EDT,M3.2.0,M11.1.0",
    [5, 35999, 0, 28799, 1, 28799, 1, 28799, 1, 35999, 0, 149, 3266560799, 1, 18140400, 0, 13309200,
     1, 18140400, 0, 703472400, 2, 110822400, 3, 3999600, 0, 681008400, 1, 15721200, 0, 15728400, 1,
     15721200, 0, 15728400, 1, 15721200, 0, 15728400, 1, 15721200, 0, 15728400, 1, 16326000, 0,
     15728400, 1, 15721200, 0, 15728400, 1, 15721200, 0, 6051600, 1, 25398000, 0, 10285200, 1,
     21164400, 0, 15728400, 1, 16326000, 0, 15123600, 1, 16326000, 0, 15728400, 1, 15721200, 0,
     15728400, 1, 15721200, 0, 15728400, 1, 15721200, 0, 15728400, 1, 15721200, 0, 15728400, 1,
     16326000, 0, 15123600, 1, 16326000, 0, 15728400, 1, 15721200, 0, 15728400, 1, 15721200, 0,
     15728400, 1, 15721200, 0, 13914000, 1, 17535600, 0, 13914000, 1, 18140400, 0, 13309200, 1,
     18140400, 0, 13309200, 1, 18140400, 0, 13914000, 1, 17535600, 0, 13914000, 1, 17535600, 0,
     13914000, 1, 18140400, 0, 13309200, 1, 18140400, 0, 13309200, 1, 18140400, 0, 13914000, 1,
     17535600, 0, 13914000, 1, 17535600, 0, 13914000, 1, 17535600, 0, 13914000, 1, 18140400, 0,
     13309200, 1, 18140400, 0, 13309200, 1, 18140400, 0, 13914000, 1, 17535600, 0, 13914000, 1,
     17535600, 0, 13914000, 1, 18140400, 0, 13309200, 1, 18140400, 0, 13309200, 1, 18140400, 0,
     11494800, 1, 20559600, 0, 10890000, 1, 20559600, 0, 10890000, 1, 20559600, 0, 11494800, 1,
     20559600, 0, 10890000, 1, 20559600, 0, 10890000, 1, 20559600, 0, 10890000, 1, 20559600, 0,
     10890000, 1, 20559600, 0, 10890000, 1, 20559600, 0, 11494800, 1, 20559600, 0, 10890000, 1,
     20559600, 0, 10890000, 1, 20559600, 0, 10890000, 1, 20559600, 0, 10890000, 1, 20559600, 0,
     11494800, 1, 20559600, 0, 10890000, 1, 20559600, 0, 10890000, 1, 20559600, 0, 10890000, 1,
     20559600, 0, 10890000, 1, 20559600, 0, 10890000, 1, 20559600, 0, 11494800, 1, 20559600, 0,
     10890000, 1, 20559600, 0, 10890000, 1, 20559600, 0, 10890000, 1, 20559600, 0, 10890000, 1,
     20559600, 0, 11494800, 1, 20559600, 0, 10890000, 1, 20559600, 0, 10890000, 1, 20559600, 0,
     10890000, 1, 20559600, 0, 10890000, 1, 20559600, 0, 10890000, 1, 20559600, 0]⟩,
  ⟨"Etc/GMT", "GMT0",
    [1, 0, 0, 0]⟩,
  ⟨"Etc/GMT+1", "<-01>1",
    [1, 7199, 0, 0]⟩,
  ⟨"Etc/GMT+10", "<-10>10",
    [1, 71999, 0, 0]⟩,
  ⟨"Etc/GMT+11", "<-11>11",
    [1, 79199, 0, 0]⟩,
  ⟨"Etc/GMT+12", "<-12>12",
    [1, 86399, 0, 0]⟩,
  ⟨"Etc/GMT+2", "<-02>2",
    [1, 14399, 0, 0]⟩,
  ⟨"Etc/GMT+3", "<-03>3",
    [1, 21599, 0, 0]⟩,
  ⟨"Etc/GMT+4", "<-04>4",
    [1, 28799, 0, 0]⟩,
  ⟨"Etc/GMT+5", "<-05>5",
    [1, 35999, 0, 0]⟩,
  ⟨"Etc/GMT+6", "<-06>6",
    [1, 43199, 0, 0]⟩,
  ⟨"Etc/GMT+7", "<-07>7",
    [1, 50399, 0, 0]⟩,
  ⟨"Etc/GMT+8", "<-08>8",
    [1, 57599, 0, 0]⟩,
  ⟨"Etc/GMT+9", "<-09>9",
    [1, 64799, 0, 0]⟩,
  ⟨"Etc/GMT-1", "<+01>-1",
    [1, 7200, 0, 0]⟩,
  ⟨"Etc/GMT-10", "<+10>-10",
    [1, 72000, 0, 0]⟩,
  ⟨"Etc/GMT-11", "<+11>-11",
    [1, 79200, 0, 0]⟩,
  ⟨"Etc/GMT-12", "<+12>-12",
    [1, 86400, 0, 0]⟩,
  ⟨"Etc/GMT-13", "<+13>-13",
    [1, 93600, 0, 0]⟩,
  ⟨"Etc/GMT-14", "<+14>-14",
    [1, 100800, 0, 0]⟩,
  ⟨"Etc/GMT-2", "<+02>-2",
    [1, 14400, 0, 0]⟩,
  ⟨"Etc/GMT-3", "<+03>-3",
    [1, 21600, 0, 0]⟩,
  ⟨"Etc/GMT-4", "<+04>-4",
    [1, 28800, 0, 0]⟩,
  ⟨"Etc/GMT-5", "<+05>-5",
    [1, 36000, 0, 0]⟩,
  ⟨"Etc/GMT-6", "<+06>-6",
    [1, 43200, 0, 0]⟩,
  ⟨"Etc/GMT-7", "<+07>-7",
    [1, 50400, 0, 0]⟩,
  ⟨"Etc/GMT-8", "<+08>-8",
    [1, 57600, 0, 0]⟩,
  ⟨"Etc/GMT-9", "<+09>-9",
    [1, 64800, 0, 0]⟩,
  ⟨"Etc/UTC", "UTC0",
    [1, 0, 0, 0]⟩,
  ⟨"Factory", "<-00>0",
    [1, 0, 0, 0]⟩,
  ⟨"HST", "HST10",
    [1, 71999, 0, 0]⟩,
  ⟨"MET", "MET-1MEST,M3.5.0,M10.5.0/3",
    [4, 7200, 0, 14400, 1, 14400, 1, 7200, 0, 136, 3387412799, 1, 13222800, 0, 17028000, 2,
     13305600, 3, 18144000, 2, 13305600, 3, 679795200, 2, 81648000, 3, 12700800, 2, 16329600, 3,
     15724800, 2, 15724800, 3, 15724800, 2, 14428800, 3, 995500800, 2, 15120000, 3, 16329600, 2,
     15724800, 3, 15724800, 2, 15724800, 3, 16329600, 2, 15120000, 3, 15724800, 2, 15724800, 3,
     15724800, 2, 15724800, 3, 15724800, 2, 15724800, 3, 15724800, 2, 16329600, 3, 15724800, 2,
     15724800, 3, 15724800, 2, 15724800, 3, 15724800, 2, 15724800, 3, 15724800, 2, 15724800, 3,
     15724800, 2, 15724800, 3, 15724800, 2, 16329600, 3, 15724800, 2, 15724800, 3, 15724800, 2,
     15724800, 3, 15724800, 2, 15724800, 3, 15724800, 2, 15724800, 3, 15724800, 2, 15724800, 3,
     16329600, 2, 18144000, 3, 13305600, 2, 18144000, 3, 13305600, 2, 18144000, 3, 13305600, 2,
     18748800, 3, 12700800, 2, 18748800, 3, 12700800, 2, 18748800, 3, 13305600, 2, 18144000, 3,
     13305600, 2, 18144000, 3, 13305600, 2, 18748800, 3, 12700800, 2, 18748800, 3, 12700800, 2,
     18748800, 3, 12700800, 2, 18748800, 3, 13305600, 2, 18144000, 3, 13305600, 2, 18144000, 3,
     13305600, 2, 18748800, 3, 12700800, 2, 18748800, 3, 12700800, 2, 18748800, 3, 13305600, 2,
     18144000, 3, 13305600, 2, 18144000, 3, 13305600, 2, 18144000, 3, 13305600, 2, 18748800, 3,
     12700800, 2, 18748800, 3, 12700800, 2, 18748800, 3, 13305600, 2, 18144000, 3, 13305600, 2,
     18144000, 3, 13305600, 2, 18748800, 3, 12700800, 2, 18748800, 3, 12700800, 2, 18748800, 3,
     13305600, 2, 18144000, 3, 13305600, 2, 18144000, 3, 13305600, 2, 18144000, 3, 13305600, 2,
     18748800, 3, 12700800, 2, 18748800, 3, 12700800, 2, 18748800, 3, 13305600, 2, 18144000, 3,
     13305600, 2, 18144000, 3, 13305600, 2, 18748800, 3, 12700800, 2, 18748800, 3, 12700800, 2,
     18748800, 3, 12700800, 2, 18748800, 3, 13305600, 2, 18144000, 3, 13305600, 2, 18144000, 3]⟩,
  ⟨"MST", "MST7",
    [1, 50399, 0, 0]⟩,
  ⟨"MST7MDT", "MST7MDT,M3.2.0,M11.1.0",
    [5, 50399, 0, 43199, 1, 43199, 1, 43199, 1, 50399, 0, 149, 3266546399, 1, 18140400, 0, 13309200,
     1, 18140400, 0, 703472400, 2, 110815200, 3, 4006800, 0, 681008400, 1, 15721200, 0, 15728400, 1,
     15721200, 0, 15728400, 1, 15721200, 0, 15728400, 1, 15721200, 0, 15728400, 1, 16326000, 0,
     15728400, 1, 15721200, 0, 15728400, 1, 15721200, 0, 6051600, 1, 25398000, 0, 10285200, 1,
     21164400, 0, 15728400, 1, 16326000, 0, 15123600, 1, 16326000, 0, 15728400, 1, 15721200, 0,
     15728400, 1, 15721200, 0, 15728400, 1, 15721200, 0, 15728400, 1, 15721200, 0, 15728400, 1,
     16326000, 0, 15123600, 1, 16326000, 0, 15728400, 1, 15721200, 0, 15728400, 1, 15721200, 0,
     15728400, 1, 15721200, 0, 13914000, 1, 17535600, 0, 13914000, 1, 18140400, 0, 13309200, 1,
     18140400, 0, 13309200, 1, 18140400, 0, 13914000, 1, 17535600, 0, 13914000, 1, 17535600, 0,
     13914000, 1, 18140400, 0, 13309200, 1, 18140400, 0, 13309200, 1, 18140400, 0, 13914000, 1,
     17535600, 0, 13914000, 1, 17535600, 0, 13914000, 1, 17535600, 0, 13914000, 1, 18140400, 0,
     13309200, 1, 18140400, 0, 13309200, 1, 18140400, 0, 13914000, 1, 17535600, 0, 13914000, 1,
     17535600, 0, 13914000, 1, 18140400, 0, 13309200, 1, 18140400, 0, 13309200, 1, 18140400, 0,
     11494800, 1, 20559600, 0, 10890000, 1, 20559600, 0, 10890000, 1, 20559600, 0, 11494800, 1,
     20559600, 0, 10890000, 1, 20559600, 0, 10890000, 1, 20559600, 0, 10890000, 1, 20559600, 0,
     10890000, 1, 20559600, 0, 10890000, 1, 20559600, 0, 11494800, 1, 20559600, 0, 10890000, 1,
     20559600, 0, 10890000, 1, 20559600, 0, 10890000, 1, 20559600, 0, 10890000, 1, 20559600, 0,
     11494800, 1, 20559600, 0, 10890000, 1, 20559600, 0, 10890000, 1, 20559600, 0, 10890000, 1,
     20559600, 0, 10890000, 1, 20559600, 0, 10890000, 1, 20559600, 0, 11494800, 1, 20559600, 0,
     10890000, 1, 20559600, 0, 10890000, 1, 20559600, 0, 10890000, 1, 20559600, 0, 10890000, 1,
     20559600, 0, 11494800, 1, 20559600, 0, 10890000, 1, 20559600, 0, 10890000, 1, 20559600, 0,
     10890000, 1, 20559600, 0, 10890000, 1, 20559600, 0, 10890000, 1, 20559600, 0]⟩,
  ⟨"PST8PDT", "PST8PDT,M3.2.0,M11.1.0",
    [5, 57599, 0, 50399, 1, 50399, 1, 50399, 1, 57599, 0, 149, 3266539199, 1, 18140400, 0, 13309200,
     1, 18140400, 0, 703472400, 2, 110811600, 3, 4010400, 0, 681008400, 1, 15721200, 0, 15728400, 1,
     15721200, 0, 15728400, 1, 15721200, 0, 15728400, 1, 15721200, 0, 15728400, 1, 16326000, 0,
     15728400, 1, 15721200, 0, 15728400, 1, 15721200, 0, 6051600, 1, 25398000, 0, 10285200, 1,
     21164400, 0, 15728400, 1, 16326000, 0, 15123600, 1, 16326000, 0, 15728400, 1, 15721200, 0,
     15728400, 1, 15721200, 0, 15728400, 1, 15721200, 0, 15728400, 1, 15721200, 0, 15728400, 1,
     16326000, 0, 15123600, 1, 16326000, 0, 15728400, 1, 15721200, 0, 15728400, 1, 15721200, 0,
     15728400, 1, 15721200, 0, 13914000, 1, 17535600, 0, 13914000, 1, 18140400, 0, 13309200, 1,
     18140400, 0, 13309200, 1, 18140400, 0, 13914000, 1, 17535600, 0, 13914000, 1, 17535600, 0,
     13914000, 1, 18140400, 0, 13309200, 1, 18140400, 0, 13309200, 1, 18140400, 0, 13914000, 1,
     17535600, 0, 13914000, 1, 17535600, 0, 13914000, 1, 17535600, 0, 13914000, 1, 18140400, 0,
     13309200, 1, 18140400, 0, 13309200, 1, 18140400, 0, 13914000, 1, 17535600, 0, 13914000, 1,
     17535600, 0, 13914000, 1, 18140400, 0, 13309200, 1, 18140400, 0, 13309200, 1, 18140400, 0,
     11494800, 1, 20559600, 0, 10890000, 1, 20559600, 0, 10890000, 1, 20559600, 0, 11494800, 1,
     20559600, 0, 10890000, 1, 20559600, 0, 10890000, 1, 20559600, 0, 10890000, 1, 20559600, 0,
     10890000, 1, 20559600, 0, 10890000, 1, 20559600, 0, 11494800, 1, 20559600, 0, 10890000, 1,
     20559600, 0, 10890000, 1, 20559600, 0, 10890000, 1, 20559600, 0, 10890000, 1, 20559600, 0,
     11494800, 1, 20559600, 0, 10890000, 1, 20559600, 0, 10890000, 1, 20559600, 0, 10890000, 1,
     20559600, 0, 10890000, 1, 20559600, 0, 10890000, 1, 20559600, 0, 11494800, 1, 20559600, 0,
     10890000, 1, 20559600, 0, 10890000, 1, 20559600, 0, 10890000, 1, 20559600, 0, 10890000, 1,
     20559600, 0, 11494800, 1, 20559600, 0, 10890000, 1, 20559600, 0, 10890000, 1, 20559600, 0,
     10890000, 1, 20559600, 0, 10890000, 1, 20559600, 0, 10890000, 1, 20559600, 0]⟩,
  ⟨"WET", "WET0WEST,M3.5.0/1,M10.5.0",
    [4, 0, 0, 7200, 1, 7200, 1, 0, 0, 122, 457754400, 1, 15120000, 0, 16329600, 1, 15724800, 0,
     15724800, 1, 15724800, 0, 16329600, 1, 15120000, 0, 15724800, 1, 15724800, 0, 15724800, 1,
     15724800, 0, 15724800, 1, 15724800, 0, 15724800, 1, 16329600, 0, 15724800, 1, 15724800, 0,
     15724800, 1, 15724800, 0, 15724800, 1, 15724800, 0, 15724800, 1, 15724800, 0, 15724800, 1,
     15724800, 0, 15724800, 1, 16329600, 0, 15724800, 1, 15724800, 0, 15724800, 1, 15724800, 0,
     15724800, 1, 15724800, 0, 15724800, 1, 15724800, 0, 15724800, 1, 15724800, 0, 16329600, 1,
     18144000, 0, 13305600, 1, 18144000, 0, 13305600, 1, 18144000, 0, 13305600, 1, 18748800, 0,
     12700800, 1, 18748800, 0, 12700800, 1, 18748800, 0, 13305600, 1, 18144000, 0, 13305600, 1,
     18144000, 0, 13305600, 1, 18748800, 0, 12700800, 1, 18748800, 0, 12700800, 1, 18748800, 0,
     12700800, 1, 18748800, 0, 13305600, 1, 18144000, 0, 13305600, 1, 18144000, 0, 13305600, 1,
     18748800, 0, 12700800, 1, 18748800, 0, 12700800, 1, 18748800, 0, 13305600, 1, 18144000, 0,
     13305600, 1, 18144000, 0, 13305600, 1, 18144000, 0, 13305600, 1, 18748800, 0, 12700800, 1,
     18748800, 0, 12700800, 1, 18748800, 0, 13305600, 1, 18144000, 0, 13305600, 1, 18144000, 0,
     13305600, 1, 18748800, 0, 12700800, 1, 18748800, 0, 12700800, 1, 18748800, 0, 13305600, 1,
     18144000, 0, 13305600, 1, 18144000, 0, 13305600, 1, 18144000, 0, 13305600, 1, 18748800, 0,
     12700800, 1, 18748800, 0, 12700800, 1, 18748800, 0, 13305600, 1, 18144000, 0, 13305600, 1,
     18144000, 0, 13305600, 1, 18748800, 0, 12700800, 1, 18748800, 0, 12700800, 1, 18748800, 0,
     12700800, 1, 18748800, 0, 13305600, 1, 18144000, 0, 13305600, 1, 18144000, 0]⟩
]

end SalonBooking.Zone.Data
