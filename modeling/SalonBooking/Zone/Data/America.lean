import SalonBooking.Zone.Record

/-!
Compiled rules of the American zones of the time zone database: each record
holds the zone name, the rule string for instants after the last listed
transition, and the local time types and transitions as a list of numbers.
-/

namespace SalonBooking.Zone.Data

set_option maxRecDepth 40000 in
/-- The American zones, by name. -/
def americaZones : List ZoneRecord := [
  ⟨"America/Adak", "HST10HDT,M3.2.0,M11.1.0",
    [10, 88004, 0, 84795, 0, 79199, 0, 71999, 1, 71999, 1, 79199, 0, 71999, 1, 71999, 0, 64799, 1,
     71999, 0, 145, 6450447453, 1, 1036278925, 2, 1308748402, 3, 110800800, 4, 4021200, 2,
     678495600, 5, 65412000, 6, 15721200, 5, 15728400, 6, 15721200, 5, 15728400, 6, 16326000, 5,
     15728400, 6, 15721200, 5, 15728400, 6, 15721200, 5, 6051600, 6, 25398000, 5, 10285200, 6,
     21164400, 5, 15728400, 6, 16326000, 5, 15123600, 6, 16326000, 5, 15728400, 6, 15721200, 5,
     15728400, 6, 15721200, 5, 15728400, 6, 15721200, 5, 15728400, 6, 15721200, 5, 15728400, 6,
     16326000, 5, 15123600, 6, 16326000, 7, 2671200, 9, 13053600, 8, 15721200, 9, 15728400, 8,
     15721200, 9, 15728400, 8, 15721200, 9, 13914000, 8, 17535600, 9, 13914000, 8, 18140400, 9,
     13309200, 8, 18140400, 9, 13309200, 8, 18140400, 9, 13914000, 8, 17535600, 9, 13914000, 8,
     17535600, 9, 13914000, 8, 18140400, 9, 13309200, 8, 18140400, 9, 13309200, 8, 18140400, 9,
     13914000, 8, 17535600, 9, 13914000, 8, 17535600, 9, 13914000, 8, 17535600, 9, 13914000, 8,
     18140400, 9, 13309200, 8, 18140400, 9, 13309200, 8, 18140400, 9, 13914000, 8, 17535600, 9,
     13914000, 8, 17535600, 9, 13914000, 8, 18140400, 9, 13309200, 8, 18140400, 9, 13309200, 8,
     18140400, 9, 11494800, 8, 20559600, 9, 10890000, 8, 20559600, 9, 10890000, 8, 20559600, 9,
     11494800, 8, 20559600, 9, 10890000, 8, 20559600, 9, 10890000, 8, 20559600, 9, 10890000, 8,
     20559600, 9, 10890000, 8, 20559600, 9, 10890000, 8, 20559600, 9, 11494800, 8, 20559600, 9,
     10890000, 8, 20559600, 9, 10890000, 8, 20559600, 9, 10890000, 8, 20559600, 9, 10890000, 8,
     20559600, 9, 11494800, 8, 20559600, 9, 10890000, 8, 20559600, 9, 10890000, 8, 20559600, 9,
     10890000, 8, 20559600, 9, 10890000, 8, 20559600, 9, 10890000, 8, 20559600, 9, 11494800, 8,
     20559600, 9, 10890000, 8, 20559600, 9, 10890000, 8, 20559600, 9, 10890000, 8, 20559600, 9,
     10890000, 8, 20559600, 9, 11494800, 8, 20559600, 9, 10890000, 8, 20559600, 9, 10890000, 8,
     20559600, 9, 10890000, 8, 20559600, 9, 10890000, 8, 20559600, 9, 10890000, 8, 20559600, 9]⟩,
  ⟨"America/Anchorage", "AKST9AKDT,M3.2.0,M11.1.0",
    [10, 100848, 0, 71951, 0, 71999, 0, 64799, 1, 64799, 1, 71999, 0, 64799, 1, 64799, 0, 57599, 1,
     64799, 0, 145, 6450447453, 1, 1036272503, 2, 1308751224, 3, 110804400, 4, 4017600, 2,
     678495600, 5, 65412000, 6, 15721200, 5, 15728400, 6, 15721200, 5, 15728400, 6, 16326000, 5,
     15728400, 6, 15721200, 5, 15728400, 6, 15721200, 5, 6051600, 6, 25398000, 5, 10285200, 6,
     21164400, 5, 15728400, 6, 16326000, 5, 15123600, 6, 16326000, 5, 15728400, 6, 15721200, 5,
     15728400, 6, 15721200, 5, 15728400, 6, 15721200, 5, 15728400, 6, 15721200, 5, 15728400, 6,
     16326000, 5, 15123600, 6, 16326000, 7, 2671200, 9, 13053600, 8, 15721200, 9, 15728400, 8,
     15721200, 9, 15728400, 8, 15721200, 9, 13914000, 8, 17535600, 9, 13914000, 8, 18140400, 9,
     13309200, 8, 18140400, 9, 13309200, 8, 18140400, 9, 13914000, 8, 17535600, 9, 13914000, 8,
     17535600, 9, 13914000, 8, 18140400, 9, 13309200, 8, 18140400, 9, 13309200, 8, 18140400, 9,
     13914000, 8, 17535600, 9, 13914000, 8, 17535600, 9, 13914000, 8, 17535600, 9, 13914000, 8,
     18140400, 9, 13309200, 8, 18140400, 9, 13309200, 8, 18140400, 9, 13914000, 8, 17535600, 9,
     13914000, 8, 17535600, 9, 13914000, 8, 18140400, 9, 13309200, 8, 18140400, 9, 13309200, 8,
     18140400, 9, 11494800, 8, 20559600, 9, 10890000, 8, 20559600, 9, 10890000, 8, 20559600, 9,
     11494800, 8, 20559600, 9, 10890000, 8, 20559600, 9, 10890000, 8, 20559600, 9, 10890000, 8,
     20559600, 9, 10890000, 8, 20559600, 9, 10890000, 8, 20559600, 9, 11494800, 8, 20559600, 9,
     10890000, 8, 20559600, 9, 10890000, 8, 20559600, 9, 10890000, 8, 20559600, 9, 10890000, 8,
     20559600, 9, 11494800, 8, 20559600, 9, 10890000, 8, 20559600, 9, 10890000, 8, 20559600, 9,
     10890000, 8, 20559600, 9, 10890000, 8, 20559600, 9, 10890000, 8, 20559600, 9, 11494800, 8,
     20559600, 9, 10890000, 8, 20559600, 9, 10890000, 8, 20559600, 9, 10890000, 8, 20559600, 9,
     10890000, 8, 20559600, 9, 11494800, 8, 20559600, 9, 10890000, 8, 20559600, 9, 10890000, 8,
     20559600, 9, 10890000, 8, 20559600, 9, 10890000, 8, 20559600, 9, 10890000, 8, 20559600, 9]⟩,
  ⟨"America/Anguilla", "AST4",
    [2, 30271, 0, 28799, 0, 1, 3650196927, 1]⟩,
  ⟨"America/Antigua", "AST4",
    [3, 29663, 0, 35999, 0, 28799, 0, 2, 3650197535, 1, 1225500768, 2]⟩,
  ⟨"America/Araguaina", "<-03>3",
    [3, 23135, 0, 14399, 1, 21599, 0, 52, 3534428063, 2, 560256432, 1, 15595200, 2, 15987600, 1,
     15548400, 2, 526006800, 1, 11750400, 2, 19785600, 1, 10450800, 2, 21085200, 1, 10537200, 2,
     21085200, 1, 7772400, 2, 339987600, 1, 7167600, 2, 29034000, 1, 5094000, 2, 21171600, 1,
     7772400, 2, 21171600, 1, 10364400, 2, 21171600, 1, 10450800, 2, 557715600, 1, 11487600, 2,
     19357200, 1, 9673200, 2, 21862800, 1, 9068400, 2, 21776400, 1, 9068400, 2, 22381200, 1,
     10278000, 2, 179024400, 1, 10278000, 2, 20566800, 1, 11487600, 2, 20048400, 1, 12610800, 2,
     19357200, 1, 11487600, 2, 19357200, 1, 12697200, 2, 19357200, 1, 11487600, 2, 20566800, 1,
     10882800, 2, 22381200, 1, 9068400, 2, 305427600, 1, 10278000, 2, 786417247, 2]⟩,
  ⟨"America/Argentina/Buenos_Aires", "<-03>3",
    [6, 28055, 0, 30815, 0, 28799, 0, 21599, 1, 14399, 1, 21599, 0, 62, 4744195943, 1, 804644580, 2,
     334021392, 3, 10450800, 2, 17024400, 3, 11919600, 2, 21171600, 3, 10364400, 2, 21171600, 3,
     10364400, 2, 21171600, 3, 10364400, 2, 21171600, 3, 10450800, 2, 21171600, 3, 10364400, 2,
     21171600, 3, 10364400, 2, 21171600, 3, 10364400, 2, 21171600, 3, 10450800, 2, 10544400, 3,
     30150000, 2, 10544400, 3, 56588400, 2, 6483600, 3, 74991600, 2, 18493200, 3, 536454000, 2,
     6483600, 3, 6649200, 2, 19702800, 3, 11833200, 2, 19702800, 3, 11833200, 2, 19702800, 3,
     14598000, 2, 15728400, 3, 16326000, 2, 15728400, 3, 15721200, 2, 15728400, 5, 135730800, 4,
     8463600, 5, 460342800, 4, 8118000, 5, 19357200, 4, 12092400, 5, 19962000, 4, 11487600, 5,
     19962000, 4, 11487600, 5, 19962000, 4, 12092400, 5, 207450000, 3, 13132800, 5, 246931200, 4,
     6649200, 5, 18752400, 4, 12697200, 5, 910401247, 5]⟩,
  ⟨"America/Argentina/Catamarca", "<-03>3",
    [6, 31575, 0, 30815, 0, 28799, 0, 21599, 1, 14399, 1, 21599, 0, 62, 4744192423, 1, 804642820, 2,
     334021392, 3, 10450800, 2, 17024400, 3, 11919600, 2, 21171600, 3, 10364400, 2, 21171600, 3,
     10364400, 2, 21171600, 3, 10364400, 2, 21171600, 3, 10450800, 2, 21171600, 3, 10364400, 2,
     21171600, 3, 10364400, 2, 21171600, 3, 10364400, 2, 21171600, 3, 10450800, 2, 10544400, 3,
     30150000, 2, 10544400, 3, 56588400, 2, 6483600, 3, 74991600, 2, 18493200, 3, 536454000, 2,
     6483600, 3, 6649200, 2, 19702800, 3, 11833200, 2, 19702800, 3, 11833200, 2, 19702800, 3,
     14598000, 2, 15728400, 3, 16326000, 2, 15728400, 3, 15721200, 2, 15728400, 5, 135730800, 4,
     8463600, 5, 460342800, 4, 8118000, 5, 19357200, 4, 12092400, 5, 19962000, 4, 11487600, 2,
     19965600, 4, 11484000, 5, 19962000, 4, 12092400, 5, 207450000, 3, 13132800, 5, 134006400, 2,
     1645200, 5, 111279600, 4, 6649200, 5, 941850847, 5]⟩,
  ⟨"America/Argentina/Cordoba", "<-03>3",
    [6, 30815, 0, 30815, 0, 28799, 0, 21599, 1, 14399, 1, 21599, 0, 62, 4744193183, 1, 804643200, 2,
     334021392, 3, 10450800, 2, 17024400, 3, 11919600, 2, 21171600, 3, 10364400, 2, 21171600, 3,
     10364400, 2, 21171600, 3, 10364400, 2, 21171600, 3, 10450800, 2, 21171600, 3, 10364400, 2,
     21171600, 3, 10364400, 2, 21171600, 3, 10364400, 2, 21171600, 3, 10450800, 2, 10544400, 3,
     30150000, 2, 10544400, 3, 56588400, 2, 6483600, 3, 74991600, 2, 18493200, 3, 536454000, 2,
     6483600, 3, 6649200, 2, 19702800, 3, 11833200, 2, 19702800, 3, 11833200, 2, 19702800, 3,
     14598000, 2, 15728400, 3, 16326000, 2, 15728400, 3, 15721200, 2, 15728400, 5, 135730800, 4,
     8463600, 5, 460342800, 4, 8118000, 5, 19357200, 4, 12092400, 5, 19962000, 4, 11487600, 2,
     19965600, 4, 11484000, 5, 19962000, 4, 12092400, 5, 207450000, 3, 13132800, 5, 246931200, 4,
     6649200, 5, 18752400, 4, 12697200, 5, 910401247, 5]⟩,
  ⟨"America/Argentina/Jujuy", "<-03>3",
    [6, 31343, 0, 30815, 0, 28799, 0, 21599, 1, 14399, 1, 21599, 0, 60, 4744192655, 1, 804642936, 2,
     334021392, 3, 10450800, 2, 17024400, 3, 11919600, 2, 21171600, 3, 10364400, 2, 21171600, 3,
     10364400, 2, 21171600, 3, 10364400, 2, 21171600, 3, 10450800, 2, 21171600, 3, 10364400, 2,
     21171600, 3, 10364400, 2, 21171600, 3, 10364400, 2, 21171600, 3, 10450800, 2, 10544400, 3,
     30150000, 2, 10544400, 3, 56588400, 2, 6483600, 3, 74991600, 2, 18493200, 3, 536454000, 2,
     6483600, 3, 6649200, 2, 19702800, 3, 11833200, 2, 19702800, 3, 11833200, 2, 19702800, 3,
     14598000, 2, 15728400, 3, 16326000, 2, 15728400, 3, 15721200, 2, 15728400, 5, 135730800, 4,
     8463600, 5, 460342800, 4, 8118000, 5, 19357200, 4, 12092400, 2, 20570400, 3, 12092400, 2,
     17542800, 4, 12693600, 5, 19962000, 4, 12092400, 5, 207450000, 3, 13132800, 5, 246931200, 4,
     6649200, 5, 941850847, 5]⟩,
  ⟨"America/Argentina/La_Rioja", "<-03>3",
    [6, 32087, 0, 30815, 0, 28799, 0, 21599, 1, 14399, 1, 21599, 0, 63, 4744191911, 1, 804642564, 2,
     334021392, 3, 10450800, 2, 17024400, 3, 11919600, 2, 21171600, 3, 10364400, 2, 21171600, 3,
     10364400, 2, 21171600, 3, 10364400, 2, 21171600, 3, 10450800, 2, 21171600, 3, 10364400, 2,
     21171600, 3, 10364400, 2, 21171600, 3, 10364400, 2, 21171600, 3, 10450800, 2, 10544400, 3,
     30150000, 2, 10544400, 3, 56588400, 2, 6483600, 3, 74991600, 2, 18493200, 3, 536454000, 2,
     6483600, 3, 6649200, 2, 19702800, 3, 11833200, 2, 19702800, 3, 11833200, 2, 19702800, 3,
     14598000, 2, 15728400, 3, 16326000, 2, 15728400, 3, 15721200, 2, 15728400, 5, 135730800, 4,
     8463600, 5, 460342800, 4, 8118000, 5, 19357200, 4, 12092400, 5, 19962000, 4, 11314800, 2,
     5796000, 5, 14338800, 4, 11487600, 5, 19962000, 4, 12092400, 5, 207450000, 3, 13132800, 5,
     134006400, 2, 1645200, 5, 111279600, 4, 6649200, 5, 941850847, 5]⟩,
  ⟨"America/Argentina/Mendoza", "<-03>3",
    [6, 33031, 0, 30815, 0, 28799, 0, 21599, 1, 14399, 1, 21599, 0, 62, 4744190967, 1, 804642092, 2,
     334021392, 3, 10450800, 2, 17024400, 3, 11919600, 2, 21171600, 3, 10364400, 2, 21171600, 3,
     10364400, 2, 21171600, 3, 10364400, 2, 21171600, 3, 10450800, 2, 21171600, 3, 10364400, 2,
     21171600, 3, 10364400, 2, 21171600, 3, 10364400, 2, 21171600, 3, 10450800, 2, 10544400, 3,
     30150000, 2, 10544400, 3, 56588400, 2, 6483600, 3, 74991600, 2, 18493200, 3, 536454000, 2,
     6483600, 3, 6649200, 2, 19702800, 3, 11833200, 2, 19702800, 3, 11833200, 2, 19702800, 3,
     14598000, 2, 15728400, 3, 16326000, 2, 15728400, 3, 15721200, 2, 15728400, 5, 135730800, 4,
     8463600, 5, 460342800, 4, 8118000, 5, 19357200, 4, 12092400, 2, 19447200, 3, 11833200, 2,
     19702800, 3, 11919600, 2, 19962000, 4, 12088800, 5, 207450000, 3, 13132800, 5, 133228800, 2,
     10890000, 5, 102812400, 4, 6649200, 5, 941850847, 5]⟩,
  ⟨"America/Argentina/Rio_Gallegos", "<-03>3",
    [6, 33223, 0, 30815, 0, 28799, 0, 21599, 1, 14399, 1, 21599, 0, 62, 4744190775, 1, 804641996, 2,
     334021392, 3, 10450800, 2, 17024400, 3, 11919600, 2, 21171600, 3, 10364400, 2, 21171600, 3,
     10364400, 2, 21171600, 3, 10364400, 2, 21171600, 3, 10450800, 2, 21171600, 3, 10364400, 2,
     21171600, 3, 10364400, 2, 21171600, 3, 10364400, 2, 21171600, 3, 10450800, 2, 10544400, 3,
     30150000, 2, 10544400, 3, 56588400, 2, 6483600, 3, 74991600, 2, 18493200, 3, 536454000, 2,
     6483600, 3, 6649200, 2, 19702800, 3, 11833200, 2, 19702800, 3, 11833200, 2, 19702800, 3,
     14598000, 2, 15728400, 3, 16326000, 2, 15728400, 3, 15721200, 2, 15728400, 5, 135730800, 4,
     8463600, 5, 460342800, 4, 8118000, 5, 19357200, 4, 12092400, 5, 19962000, 4, 11487600, 5,
     19962000, 4, 11487600, 5, 19962000, 4, 12092400, 5, 207450000, 3, 13132800, 5, 134006400, 2,
     1645200, 5, 111279600, 4, 6649200, 5, 941850847, 5]⟩,
  ⟨"America/Argentina/Salta", "<-03>3",
    [6, 31399, 0, 30815, 0, 28799, 0, 21599, 1, 14399, 1, 21599, 0, 60, 4744192599, 1, 804642908, 2,
     334021392, 3, 10450800, 2, 17024400, 3, 11919600, 2, 21171600, 3, 10364400, 2, 21171600, 3,
     10364400, 2, 21171600, 3, 10364400, 2, 21171600, 3, 10450800, 2, 21171600, 3, 10364400, 2,
     21171600, 3, 10364400, 2, 21171600, 3, 10364400, 2, 21171600, 3, 10450800, 2, 10544400, 3,
     30150000, 2, 10544400, 3, 56588400, 2, 6483600, 3, 74991600, 2, 18493200, 3, 536454000, 2,
     6483600, 3, 6649200, 2, 19702800, 3, 11833200, 2, 19702800, 3, 11833200, 2, 19702800, 3,
     14598000, 2, 15728400, 3, 16326000, 2, 15728400, 3, 15721200, 2, 15728400, 5, 135730800, 4,
     8463600, 5, 460342800, 4, 8118000, 5, 19357200, 4, 12092400, 5, 19962000, 4, 11487600, 2,
     19965600, 4, 11484000, 5, 19962000, 4, 12092400, 5, 207450000, 3, 13132800, 5, 246931200, 4,
     6649200, 5, 941850847, 5]⟩,
  ⟨"America/Argentina/San_Juan", "<-03>3",
    [6, 32887, 0, 30815, 0, 28799, 0, 21599, 1, 14399, 1, 21599, 0, 63, 4744191111, 1, 804642164, 2,
     334021392, 3, 10450800, 2, 17024400, 3, 11919600, 2, 21171600, 3, 10364400, 2, 21171600, 3,
     10364400, 2, 21171600, 3, 10364400, 2, 21171600, 3, 10450800, 2, 21171600, 3, 10364400, 2,
     21171600, 3, 10364400, 2, 21171600, 3, 10364400, 2, 21171600, 3, 10450800, 2, 10544400, 3,
     30150000, 2, 10544400, 3, 56588400, 2, 6483600, 3, 74991600, 2, 18493200, 3, 536454000, 2,
     6483600, 3, 6649200, 2, 19702800, 3, 11833200, 2, 19702800, 3, 11833200, 2, 19702800, 3,
     14598000, 2, 15728400, 3, 16326000, 2, 15728400, 3, 15721200, 2, 15728400, 5, 135730800, 4,
     8463600, 5, 460342800, 4, 8118000, 5, 19357200, 4, 12092400, 5, 19962000, 4, 11314800, 2,
     5796000, 5, 14338800, 4, 11487600, 5, 19962000, 4, 12092400, 5, 207450000, 3, 13132800, 5,
     133920000, 2, 4755600, 5, 108255600, 4, 6649200, 5, 941850847, 5]⟩,
  ⟨"America/Argentina/San_Luis", "<-03>3",
    [7, 31847, 0, 30815, 0, 28799, 0, 21599, 1, 14399, 1, 21599, 0, 21599, 1, 63, 4744192151, 1,
     804642684, 2, 334021392, 3, 10450800, 2, 17024400, 3, 11919600, 2, 21171600, 3, 10364400, 2,
     21171600, 3, 10364400, 2, 21171600, 3, 10364400, 2, 21171600, 3, 10450800, 2, 21171600, 3,
     10364400, 2, 21171600, 3, 10364400, 2, 21171600, 3, 10364400, 2, 21171600, 3, 10450800, 2,
     10544400, 3, 30150000, 2, 10544400, 3, 56588400, 2, 6483600, 3, 74991600, 2, 18493200, 3,
     536454000, 2, 6483600, 3, 6649200, 2, 19702800, 3, 11833200, 2, 19702800, 3, 11833200, 2,
     19702800, 3, 14598000, 2, 15728400, 3, 16326000, 2, 15728400, 3, 15721200, 2, 15728400, 5,
     135730800, 4, 8463600, 5, 460342800, 4, 8118000, 5, 19357200, 4, 12956400, 2, 18583200, 3,
     11833200, 2, 7952400, 5, 263170800, 3, 13132800, 5, 133920000, 2, 4755600, 5, 108255600, 4,
     1897200, 3, 4150800, 2, 18752400, 3, 12697200, 2, 18752400, 5, 892250047, 5]⟩,
  ⟨"America/Argentina/Tucuman", "<-03>3",
    [6, 31303, 0, 30815, 0, 28799, 0, 21599, 1, 14399, 1, 21599, 0, 64, 4744192695, 1, 804642956, 2,
     334021392, 3, 10450800, 2, 17024400, 3, 11919600, 2, 21171600, 3, 10364400, 2, 21171600, 3,
     10364400, 2, 21171600, 3, 10364400, 2, 21171600, 3, 10450800, 2, 21171600, 3, 10364400, 2,
     21171600, 3, 10364400, 2, 21171600, 3, 10364400, 2, 21171600, 3, 10450800, 2, 10544400, 3,
     30150000, 2, 10544400, 3, 56588400, 2, 6483600, 3, 74991600, 2, 18493200, 3, 536454000, 2,
     6483600, 3, 6649200, 2, 19702800, 3, 11833200, 2, 19702800, 3, 11833200, 2, 19702800, 3,
     14598000, 2, 15728400, 3, 16326000, 2, 15728400, 3, 15721200, 2, 15728400, 5, 135730800, 4,
     8463600, 5, 460342800, 4, 8118000, 5, 19357200, 4, 12092400, 5, 19962000, 4, 11487600, 2,
     19965600, 4, 11484000, 5, 19962000, 4, 12092400, 5, 207450000, 3, 13132800, 5, 134006400, 2,
     1040400, 5, 111884400, 4, 6649200, 5, 18752400, 4, 12697200, 5, 910401247, 5]⟩,
  ⟨"America/Argentina/Ushuaia", "<-03>3",
    [6, 32783, 0, 30815, 0, 28799, 0, 21599, 1, 14399, 1, 21599, 0, 62, 4744191215, 1, 804642216, 2,
     334021392, 3, 10450800, 2, 17024400, 3, 11919600, 2, 21171600, 3, 10364400, 2, 21171600, 3,
     10364400, 2, 21171600, 3, 10364400, 2, 21171600, 3, 10450800, 2, 21171600, 3, 10364400, 2,
     21171600, 3, 10364400, 2, 21171600, 3, 10364400, 2, 21171600, 3, 10450800, 2, 10544400, 3,
     30150000, 2, 10544400, 3, 56588400, 2, 6483600, 3, 74991600, 2, 18493200, 3, 536454000, 2,
     6483600, 3, 6649200, 2, 19702800, 3, 11833200, 2, 19702800, 3, 11833200, 2, 19702800, 3,
     14598000, 2, 15728400, 3, 16326000, 2, 15728400, 3, 15721200, 2, 15728400, 5, 135730800, 4,
     8463600, 5, 460342800, 4, 8118000, 5, 19357200, 4, 12092400, 5, 19962000, 4, 11487600, 5,
     19962000, 4, 11487600, 5, 19962000, 4, 12092400, 5, 207450000, 3, 13132800, 5, 133833600, 2,
     1818000, 5, 111279600, 4, 6649200, 5, 941850847, 5]⟩,
  ⟨"America/Aruba", "AST4",
    [3, 33647, 0, 32399, 0, 28799, 0, 2, 3653476751, 1, 1668988176, 2]⟩,
  ⟨"America/Asuncion", "<-03>3",
    [5, 27679, 0, 27679, 0, 28799, 0, 21599, 0, 21599, 1, 105, 5049015519, 1, 1318118400, 2,
     1293149360, 3, 47257200, 2, 47350800, 4, 13129200, 2, 18493200, 4, 13042800, 2, 18493200, 4,
     13042800, 2, 18493200, 4, 15721200, 2, 15814800, 4, 15807600, 2, 15814800, 4, 15721200, 2,
     15814800, 4, 15721200, 2, 15814800, 4, 15721200, 2, 15814800, 4, 15807600, 2, 15814800, 4,
     15721200, 2, 15814800, 4, 15721200, 2, 15814800, 4, 15721200, 2, 15814800, 4, 15807600, 2,
     15814800, 4, 15721200, 2, 17629200, 4, 13906800, 2, 15814800, 4, 15721200, 2, 16246800, 4,
     12697200, 2, 18838800, 4, 15289200, 2, 15901200, 4, 12870000, 2, 18666000, 4, 12783600, 2,
     18752400, 4, 13129200, 2, 18925200, 4, 12092400, 2, 19357200, 4, 12697200, 2, 18752400, 4,
     13302000, 2, 18147600, 4, 13302000, 2, 18147600, 4, 13302000, 2, 18752400, 4, 15721200, 2,
     12704400, 4, 18745200, 2, 13309200, 4, 18140400, 2, 16938000, 4, 12697200, 2, 18752400, 4,
     12697200, 2, 18752400, 4, 12697200, 2, 19357200, 4, 12092400, 2, 19357200, 4, 12092400, 2,
     19357200, 4, 15116400, 2, 15123600, 4, 16326000, 2, 15123600, 4, 16326000, 2, 15728400, 4,
     14511600, 2, 16938000, 4, 14511600, 2, 16938000, 4, 14511600, 2, 16938000, 4, 15116400, 2,
     16333200, 4, 15116400, 2, 16333200, 4, 15116400, 2, 16938000, 4, 14511600, 2, 16938000, 4,
     14511600, 2, 16938000, 4, 15116400, 2, 16333200, 4, 15116400, 2, 16333200, 4, 15116400, 2,
     16333200, 4, 15116400, 2, 16938000, 4, 774000, 3, 418522447, 3]⟩,
  ⟨"America/Atikokan", "EST5",
    [6, 43975, 0, 35999, 1, 43199, 0, 35999, 1, 35999, 1, 35999, 0, 7, 4733466423, 2, 734666012, 1,
     16930800, 2, 691887600, 1, 43034400, 3, 110818800, 4, 4003200, 5]⟩,
  ⟨"America/Bahia", "<-03>3",
    [3, 18487, 0, 14399, 1, 21599, 0, 62, 3534432711, 2, 560258756, 1, 15595200, 2, 15987600, 1,
     15548400, 2, 526006800, 1, 11750400, 2, 19785600, 1, 10450800, 2, 21085200, 1, 10537200, 2,
     21085200, 1, 7772400, 2, 339987600, 1, 7167600, 2, 29034000, 1, 5094000, 2, 21171600, 1,
     7772400, 2, 21171600, 1, 10364400, 2, 21171600, 1, 10450800, 2, 557715600, 1, 11487600, 2,
     19357200, 1, 9673200, 2, 21862800, 1, 9068400, 2, 21776400, 1, 9068400, 2, 22381200, 1,
     10278000, 2, 21776400, 1, 10278000, 2, 21171600, 1, 9673200, 2, 22381200, 1, 8463600, 2,
     22381200, 1, 10882800, 2, 20566800, 1, 10882800, 2, 20566800, 1, 10278000, 2, 20566800, 1,
     11487600, 2, 20048400, 1, 12610800, 2, 19357200, 1, 11487600, 2, 19357200, 1, 12697200, 2,
     19357200, 1, 11487600, 2, 20566800, 1, 10882800, 2, 22381200, 1, 9068400, 2, 273373200, 1,
     11487600, 2, 817262047, 2]⟩,
  ⟨"America/Bahia_Banderas", "CST6",
    [7, 50519, 0, 50399, 0, 43199, 0, 43199, 1, 50399, 0, 35999, 1, 43199, 0, 61, 3029479199, 1,
     171590400, 2, 108342000, 4, 14346000, 3, 13302000, 4, 15814800, 2, 317516400, 4, 1702695600, 3,
     17535600, 4, 13914000, 3, 17535600, 4, 13914000, 3, 17535600, 4, 13914000, 3, 18140400, 4,
     13309200, 3, 18140400, 4, 16333200, 3, 12697200, 4, 16333200, 3, 17535600, 4, 13914000, 3,
     17535600, 4, 13914000, 3, 18140400, 4, 13309200, 3, 18140400, 4, 13309200, 3, 18140400, 4,
     13309200, 3, 18140400, 4, 13914000, 3, 17535600, 4, 13914000, 3, 17535600, 4, 13914000, 5,
     18136800, 2, 13309200, 5, 18140400, 2, 13309200, 5, 18140400, 2, 13914000, 5, 17535600, 2,
     13914000, 5, 17535600, 2, 13914000, 5, 17535600, 2, 13914000, 5, 18140400, 2, 13309200, 5,
     18140400, 2, 13309200, 5, 18140400, 2, 13914000, 5, 17535600, 2, 13914000, 5, 17535600, 2,
     13914000, 5, 18140400, 2, 13309200, 5, 18140400, 2]⟩,
  ⟨"America/Barbados", "AST4",
    [6, 28617, 0, 21599, 1, 28799, 0, 28799, 0, 25199, 1, 21599, 1, 15, 3682512181, 3, 966992491, 1,
     11581200, 2, 21078000, 1, 10890000, 2, 18831600, 4, 13222800, 2, 1033603200, 5, 9673200, 3,
     16938000, 5, 14511600, 3, 16938000, 5, 14511600, 3, 17542800, 5, 13647600, 3]⟩,
  ⟨"America/Belem", "<-03>3",
    [3, 23271, 0, 14399, 1, 21599, 0, 30, 3534427927, 2, 560256364, 1, 15595200, 2, 15987600, 1,
     15548400, 2, 526006800, 1, 11750400, 2, 19785600, 1, 10450800, 2, 21085200, 1, 10537200, 2,
     21085200, 1, 7772400, 2, 339987600, 1, 7167600, 2, 29034000, 1, 5094000, 2, 21171600, 1,
     7772400, 2, 21171600, 1, 10364400, 2, 21171600, 1, 10450800, 2, 557715600, 1, 11487600, 2,
     19357200, 1, 9673200, 2, 21862800, 1, 9068400, 2, 1576286047, 2]⟩,
  ⟨"America/Belize", "CST6",
    [6, 42335, 0, 39599, 1, 43199, 0, 35999, 1, 35999, 1, 35999, 1, 98, 3645000863, 2, 205546032, 1,
     10884600, 2, 20565000, 1, 11489400, 2, 19960200, 1, 11489400, 2, 19960200, 1, 11489400, 2,
     20565000, 1, 10884600, 2, 20565000, 1, 10884600, 2, 20565000, 1, 11489400, 2, 19960200, 1,
     11489400, 2, 19960200, 1, 11489400, 2, 19960200, 1, 11489400, 2, 20565000, 1, 10884600, 2,
     20565000, 1, 10884600, 2, 20565000, 1, 11489400, 2, 19960200, 1, 11489400, 2, 19960200, 1,
     11489400, 2, 20565000, 1, 10884600, 2, 20565000, 1, 10884600, 2, 20565000, 1, 10884600, 2,
     20565000, 1, 11489400, 2, 19960200, 1, 11489400, 2, 19960200, 1, 11489400, 2, 20565000, 1,
     10884600, 2, 20565000, 1, 10884600, 2, 20565000, 1, 11489400, 2, 11493000, 3, 98816400, 4,
     10648800, 2, 56854800, 1, 11489400, 2, 19960200, 1, 11489400, 2, 19960200, 1, 11489400, 2,
     20565000, 1, 10884600, 2, 20565000, 1, 10884600, 2, 20565000, 1, 11489400, 2, 19960200, 1,
     11489400, 2, 19960200, 1, 11489400, 2, 19960200, 1, 11489400, 2, 20565000, 1, 10884600, 2,
     20565000, 1, 10884600, 2, 20565000, 1, 11489400, 2, 19960200, 1, 11489400, 2, 19960200, 1,
     11489400, 2, 20565000, 1, 10884600, 2, 20565000, 1, 10884600, 2, 20565000, 1, 10884600, 2,
     20565000, 1, 11489400, 2, 19960200, 1, 11489400, 2, 19960200, 1, 11489400, 2, 20565000, 1,
     10884600, 2, 183515400, 5, 5698800, 2, 279421200, 5, 4834800, 2]⟩,
  ⟨"America/Blanc-Sablon", "AST4",
    [5, 27415, 0, 21599, 1, 28799, 0, 21599, 1, 21599, 1, 6, 5427793383, 2, 1081822292, 1, 16930800,
     2, 734922000, 3, 110826000, 4, 3996000, 2]⟩,
  ⟨"America/Boa_Vista", "<-04>4",
    [3, 29119, 0, 21599, 1, 28799, 0, 34, 3534422079, 2, 560257040, 1, 15595200, 2, 15987600, 1,
     15548400, 2, 526006800, 1, 11750400, 2, 19785600, 1, 10450800, 2, 21085200, 1, 10537200, 2,
     21085200, 1, 7772400, 2, 339987600, 1, 7167600, 2, 29034000, 1, 5094000, 2, 21171600, 1,
     7772400, 2, 21171600, 1, 10364400, 2, 21171600, 1, 10450800, 2, 557715600, 1, 11487600, 2,
     19357200, 1, 9673200, 2, 21862800, 1, 9068400, 2, 367722000, 1, 12697200, 2, 19357200, 1,
     601200, 2, 1175904847, 2]⟩,
  ⟨"America/Bogota", "<-05>5",
    [4, 35551, 0, 35551, 0, 28799, 1, 35999, 0, 5, 5415343647, 1, 968630400, 3, 2443910624, 2,
     24188400, 3, 1418426047, 3]⟩,
  ⟨"America/Boise", "MST7MDT,M3.2.0,M11.1.0",
    [8, 55777, 0, 50399, 1, 57599, 0, 57599, 0, 43199, 1, 43199, 1, 50399, 0, 43199, 1, 151,
     5435279999, 3, 1084370400, 1, 18140400, 2, 13309200, 1, 18140400, 2, 111891600, 6, 591577200,
     4, 110815200, 5, 4006800, 6, 681008400, 7, 15721200, 6, 15728400, 7, 15721200, 6, 15728400, 7,
     15721200, 6, 15728400, 7, 15721200, 6, 15728400, 7, 16326000, 6, 15728400, 7, 15721200, 6,
     15728400, 7, 15721200, 6, 8470800, 7, 22978800, 6, 10285200, 7, 21164400, 6, 15728400, 7,
     16326000, 6, 15123600, 7, 16326000, 6, 15728400, 7, 15721200, 6, 15728400, 7, 15721200, 6,
     15728400, 7, 15721200, 6, 15728400, 7, 15721200, 6, 15728400, 7, 16326000, 6, 15123600, 7,
     16326000, 6, 15728400, 7, 15721200, 6, 15728400, 7, 15721200, 6, 15728400, 7, 15721200, 6,
     13914000, 7, 17535600, 6, 13914000, 7, 18140400, 6, 13309200, 7, 18140400, 6, 13309200, 7,
     18140400, 6, 13914000, 7, 17535600, 6, 13914000, 7, 17535600, 6, 13914000, 7, 18140400, 6,
     13309200, 7, 18140400, 6, 13309200, 7, 18140400, 6, 13914000, 7, 17535600, 6, 13914000, 7,
     17535600, 6, 13914000, 7, 17535600, 6, 13914000, 7, 18140400, 6, 13309200, 7, 18140400, 6,
     13309200, 7, 18140400, 6, 13914000, 7, 17535600, 6, 13914000, 7, 17535600, 6, 13914000, 7,
     18140400, 6, 13309200, 7, 18140400, 6, 13309200, 7, 18140400, 6, 11494800, 7, 20559600, 6,
     10890000, 7, 20559600, 6, 10890000, 7, 20559600, 6, 11494800, 7, 20559600, 6, 10890000, 7,
     20559600, 6, 10890000, 7, 20559600, 6, 10890000, 7, 20559600, 6, 10890000, 7, 20559600, 6,
     10890000, 7, 20559600, 6, 11494800, 7, 20559600, 6, 10890000, 7, 20559600, 6, 10890000, 7,
     20559600, 6, 10890000, 7, 20559600, 6, 10890000, 7, 20559600, 6, 11494800, 7, 20559600, 6,
     10890000, 7, 20559600, 6, 10890000, 7, 20559600, 6, 10890000, 7, 20559600, 6, 10890000, 7,
     20559600, 6, 10890000, 7, 20559600, 6, 11494800, 7, 20559600, 6, 10890000, 7, 20559600, 6,
     10890000, 7, 20559600, 6, 10890000, 7, 20559600, 6, 10890000, 7, 20559600, 6, 11494800, 7,
     20559600, 6, 10890000, 7, 20559600, 6, 10890000, 7, 20559600, 6, 10890000, 7, 20559600, 6,
     10890000, 7, 20559600, 6, 10890000, 7, 20559600, 6]⟩,
  ⟨"America/Cambridge_Bay", "MST7MDT,M3.2.0,M11.1.0",
    [10, 0, 0, 43199, 1, 43199, 1, 50399, 0, 43199, 1, 35999, 1, 43199, 0, 35999, 0, 43199, 1,
     50399, 0, 137, 3155846399, 3, 697712400, 1, 110815200, 2, 4006800, 3, 838861200, 4, 15721200,
     3, 15728400, 4, 15721200, 3, 15728400, 4, 15721200, 3, 15728400, 4, 15721200, 3, 15728400, 4,
     16326000, 3, 15123600, 4, 16326000, 3, 15728400, 4, 15721200, 3, 15728400, 4, 15721200, 3,
     15728400, 4, 15721200, 3, 15728400, 4, 15721200, 3, 15728400, 4, 16326000, 3, 15123600, 4,
     16326000, 3, 15728400, 4, 15721200, 3, 15728400, 4, 15721200, 3, 15728400, 4, 15721200, 3,
     13914000, 4, 17535600, 3, 13914000, 4, 18140400, 3, 13309200, 4, 18140400, 3, 13309200, 4,
     18140400, 3, 13914000, 4, 17535600, 3, 13914000, 4, 17535600, 3, 13914000, 4, 18140400, 3,
     13309200, 4, 18140400, 3, 13309200, 4, 18140400, 3, 13914000, 4, 17535600, 3, 13914000, 4,
     17535600, 3, 13914000, 4, 17535600, 3, 13914000, 4, 18140400, 6, 13305600, 5, 18140400, 7,
     597600, 6, 12715200, 4, 18140400, 3, 13914000, 4, 17535600, 3, 13914000, 4, 17535600, 3,
     13914000, 4, 18140400, 3, 13309200, 4, 18140400, 3, 13309200, 4, 18140400, 3, 11494800, 4,
     20559600, 3, 10890000, 4, 20559600, 3, 10890000, 4, 20559600, 3, 11494800, 4, 20559600, 3,
     10890000, 4, 20559600, 3, 10890000, 4, 20559600, 3, 10890000, 4, 20559600, 3, 10890000, 4,
     20559600, 3, 10890000, 4, 20559600, 3, 11494800, 4, 20559600, 3, 10890000, 4, 20559600, 3,
     10890000, 4, 20559600, 3, 10890000, 4, 20559600, 3, 10890000, 4, 20559600, 3, 11494800, 4,
     20559600, 3, 10890000, 4, 20559600, 3, 10890000, 4, 20559600, 3, 10890000, 4, 20559600, 3,
     10890000, 4, 20559600, 3, 10890000, 4, 20559600, 3, 11494800, 4, 20559600, 3, 10890000, 4,
     20559600, 3, 10890000, 4, 20559600, 3, 10890000, 4, 20559600, 3, 10890000, 4, 20559600, 3,
     11494800, 4, 20559600, 3, 10890000, 4, 20559600, 3, 10890000, 4, 20559600, 3, 10890000, 4,
     20559600, 3, 10890000, 4, 20559600, 3, 10890000, 4, 20559600, 3]⟩,
  ⟨"America/Campo_Grande", "<-04>4",
    [3, 26215, 0, 21599, 1, 28799, 0, 92, 3534424983, 2, 560258492, 1, 15595200, 2, 15987600, 1,
     15548400, 2, 526006800, 1, 11750400, 2, 19785600, 1, 10450800, 2, 21085200, 1, 10537200, 2,
     21085200, 1, 7772400, 2, 339987600, 1, 7167600, 2, 29034000, 1, 5094000, 2, 21171600, 1,
     7772400, 2, 21171600, 1, 10364400, 2, 21171600, 1, 10450800, 2, 557715600, 1, 11487600, 2,
     19357200, 1, 9673200, 2, 21862800, 1, 9068400, 2, 21776400, 1, 9068400, 2, 22381200, 1,
     10278000, 2, 21776400, 1, 10278000, 2, 21171600, 1, 9673200, 2, 22381200, 1, 8463600, 2,
     22381200, 1, 10882800, 2, 20566800, 1, 10882800, 2, 20566800, 1, 10278000, 2, 20566800, 1,
     11487600, 2, 20048400, 1, 12610800, 2, 19357200, 1, 11487600, 2, 19357200, 1, 12697200, 2,
     19357200, 1, 11487600, 2, 20566800, 1, 10882800, 2, 22381200, 1, 9068400, 2, 21171600, 1,
     10278000, 2, 22554000, 1, 9500400, 2, 20566800, 1, 10882800, 2, 22381200, 1, 9673200, 2,
     19962000, 1, 10882800, 2, 21171600, 1, 10278000, 2, 21171600, 1, 10882800, 2, 20566800, 1,
     10882800, 2, 20566800, 1, 11487600, 2, 20566800, 1, 10278000, 2, 21171600, 1, 10278000, 2,
     21171600, 1, 10882800, 2, 20566800, 1, 10882800, 2, 20566800, 1, 10882800, 2, 20566800, 1,
     10882800, 2, 22381200, 1, 9068400, 2, 597111247, 2]⟩,
  ⟨"America/Cancun", "EST5",
    [8, 41647, 0, 43199, 0, 35999, 0, 35999, 1, 43199, 0, 28799, 1, 35999, 1, 35999, 0, 43,
     3029486399, 1, 1892944800, 2, 32302800, 4, 418359600, 3, 17535600, 4, 13914000, 3, 17535600, 2,
     13910400, 5, 10278000, 3, 7261200, 4, 13914000, 3, 18140400, 4, 13309200, 3, 18140400, 4,
     16333200, 3, 12697200, 4, 16333200, 3, 17535600, 4, 13914000, 3, 17535600, 4, 13914000, 3,
     18140400, 4, 13309200, 3, 18140400, 4, 13309200, 3, 18140400, 4, 13309200, 3, 18140400, 4,
     13914000, 3, 17535600, 4, 13914000, 3, 17535600, 4, 13914000, 3, 18140400, 4, 13309200, 3,
     18140400, 4, 13309200, 3, 18140400, 4, 13914000, 3, 17535600, 4, 13914000, 3, 17535600, 4,
     8470800, 2]⟩,
  ⟨"America/Caracas", "<-04>4",
    [4, 32127, 0, 32119, 0, 32399, 0, 28799, 0, 6, 5049011071, 1, 697766396, 2, 1668988940, 3,
     1354933800, 2, 264902400, 3, 685397647, 3]⟩,
  ⟨"America/Cayenne", "<-03>3",
    [3, 25119, 0, 28799, 0, 21599, 0, 3, 3692538079, 1, 1775176240, 2, 2218576447, 2]⟩,
  ⟨"America/Cayman", "EST5",
    [3, 39063, 0, 36859, 0, 35999, 0, 2, 5049004135, 1, 696814898, 2]⟩,
  ⟨"America/Chicago", "CST6CDT,M3.2.0,M11.1.0",
    [8, 42071, 0, 35999, 1, 43199, 0, 43199, 0, 35999, 0, 35999, 1, 35999, 1, 43199, 0, 236,
     5435294399, 3, 1084370400, 1, 18140400, 2, 13309200, 1, 18140400, 2, 19962000, 1, 12092400, 2,
     12704400, 1, 18745200, 2, 15728400, 1, 12697200, 2, 18752400, 1, 13302000, 2, 18147600, 1,
     13302000, 2, 18147600, 1, 13302000, 2, 18147600, 1, 13302000, 2, 18147600, 1, 13302000, 2,
     18752400, 1, 13302000, 2, 18147600, 1, 13302000, 2, 18147600, 1, 13302000, 2, 18147600, 1,
     13302000, 2, 18147600, 1, 13302000, 2, 18752400, 1, 12697200, 2, 18752400, 1, 13302000, 2,
     18147600, 1, 13302000, 2, 13309200, 4, 22374000, 2, 13914000, 1, 13302000, 2, 18147600, 1,
     13302000, 2, 18752400, 1, 12697200, 2, 18752400, 1, 13302000, 2, 18147600, 1, 13302000, 2,
     11581200, 5, 110818800, 6, 4003200, 2, 18147600, 1, 13302000, 2, 18147600, 1, 13302000, 2,
     18147600, 1, 13302000, 2, 18147600, 1, 13302000, 2, 18752400, 1, 12697200, 2, 18752400, 1,
     13302000, 2, 18147600, 1, 13302000, 2, 18147600, 1, 13302000, 2, 18147600, 1, 13302000, 2,
     18147600, 1, 16326000, 2, 15728400, 1, 15721200, 2, 15728400, 1, 15721200, 2, 15728400, 1,
     15721200, 2, 15728400, 1, 15721200, 2, 15728400, 1, 16326000, 2, 15728400, 1, 15721200, 2,
     15728400, 1, 15721200, 2, 15728400, 1, 15721200, 2, 15728400, 1, 15721200, 2, 15728400, 1,
     16326000, 2, 15123600, 1, 16326000, 2, 15728400, 1, 15721200, 2, 15728400, 1, 15721200, 2,
     15728400, 1, 15721200, 2, 15728400, 1, 15721200, 2, 15728400, 1, 16326000, 2, 15728400, 1,
     15721200, 2, 15728400, 1, 15721200, 2, 6051600, 1, 25398000, 2, 10285200, 1, 21164400, 2,
     15728400, 1, 16326000, 2, 15123600, 1, 16326000, 2, 15728400, 1, 15721200, 2, 15728400, 1,
     15721200, 2, 15728400, 1, 15721200, 2, 15728400, 1, 15721200, 2, 15728400, 1, 16326000, 2,
     15123600, 1, 16326000, 2, 15728400, 1, 15721200, 2, 15728400, 1, 15721200, 2, 15728400, 1,
     15721200, 2, 13914000, 1, 17535600, 2, 13914000, 1, 18140400, 2, 13309200, 1, 18140400, 2,
     13309200, 1, 18140400, 2, 13914000, 1, 17535600, 2, 13914000, 1, 17535600, 2, 13914000, 1,
     18140400, 2, 13309200, 1, 18140400, 2, 13309200, 1, 18140400, 2, 13914000, 1, 17535600, 2,
     13914000, 1, 17535600, 2, 13914000, 1, 17535600, 2, 13914000, 1, 18140400, 2, 13309200, 1,
     18140400, 2, 13309200, 1, 18140400, 2, 13914000, 1, 17535600, 2, 13914000, 1, 17535600, 2,
     13914000, 1, 18140400, 2, 13309200, 1, 18140400, 2, 13309200, 1, 18140400, 2, 11494800, 1,
     20559600, 2, 10890000, 1, 20559600, 2, 10890000, 1, 20559600, 2, 11494800, 1, 20559600, 2,
     10890000, 1, 20559600, 2, 10890000, 1, 20559600, 2, 10890000, 1, 20559600, 2, 10890000, 1,
     20559600, 2, 10890000, 1, 20559600, 2, 11494800, 1, 20559600, 2, 10890000, 1, 20559600, 2,
     10890000, 1, 20559600, 2, 10890000, 1, 20559600, 2, 10890000, 1, 20559600, 2, 11494800, 1,
     20559600, 2, 10890000, 1, 20559600, 2, 10890000, 1, 20559600, 2, 10890000, 1, 20559600, 2,
     10890000, 1, 20559600, 2, 10890000, 1, 20559600, 2, 11494800, 1, 20559600, 2, 10890000, 1,
     20559600, 2, 10890000, 1, 20559600, 2, 10890000, 1, 20559600, 2, 10890000, 1, 20559600, 2,
     11494800, 1, 20559600, 2, 10890000, 1, 20559600, 2, 10890000, 1, 20559600, 2, 10890000, 1,
     20559600, 2, 10890000, 1, 20559600, 2, 10890000, 1, 20559600, 2]⟩,
  ⟨"America/Chihuahua", "CST6",
    [8, 50919, 0, 50399, 0, 43199, 0, 43199, 1, 50399, 0, 35999, 1, 43199, 1, 43199, 0, 60,
     3029479199, 1, 171590400, 2, 108342000, 4, 14346000, 3, 13302000, 4, 15814800, 2, 2020208400,
     5, 17535600, 2, 13914000, 5, 17535600, 2, 13917600, 3, 17535600, 4, 13914000, 3, 18140400, 4,
     13309200, 3, 18140400, 4, 16333200, 3, 12697200, 4, 16333200, 3, 17535600, 4, 13914000, 3,
     17535600, 4, 13914000, 3, 18140400, 4, 13309200, 3, 18140400, 4, 13309200, 3, 18140400, 4,
     13309200, 3, 18140400, 4, 13914000, 3, 17535600, 4, 13914000, 3, 17535600, 4, 13914000, 3,
     18140400, 4, 13309200, 3, 18140400, 4, 13309200, 3, 18140400, 4, 13914000, 3, 17535600, 4,
     13914000, 3, 17535600, 4, 13914000, 3, 17535600, 4, 13914000, 3, 18140400, 4, 13309200, 3,
     18140400, 4, 13309200, 3, 18140400, 4, 13914000, 3, 17535600, 4, 13914000, 3, 17535600, 4,
     13914000, 3, 18140400, 4, 13309200, 3, 18140400, 2]⟩,
  ⟨"America/Ciudad_Juarez", "MST7MDT,M3.2.0,M11.1.0",
    [7, 51111, 0, 50399, 0, 43199, 0, 43199, 1, 50399, 0, 35999, 1, 43199, 1, 91, 3029479199, 1,
     171590400, 2, 108342000, 4, 14346000, 3, 13302000, 4, 15814800, 2, 2020208400, 5, 17535600, 2,
     13914000, 5, 17535600, 2, 13917600, 3, 17535600, 4, 13914000, 3, 18140400, 4, 13309200, 3,
     18140400, 4, 16333200, 3, 12697200, 4, 16333200, 3, 17535600, 4, 13914000, 3, 17535600, 4,
     13914000, 3, 18140400, 4, 13309200, 3, 18140400, 4, 13309200, 3, 18140400, 4, 13309200, 3,
     18140400, 4, 13914000, 3, 17535600, 4, 13914000, 3, 17535600, 4, 12099600, 3, 20559600, 4,
     10890000, 3, 20559600, 4, 10890000, 3, 20559600, 4, 10890000, 3, 20559600, 4, 10890000, 3,
     20559600, 4, 10890000, 3, 20559600, 4, 11494800, 3, 20559600, 4, 10890000, 3, 20559600, 4,
     10890000, 3, 20559600, 4, 10890000, 3, 20559600, 4, 10890000, 3, 20559600, 4, 11494800, 3,
     20559600, 4, 10890000, 3, 19954800, 2, 2671200, 4, 8823600, 3, 20559600, 4, 10890000, 3,
     20559600, 4, 10890000, 3, 20559600, 4, 10890000, 3, 20559600, 4, 11494800, 3, 20559600, 4,
     10890000, 3, 20559600, 4, 10890000, 3, 20559600, 4, 10890000, 3, 20559600, 4, 10890000, 3,
     20559600, 4, 11494800, 3, 20559600, 4, 10890000, 3, 20559600, 4, 10890000, 3, 20559600, 4,
     10890000, 3, 20559600, 4, 10890000, 3, 20559600, 4, 10890000, 3, 20559600, 4]⟩,
  ⟨"America/Costa_Rica", "CST6",
    [4, 40345, 0, 40345, 0, 35999, 1, 43199, 0, 10, 5049002853, 1, 979430400, 3, 1833841427, 2,
     8463600, 3, 22986000, 2, 8463600, 3, 335581200, 2, 14079600, 3, 17370000, 2, 4921200, 3]⟩,
  ⟨"America/Coyhaique", "<-03>3",
    [8, 34591, 0, 33929, 0, 35999, 0, 28799, 0, 28799, 1, 21599, 1, 28799, 0, 21599, 0, 134,
     5049008607, 1, 631842869, 2, 204250635, 1, 69205365, 3, 25399035, 1, 257820165, 4, 18400635, 2,
     13222800, 4, 18313200, 2, 13222800, 4, 18313200, 2, 13222800, 4, 18313200, 2, 13222800, 4,
     18399600, 2, 13222800, 3, 307580400, 2, 5274000, 3, 128646000, 4, 18576000, 2, 4406400, 3,
     677030400, 5, 12697200, 6, 20566800, 5, 10882800, 6, 16938000, 5, 13302000, 6, 18147600, 5,
     13302000, 6, 18752400, 5, 12697200, 6, 17542800, 5, 13906800, 6, 18752400, 5, 12697200, 6,
     18752400, 5, 13302000, 6, 18147600, 5, 13302000, 6, 18147600, 5, 13302000, 6, 18752400, 5,
     12697200, 6, 18752400, 5, 12697200, 6, 18752400, 5, 13302000, 6, 18147600, 5, 13302000, 6,
     18147600, 5, 13302000, 6, 18147600, 5, 13302000, 6, 18752400, 5, 12697200, 6, 18752400, 5,
     12697200, 6, 18752400, 5, 15721200, 6, 15728400, 5, 13302000, 6, 18147600, 5, 13302000, 6,
     18752400, 5, 12697200, 6, 16333200, 5, 15116400, 6, 18752400, 5, 13302000, 6, 18147600, 5,
     13302000, 6, 18147600, 5, 13302000, 6, 18147600, 5, 13302000, 6, 18752400, 5, 12697200, 6,
     18752400, 5, 14511600, 6, 16938000, 5, 13302000, 6, 16938000, 5, 16326000, 6, 16333200, 5,
     13302000, 6, 18752400, 5, 12697200, 6, 18752400, 5, 12697200, 6, 18752400, 5, 12697200, 6,
     18752400, 5, 13302000, 6, 18147600, 5, 13302000, 6, 18147600, 5, 13302000, 6, 18752400, 5,
     12697200, 6, 18752400, 5, 14511600, 6, 16938000, 5, 13302000, 6, 18147600, 5, 15116400, 6,
     16333200, 5, 18140400, 6, 9075600, 5, 21769200, 6, 10890000, 5, 20559600, 6, 11494800, 5,
     19954800, 6, 11494800, 5, 53218800, 6, 7866000, 5, 23583600, 6, 7866000, 5, 23583600, 6,
     7866000, 5, 20559600, 6, 13309200, 5, 18140400, 6, 13309200, 5, 18140400, 6, 13309200, 5,
     18140400, 6, 13914000, 5, 17535600, 6, 13309200, 5, 18745200, 6, 13309200, 5, 16671600, 7,
     405044047, 7]⟩,
  ⟨"America/Creston", "MST7",
    [4, 55927, 0, 50399, 0, 57599, 0, 50399, 0, 3, 5427764871, 1, 1033427636, 2, 52621200, 1]⟩,
  ⟨"America/Cuiaba", "<-04>4",
    [3, 26919, 0, 21599, 1, 28799, 0, 90, 3534424279, 2, 560258140, 1, 15595200, 2, 15987600, 1,
     15548400, 2, 526006800, 1, 11750400, 2, 19785600, 1, 10450800, 2, 21085200, 1, 10537200, 2,
     21085200, 1, 7772400, 2, 339987600, 1, 7167600, 2, 29034000, 1, 5094000, 2, 21171600, 1,
     7772400, 2, 21171600, 1, 10364400, 2, 21171600, 1, 10450800, 2, 557715600, 1, 11487600, 2,
     19357200, 1, 9673200, 2, 21862800, 1, 9068400, 2, 21776400, 1, 9068400, 2, 22381200, 1,
     10278000, 2, 21776400, 1, 10278000, 2, 21171600, 1, 9673200, 2, 22381200, 1, 8463600, 2,
     22381200, 1, 10882800, 2, 20566800, 1, 10882800, 2, 20566800, 1, 10278000, 2, 20566800, 1,
     11487600, 2, 20048400, 1, 12610800, 2, 19357200, 1, 11487600, 2, 19357200, 1, 12697200, 2,
     19357200, 1, 11487600, 2, 20566800, 1, 10882800, 2, 22381200, 1, 9068400, 2, 54003600, 1,
     9500400, 2, 20566800, 1, 10882800, 2, 22381200, 1, 9673200, 2, 19962000, 1, 10882800, 2,
     21171600, 1, 10278000, 2, 21171600, 1, 10882800, 2, 20566800, 1, 10882800, 2, 20566800, 1,
     11487600, 2, 20566800, 1, 10278000, 2, 21171600, 1, 10278000, 2, 21171600, 1, 10882800, 2,
     20566800, 1, 10882800, 2, 20566800, 1, 10882800, 2, 20566800, 1, 10882800, 2, 22381200, 1,
     9068400, 2, 597111247, 2]⟩,
  ⟨"America/Curacao", "AST4",
    [3, 33093, 0, 32399, 0, 28799, 0, 2, 3653477305, 1, 1668988453, 2]⟩,
  ⟨"America/Danmarkshavn", "GMT0",
    [6, 8959, 0, 21599, 0, 21599, 0, 14399, 1, 14399, 1, 0, 0, 34, 3372183039, 1, 2009936720, 4,
     15105600, 2, 15724800, 3, 15724800, 2, 15724800, 3, 15724800, 2, 15724800, 3, 15724800, 2,
     15724800, 3, 16329600, 2, 15724800, 3, 15724800, 2, 15724800, 3, 15724800, 2, 15724800, 3,
     15724800, 2, 15724800, 3, 15724800, 2, 15724800, 3, 15724800, 2, 15724800, 3, 16329600, 2,
     15724800, 3, 15724800, 2, 15724800, 3, 15724800, 2, 15724800, 3, 15724800, 2, 15724800, 3,
     15724800, 2, 15724800, 3, 15724800, 2, 8560800, 5]⟩,
  ⟨"America/Dawson", "MST7",
    [9, 66919, 0, 57599, 1, 64799, 0, 57599, 1, 57599, 1, 50399, 1, 57599, 0, 50399, 1, 50399, 0,
     93, 4377993879, 2, 556940540, 1, 16930800, 2, 18147600, 1, 13813200, 2, 702961200, 3,
     110808000, 4, 4014000, 2, 617497200, 5, 16329600, 2, 252201600, 6, 205030800, 7, 15721200, 6,
     15728400, 7, 15721200, 6, 15728400, 7, 16326000, 6, 15123600, 7, 16326000, 6, 15728400, 7,
     15721200, 6, 15728400, 7, 15721200, 6, 15728400, 7, 15721200, 6, 13914000, 7, 17535600, 6,
     13914000, 7, 18140400, 6, 13309200, 7, 18140400, 6, 13309200, 7, 18140400, 6, 13914000, 7,
     17535600, 6, 13914000, 7, 17535600, 6, 13914000, 7, 18140400, 6, 13309200, 7, 18140400, 6,
     13309200, 7, 18140400, 6, 13914000, 7, 17535600, 6, 13914000, 7, 17535600, 6, 13914000, 7,
     17535600, 6, 13914000, 7, 18140400, 6, 13309200, 7, 18140400, 6, 13309200, 7, 18140400, 6,
     13914000, 7, 17535600, 6, 13914000, 7, 17535600, 6, 13914000, 7, 18140400, 6, 13309200, 7,
     18140400, 6, 13309200, 7, 18140400, 6, 11494800, 7, 20559600, 6, 10890000, 7, 20559600, 6,
     10890000, 7, 20559600, 6, 11494800, 7, 20559600, 6, 10890000, 7, 20559600, 6, 10890000, 7,
     20559600, 6, 10890000, 7, 20559600, 6, 10890000, 7, 20559600, 6, 10890000, 7, 20559600, 6,
     11494800, 7, 20559600, 6, 10890000, 7, 20559600, 6, 10890000, 7, 20559600, 6, 10890000, 7,
     20559600, 6, 10890000, 7, 20552400, 8]⟩,
  ⟨"America/Dawson_Creek", "MST7",
    [6, 57711, 0, 50399, 1, 57599, 0, 50399, 1, 50399, 1, 50399, 0, 58, 5427763087, 2, 1081821544,
     1, 16930800, 2, 734922000, 3, 110811600, 4, 4010400, 2, 49597200, 1, 13302000, 2, 18147600, 1,
     13302000, 2, 18147600, 1, 13302000, 2, 18752400, 1, 12697200, 2, 18752400, 1, 13302000, 2,
     18147600, 1, 13302000, 2, 18147600, 1, 13302000, 2, 18147600, 1, 13302000, 2, 18147600, 1,
     13302000, 2, 18752400, 1, 13302000, 2, 18147600, 1, 13302000, 2, 18147600, 1, 13302000, 2,
     18147600, 1, 13302000, 2, 18147600, 1, 13302000, 2, 18752400, 1, 12697200, 2, 18752400, 1,
     15721200, 2, 15728400, 1, 15721200, 2, 15728400, 1, 15721200, 2, 15728400, 1, 16326000, 2,
     15123600, 1, 16326000, 2, 15728400, 1, 15721200, 2, 15728400, 1, 15721200, 2, 15728400, 1,
     15721200, 2, 15728400, 1, 15721200, 2, 15728400, 1, 16326000, 2, 15728400, 1, 10537200, 5]⟩,
  ⟨"America/Denver", "MST7MDT,M3.2.0,M11.1.0",
    [6, 50391, 0, 43199, 1, 50399, 0, 50399, 0, 43199, 1, 43199, 1, 158, 5435287199, 3, 1084370400,
     1, 18140400, 2, 13309200, 1, 18140400, 2, 13309200, 1, 18745200, 2, 12704400, 1, 4834800, 2,
     653878800, 4, 110815200, 5, 4006800, 2, 617504400, 1, 16326000, 2, 15123600, 1, 16326000, 2,
     15728400, 1, 15721200, 2, 15728400, 1, 15721200, 2, 15728400, 1, 15721200, 2, 15728400, 1,
     15721200, 2, 15728400, 1, 16326000, 2, 15728400, 1, 15721200, 2, 15728400, 1, 15721200, 2,
     6051600, 1, 25398000, 2, 10285200, 1, 21164400, 2, 15728400, 1, 16326000, 2, 15123600, 1,
     16326000, 2, 15728400, 1, 15721200, 2, 15728400, 1, 15721200, 2, 15728400, 1, 15721200, 2,
     15728400, 1, 15721200, 2, 15728400, 1, 16326000, 2, 15123600, 1, 16326000, 2, 15728400, 1,
     15721200, 2, 15728400, 1, 15721200, 2, 15728400, 1, 15721200, 2, 13914000, 1, 17535600, 2,
     13914000, 1, 18140400, 2, 13309200, 1, 18140400, 2, 13309200, 1, 18140400, 2, 13914000, 1,
     17535600, 2, 13914000, 1, 17535600, 2, 13914000, 1, 18140400, 2, 13309200, 1, 18140400, 2,
     13309200, 1, 18140400, 2, 13914000, 1, 17535600, 2, 13914000, 1, 17535600, 2, 13914000, 1,
     17535600, 2, 13914000, 1, 18140400, 2, 13309200, 1, 18140400, 2, 13309200, 1, 18140400, 2,
     13914000, 1, 17535600, 2, 13914000, 1, 17535600, 2, 13914000, 1, 18140400, 2, 13309200, 1,
     18140400, 2, 13309200, 1, 18140400, 2, 11494800, 1, 20559600, 2, 10890000, 1, 20559600, 2,
     10890000, 1, 20559600, 2, 11494800, 1, 20559600, 2, 10890000, 1, 20559600, 2, 10890000, 1,
     20559600, 2, 10890000, 1, 20559600, 2, 10890000, 1, 20559600, 2, 10890000, 1, 20559600, 2,
     11494800, 1, 20559600, 2, 10890000, 1, 20559600, 2, 10890000, 1, 20559600, 2, 10890000, 1,
     20559600, 2, 10890000, 1, 20559600, 2, 11494800, 1, 20559600, 2, 10890000, 1, 20559600, 2,
     10890000, 1, 20559600, 2, 10890000, 1, 20559600, 2, 10890000, 1, 20559600, 2, 10890000, 1,
     20559600, 2, 11494800, 1, 20559600, 2, 10890000, 1, 20559600, 2, 10890000, 1, 20559600, 2,
     10890000, 1, 20559600, 2, 10890000, 1, 20559600, 2, 11494800, 1, 20559600, 2, 10890000, 1,
     20559600, 2, 10890000, 1, 20559600, 2, 10890000, 1, 20559600, 2, 10890000, 1, 20559600, 2,
     10890000, 1, 20559600, 2]⟩,
  ⟨"America/Detroit", "EST5EDT,M3.2.0,M11.1.0",
    [6, 39861, 0, 43199, 0, 35999, 0, 28799, 1, 28799, 1, 28799, 1, 141, 4102404937, 1, 327119269,
     2, 843865200, 3, 110822400, 4, 3999600, 2, 81046800, 5, 13302000, 2, 590540460, 5, 11840340, 2,
     15728400, 5, 15721200, 2, 142131600, 5, 15721200, 2, 6051600, 5, 25398000, 2, 15728400, 5,
     15721200, 2, 15728400, 5, 16326000, 2, 15123600, 5, 16326000, 2, 15728400, 5, 15721200, 2,
     15728400, 5, 15721200, 2, 15728400, 5, 15721200, 2, 15728400, 5, 15721200, 2, 15728400, 5,
     16326000, 2, 15123600, 5, 16326000, 2, 15728400, 5, 15721200, 2, 15728400, 5, 15721200, 2,
     15728400, 5, 15721200, 2, 13914000, 5, 17535600, 2, 13914000, 5, 18140400, 2, 13309200, 5,
     18140400, 2, 13309200, 5, 18140400, 2, 13914000, 5, 17535600, 2, 13914000, 5, 17535600, 2,
     13914000, 5, 18140400, 2, 13309200, 5, 18140400, 2, 13309200, 5, 18140400, 2, 13914000, 5,
     17535600, 2, 13914000, 5, 17535600, 2, 13914000, 5, 17535600, 2, 13914000, 5, 18140400, 2,
     13309200, 5, 18140400, 2, 13309200, 5, 18140400, 2, 13914000, 5, 17535600, 2, 13914000, 5,
     17535600, 2, 13914000, 5, 18140400, 2, 13309200, 5, 18140400, 2, 13309200, 5, 18140400, 2,
     11494800, 5, 20559600, 2, 10890000, 5, 20559600, 2, 10890000, 5, 20559600, 2, 11494800, 5,
     20559600, 2, 10890000, 5, 20559600, 2, 10890000, 5, 20559600, 2, 10890000, 5, 20559600, 2,
     10890000, 5, 20559600, 2, 10890000, 5, 20559600, 2, 11494800, 5, 20559600, 2, 10890000, 5,
     20559600, 2, 10890000, 5, 20559600, 2, 10890000, 5, 20559600, 2, 10890000, 5, 20559600, 2,
     11494800, 5, 20559600, 2, 10890000, 5, 20559600, 2, 10890000, 5, 20559600, 2, 10890000, 5,
     20559600, 2, 10890000, 5, 20559600, 2, 10890000, 5, 20559600, 2, 11494800, 5, 20559600, 2,
     10890000, 5, 20559600, 2, 10890000, 5, 20559600, 2, 10890000, 5, 20559600, 2, 10890000, 5,
     20559600, 2, 11494800, 5, 20559600, 2, 10890000, 5, 20559600, 2, 10890000, 5, 20559600, 2,
     10890000, 5, 20559600, 2, 10890000, 5, 20559600, 2, 10890000, 5, 20559600, 2]⟩,
  ⟨"America/Dominica", "AST4",
    [2, 29471, 0, 28799, 0, 1, 3692533607, 1]⟩,
  ⟨"America/Edmonton", "MST7MDT,M3.2.0,M11.1.0",
    [5, 54463, 0, 43199, 1, 50399, 0, 43199, 1, 43199, 1, 150, 3997327935, 2, 366600368, 1,
     16930800, 2, 14518800, 1, 3798000, 2, 28861200, 1, 16326000, 2, 15123600, 1, 13302000, 2,
     18752400, 1, 12697200, 2, 18752400, 1, 13302000, 2, 579488400, 3, 110815200, 4, 4006800, 2,
     49597200, 1, 13302000, 2, 775962000, 1, 15721200, 2, 15728400, 1, 15721200, 2, 15728400, 1,
     15721200, 2, 15728400, 1, 15721200, 2, 15728400, 1, 16326000, 2, 15123600, 1, 16326000, 2,
     15728400, 1, 15721200, 2, 15728400, 1, 15721200, 2, 15728400, 1, 15721200, 2, 15728400, 1,
     15721200, 2, 15728400, 1, 16326000, 2, 15123600, 1, 16326000, 2, 15728400, 1, 15721200, 2,
     15728400, 1, 15721200, 2, 15728400, 1, 15721200, 2, 13914000, 1, 17535600, 2, 13914000, 1,
     18140400, 2, 13309200, 1, 18140400, 2, 13309200, 1, 18140400, 2, 13914000, 1, 17535600, 2,
     13914000, 1, 17535600, 2, 13914000, 1, 18140400, 2, 13309200, 1, 18140400, 2, 13309200, 1,
     18140400, 2, 13914000, 1, 17535600, 2, 13914000, 1, 17535600, 2, 13914000, 1, 17535600, 2,
     13914000, 1, 18140400, 2, 13309200, 1, 18140400, 2, 13309200, 1, 18140400, 2, 13914000, 1,
     17535600, 2, 13914000, 1, 17535600, 2, 13914000, 1, 18140400, 2, 13309200, 1, 18140400, 2,
     13309200, 1, 18140400, 2, 11494800, 1, 20559600, 2, 10890000, 1, 20559600, 2, 10890000, 1,
     20559600, 2, 11494800, 1, 20559600, 2, 10890000, 1, 20559600, 2, 10890000, 1, 20559600, 2,
     10890000, 1, 20559600, 2, 10890000, 1, 20559600, 2, 10890000, 1, 20559600, 2, 11494800, 1,
     20559600, 2, 10890000, 1, 20559600, 2, 10890000, 1, 20559600, 2, 10890000, 1, 20559600, 2,
     10890000, 1, 20559600, 2, 11494800, 1, 20559600, 2, 10890000, 1, 20559600, 2, 10890000, 1,
     20559600, 2, 10890000, 1, 20559600, 2, 10890000, 1, 20559600, 2, 10890000, 1, 20559600, 2,
     11494800, 1, 20559600, 2, 10890000, 1, 20559600, 2, 10890000, 1, 20559600, 2, 10890000, 1,
     20559600, 2, 10890000, 1, 20559600, 2, 11494800, 1, 20559600, 2, 10890000, 1, 20559600, 2,
     10890000, 1, 20559600, 2, 10890000, 1, 20559600, 2, 10890000, 1, 20559600, 2, 10890000, 1,
     20559600, 2]⟩,
  ⟨"America/Eirunepe", "<-05>5",
    [5, 33535, 0, 28799, 1, 35999, 0, 28799, 0, 35999, 0, 34, 3534417663, 2, 560258432, 1, 15595200,
     2, 15987600, 1, 15548400, 2, 526006800, 1, 11750400, 2, 19785600, 1, 10450800, 2, 21085200, 1,
     10537200, 2, 21085200, 1, 7772400, 2, 339987600, 1, 7167600, 2, 29034000, 1, 5094000, 2,
     21171600, 1, 7772400, 2, 21171600, 1, 10364400, 2, 21171600, 1, 10450800, 2, 557715600, 1,
     11487600, 2, 19357200, 1, 9673200, 2, 21862800, 1, 9068400, 2, 179629200, 1, 10882800, 2,
     452566800, 3, 169772400, 2, 763427647, 2]⟩,
  ⟨"America/El_Salvador", "CST6",
    [3, 42815, 0, 35999, 1, 43199, 0, 5, 3092558783, 2, 2093299392, 1, 12697200, 2, 18752400, 1,
     12697200, 2]⟩,
  ⟨"America/Fort_Nelson", "MST7",
    [6, 58893, 0, 50399, 1, 57599, 0, 50399, 1, 50399, 1, 50399, 0, 143, 5427761905, 2, 1081820953,
     1, 16930800, 2, 734922000, 3, 110811600, 4, 4010400, 2, 49597200, 1, 13302000, 2, 18147600, 1,
     13302000, 2, 18147600, 1, 13302000, 2, 18752400, 1, 12697200, 2, 18752400, 1, 13302000, 2,
     18147600, 1, 13302000, 2, 18147600, 1, 13302000, 2, 18147600, 1, 13302000, 2, 18147600, 1,
     13302000, 2, 18752400, 1, 13302000, 2, 18147600, 1, 13302000, 2, 18147600, 1, 13302000, 2,
     18147600, 1, 13302000, 2, 18147600, 1, 13302000, 2, 18752400, 1, 12697200, 2, 18752400, 1,
     15721200, 2, 15728400, 1, 15721200, 2, 15728400, 1, 15721200, 2, 15728400, 1, 16326000, 2,
     15123600, 1, 16326000, 2, 15728400, 1, 15721200, 2, 15728400, 1, 15721200, 2, 15728400, 1,
     15721200, 2, 15728400, 1, 15721200, 2, 15728400, 1, 16326000, 2, 15728400, 1, 15721200, 2,
     15728400, 1, 15721200, 2, 15728400, 1, 15721200, 2, 15728400, 1, 15721200, 2, 15728400, 1,
     16326000, 2, 15123600, 1, 16326000, 2, 15728400, 1, 15721200, 2, 15728400, 1, 15721200, 2,
     15728400, 1, 15721200, 2, 15728400, 1, 15721200, 2, 15728400, 1, 16326000, 2, 15123600, 1,
     16326000, 2, 15728400, 1, 15721200, 2, 15728400, 1, 15721200, 2, 15728400, 1, 15721200, 2,
     13914000, 1, 17535600, 2, 13914000, 1, 18140400, 2, 13309200, 1, 18140400, 2, 13309200, 1,
     18140400, 2, 13914000, 1, 17535600, 2, 13914000, 1, 17535600, 2, 13914000, 1, 18140400, 2,
     13309200, 1, 18140400, 2, 13309200, 1, 18140400, 2, 13914000, 1, 17535600, 2, 13914000, 1,
     17535600, 2, 13914000, 1, 17535600, 2, 13914000, 1, 18140400, 2, 13309200, 1, 18140400, 2,
     13309200, 1, 18140400, 2, 13914000, 1, 17535600, 2, 13914000, 1, 17535600, 2, 13914000, 1,
     18140400, 2, 13309200, 1, 18140400, 2, 13309200, 1, 18140400, 2, 11494800, 1, 20559600, 2,
     10890000, 1, 20559600, 2, 10890000, 1, 20559600, 2, 11494800, 1, 20559600, 2, 10890000, 1,
     20559600, 2, 10890000, 1, 20559600, 2, 10890000, 1, 20559600, 2, 10890000, 1, 20559600, 2,
     10890000, 5]⟩,
  ⟨"America/Fortaleza", "<-03>3",
    [3, 18479, 0, 14399, 1, 21599, 0, 40, 3534432719, 2, 560258760, 1, 15595200, 2, 15987600, 1,
     15548400, 2, 526006800, 1, 11750400, 2, 19785600, 1, 10450800, 2, 21085200, 1, 10537200, 2,
     21085200, 1, 7772400, 2, 339987600, 1, 7167600, 2, 29034000, 1, 5094000, 2, 21171600, 1,
     7772400, 2, 21171600, 1, 10364400, 2, 21171600, 1, 10450800, 2, 557715600, 1, 11487600, 2,
     19357200, 1, 9673200, 2, 21862800, 1, 9068400, 2, 21776400, 1, 9068400, 2, 22381200, 1,
     10278000, 2, 304218000, 1, 12697200, 2, 19357200, 1, 1206000, 2, 30848400, 1, 10882800, 2,
     1133572447, 2]⟩,
  ⟨"America/Glace_Bay", "AST4ADT,M3.2.0,M11.1.0",
    [5, 28775, 0, 21599, 1, 28799, 0, 21599, 1, 21599, 1, 140, 4263292823, 2, 499572012, 1,
     16930800, 2, 734922000, 3, 110826000, 4, 3996000, 2, 238899600, 1, 13302000, 2, 586659600, 1,
     15721200, 2, 15728400, 1, 15721200, 2, 15728400, 1, 15721200, 2, 15728400, 1, 15721200, 2,
     15728400, 1, 16326000, 2, 15123600, 1, 16326000, 2, 15728400, 1, 15721200, 2, 15728400, 1,
     15721200, 2, 15728400, 1, 15721200, 2, 15728400, 1, 15721200, 2, 15728400, 1, 16326000, 2,
     15123600, 1, 16326000, 2, 15728400, 1, 15721200, 2, 15728400, 1, 15721200, 2, 15728400, 1,
     15721200, 2, 13914000, 1, 17535600, 2, 13914000, 1, 18140400, 2, 13309200, 1, 18140400, 2,
     13309200, 1, 18140400, 2, 13914000, 1, 17535600, 2, 13914000, 1, 17535600, 2, 13914000, 1,
     18140400, 2, 13309200, 1, 18140400, 2, 13309200, 1, 18140400, 2, 13914000, 1, 17535600, 2,
     13914000, 1, 17535600, 2, 13914000, 1, 17535600, 2, 13914000, 1, 18140400, 2, 13309200, 1,
     18140400, 2, 13309200, 1, 18140400, 2, 13914000, 1, 17535600, 2, 13914000, 1, 17535600, 2,
     13914000, 1, 18140400, 2, 13309200, 1, 18140400, 2, 13309200, 1, 18140400, 2, 11494800, 1,
     20559600, 2, 10890000, 1, 20559600, 2, 10890000, 1, 20559600, 2, 11494800, 1, 20559600, 2,
     10890000, 1, 20559600, 2, 10890000, 1, 20559600, 2, 10890000, 1, 20559600, 2, 10890000, 1,
     20559600, 2, 10890000, 1, 20559600, 2, 11494800, 1, 20559600, 2, 10890000, 1, 20559600, 2,
     10890000, 1, 20559600, 2, 10890000, 1, 20559600, 2, 10890000, 1, 20559600, 2, 11494800, 1,
     20559600, 2, 10890000, 1, 20559600, 2, 10890000, 1, 20559600, 2, 10890000, 1, 20559600, 2,
     10890000, 1, 20559600, 2, 10890000, 1, 20559600, 2, 11494800, 1, 20559600, 2, 10890000, 1,
     20559600, 2, 10890000, 1, 20559600, 2, 10890000, 1, 20559600, 2, 10890000, 1, 20559600, 2,
     11494800, 1, 20559600, 2, 10890000, 1, 20559600, 2, 10890000, 1, 20559600, 2, 10890000, 1,
     20559600, 2, 10890000, 1, 20559600, 2, 10890000, 1, 20559600, 2]⟩,
  ⟨"America/Goose_Bay", "AST4ADT,M3.2.0,M11.1.0",
    [11, 28999, 0, 25303, 0, 18103, 1, 25199, 0, 17999, 1, 17999, 1, 17999, 1, 21599, 1, 28799, 0,
     14399, 1, 21599, 1, 204, 5427791799, 1, 1081819752, 2, 16930800, 1, 518223600, 3, 35251148, 4,
     12697200, 3, 18752400, 4, 12697200, 3, 18752400, 4, 12697200, 3, 19357200, 4, 12092400, 3,
     19357200, 4, 12697200, 3, 18752400, 4, 12697200, 3, 18752400, 6, 102972600, 5, 3994200, 3,
     19357200, 4, 12697200, 3, 18752400, 4, 12697200, 3, 18752400, 4, 12697200, 3, 18752400, 4,
     12697200, 3, 19357200, 4, 12697200, 3, 17542800, 4, 13302000, 3, 18147600, 4, 13302000, 3,
     18147600, 4, 13302000, 3, 18147600, 4, 13302000, 3, 18147600, 4, 13302000, 3, 18752400, 4,
     13302000, 3, 18147600, 4, 13302000, 3, 18147600, 4, 13302000, 3, 18147600, 4, 13302000, 3,
     18147600, 4, 16326000, 3, 15728400, 4, 15721200, 3, 15728400, 4, 15721200, 3, 15728400, 4,
     15721200, 3, 15728400, 4, 15721200, 3, 15728400, 4, 16326000, 3, 11667600, 8, 3457800, 7,
     16326000, 8, 15728400, 7, 15721200, 8, 15728400, 7, 15721200, 8, 15728400, 7, 15721200, 8,
     15728400, 7, 15721200, 8, 15728400, 7, 16326000, 8, 15728400, 7, 15721200, 8, 15728400, 7,
     15721200, 8, 15728400, 7, 15721200, 8, 15728400, 7, 15721200, 8, 15728400, 7, 16326000, 8,
     15123600, 7, 16326000, 8, 15728400, 7, 15721200, 8, 15728400, 7, 15721200, 8, 15728400, 7,
     15721200, 8, 15728400, 7, 15721200, 8, 15728400, 7, 16326000, 8, 15123600, 7, 16326000, 8,
     15728400, 7, 15721200, 8, 15728400, 7, 15721200, 8, 15728400, 7, 15721200, 8, 13906860, 7,
     17535600, 8, 13914000, 9, 18136800, 8, 13312800, 7, 18140400, 8, 13309200, 7, 18140400, 8,
     13914000, 7, 17535600, 8, 13914000, 7, 17535600, 8, 13914000, 7, 18140400, 8, 13309200, 7,
     18140400, 8, 13309200, 7, 18140400, 8, 13914000, 7, 17535600, 8, 13914000, 7, 17535600, 8,
     13914000, 7, 17535600, 8, 13914000, 7, 18140400, 8, 13309200, 7, 18140400, 8, 13309200, 7,
     18140400, 8, 13914000, 7, 17535600, 8, 13914000, 7, 17535600, 8, 13914000, 7, 18140400, 8,
     13309200, 7, 18140400, 8, 13309200, 7, 18140400, 8, 11494800, 7, 20559600, 8, 10890000, 7,
     20559600, 8, 10890000, 7, 20559600, 8, 11494800, 7, 20559600, 8, 10890000, 7, 20566740, 8,
     10890000, 7, 20559600, 8, 10890000, 7, 20559600, 8, 10890000, 7, 20559600, 8, 10890000, 7,
     20559600, 8, 11494800, 7, 20559600, 8, 10890000, 7, 20559600, 8, 10890000, 7, 20559600, 8,
     10890000, 7, 20559600, 8, 10890000, 7, 20559600, 8, 11494800, 7, 20559600, 8, 10890000, 7,
     20559600, 8, 10890000, 7, 20559600, 8, 10890000, 7, 20559600, 8, 10890000, 7, 20559600, 8,
     10890000, 7, 20559600, 8, 11494800, 7, 20559600, 8, 10890000, 7, 20559600, 8, 10890000, 7,
     20559600, 8, 10890000, 7, 20559600, 8, 10890000, 7, 20559600, 8, 11494800, 7, 20559600, 8,
     10890000, 7, 20559600, 8, 10890000, 7, 20559600, 8, 10890000, 7, 20559600, 8, 10890000, 7,
     20559600, 8, 10890000, 7, 20559600, 8]⟩,
  ⟨"America/Grand_Turk", "EST5EDT,M3.2.0,M11.1.0",
    [6, 34143, 0, 36859, 0, 35999, 0, 28799, 1, 28799, 0, 35999, 0, 115, 5049009055, 1, 696817358,
     2, 2121904370, 3, 15721200, 2, 15728400, 3, 15721200, 2, 15728400, 3, 15721200, 2, 15728400, 3,
     16326000, 2, 15123600, 3, 16326000, 2, 15728400, 3, 15721200, 2, 15728400, 3, 15721200, 2,
     15728400, 3, 15721200, 2, 13914000, 3, 17535600, 2, 13914000, 3, 18140400, 2, 13309200, 3,
     18140400, 2, 13309200, 3, 18140400, 2, 13914000, 3, 17535600, 2, 13914000, 3, 17535600, 2,
     13914000, 3, 18140400, 2, 13309200, 3, 18140400, 2, 13309200, 3, 18140400, 2, 13914000, 3,
     17535600, 2, 13914000, 3, 17535600, 2, 13914000, 3, 17535600, 2, 13914000, 3, 18140400, 2,
     13309200, 3, 18140400, 2, 13309200, 3, 18140400, 2, 13914000, 3, 17535600, 2, 13914000, 3,
     17535600, 2, 13914000, 3, 18140400, 2, 13309200, 3, 18140400, 2, 13309200, 3, 18140400, 2,
     11494800, 3, 20559600, 2, 10890000, 3, 20559600, 2, 10890000, 3, 20559600, 2, 11494800, 3,
     20559600, 2, 10890000, 3, 20559600, 2, 10890000, 3, 20559600, 2, 10890000, 3, 20559600, 2,
     10890000, 3, 20559600, 2, 10890000, 4, 94953600, 3, 20559600, 2, 10890000, 3, 20559600, 2,
     10890000, 3, 20559600, 2, 11494800, 3, 20559600, 2, 10890000, 3, 20559600, 2, 10890000, 3,
     20559600, 2, 10890000, 3, 20559600, 2, 10890000, 3, 20559600, 2, 10890000, 3, 20559600, 2,
     11494800, 3, 20559600, 2, 10890000, 3, 20559600, 2, 10890000, 3, 20559600, 2, 10890000, 3,
     20559600, 2, 10890000, 3, 20559600, 2, 11494800, 3, 20559600, 2, 10890000, 3, 20559600, 2,
     10890000, 3, 20559600, 2, 10890000, 3, 20559600, 2, 10890000, 3, 20559600, 2, 10890000, 3,
     20559600, 2]⟩,
  ⟨"America/Grenada", "AST4",
    [2, 29639, 0, 28799, 0, 1, 3692533559, 1]⟩,
  ⟨"America/Guadeloupe", "AST4",
    [2, 29535, 0, 28799, 0, 1, 3696508063, 1]⟩,
  ⟨"America/Guatemala", "CST6",
    [3, 43447, 0, 35999, 1, 43199, 0, 9, 3234081351, 2, 1740095876, 1, 7858800, 2, 291430800, 1,
     10710000, 2, 236653200, 1, 14511600, 2, 462157200, 1, 13302000, 2]⟩,
  ⟨"America/Guayaquil", "<-05>5",
    [4, 38319, 0, 37679, 0, 28799, 1, 35999, 0, 5, 5049004879, 1, 1293753280, 3, 1953675960, 2,
     5958000, 3, 1418598847, 3]⟩,
  ⟨"America/Guyana", "<-04>4",
    [5, 27917, 0, 28799, 0, 26999, 0, 21599, 0, 28799, 0, 5, 3687178481, 1, 113011641, 2,
     1906674300, 3, 525744900, 1, 1445642047, 1]⟩,
  ⟨"America/Halifax", "AST4ADT,M3.2.0,M11.1.0",
    [5, 30527, 0, 21599, 1, 28799, 0, 21599, 1, 21599, 1, 228, 4263291071, 2, 435368736, 1,
     15807600, 2, 48394800, 1, 16930800, 2, 48380400, 1, 9673200, 2, 21603600, 1, 10537200, 2,
     20480400, 1, 11055600, 2, 20998800, 1, 10450800, 2, 20998800, 1, 11574000, 2, 19875600, 1,
     12783600, 2, 19875600, 1, 10364400, 2, 19875600, 1, 12783600, 2, 19875600, 1, 10278000, 2,
     21171600, 1, 9846000, 2, 21603600, 1, 10969200, 2, 20480400, 1, 12178800, 2, 18666000, 1,
     12783600, 2, 18666000, 1, 13388400, 2, 19875600, 1, 10278000, 2, 22381200, 1, 10364400, 2,
     21171600, 1, 9068400, 2, 19875600, 1, 12783600, 2, 18666000, 1, 12783600, 2, 21085200, 1,
     10364400, 2, 19270800, 1, 12783600, 2, 18666000, 1, 12783600, 2, 11502000, 3, 110826000, 4,
     3996000, 2, 18147600, 1, 13302000, 2, 18147600, 1, 13302000, 2, 18147600, 1, 13302000, 2,
     18147600, 1, 13302000, 2, 50202000, 1, 13302000, 2, 18147600, 1, 13302000, 2, 18147600, 1,
     13302000, 2, 18147600, 1, 13302000, 2, 50202000, 1, 13302000, 2, 18147600, 1, 13302000, 2,
     18147600, 1, 13302000, 2, 18147600, 1, 13302000, 2, 81651600, 1, 15721200, 2, 15728400, 1,
     15721200, 2, 15728400, 1, 15721200, 2, 15728400, 1, 16326000, 2, 15123600, 1, 16326000, 2,
     15728400, 1, 15721200, 2, 15728400, 1, 15721200, 2, 15728400, 1, 15721200, 2, 15728400, 1,
     15721200, 2, 15728400, 1, 16326000, 2, 15728400, 1, 15721200, 2, 15728400, 1, 15721200, 2,
     15728400, 1, 15721200, 2, 15728400, 1, 15721200, 2, 15728400, 1, 16326000, 2, 15123600, 1,
     16326000, 2, 15728400, 1, 15721200, 2, 15728400, 1, 15721200, 2, 15728400, 1, 15721200, 2,
     15728400, 1, 15721200, 2, 15728400, 1, 16326000, 2, 15123600, 1, 16326000, 2, 15728400, 1,
     15721200, 2, 15728400, 1, 15721200, 2, 15728400, 1, 15721200, 2, 13914000, 1, 17535600, 2,
     13914000, 1, 18140400, 2, 13309200, 1, 18140400, 2, 13309200, 1, 18140400, 2, 13914000, 1,
     17535600, 2, 13914000, 1, 17535600, 2, 13914000, 1, 18140400, 2, 13309200, 1, 18140400, 2,
     13309200, 1, 18140400, 2, 13914000, 1, 17535600, 2, 13914000, 1, 17535600, 2, 13914000, 1,
     17535600, 2, 13914000, 1, 18140400, 2, 13309200, 1, 18140400, 2, 13309200, 1, 18140400, 2,
     13914000, 1, 17535600, 2, 13914000, 1, 17535600, 2, 13914000, 1, 18140400, 2, 13309200, 1,
     18140400, 2, 13309200, 1, 18140400, 2, 11494800, 1, 20559600, 2, 10890000, 1, 20559600, 2,
     10890000, 1, 20559600, 2, 11494800, 1, 20559600, 2, 10890000, 1, 20559600, 2, 10890000, 1,
     20559600, 2, 10890000, 1, 20559600, 2, 10890000, 1, 20559600, 2, 10890000, 1, 20559600, 2,
     11494800, 1, 20559600, 2, 10890000, 1, 20559600, 2, 10890000, 1, 20559600, 2, 10890000, 1,
     20559600, 2, 10890000, 1, 20559600, 2, 11494800, 1, 20559600, 2, 10890000, 1, 20559600, 2,
     10890000, 1, 20559600, 2, 10890000, 1, 20559600, 2, 10890000, 1, 20559600, 2, 10890000, 1,
     20559600, 2, 11494800, 1, 20559600, 2, 10890000, 1, 20559600, 2, 10890000, 1, 20559600, 2,
     10890000, 1, 20559600, 2, 10890000, 1, 20559600, 2, 11494800, 1, 20559600, 2, 10890000, 1,
     20559600, 2, 10890000, 1, 20559600, 2, 10890000, 1, 20559600, 2, 10890000, 1, 20559600, 2,
     10890000, 1, 20559600, 2]⟩,
  ⟨"America/Havana", "CST5CDT,M3.2.0/0,M11.1.0/1",
    [6, 39535, 0, 39551, 0, 28799, 1, 35999, 0, 35999, 0, 28799, 1, 156, 5049003663, 1, 1121688008,
     3, 91279824, 2, 10537200, 3, 367462800, 2, 7858800, 3, 23590800, 2, 8463600, 3, 23590800, 2,
     7858800, 3, 86490000, 2, 7858800, 3, 23590800, 2, 7858800, 3, 591670800, 2, 10450800, 3,
     20826000, 2, 10882800, 3, 16246800, 2, 13388400, 3, 18752400, 2, 12697200, 3, 19962000, 2,
     15721200, 3, 15728400, 2, 15721200, 3, 15728400, 2, 16326000, 3, 15728400, 2, 13906800, 3,
     17542800, 2, 13993200, 3, 17456400, 2, 14079600, 3, 17370000, 2, 15721200, 3, 15728400, 2,
     16326000, 3, 15123600, 2, 16326000, 3, 16333200, 2, 13302000, 3, 13914000, 2, 18140400, 3,
     13309200, 2, 18140400, 3, 18147600, 2, 13302000, 3, 18147600, 2, 13302000, 3, 18147600, 2,
     13302000, 3, 18147600, 2, 13906800, 3, 17542800, 2, 13906800, 3, 13309200, 2, 18140400, 3,
     13309200, 2, 18140400, 3, 13914000, 2, 17535600, 3, 13914000, 2, 17535600, 3, 15123600, 2,
     16930800, 3, 15123600, 2, 16329600, 4, 15120000, 2, 16329600, 4, 15120000, 2, 16329600, 4,
     15120000, 2, 16329600, 4, 15120000, 2, 16329600, 4, 15724800, 2, 15724800, 4, 15724800, 2,
     16329600, 4, 14515200, 5, 18144000, 4, 13305600, 5, 18748800, 4, 13305600, 5, 18144000, 4,
     13305600, 5, 18144000, 4, 13910400, 5, 17539200, 4, 13910400, 5, 17539200, 4, 13305600, 5,
     81648000, 4, 11491200, 5, 19958400, 4, 12096000, 5, 19353600, 4, 11491200, 5, 19958400, 4,
     12096000, 5, 19958400, 4, 12096000, 5, 20563200, 4, 12096000, 5, 18748800, 4, 10886400, 5,
     20563200, 4, 10886400, 5, 20563200, 4, 10886400, 5, 20563200, 4, 11491200, 5, 20563200, 4,
     10886400, 5, 20563200, 4, 10886400, 5, 20563200, 4, 10886400, 5, 20563200, 4, 10886400, 5,
     20563200, 4, 11491200, 5, 20563200, 4, 10886400, 5, 20563200, 4, 10886400, 5, 20563200, 4,
     10886400, 5, 20563200, 4, 10886400, 5, 20563200, 4, 10886400, 5, 20563200, 4, 11491200, 5,
     20563200, 4, 10886400, 5, 20563200, 4, 10886400, 5, 20563200, 4, 10886400, 5, 20563200, 4,
     10886400, 5, 20563200, 4, 11491200, 5, 20563200, 4, 10886400, 5, 20563200, 4, 10886400, 5,
     20563200, 4, 10886400, 5, 20563200, 4, 10886400, 5, 20563200, 4, 10886400, 5, 20563200, 4]⟩,
  ⟨"America/Hermosillo", "MST7",
    [5, 53263, 0, 50399, 0, 43199, 0, 43199, 1, 50399, 0, 13, 3029479199, 1, 171590400, 2,
     108342000, 4, 14346000, 3, 13302000, 4, 15814800, 2, 317516400, 4, 1702695600, 3, 17535600, 4,
     13914000, 3, 17535600, 4, 13914000, 3, 17535600, 4]⟩,
  ⟨"America/Indiana/Indianapolis", "EST5EDT,M3.2.0,M11.1.0",
    [8, 41355, 0, 35999, 1, 43199, 0, 43199, 0, 35999, 1, 35999, 1, 35999, 0, 28799, 1, 99,
     5435294399, 3, 1084370400, 1, 18140400, 2, 13309200, 1, 18140400, 2, 683427600, 1, 8463600, 2,
     11581200, 4, 110818800, 5, 4003200, 2, 18147600, 1, 13302000, 2, 18147600, 1, 13302000, 2,
     18147600, 1, 13302000, 2, 18147600, 1, 13302000, 2, 18752400, 1, 12697200, 2, 18752400, 1,
     13302000, 2, 18147600, 1, 13302000, 2, 18147600, 1, 13302000, 2, 18147600, 1, 13302000, 2,
     18147600, 6, 76806000, 2, 18147600, 6, 347151600, 7, 15721200, 6, 15728400, 7, 15721200, 6,
     1118278800, 7, 18140400, 6, 11494800, 7, 20559600, 6, 10890000, 7, 20559600, 6, 10890000, 7,
     20559600, 6, 11494800, 7, 20559600, 6, 10890000, 7, 20559600, 6, 10890000, 7, 20559600, 6,
     10890000, 7, 20559600, 6, 10890000, 7, 20559600, 6, 10890000, 7, 20559600, 6, 11494800, 7,
     20559600, 6, 10890000, 7, 20559600, 6, 10890000, 7, 20559600, 6, 10890000, 7, 20559600, 6,
     10890000, 7, 20559600, 6, 11494800, 7, 20559600, 6, 10890000, 7, 20559600, 6, 10890000, 7,
     20559600, 6, 10890000, 7, 20559600, 6, 10890000, 7, 20559600, 6, 10890000, 7, 20559600, 6,
     11494800, 7, 20559600, 6, 10890000, 7, 20559600, 6, 10890000, 7, 20559600, 6, 10890000, 7,
     20559600, 6, 10890000, 7, 20559600, 6, 11494800, 7, 20559600, 6, 10890000, 7, 20559600, 6,
     10890000, 7, 20559600, 6, 10890000, 7, 20559600, 6, 10890000, 7, 20559600, 6, 10890000, 7,
     20559600, 6]⟩,
  ⟨"America/Indiana/Knox", "CST6CDT,M3.2.0,M11.1.0",
    [8, 41579, 0, 35999, 1, 43199, 0, 35999, 1, 35999, 1, 43199, 0, 35999, 0, 43199, 0, 154,
     5435294399, 5, 1084370400, 1, 18140400, 2, 13309200, 1, 18140400, 2, 703472400, 3, 110818800,
     4, 4003200, 2, 49597200, 1, 13302000, 2, 18147600, 1, 13302000, 2, 18147600, 1, 13302000, 2,
     18752400, 1, 12697200, 2, 18752400, 1, 13302000, 2, 18147600, 1, 13302000, 2, 18147600, 1,
     13302000, 2, 18147600, 1, 13302000, 2, 18147600, 1, 16326000, 2, 15728400, 1, 15721200, 2,
     15728400, 1, 13302000, 2, 18147600, 1, 13302000, 2, 18147600, 1, 15721200, 2, 15728400, 1,
     16326000, 2, 15728400, 1, 15721200, 2, 15728400, 6, 47170800, 2, 110682000, 1, 15721200, 2,
     15728400, 1, 15721200, 2, 15728400, 1, 15721200, 2, 15728400, 1, 15721200, 2, 15728400, 1,
     16326000, 2, 15728400, 1, 15721200, 2, 15728400, 1, 15721200, 2, 6051600, 1, 25398000, 2,
     10285200, 1, 21164400, 2, 15728400, 1, 16326000, 2, 15123600, 1, 16326000, 2, 15728400, 1,
     15721200, 2, 15728400, 1, 15721200, 2, 15728400, 1, 15721200, 2, 15728400, 1, 15721200, 2,
     15728400, 1, 16326000, 2, 15123600, 1, 16326000, 2, 15728400, 1, 15721200, 2, 15728400, 1,
     15721200, 2, 15728400, 1, 15721200, 2, 13914000, 1, 17535600, 2, 13914000, 1, 18140400, 2,
     13309200, 1, 18140400, 2, 13309200, 1, 18140400, 2, 13914000, 1, 17535600, 6, 455414400, 1,
     18144000, 2, 11494800, 1, 20559600, 2, 10890000, 1, 20559600, 2, 10890000, 1, 20559600, 2,
     11494800, 1, 20559600, 2, 10890000, 1, 20559600, 2, 10890000, 1, 20559600, 2, 10890000, 1,
     20559600, 2, 10890000, 1, 20559600, 2, 10890000, 1, 20559600, 2, 11494800, 1, 20559600, 2,
     10890000, 1, 20559600, 2, 10890000, 1, 20559600, 2, 10890000, 1, 20559600, 2, 10890000, 1,
     20559600, 2, 11494800, 1, 20559600, 2, 10890000, 1, 20559600, 2, 10890000, 1, 20559600, 2,
     10890000, 1, 20559600, 2, 10890000, 1, 20559600, 2, 10890000, 1, 20559600, 2, 11494800, 1,
     20559600, 2, 10890000, 1, 20559600, 2, 10890000, 1, 20559600, 2, 10890000, 1, 20559600, 2,
     10890000, 1, 20559600, 2, 11494800, 1, 20559600, 2, 10890000, 1, 20559600, 2, 10890000, 1,
     20559600, 2, 10890000, 1, 20559600, 2, 10890000, 1, 20559600, 2, 10890000, 1, 20559600, 2]⟩,
  ⟨"America/Indiana/Marengo", "EST5EDT,M3.2.0,M11.1.0",
    [8, 41445, 0, 35999, 1, 43199, 0, 35999, 1, 35999, 1, 43199, 0, 35999, 0, 28799, 1, 103,
     5435294399, 5, 1084370400, 1, 18140400, 2, 13309200, 1, 18140400, 2, 703472400, 3, 110818800,
     4, 4003200, 2, 176000400, 1, 13302000, 2, 81046800, 1, 13302000, 2, 18147600, 1, 13302000, 2,
     18752400, 1, 13302000, 2, 18147600, 1, 13302000, 2, 18147600, 1, 13302000, 2, 18147600, 1,
     13302000, 2, 18147600, 1, 13302000, 2, 18752400, 6, 252198000, 7, 15721200, 6, 15728400, 7,
     15721200, 6, 15728400, 7, 16326000, 6, 15728400, 7, 15721200, 6, 15728400, 7, 15721200, 6,
     6051600, 1, 25401600, 6, 10281600, 7, 21164400, 6, 960426000, 7, 18140400, 6, 11494800, 7,
     20559600, 6, 10890000, 7, 20559600, 6, 10890000, 7, 20559600, 6, 11494800, 7, 20559600, 6,
     10890000, 7, 20559600, 6, 10890000, 7, 20559600, 6, 10890000, 7, 20559600, 6, 10890000, 7,
     20559600, 6, 10890000, 7, 20559600, 6, 11494800, 7, 20559600, 6, 10890000, 7, 20559600, 6,
     10890000, 7, 20559600, 6, 10890000, 7, 20559600, 6, 10890000, 7, 20559600, 6, 11494800, 7,
     20559600, 6, 10890000, 7, 20559600, 6, 10890000, 7, 20559600, 6, 10890000, 7, 20559600, 6,
     10890000, 7, 20559600, 6, 10890000, 7, 20559600, 6, 11494800, 7, 20559600, 6, 10890000, 7,
     20559600, 6, 10890000, 7, 20559600, 6, 10890000, 7, 20559600, 6, 10890000, 7, 20559600, 6,
     11494800, 7, 20559600, 6, 10890000, 7, 20559600, 6, 10890000, 7, 20559600, 6, 10890000, 7,
     20559600, 6, 10890000, 7, 20559600, 6, 10890000, 7, 20559600, 6]⟩,
  ⟨"America/Indiana/Petersburg", "EST5EDT,M3.2.0,M11.1.0",
    [8, 41893, 0, 35999, 1, 43199, 0, 35999, 1, 35999, 1, 43199, 0, 35999, 0, 28799, 1, 116,
     5435294399, 5, 1084370400, 1, 18140400, 2, 13309200, 1, 18140400, 2, 703472400, 3, 110818800,
     4, 4003200, 2, 302396400, 1, 12704400, 2, 18752400, 1, 13302000, 2, 18147600, 1, 13302000, 2,
     18147600, 1, 13302000, 2, 18147600, 1, 13302000, 2, 18147600, 1, 13302000, 2, 18752400, 1,
     15721200, 2, 15728400, 1, 15721200, 2, 15728400, 1, 15721200, 2, 15728400, 1, 15721200, 2,
     15728400, 6, 47775600, 2, 15728400, 1, 15721200, 2, 15728400, 1, 15721200, 2, 15728400, 1,
     15721200, 2, 15728400, 1, 15721200, 2, 15728400, 1, 16326000, 2, 15728400, 1, 15721200, 2,
     15728400, 1, 15721200, 2, 6051600, 1, 25398000, 2, 10285200, 1, 21164400, 2, 15728400, 1,
     16326000, 2, 15123600, 1, 16326000, 6, 896918400, 1, 18144000, 2, 11494800, 1, 20559600, 6,
     10886400, 7, 20559600, 6, 10890000, 7, 20559600, 6, 11494800, 7, 20559600, 6, 10890000, 7,
     20559600, 6, 10890000, 7, 20559600, 6, 10890000, 7, 20559600, 6, 10890000, 7, 20559600, 6,
     10890000, 7, 20559600, 6, 11494800, 7, 20559600, 6, 10890000, 7, 20559600, 6, 10890000, 7,
     20559600, 6, 10890000, 7, 20559600, 6, 10890000, 7, 20559600, 6, 11494800, 7, 20559600, 6,
     10890000, 7, 20559600, 6, 10890000, 7, 20559600, 6, 10890000, 7, 20559600, 6, 10890000, 7,
     20559600, 6, 10890000, 7, 20559600, 6, 11494800, 7, 20559600, 6, 10890000, 7, 20559600, 6,
     10890000, 7, 20559600, 6, 10890000, 7, 20559600, 6, 10890000, 7, 20559600, 6, 11494800, 7,
     20559600, 6, 10890000, 7, 20559600, 6, 10890000, 7, 20559600, 6, 10890000, 7, 20559600, 6,
     10890000, 7, 20559600, 6, 10890000, 7, 20559600, 6]⟩,
  ⟨"America/Indiana/Tell_City", "CST6CDT,M3.2.0,M11.1.0",
    [10, 41645, 0, 35999, 1, 43199, 0, 35999, 1, 35999, 1, 43199, 0, 35999, 0, 28799, 1, 35999, 1,
     43199, 0, 98, 5435294399, 5, 1084370400, 1, 18140400, 2, 13309200, 1, 18140400, 2, 703472400,
     3, 110818800, 4, 4003200, 2, 302396400, 1, 12704400, 2, 18752400, 1, 13302000, 2, 18147600, 1,
     13302000, 2, 18147600, 1, 13302000, 2, 18147600, 1, 13302000, 2, 18147600, 1, 13302000, 2,
     18752400, 1, 15721200, 2, 15728400, 1, 15721200, 2, 15728400, 1, 15721200, 2, 15728400, 6,
     110674800, 2, 15728400, 1, 15721200, 2, 15728400, 7, 15717600, 6, 15728400, 7, 15721200, 6,
     1118278800, 1, 18144000, 2, 11494800, 1, 20559600, 2, 10890000, 1, 20559600, 2, 10890000, 1,
     20559600, 2, 11494800, 1, 20559600, 2, 10890000, 1, 20559600, 2, 10890000, 1, 20559600, 2,
     10890000, 1, 20559600, 2, 10890000, 1, 20559600, 2, 10890000, 1, 20559600, 2, 11494800, 1,
     20559600, 2, 10890000, 1, 20559600, 2, 10890000, 1, 20559600, 2, 10890000, 1, 20559600, 2,
     10890000, 1, 20559600, 2, 11494800, 1, 20559600, 2, 10890000, 1, 20559600, 2, 10890000, 1,
     20559600, 2, 10890000, 1, 20559600, 2, 10890000, 1, 20559600, 2, 10890000, 1, 20559600, 2,
     11494800, 1, 20559600, 2, 10890000, 1, 20559600, 2, 10890000, 1, 20559600, 2, 10890000, 1,
     20559600, 2, 10890000, 1, 20559600, 2, 11494800, 1, 20559600, 2, 10890000, 1, 20559600, 2,
     10890000, 1, 20559600, 2, 10890000, 1, 20559600, 2, 10890000, 1, 20559600, 2, 10890000, 1,
     20559600, 2]⟩,
  ⟨"America/Indiana/Vevay", "EST5EDT,M3.2.0,M11.1.0",
    [8, 40831, 0, 35999, 1, 43199, 0, 35999, 1, 35999, 1, 43199, 0, 35999, 0, 28799, 1, 81,
     5435294399, 5, 1084370400, 1, 18140400, 2, 13309200, 1, 18140400, 2, 703472400, 3, 110818800,
     4, 4003200, 2, 270349200, 6, 473554800, 7, 15721200, 6, 15728400, 7, 15721200, 6, 15728400, 7,
     16326000, 6, 15728400, 7, 15721200, 6, 1054774800, 7, 18140400, 6, 11494800, 7, 20559600, 6,
     10890000, 7, 20559600, 6, 10890000, 7, 20559600, 6, 11494800, 7, 20559600, 6, 10890000, 7,
     20559600, 6, 10890000, 7, 20559600, 6, 10890000, 7, 20559600, 6, 10890000, 7, 20559600, 6,
     10890000, 7, 20559600, 6, 11494800, 7, 20559600, 6, 10890000, 7, 20559600, 6, 10890000, 7,
     20559600, 6, 10890000, 7, 20559600, 6, 10890000, 7, 20559600, 6, 11494800, 7, 20559600, 6,
     10890000, 7, 20559600, 6, 10890000, 7, 20559600, 6, 10890000, 7, 20559600, 6, 10890000, 7,
     20559600, 6, 10890000, 7, 20559600, 6, 11494800, 7, 20559600, 6, 10890000, 7, 20559600, 6,
     10890000, 7, 20559600, 6, 10890000, 7, 20559600, 6, 10890000, 7, 20559600, 6, 11494800, 7,
     20559600, 6, 10890000, 7, 20559600, 6, 10890000, 7, 20559600, 6, 10890000, 7, 20559600, 6,
     10890000, 7, 20559600, 6, 10890000, 7, 20559600, 6]⟩,
  ⟨"America/Indiana/Vincennes", "EST5EDT,M3.2.0,M11.1.0",
    [8, 42013, 0, 35999, 1, 43199, 0, 35999, 1, 35999, 1, 43199, 0, 35999, 0, 28799, 1, 101,
     5435294399, 5, 1084370400, 1, 18140400, 2, 13309200, 1, 18140400, 2, 703472400, 3, 110818800,
     4, 4003200, 2, 18147600, 1, 13302000, 2, 207450000, 1, 13302000, 2, 18147600, 1, 13302000, 2,
     18745200, 1, 12704400, 2, 18752400, 1, 13302000, 2, 18147600, 1, 13302000, 2, 18147600, 1,
     13302000, 2, 18147600, 1, 13302000, 2, 18147600, 1, 16326000, 2, 15728400, 1, 12697200, 2,
     18752400, 1, 15721200, 2, 15728400, 1, 15721200, 2, 15728400, 6, 157849200, 7, 15721200, 6,
     15728400, 7, 15721200, 6, 1118278800, 1, 18144000, 2, 11494800, 1, 20559600, 6, 10886400, 7,
     20559600, 6, 10890000, 7, 20559600, 6, 11494800, 7, 20559600, 6, 10890000, 7, 20559600, 6,
     10890000, 7, 20559600, 6, 10890000, 7, 20559600, 6, 10890000, 7, 20559600, 6, 10890000, 7,
     20559600, 6, 11494800, 7, 20559600, 6, 10890000, 7, 20559600, 6, 10890000, 7, 20559600, 6,
     10890000, 7, 20559600, 6, 10890000, 7, 20559600, 6, 11494800, 7, 20559600, 6, 10890000, 7,
     20559600, 6, 10890000, 7, 20559600, 6, 10890000, 7, 20559600, 6, 10890000, 7, 20559600, 6,
     10890000, 7, 20559600, 6, 11494800, 7, 20559600, 6, 10890000, 7, 20559600, 6, 10890000, 7,
     20559600, 6, 10890000, 7, 20559600, 6, 10890000, 7, 20559600, 6, 11494800, 7, 20559600, 6,
     10890000, 7, 20559600, 6, 10890000, 7, 20559600, 6, 10890000, 7, 20559600, 6, 10890000, 7,
     20559600, 6, 10890000, 7, 20559600, 6]⟩,
  ⟨"America/Indiana/Winamac", "EST5EDT,M3.2.0,M11.1.0",
    [8, 41569, 0, 35999, 1, 43199, 0, 35999, 1, 35999, 1, 43199, 0, 35999, 0, 28799, 1, 107,
     5435294399, 5, 1084370400, 1, 18140400, 2, 13309200, 1, 18140400, 2, 703472400, 3, 110818800,
     4, 4003200, 2, 18147600, 1, 13302000, 2, 18147600, 1, 13302000, 2, 18147600, 1, 13302000, 2,
     18147600, 1, 13302000, 2, 18752400, 1, 12697200, 2, 18752400, 1, 13302000, 2, 18147600, 1,
     13302000, 2, 18147600, 1, 13302000, 2, 18147600, 1, 13302000, 2, 18147600, 1, 16326000, 2,
     15728400, 1, 15721200, 2, 15728400, 1, 13302000, 2, 18147600, 1, 13302000, 2, 18147600, 1,
     13302000, 2, 18147600, 1, 13302000, 2, 18752400, 6, 252198000, 7, 15721200, 6, 15728400, 7,
     15721200, 6, 1118278800, 1, 18144000, 2, 11494800, 7, 20556000, 6, 10890000, 7, 20559600, 6,
     10890000, 7, 20559600, 6, 11494800, 7, 20559600, 6, 10890000, 7, 20559600, 6, 10890000, 7,
     20559600, 6, 10890000, 7, 20559600, 6, 10890000, 7, 20559600, 6, 10890000, 7, 20559600, 6,
     11494800, 7, 20559600, 6, 10890000, 7, 20559600, 6, 10890000, 7, 20559600, 6, 10890000, 7,
     20559600, 6, 10890000, 7, 20559600, 6, 11494800, 7, 20559600, 6, 10890000, 7, 20559600, 6,
     10890000, 7, 20559600, 6, 10890000, 7, 20559600, 6, 10890000, 7, 20559600, 6, 10890000, 7,
     20559600, 6, 11494800, 7, 20559600, 6, 10890000, 7, 20559600, 6, 10890000, 7, 20559600, 6,
     10890000, 7, 20559600, 6, 10890000, 7, 20559600, 6, 11494800, 7, 20559600, 6, 10890000, 7,
     20559600, 6, 10890000, 7, 20559600, 6, 10890000, 7, 20559600, 6, 10890000, 7, 20559600, 6,
     10890000, 7, 20559600, 6]⟩,
  ⟨"America/Inuvik", "MST7MDT,M3.2.0,M11.1.0",
    [5, 0, 0, 50399, 1, 57599, 0, 50399, 0, 43199, 1, 133, 1072915199, 2, 609933600, 1, 15721200, 2,
     15728400, 1, 15721200, 2, 15728400, 1, 15721200, 2, 15728400, 1, 15721200, 2, 15728400, 1,
     16326000, 2, 15123600, 1, 16326000, 2, 15728400, 1, 15721200, 2, 15728400, 4, 15717600, 3,
     15728400, 4, 15721200, 3, 15728400, 4, 15721200, 3, 15728400, 4, 16326000, 3, 15123600, 4,
     16326000, 3, 15728400, 4, 15721200, 3, 15728400, 4, 15721200, 3, 15728400, 4, 15721200, 3,
     13914000, 4, 17535600, 3, 13914000, 4, 18140400, 3, 13309200, 4, 18140400, 3, 13309200, 4,
     18140400, 3, 13914000, 4, 17535600, 3, 13914000, 4, 17535600, 3, 13914000, 4, 18140400, 3,
     13309200, 4, 18140400, 3, 13309200, 4, 18140400, 3, 13914000, 4, 17535600, 3, 13914000, 4,
     17535600, 3, 13914000, 4, 17535600, 3, 13914000, 4, 18140400, 3, 13309200, 4, 18140400, 3,
     13309200, 4, 18140400, 3, 13914000, 4, 17535600, 3, 13914000, 4, 17535600, 3, 13914000, 4,
     18140400, 3, 13309200, 4, 18140400, 3, 13309200, 4, 18140400, 3, 11494800, 4, 20559600, 3,
     10890000, 4, 20559600, 3, 10890000, 4, 20559600, 3, 11494800, 4, 20559600, 3, 10890000, 4,
     20559600, 3, 10890000, 4, 20559600, 3, 10890000, 4, 20559600, 3, 10890000, 4, 20559600, 3,
     10890000, 4, 20559600, 3, 11494800, 4, 20559600, 3, 10890000, 4, 20559600, 3, 10890000, 4,
     20559600, 3, 10890000, 4, 20559600, 3, 10890000, 4, 20559600, 3, 11494800, 4, 20559600, 3,
     10890000, 4, 20559600, 3, 10890000, 4, 20559600, 3, 10890000, 4, 20559600, 3, 10890000, 4,
     20559600, 3, 10890000, 4, 20559600, 3, 11494800, 4, 20559600, 3, 10890000, 4, 20559600, 3,
     10890000, 4, 20559600, 3, 10890000, 4, 20559600, 3, 10890000, 4, 20559600, 3, 11494800, 4,
     20559600, 3, 10890000, 4, 20559600, 3, 10890000, 4, 20559600, 3, 10890000, 4, 20559600, 3,
     10890000, 4, 20559600, 3, 10890000, 4, 20559600, 3]⟩,
  ⟨"America/Iqaluit", "EST5EDT,M3.2.0,M11.1.0",
    [9, 0, 0, 28799, 1, 35999, 0, 28799, 1, 28799, 1, 43199, 0, 35999, 1, 28799, 1, 35999, 0, 135,
     1730591999, 4, 95900400, 1, 3999600, 2, 838861200, 3, 15721200, 2, 15728400, 3, 15721200, 2,
     15728400, 3, 15721200, 2, 15728400, 3, 15721200, 2, 15728400, 3, 16326000, 2, 15123600, 3,
     16326000, 2, 15728400, 3, 15721200, 2, 15728400, 3, 15721200, 2, 15728400, 3, 15721200, 2,
     15728400, 3, 15721200, 2, 15728400, 3, 16326000, 2, 15123600, 3, 16326000, 2, 15728400, 3,
     15721200, 2, 15728400, 3, 15721200, 2, 15728400, 3, 15721200, 2, 13914000, 3, 17535600, 2,
     13914000, 3, 18140400, 2, 13309200, 3, 18140400, 2, 13309200, 3, 18140400, 2, 13914000, 3,
     17535600, 2, 13914000, 3, 17535600, 2, 13914000, 3, 18140400, 2, 13309200, 3, 18140400, 2,
     13309200, 3, 18140400, 2, 13914000, 3, 17535600, 2, 13914000, 3, 17535600, 2, 13914000, 3,
     17535600, 2, 13914000, 3, 18140400, 5, 13312800, 6, 18140400, 2, 13305600, 3, 18140400, 2,
     13914000, 3, 17535600, 2, 13914000, 3, 17535600, 2, 13914000, 3, 18140400, 2, 13309200, 3,
     18140400, 2, 13309200, 3, 18140400, 2, 11494800, 3, 20559600, 2, 10890000, 3, 20559600, 2,
     10890000, 3, 20559600, 2, 11494800, 3, 20559600, 2, 10890000, 3, 20559600, 2, 10890000, 3,
     20559600, 2, 10890000, 3, 20559600, 2, 10890000, 3, 20559600, 2, 10890000, 3, 20559600, 2,
     11494800, 3, 20559600, 2, 10890000, 3, 20559600, 2, 10890000, 3, 20559600, 2, 10890000, 3,
     20559600, 2, 10890000, 3, 20559600, 2, 11494800, 3, 20559600, 2, 10890000, 3, 20559600, 2,
     10890000, 3, 20559600, 2, 10890000, 3, 20559600, 2, 10890000, 3, 20559600, 2, 10890000, 3,
     20559600, 2, 11494800, 3, 20559600, 2, 10890000, 3, 20559600, 2, 10890000, 3, 20559600, 2,
     10890000, 3, 20559600, 2, 10890000, 3, 20559600, 2, 11494800, 3, 20559600, 2, 10890000, 3,
     20559600, 2, 10890000, 3, 20559600, 2, 10890000, 3, 20559600, 2, 10890000, 3, 20559600, 2,
     10890000, 3, 20559600, 2]⟩,
  ⟨"America/Jamaica", "EST5",
    [4, 36859, 0, 36859, 0, 35999, 0, 28799, 1, 22, 5049006339, 1, 696816000, 2, 1954374770, 3,
     25398000, 2, 10285200, 3, 21164400, 2, 15728400, 3, 16326000, 2, 15123600, 3, 16326000, 2,
     15728400, 3, 15721200, 2, 15728400, 3, 15721200, 2, 15728400, 3, 15721200, 2, 15728400, 3,
     15721200, 2, 15728400, 3, 16326000, 2, 15123600, 3, 16326000, 2]⟩,
  ⟨"America/Juneau", "AKST9AKDT,M3.2.0,M11.1.0",
    [10, 108278, 0, 64521, 0, 57599, 0, 50399, 1, 50399, 1, 50399, 1, 57599, 1, 64799, 0, 57599, 1,
     64799, 0, 144, 6450447453, 1, 1036268788, 2, 1308747739, 3, 110811600, 4, 4010400, 2,
     743907600, 5, 15721200, 2, 15728400, 5, 15721200, 2, 15728400, 5, 16326000, 2, 15728400, 5,
     15721200, 2, 15728400, 5, 15721200, 2, 6051600, 5, 25398000, 2, 10285200, 5, 21164400, 2,
     15728400, 5, 16326000, 2, 15123600, 5, 16326000, 2, 15728400, 5, 15721200, 2, 15728400, 5,
     15721200, 2, 15728400, 6, 15724800, 2, 15724800, 5, 15721200, 2, 15728400, 5, 16326000, 2,
     15123600, 5, 16326000, 7, 2678400, 9, 13053600, 8, 15721200, 9, 15728400, 8, 15721200, 9,
     15728400, 8, 15721200, 9, 13914000, 8, 17535600, 9, 13914000, 8, 18140400, 9, 13309200, 8,
     18140400, 9, 13309200, 8, 18140400, 9, 13914000, 8, 17535600, 9, 13914000, 8, 17535600, 9,
     13914000, 8, 18140400, 9, 13309200, 8, 18140400, 9, 13309200, 8, 18140400, 9, 13914000, 8,
     17535600, 9, 13914000, 8, 17535600, 9, 13914000, 8, 17535600, 9, 13914000, 8, 18140400, 9,
     13309200, 8, 18140400, 9, 13309200, 8, 18140400, 9, 13914000, 8, 17535600, 9, 13914000, 8,
     17535600, 9, 13914000, 8, 18140400, 9, 13309200, 8, 18140400, 9, 13309200, 8, 18140400, 9,
     11494800, 8, 20559600, 9, 10890000, 8, 20559600, 9, 10890000, 8, 20559600, 9, 11494800, 8,
     20559600, 9, 10890000, 8, 20559600, 9, 10890000, 8, 20559600, 9, 10890000, 8, 20559600, 9,
     10890000, 8, 20559600, 9, 10890000, 8, 20559600, 9, 11494800, 8, 20559600, 9, 10890000, 8,
     20559600, 9, 10890000, 8, 20559600, 9, 10890000, 8, 20559600, 9, 10890000, 8, 20559600, 9,
     11494800, 8, 20559600, 9, 10890000, 8, 20559600, 9, 10890000, 8, 20559600, 9, 10890000, 8,
     20559600, 9, 10890000, 8, 20559600, 9, 10890000, 8, 20559600, 9, 11494800, 8, 20559600, 9,
     10890000, 8, 20559600, 9, 10890000, 8, 20559600, 9, 10890000, 8, 20559600, 9, 10890000, 8,
     20559600, 9, 11494800, 8, 20559600, 9, 10890000, 8, 20559600, 9, 10890000, 8, 20559600, 9,
     10890000, 8, 20559600, 9, 10890000, 8, 20559600, 9, 10890000, 8, 20559600, 9]⟩,
  ⟨"America/Kentucky/Louisville", "EST5EDT,M3.2.0,M11.1.0",
    [8, 41163, 0, 35999, 1, 43199, 0, 43199, 0, 35999, 1, 35999, 1, 35999, 0, 28799, 1, 178,
     5435294399, 3, 1084370400, 1, 18140400, 2, 13309200, 1, 18140400, 2, 47782800, 1, 10623600, 2,
     620182800, 1, 13302000, 2, 11581200, 4, 110818800, 5, 4003200, 2, 18140460, 1, 3027540, 2,
     123382800, 1, 12697200, 2, 18752400, 1, 13302000, 2, 18147600, 1, 13302000, 2, 18147600, 1,
     13302000, 2, 18147600, 1, 13302000, 2, 18147600, 1, 13302000, 2, 18752400, 1, 15721200, 2,
     15728400, 1, 15721200, 2, 15728400, 1, 15721200, 2, 15728400, 1, 15721200, 2, 15728400, 1,
     16326000, 2, 15728400, 1, 7254000, 6, 213494400, 7, 15721200, 6, 15728400, 7, 15721200, 6,
     15728400, 7, 15721200, 6, 15728400, 7, 16326000, 6, 15728400, 7, 15721200, 6, 15728400, 7,
     15721200, 6, 6051600, 1, 25401600, 6, 10281600, 7, 21164400, 6, 15728400, 7, 16326000, 6,
     15123600, 7, 16326000, 6, 15728400, 7, 15721200, 6, 15728400, 7, 15721200, 6, 15728400, 7,
     15721200, 6, 15728400, 7, 15721200, 6, 15728400, 7, 16326000, 6, 15123600, 7, 16326000, 6,
     15728400, 7, 15721200, 6, 15728400, 7, 15721200, 6, 15728400, 7, 15721200, 6, 13914000, 7,
     17535600, 6, 13914000, 7, 18140400, 6, 13309200, 7, 18140400, 6, 13309200, 7, 18140400, 6,
     13914000, 7, 17535600, 6, 13914000, 7, 17535600, 6, 13914000, 7, 18140400, 6, 13309200, 7,
     18140400, 6, 13309200, 7, 18140400, 6, 13914000, 7, 17535600, 6, 13914000, 7, 17535600, 6,
     13914000, 7, 17535600, 6, 13914000, 7, 18140400, 6, 13309200, 7, 18140400, 6, 13309200, 7,
     18140400, 6, 13914000, 7, 17535600, 6, 13914000, 7, 17535600, 6, 13914000, 7, 18140400, 6,
     13309200, 7, 18140400, 6, 13309200, 7, 18140400, 6, 11494800, 7, 20559600, 6, 10890000, 7,
     20559600, 6, 10890000, 7, 20559600, 6, 11494800, 7, 20559600, 6, 10890000, 7, 20559600, 6,
     10890000, 7, 20559600, 6, 10890000, 7, 20559600, 6, 10890000, 7, 20559600, 6, 10890000, 7,
     20559600, 6, 11494800, 7, 20559600, 6, 10890000, 7, 20559600, 6, 10890000, 7, 20559600, 6,
     10890000, 7, 20559600, 6, 10890000, 7, 20559600, 6, 11494800, 7, 20559600, 6, 10890000, 7,
     20559600, 6, 10890000, 7, 20559600, 6, 10890000, 7, 20559600, 6, 10890000, 7, 20559600, 6,
     10890000, 7, 20559600, 6, 11494800, 7, 20559600, 6, 10890000, 7, 20559600, 6, 10890000, 7,
     20559600, 6, 10890000, 7, 20559600, 6, 10890000, 7, 20559600, 6, 11494800, 7, 20559600, 6,
     10890000, 7, 20559600, 6, 10890000, 7, 20559600, 6, 10890000, 7, 20559600, 6, 10890000, 7,
     20559600, 6, 10890000, 7, 20559600, 6]⟩,
  ⟨"America/Kentucky/Monticello", "EST5EDT,M3.2.0,M11.1.0",
    [8, 40727, 0, 35999, 1, 43199, 0, 35999, 1, 35999, 1, 43199, 0, 28799, 1, 35999, 0, 148,
     5435294399, 5, 1084370400, 1, 18140400, 2, 13309200, 1, 18140400, 2, 703472400, 3, 110818800,
     4, 4003200, 2, 712458000, 1, 15721200, 2, 15728400, 1, 15721200, 2, 15728400, 1, 15721200, 2,
     15728400, 1, 16326000, 2, 15728400, 1, 15721200, 2, 15728400, 1, 15721200, 2, 6051600, 1,
     25398000, 2, 10285200, 1, 21164400, 2, 15728400, 1, 16326000, 2, 15123600, 1, 16326000, 2,
     15728400, 1, 15721200, 2, 15728400, 1, 15721200, 2, 15728400, 1, 15721200, 2, 15728400, 1,
     15721200, 2, 15728400, 1, 16326000, 2, 15123600, 1, 16326000, 2, 15728400, 1, 15721200, 2,
     15728400, 1, 15721200, 2, 15728400, 1, 15721200, 2, 13914000, 1, 17535600, 2, 13914000, 1,
     18140400, 2, 13309200, 1, 18140400, 2, 13309200, 1, 18140400, 2, 13914000, 1, 17535600, 2,
     13914000, 1, 17535600, 2, 13914000, 1, 18140400, 2, 13309200, 1, 18140400, 2, 13309200, 1,
     18140400, 2, 13914000, 1, 17535600, 2, 13914000, 1, 17535600, 2, 13914000, 1, 17535600, 2,
     13914000, 1, 18140400, 2, 13309200, 1, 18140400, 7, 13305600, 6, 18140400, 7, 13914000, 6,
     17535600, 7, 13914000, 6, 17535600, 7, 13914000, 6, 18140400, 7, 13309200, 6, 18140400, 7,
     13309200, 6, 18140400, 7, 11494800, 6, 20559600, 7, 10890000, 6, 20559600, 7, 10890000, 6,
     20559600, 7, 11494800, 6, 20559600, 7, 10890000, 6, 20559600, 7, 10890000, 6, 20559600, 7,
     10890000, 6, 20559600, 7, 10890000, 6, 20559600, 7, 10890000, 6, 20559600, 7, 11494800, 6,
     20559600, 7, 10890000, 6, 20559600, 7, 10890000, 6, 20559600, 7, 10890000, 6, 20559600, 7,
     10890000, 6, 20559600, 7, 11494800, 6, 20559600, 7, 10890000, 6, 20559600, 7, 10890000, 6,
     20559600, 7, 10890000, 6, 20559600, 7, 10890000, 6, 20559600, 7, 10890000, 6, 20559600, 7,
     11494800, 6, 20559600, 7, 10890000, 6, 20559600, 7, 10890000, 6, 20559600, 7, 10890000, 6,
     20559600, 7, 10890000, 6, 20559600, 7, 11494800, 6, 20559600, 7, 10890000, 6, 20559600, 7,
     10890000, 6, 20559600, 7, 10890000, 6, 20559600, 7, 10890000, 6, 20559600, 7, 10890000, 6,
     20559600, 7]⟩,
  ⟨"America/La_Paz", "<-04>4",
    [4, 32711, 0, 32711, 0, 25511, 1, 28799, 0, 4, 5049010487, 1, 1318550400, 2, 13647600, 3,
     3339790891, 3]⟩,
  ⟨"America/Lima", "<-05>5",
    [4, 36983, 0, 37031, 0, 28799, 1, 35999, 0, 17, 5049006215, 1, 585964824, 3, 928713084, 2,
     7772400, 3, 15296400, 2, 15721200, 3, 15728400, 2, 15721200, 3, 1444525200, 2, 7772400, 3,
     23763600, 2, 7772400, 3, 86922000, 2, 7772400, 3, 118458000, 2, 7772400, 3, 1382310847, 3]⟩,
  ⟨"America/Los_Angeles", "PST8PDT,M3.2.0,M11.1.0",
    [6, 56755, 0, 50399, 1, 57599, 0, 50399, 1, 50399, 1, 57599, 0, 186, 5435279999, 5, 1084370400,
     1, 18140400, 2, 13309200, 1, 18140400, 2, 703472400, 3, 110811600, 4, 4010400, 2, 77418060, 1,
     25311540, 2, 41817600, 1, 12700800, 2, 18748800, 1, 13305600, 2, 18144000, 1, 13305600, 2,
     18144000, 1, 13305600, 2, 18144000, 1, 13305600, 2, 18144000, 1, 13305600, 2, 18748800, 1,
     13305600, 2, 18144000, 1, 13305600, 2, 18144000, 1, 13305600, 2, 18144000, 1, 13305600, 2,
     18144000, 1, 13305600, 2, 18748800, 1, 12700800, 2, 18748800, 1, 15724800, 2, 15724800, 1,
     15724800, 2, 15724800, 1, 15724800, 2, 15724800, 1, 16329600, 2, 15120000, 1, 16329600, 2,
     15728400, 1, 15721200, 2, 15728400, 1, 15721200, 2, 15728400, 1, 15721200, 2, 15728400, 1,
     15721200, 2, 15728400, 1, 16326000, 2, 15728400, 1, 15721200, 2, 15728400, 1, 15721200, 2,
     6051600, 1, 25398000, 2, 10285200, 1, 21164400, 2, 15728400, 1, 16326000, 2, 15123600, 1,
     16326000, 2, 15728400, 1, 15721200, 2, 15728400, 1, 15721200, 2, 15728400, 1, 15721200, 2,
     15728400, 1, 15721200, 2, 15728400, 1, 16326000, 2, 15123600, 1, 16326000, 2, 15728400, 1,
     15721200, 2, 15728400, 1, 15721200, 2, 15728400, 1, 15721200, 2, 13914000, 1, 17535600, 2,
     13914000, 1, 18140400, 2, 13309200, 1, 18140400, 2, 13309200, 1, 18140400, 2, 13914000, 1,
     17535600, 2, 13914000, 1, 17535600, 2, 13914000, 1, 18140400, 2, 13309200, 1, 18140400, 2,
     13309200, 1, 18140400, 2, 13914000, 1, 17535600, 2, 13914000, 1, 17535600, 2, 13914000, 1,
     17535600, 2, 13914000, 1, 18140400, 2, 13309200, 1, 18140400, 2, 13309200, 1, 18140400, 2,
     13914000, 1, 17535600, 2, 13914000, 1, 17535600, 2, 13914000, 1, 18140400, 2, 13309200, 1,
     18140400, 2, 13309200, 1, 18140400, 2, 11494800, 1, 20559600, 2, 10890000, 1, 20559600, 2,
     10890000, 1, 20559600, 2, 11494800, 1, 20559600, 2, 10890000, 1, 20559600, 2, 10890000, 1,
     20559600, 2, 10890000, 1, 20559600, 2, 10890000, 1, 20559600, 2, 10890000, 1, 20559600, 2,
     11494800, 1, 20559600, 2, 10890000, 1, 20559600, 2, 10890000, 1, 20559600, 2, 10890000, 1,
     20559600, 2, 10890000, 1, 20559600, 2, 11494800, 1, 20559600, 2, 10890000, 1, 20559600, 2,
     10890000, 1, 20559600, 2, 10890000, 1, 20559600, 2, 10890000, 1, 20559600, 2, 10890000, 1,
     20559600, 2, 11494800, 1, 20559600, 2, 10890000, 1, 20559600, 2, 10890000, 1, 20559600, 2,
     10890000, 1, 20559600, 2, 10890000, 1, 20559600, 2, 11494800, 1, 20559600, 2, 10890000, 1,
     20559600, 2, 10890000, 1, 20559600, 2, 10890000, 1, 20559600, 2, 10890000, 1, 20559600, 2,
     10890000, 1, 20559600, 2]⟩,
  ⟨"America/Maceio", "<-03>3",
    [3, 17143, 0, 14399, 1, 21599, 0, 42, 3534434055, 2, 560259428, 1, 15595200, 2, 15987600, 1,
     15548400, 2, 526006800, 1, 11750400, 2, 19785600, 1, 10450800, 2, 21085200, 1, 10537200, 2,
     21085200, 1, 7772400, 2, 339987600, 1, 7167600, 2, 29034000, 1, 5094000, 2, 21171600, 1,
     7772400, 2, 21171600, 1, 10364400, 2, 21171600, 1, 10450800, 2, 557715600, 1, 11487600, 2,
     19357200, 1, 9673200, 2, 21862800, 1, 9068400, 2, 21776400, 1, 9068400, 2, 22381200, 1,
     10278000, 2, 179024400, 1, 10278000, 2, 114915600, 1, 12697200, 2, 19357200, 1, 1206000, 2,
     30848400, 1, 10882800, 2, 1133572447, 2]⟩,
  ⟨"America/Managua", "CST6",
    [6, 41415, 0, 41423, 0, 43199, 0, 35999, 0, 35999, 1, 43199, 0, 16, 5049001783, 1, 1403395204,
     2, 1226189688, 3, 56674800, 2, 128826000, 4, 8550000, 2, 22899600, 4, 8550000, 2, 363675600, 3,
     23050800, 2, 8557200, 3, 126226800, 2, 261018000, 4, 15116400, 2, 18154800, 4, 13298400, 2]⟩,
  ⟨"America/Manaus", "<-04>4",
    [3, 28807, 0, 21599, 1, 28799, 0, 32, 3534422391, 2, 560257196, 1, 15595200, 2, 15987600, 1,
     15548400, 2, 526006800, 1, 11750400, 2, 19785600, 1, 10450800, 2, 21085200, 1, 10537200, 2,
     21085200, 1, 7772400, 2, 339987600, 1, 7167600, 2, 29034000, 1, 5094000, 2, 21171600, 1,
     7772400, 2, 21171600, 1, 10364400, 2, 21171600, 1, 10450800, 2, 557715600, 1, 11487600, 2,
     19357200, 1, 9673200, 2, 21862800, 1, 9068400, 2, 179629200, 1, 10882800, 2, 1385770447, 2]⟩,
  ⟨"America/Martinique", "AST4",
    [4, 29319, 0, 29319, 0, 28799, 0, 21599, 1, 4, 5049013879, 1, 672969600, 2, 2175378940, 3,
     15116400, 2]⟩,
  ⟨"America/Matamoros", "CST6CDT,M3.2.0,M11.1.0",
    [4, 46799, 0, 43199, 0, 35999, 1, 43199, 0, 87, 3029486399, 1, 2090800800, 2, 18140400, 3,
     234666000, 2, 17535600, 3, 13914000, 2, 17535600, 3, 13914000, 2, 17535600, 3, 13914000, 2,
     18140400, 3, 13309200, 2, 18140400, 3, 16333200, 2, 12697200, 3, 16333200, 2, 17535600, 3,
     13914000, 2, 17535600, 3, 13914000, 2, 18140400, 3, 13309200, 2, 18140400, 3, 13309200, 2,
     18140400, 3, 13309200, 2, 18140400, 3, 13914000, 2, 17535600, 3, 13914000, 2, 17535600, 3,
     12099600, 2, 20559600, 3, 10890000, 2, 20559600, 3, 10890000, 2, 20559600, 3, 10890000, 2,
     20559600, 3, 10890000, 2, 20559600, 3, 10890000, 2, 20559600, 3, 11494800, 2, 20559600, 3,
     10890000, 2, 20559600, 3, 10890000, 2, 20559600, 3, 10890000, 2, 20559600, 3, 10890000, 2,
     20559600, 3, 11494800, 2, 20559600, 3, 10890000, 2, 20559600, 3, 10890000, 2, 20559600, 3,
     10890000, 2, 20559600, 3, 10890000, 2, 20559600, 3, 10890000, 2, 20559600, 3, 11494800, 2,
     20559600, 3, 10890000, 2, 20559600, 3, 10890000, 2, 20559600, 3, 10890000, 2, 20559600, 3,
     10890000, 2, 20559600, 3, 11494800, 2, 20559600, 3, 10890000, 2, 20559600, 3, 10890000, 2,
     20559600, 3, 10890000, 2, 20559600, 3, 10890000, 2, 20559600, 3, 10890000, 2, 20559600, 3]⟩,
  ⟨"America/Mazatlan", "MST7",
    [5, 51079, 0, 50399, 0, 43199, 0, 43199, 1, 50399, 0, 61, 3029479199, 1, 171590400, 2,
     108342000, 4, 14346000, 3, 13302000, 4, 15814800, 2, 317516400, 4, 1702695600, 3, 17535600, 4,
     13914000, 3, 17535600, 4, 13914000, 3, 17535600, 4, 13914000, 3, 18140400, 4, 13309200, 3,
     18140400, 4, 16333200, 3, 12697200, 4, 16333200, 3, 17535600, 4, 13914000, 3, 17535600, 4,
     13914000, 3, 18140400, 4, 13309200, 3, 18140400, 4, 13309200, 3, 18140400, 4, 13309200, 3,
     18140400, 4, 13914000, 3, 17535600, 4, 13914000, 3, 17535600, 4, 13914000, 3, 18140400, 4,
     13309200, 3, 18140400, 4, 13309200, 3, 18140400, 4, 13914000, 3, 17535600, 4, 13914000, 3,
     17535600, 4, 13914000, 3, 17535600, 4, 13914000, 3, 18140400, 4, 13309200, 3, 18140400, 4,
     13309200, 3, 18140400, 4, 13914000, 3, 17535600, 4, 13914000, 3, 17535600, 4, 13914000, 3,
     18140400, 4, 13309200, 3, 18140400, 4]⟩,
  ⟨"America/Menominee", "CST6CDT,M3.2.0,M11.1.0",
    [7, 42053, 0, 35999, 1, 43199, 0, 35999, 1, 35999, 1, 35999, 0, 43199, 0, 143, 5319519545, 2,
     1026482973, 1, 18140400, 2, 13309200, 1, 18140400, 2, 703472400, 3, 110818800, 4, 4003200, 2,
     18147600, 1, 13302000, 2, 617504400, 1, 16326000, 2, 78627600, 5, 126399600, 1, 15724800, 2,
     6051600, 1, 25398000, 2, 10285200, 1, 21164400, 2, 15728400, 1, 16326000, 2, 15123600, 1,
     16326000, 2, 15728400, 1, 15721200, 2, 15728400, 1, 15721200, 2, 15728400, 1, 15721200, 2,
     15728400, 1, 15721200, 2, 15728400, 1, 16326000, 2, 15123600, 1, 16326000, 2, 15728400, 1,
     15721200, 2, 15728400, 1, 15721200, 2, 15728400, 1, 15721200, 2, 13914000, 1, 17535600, 2,
     13914000, 1, 18140400, 2, 13309200, 1, 18140400, 2, 13309200, 1, 18140400, 2, 13914000, 1,
     17535600, 2, 13914000, 1, 17535600, 2, 13914000, 1, 18140400, 2, 13309200, 1, 18140400, 2,
     13309200, 1, 18140400, 2, 13914000, 1, 17535600, 2, 13914000, 1, 17535600, 2, 13914000, 1,
     17535600, 2, 13914000, 1, 18140400, 2, 13309200, 1, 18140400, 2, 13309200, 1, 18140400, 2,
     13914000, 1, 17535600, 2, 13914000, 1, 17535600, 2, 13914000, 1, 18140400, 2, 13309200, 1,
     18140400, 2, 13309200, 1, 18140400, 2, 11494800, 1, 20559600, 2, 10890000, 1, 20559600, 2,
     10890000, 1, 20559600, 2, 11494800, 1, 20559600, 2, 10890000, 1, 20559600, 2, 10890000, 1,
     20559600, 2, 10890000, 1, 20559600, 2, 10890000, 1, 20559600, 2, 10890000, 1, 20559600, 2,
     11494800, 1, 20559600, 2, 10890000, 1, 20559600, 2, 10890000, 1, 20559600, 2, 10890000, 1,
     20559600, 2, 10890000, 1, 20559600, 2, 11494800, 1, 20559600, 2, 10890000, 1, 20559600, 2,
     10890000, 1, 20559600, 2, 10890000, 1, 20559600, 2, 10890000, 1, 20559600, 2, 10890000, 1,
     20559600, 2, 11494800, 1, 20559600, 2, 10890000, 1, 20559600, 2, 10890000, 1, 20559600, 2,
     10890000, 1, 20559600, 2, 10890000, 1, 20559600, 2, 11494800, 1, 20559600, 2, 10890000, 1,
     20559600, 2, 10890000, 1, 20559600, 2, 10890000, 1, 20559600, 2, 10890000, 1, 20559600, 2,
     10890000, 1, 20559600, 2]⟩,
  ⟨"America/Merida", "CST6",
    [5, 43015, 0, 43199, 0, 35999, 0, 35999, 1, 43199, 0, 57, 3029486399, 1, 1892944800, 2,
     26866800, 4, 423795600, 3, 17535600, 4, 13914000, 3, 17535600, 4, 13914000, 3, 17535600, 4,
     13914000, 3, 18140400, 4, 13309200, 3, 18140400, 4, 16333200, 3, 12697200, 4, 16333200, 3,
     17535600, 4, 13914000, 3, 17535600, 4, 13914000, 3, 18140400, 4, 13309200, 3, 18140400, 4,
     13309200, 3, 18140400, 4, 13309200, 3, 18140400, 4, 13914000, 3, 17535600, 4, 13914000, 3,
     17535600, 4, 13914000, 3, 18140400, 4, 13309200, 3, 18140400, 4, 13309200, 3, 18140400, 4,
     13914000, 3, 17535600, 4, 13914000, 3, 17535600, 4, 13914000, 3, 17535600, 4, 13914000, 3,
     18140400, 4, 13309200, 3, 18140400, 4, 13309200, 3, 18140400, 4, 13914000, 3, 17535600, 4,
     13914000, 3, 17535600, 4, 13914000, 3, 18140400, 4, 13309200, 3, 18140400, 4]⟩,
  ⟨"America/Metlakatla", "AKST9AKDT,M3.2.0,M11.1.0",
    [8, 109644, 0, 63155, 0, 57599, 0, 50399, 1, 50399, 1, 50399, 1, 64799, 0, 57599, 1, 81,
     6450447453, 1, 1036268105, 2, 1308748422, 3, 110811600, 4, 4010400, 2, 743907600, 5, 15721200,
     2, 15728400, 5, 15721200, 2, 15728400, 5, 16326000, 2, 15728400, 5, 15721200, 2, 15728400, 5,
     15721200, 2, 6051600, 5, 25398000, 2, 10285200, 5, 21164400, 2, 15728400, 5, 16326000, 2,
     15123600, 5, 16326000, 2, 15728400, 5, 15721200, 2, 15728400, 5, 15721200, 2, 15728400, 5,
     15721200, 2, 15728400, 5, 15721200, 2, 15728400, 5, 16326000, 2, 15123600, 5, 16326000, 2,
     1010019600, 6, 11494800, 7, 20559600, 6, 10890000, 7, 20559600, 6, 10890000, 7, 20559600, 2,
     6652800, 6, 4237200, 7, 20559600, 6, 10890000, 7, 20559600, 6, 11494800, 7, 20559600, 6,
     10890000, 7, 20559600, 6, 10890000, 7, 20559600, 6, 10890000, 7, 20559600, 6, 10890000, 7,
     20559600, 6, 10890000, 7, 20559600, 6, 11494800, 7, 20559600, 6, 10890000, 7, 20559600, 6,
     10890000, 7, 20559600, 6, 10890000, 7, 20559600, 6, 10890000, 7, 20559600, 6, 11494800, 7,
     20559600, 6, 10890000, 7, 20559600, 6, 10890000, 7, 20559600, 6, 10890000, 7, 20559600, 6,
     10890000, 7, 20559600, 6, 10890000, 7, 20559600, 6]⟩,
  ⟨"America/Mexico_City", "CST6",
    [8, 47591, 0, 50399, 0, 43199, 0, 43199, 1, 50399, 0, 35999, 1, 35999, 1, 43199, 0, 68,
     3029479199, 1, 171590400, 2, 108342000, 4, 14346000, 3, 13302000, 4, 15814800, 2, 216082800, 5,
     12092400, 2, 46054800, 5, 9759600, 2, 85453200, 6, 11833200, 2, 182566800, 5, 14511600, 2,
     1441854000, 5, 17535600, 2, 13914000, 5, 17535600, 2, 13914000, 5, 17535600, 2, 13914000, 5,
     18140400, 2, 13309200, 5, 18140400, 2, 16333200, 5, 12697200, 2, 16333200, 5, 17535600, 2,
     13914000, 5, 17535600, 2, 13914000, 5, 18140400, 2, 13309200, 5, 18140400, 2, 13309200, 5,
     18140400, 2, 13309200, 5, 18140400, 2, 13914000, 5, 17535600, 2, 13914000, 5, 17535600, 2,
     13914000, 5, 18140400, 2, 13309200, 5, 18140400, 2, 13309200, 5, 18140400, 2, 13914000, 5,
     17535600, 2, 13914000, 5, 17535600, 2, 13914000, 5, 17535600, 2, 13914000, 5, 18140400, 2,
     13309200, 5, 18140400, 2, 13309200, 5, 18140400, 2, 13914000, 5, 17535600, 2, 13914000, 5,
     17535600, 2, 13914000, 5, 18140400, 2, 13309200, 5, 18140400, 2]⟩,
  ⟨"America/Miquelon", "<-03>3<-02>,M3.2.0,M11.1.0",
    [4, 26959, 0, 28799, 0, 21599, 0, 14399, 1, 105, 3695301039, 1, 2173652120, 2, 218595600, 3,
     17535600, 2, 13914000, 3, 18140400, 2, 13309200, 3, 18140400, 2, 13309200, 3, 18140400, 2,
     13914000, 3, 17535600, 2, 13914000, 3, 17535600, 2, 13914000, 3, 18140400, 2, 13309200, 3,
     18140400, 2, 13309200, 3, 18140400, 2, 13914000, 3, 17535600, 2, 13914000, 3, 17535600, 2,
     13914000, 3, 17535600, 2, 13914000, 3, 18140400, 2, 13309200, 3, 18140400, 2, 13309200, 3,
     18140400, 2, 13914000, 3, 17535600, 2, 13914000, 3, 17535600, 2, 13914000, 3, 18140400, 2,
     13309200, 3, 18140400, 2, 13309200, 3, 18140400, 2, 11494800, 3, 20559600, 2, 10890000, 3,
     20559600, 2, 10890000, 3, 20559600, 2, 11494800, 3, 20559600, 2, 10890000, 3, 20559600, 2,
     10890000, 3, 20559600, 2, 10890000, 3, 20559600, 2, 10890000, 3, 20559600, 2, 10890000, 3,
     20559600, 2, 11494800, 3, 20559600, 2, 10890000, 3, 20559600, 2, 10890000, 3, 20559600, 2,
     10890000, 3, 20559600, 2, 10890000, 3, 20559600, 2, 11494800, 3, 20559600, 2, 10890000, 3,
     20559600, 2, 10890000, 3, 20559600, 2, 10890000, 3, 20559600, 2, 10890000, 3, 20559600, 2,
     10890000, 3, 20559600, 2, 11494800, 3, 20559600, 2, 10890000, 3, 20559600, 2, 10890000, 3,
     20559600, 2, 10890000, 3, 20559600, 2, 10890000, 3, 20559600, 2, 11494800, 3, 20559600, 2,
     10890000, 3, 20559600, 2, 10890000, 3, 20559600, 2, 10890000, 3, 20559600, 2, 10890000, 3,
     20559600, 2, 10890000, 3, 20559600, 2, 6822847, 2]⟩,
  ⟨"America/Moncton", "AST4ADT,M3.2.0,M11.1.0",
    [6, 31095, 0, 35999, 0, 21599, 1, 28799, 0, 21599, 1, 21599, 1, 207, 5431764103, 1, 584239252,
     3, 499568400, 2, 16930800, 3, 461462400, 2, 7858800, 3, 23590800, 2, 7858800, 3, 23590800, 2,
     7858800, 3, 23590800, 2, 7858800, 3, 23590800, 2, 7858800, 3, 23590800, 2, 7858800, 3,
     22899600, 2, 10278000, 3, 20653200, 2, 10796400, 3, 19443600, 2, 12610800, 3, 11671200, 4,
     110826000, 5, 3996000, 3, 18147600, 2, 13302000, 3, 18147600, 2, 13302000, 3, 18147600, 2,
     13302000, 3, 18147600, 2, 13302000, 3, 18752400, 2, 12697200, 3, 18752400, 2, 13302000, 3,
     18147600, 2, 13302000, 3, 18147600, 2, 13302000, 3, 18147600, 2, 13302000, 3, 18147600, 2,
     13302000, 3, 18752400, 2, 13302000, 3, 18147600, 2, 15721200, 3, 15728400, 2, 15721200, 3,
     15728400, 2, 15721200, 3, 15728400, 2, 16326000, 3, 15728400, 2, 15721200, 3, 15728400, 2,
     15721200, 3, 15728400, 2, 15721200, 3, 15728400, 2, 15721200, 3, 15728400, 2, 16326000, 3,
     15123600, 2, 16326000, 3, 15728400, 2, 15721200, 3, 15728400, 2, 15721200, 3, 15728400, 2,
     15721200, 3, 15728400, 2, 15721200, 3, 15728400, 2, 16326000, 3, 15728400, 2, 15721200, 3,
     47178000, 2, 15721200, 3, 15728400, 2, 15721200, 3, 15728400, 2, 16326000, 3, 15123600, 2,
     16326000, 3, 15728400, 2, 15721200, 3, 15728400, 2, 15721200, 3, 15728400, 2, 15721200, 3,
     15728400, 2, 15721200, 3, 15728400, 2, 16326000, 3, 15123600, 2, 16326000, 3, 15728400, 2,
     15721200, 3, 15728400, 2, 15721200, 3, 15728400, 2, 15721200, 3, 13914000, 2, 17535600, 3,
     13914000, 2, 18140400, 3, 13309200, 2, 18140400, 3, 13309200, 2, 18140400, 3, 13914000, 2,
     17535600, 3, 13914000, 2, 17535600, 3, 13906860, 2, 18140400, 3, 13309200, 2, 18140400, 3,
     13309200, 2, 18140400, 3, 13914000, 2, 17535600, 3, 13914000, 2, 17535600, 3, 13914000, 2,
     17535600, 3, 13914000, 2, 18140400, 3, 13309200, 2, 18140400, 3, 13309200, 2, 18140400, 3,
     13914000, 2, 17535600, 3, 13914000, 2, 17535600, 3, 13914000, 2, 18140400, 3, 13309200, 2,
     18140400, 3, 13309200, 2, 18140400, 3, 11501940, 2, 20559600, 3, 10890000, 2, 20559600, 3,
     10890000, 2, 20559600, 3, 11494800, 2, 20559600, 3, 10890000, 2, 20559600, 3, 10890000, 2,
     20559600, 3, 10890000, 2, 20559600, 3, 10890000, 2, 20559600, 3, 10890000, 2, 20559600, 3,
     11494800, 2, 20559600, 3, 10890000, 2, 20559600, 3, 10890000, 2, 20559600, 3, 10890000, 2,
     20559600, 3, 10890000, 2, 20559600, 3, 11494800, 2, 20559600, 3, 10890000, 2, 20559600, 3,
     10890000, 2, 20559600, 3, 10890000, 2, 20559600, 3, 10890000, 2, 20559600, 3, 10890000, 2,
     20559600, 3, 11494800, 2, 20559600, 3, 10890000, 2, 20559600, 3, 10890000, 2, 20559600, 3,
     10890000, 2, 20559600, 3, 10890000, 2, 20559600, 3, 11494800, 2, 20559600, 3, 10890000, 2,
     20559600, 3, 10890000, 2, 20559600, 3, 10890000, 2, 20559600, 3, 10890000, 2, 20559600, 3,
     10890000, 2, 20559600, 3]⟩,
  ⟨"America/Monterrey", "CST6",
    [7, 48151, 0, 50399, 0, 43199, 0, 43199, 1, 50399, 0, 35999, 1, 43199, 0, 62, 3029486399, 1,
     171594000, 2, 108342000, 4, 14346000, 3, 13302000, 4, 15814800, 2, 1767402000, 5, 18140400, 2,
     234666000, 5, 17535600, 2, 13914000, 5, 17535600, 2, 13914000, 5, 17535600, 2, 13914000, 5,
     18140400, 2, 13309200, 5, 18140400, 2, 16333200, 5, 12697200, 2, 16333200, 5, 17535600, 2,
     13914000, 5, 17535600, 2, 13914000, 5, 18140400, 2, 13309200, 5, 18140400, 2, 13309200, 5,
     18140400, 2, 13309200, 5, 18140400, 2, 13914000, 5, 17535600, 2, 13914000, 5, 17535600, 2,
     13914000, 5, 18140400, 2, 13309200, 5, 18140400, 2, 13309200, 5, 18140400, 2, 13914000, 5,
     17535600, 2, 13914000, 5, 17535600, 2, 13914000, 5, 17535600, 2, 13914000, 5, 18140400, 2,
     13309200, 5, 18140400, 2, 13309200, 5, 18140400, 2, 13914000, 5, 17535600, 2, 13914000, 5,
     17535600, 2, 13914000, 5, 18140400, 2, 13309200, 5, 18140400, 2]⟩,
  ⟨"America/Montevideo", "<-03>3",
    [10, 26981, 0, 26981, 0, 28799, 0, 25199, 0, 21599, 1, 21599, 0, 17999, 1, 14399, 1, 10799, 1,
     14399, 1, 87, 3885381017, 1, 375235200, 2, 107828109, 4, 15807600, 3, 15813000, 4, 15723000, 3,
     15813000, 4, 15723000, 3, 239157000, 4, 13303800, 3, 18145800, 4, 13303800, 3, 18145800, 4,
     13303800, 3, 18145800, 4, 13303800, 3, 18750600, 4, 12699000, 3, 18750600, 4, 12699000, 3,
     16331400, 4, 15723000, 3, 18145800, 4, 13303800, 3, 10715400, 4, 43198200, 6, 7774200, 5,
     511057800, 6, 15118200, 5, 5445000, 7, 4230000, 5, 160275600, 7, 15116400, 5, 84157200, 6,
     16241400, 5, 44065800, 7, 4316400, 5, 58669200, 7, 7254000, 5, 47178000, 8, 4833000, 6,
     15123600, 5, 9678600, 7, 8463600, 5, 54435600, 7, 6649200, 5, 23590800, 7, 7858800, 5,
     24800400, 7, 6649200, 5, 4842000, 7, 27817200, 5, 244429200, 7, 6562800, 5, 24800400, 7,
     7254000, 5, 20566800, 7, 10278000, 5, 20566800, 7, 11487600, 5, 20566800, 7, 10882800, 5,
     19962000, 7, 11487600, 5, 364698000, 7, 16333200, 5, 16938000, 7, 13302000, 5, 17542800, 7,
     13906800, 5, 18147600, 7, 13302000, 5, 18147600, 7, 13302000, 5, 18147600, 7, 13906800, 5,
     17542800, 7, 13906800, 5, 17542800, 7, 13906800, 5, 18147600, 7, 13302000, 5, 18147600, 7,
     13302000, 5, 18147600, 7, 13302000, 5, 721696447, 5]⟩,
  ⟨"America/Montserrat", "AST4",
    [2, 29863, 0, 28799, 0, 1, 3692533215, 1]⟩,
  ⟨"America/Nassau", "EST5EDT,M3.2.0,M11.1.0",
    [5, 37139, 0, 28799, 1, 35999, 0, 28799, 1, 28799, 1, 154, 3650190059, 2, 951954630, 1,
     84236400, 2, 2682000, 1, 16826400, 3, 5547600, 2, 584506800, 4, 15721200, 2, 15728400, 4,
     16326000, 2, 15123600, 4, 16326000, 2, 15728400, 4, 15721200, 2, 15728400, 4, 15721200, 2,
     15728400, 4, 15721200, 2, 15728400, 4, 15721200, 2, 15728400, 4, 16326000, 2, 15728400, 4,
     15721200, 2, 15728400, 4, 15721200, 2, 15728400, 4, 15721200, 2, 15728400, 4, 15721200, 2,
     15728400, 4, 16326000, 2, 15123600, 4, 16326000, 2, 15728400, 4, 15721200, 2, 15728400, 4,
     15721200, 2, 15728400, 4, 15721200, 2, 15728400, 4, 15721200, 2, 15728400, 4, 16326000, 2,
     15123600, 4, 16326000, 2, 15728400, 4, 15721200, 2, 15728400, 4, 15721200, 2, 15728400, 4,
     15721200, 2, 13914000, 4, 17535600, 2, 13914000, 4, 18140400, 2, 13309200, 4, 18140400, 2,
     13309200, 4, 18140400, 2, 13914000, 4, 17535600, 2, 13914000, 4, 17535600, 2, 13914000, 4,
     18140400, 2, 13309200, 4, 18140400, 2, 13309200, 4, 18140400, 2, 13914000, 4, 17535600, 2,
     13914000, 4, 17535600, 2, 13914000, 4, 17535600, 2, 13914000, 4, 18140400, 2, 13309200, 4,
     18140400, 2, 13309200, 4, 18140400, 2, 13914000, 4, 17535600, 2, 13914000, 4, 17535600, 2,
     13914000, 4, 18140400, 2, 13309200, 4, 18140400, 2, 13309200, 4, 18140400, 2, 11494800, 4,
     20559600, 2, 10890000, 4, 20559600, 2, 10890000, 4, 20559600, 2, 11494800, 4, 20559600, 2,
     10890000, 4, 20559600, 2, 10890000, 4, 20559600, 2, 10890000, 4, 20559600, 2, 10890000, 4,
     20559600, 2, 10890000, 4, 20559600, 2, 11494800, 4, 20559600, 2, 10890000, 4, 20559600, 2,
     10890000, 4, 20559600, 2, 10890000, 4, 20559600, 2, 10890000, 4, 20559600, 2, 11494800, 4,
     20559600, 2, 10890000, 4, 20559600, 2, 10890000, 4, 20559600, 2, 10890000, 4, 20559600, 2,
     10890000, 4, 20559600, 2, 10890000, 4, 20559600, 2, 11494800, 4, 20559600, 2, 10890000, 4,
     20559600, 2, 10890000, 4, 20559600, 2, 10890000, 4, 20559600, 2, 10890000, 4, 20559600, 2,
     11494800, 4, 20559600, 2, 10890000, 4, 20559600, 2, 10890000, 4, 20559600, 2, 10890000, 4,
     20559600, 2, 10890000, 4, 20559600, 2, 10890000, 4, 20559600, 2]⟩,
  ⟨"America/New_York", "EST5EDT,M3.2.0,M11.1.0",
    [6, 35523, 0, 28799, 1, 35999, 0, 35999, 0, 28799, 1, 28799, 1, 236, 5435301599, 3, 1084370400,
     1, 18140400, 2, 13309200, 1, 18140400, 2, 13309200, 1, 18745200, 2, 15123600, 1, 13302000, 2,
     18752400, 1, 12697200, 2, 18752400, 1, 13302000, 2, 18147600, 1, 13302000, 2, 18147600, 1,
     13302000, 2, 18147600, 1, 13302000, 2, 18147600, 1, 13302000, 2, 18752400, 1, 13302000, 2,
     18147600, 1, 13302000, 2, 18147600, 1, 13302000, 2, 18147600, 1, 13302000, 2, 18147600, 1,
     13302000, 2, 18752400, 1, 12697200, 2, 18752400, 1, 13302000, 2, 18147600, 1, 13302000, 2,
     18147600, 1, 13302000, 2, 18147600, 1, 13302000, 2, 18147600, 1, 13302000, 2, 18752400, 1,
     12697200, 2, 18752400, 1, 13302000, 2, 18147600, 1, 13302000, 2, 11581200, 4, 110822400, 5,
     3999600, 2, 18147600, 1, 13302000, 2, 18147600, 1, 13302000, 2, 18147600, 1, 13302000, 2,
     18147600, 1, 13302000, 2, 18752400, 1, 12697200, 2, 18752400, 1, 13302000, 2, 18147600, 1,
     13302000, 2, 18147600, 1, 13302000, 2, 18147600, 1, 13302000, 2, 18147600, 1, 16326000, 2,
     15728400, 1, 15721200, 2, 15728400, 1, 15721200, 2, 15728400, 1, 15721200, 2, 15728400, 1,
     15721200, 2, 15728400, 1, 16326000, 2, 15728400, 1, 15721200, 2, 15728400, 1, 15721200, 2,
     15728400, 1, 15721200, 2, 15728400, 1, 15721200, 2, 15728400, 1, 16326000, 2, 15123600, 1,
     16326000, 2, 15728400, 1, 15721200, 2, 15728400, 1, 15721200, 2, 15728400, 1, 15721200, 2,
     15728400, 1, 15721200, 2, 15728400, 1, 16326000, 2, 15728400, 1, 15721200, 2, 15728400, 1,
     15721200, 2, 6051600, 1, 25398000, 2, 10285200, 1, 21164400, 2, 15728400, 1, 16326000, 2,
     15123600, 1, 16326000, 2, 15728400, 1, 15721200, 2, 15728400, 1, 15721200, 2, 15728400, 1,
     15721200, 2, 15728400, 1, 15721200, 2, 15728400, 1, 16326000, 2, 15123600, 1, 16326000, 2,
     15728400, 1, 15721200, 2, 15728400, 1, 15721200, 2, 15728400, 1, 15721200, 2, 13914000, 1,
     17535600, 2, 13914000, 1, 18140400, 2, 13309200, 1, 18140400, 2, 13309200, 1, 18140400, 2,
     13914000, 1, 17535600, 2, 13914000, 1, 17535600, 2, 13914000, 1, 18140400, 2, 13309200, 1,
     18140400, 2, 13309200, 1, 18140400, 2, 13914000, 1, 17535600, 2, 13914000, 1, 17535600, 2,
     13914000, 1, 17535600, 2, 13914000, 1, 18140400, 2, 13309200, 1, 18140400, 2, 13309200, 1,
     18140400, 2, 13914000, 1, 17535600, 2, 13914000, 1, 17535600, 2, 13914000, 1, 18140400, 2,
     13309200, 1, 18140400, 2, 13309200, 1, 18140400, 2, 11494800, 1, 20559600, 2, 10890000, 1,
     20559600, 2, 10890000, 1, 20559600, 2, 11494800, 1, 20559600, 2, 10890000, 1, 20559600, 2,
     10890000, 1, 20559600, 2, 10890000, 1, 20559600, 2, 10890000, 1, 20559600, 2, 10890000, 1,
     20559600, 2, 11494800, 1, 20559600, 2, 10890000, 1, 20559600, 2, 10890000, 1, 20559600, 2,
     10890000, 1, 20559600, 2, 10890000, 1, 20559600, 2, 11494800, 1, 20559600, 2, 10890000, 1,
     20559600, 2, 10890000, 1, 20559600, 2, 10890000, 1, 20559600, 2, 10890000, 1, 20559600, 2,
     10890000, 1, 20559600, 2, 11494800, 1, 20559600, 2, 10890000, 1, 20559600, 2, 10890000, 1,
     20559600, 2, 10890000, 1, 20559600, 2, 10890000, 1, 20559600, 2, 11494800, 1, 20559600, 2,
     10890000, 1, 20559600, 2, 10890000, 1, 20559600, 2, 10890000, 1, 20559600, 2, 10890000, 1,
     20559600, 2, 10890000, 1, 20559600, 2]⟩,
  ⟨"America/Nome", "AKST9AKDT,M3.2.0,M11.1.0",
    [10, 93404, 0, 79395, 0, 79199, 0, 71999, 1, 71999, 1, 79199, 0, 71999, 1, 64799, 0, 57599, 1,
     64799, 0, 145, 6450447453, 1, 1036276225, 2, 1308751102, 3, 110800800, 4, 4021200, 2,
     678495600, 5, 65412000, 6, 15721200, 5, 15728400, 6, 15721200, 5, 15728400, 6, 16326000, 5,
     15728400, 6, 15721200, 5, 15728400, 6, 15721200, 5, 6051600, 6, 25398000, 5, 10285200, 6,
     21164400, 5, 15728400, 6, 16326000, 5, 15123600, 6, 16326000, 5, 15728400, 6, 15721200, 5,
     15728400, 6, 15721200, 5, 15728400, 6, 15721200, 5, 15728400, 6, 15721200, 5, 15728400, 6,
     16326000, 5, 15123600, 6, 16326000, 7, 2667600, 9, 13053600, 8, 15721200, 9, 15728400, 8,
     15721200, 9, 15728400, 8, 15721200, 9, 13914000, 8, 17535600, 9, 13914000, 8, 18140400, 9,
     13309200, 8, 18140400, 9, 13309200, 8, 18140400, 9, 13914000, 8, 17535600, 9, 13914000, 8,
     17535600, 9, 13914000, 8, 18140400, 9, 13309200, 8, 18140400, 9, 13309200, 8, 18140400, 9,
     13914000, 8, 17535600, 9, 13914000, 8, 17535600, 9, 13914000, 8, 17535600, 9, 13914000, 8,
     18140400, 9, 13309200, 8, 18140400, 9, 13309200, 8, 18140400, 9, 13914000, 8, 17535600, 9,
     13914000, 8, 17535600, 9, 13914000, 8, 18140400, 9, 13309200, 8, 18140400, 9, 13309200, 8,
     18140400, 9, 11494800, 8, 20559600, 9, 10890000, 8, 20559600, 9, 10890000, 8, 20559600, 9,
     11494800, 8, 20559600, 9, 10890000, 8, 20559600, 9, 10890000, 8, 20559600, 9, 10890000, 8,
     20559600, 9, 10890000, 8, 20559600, 9, 10890000, 8, 20559600, 9, 11494800, 8, 20559600, 9,
     10890000, 8, 20559600, 9, 10890000, 8, 20559600, 9, 10890000, 8, 20559600, 9, 10890000, 8,
     20559600, 9, 11494800, 8, 20559600, 9, 10890000, 8, 20559600, 9, 10890000, 8, 20559600, 9,
     10890000, 8, 20559600, 9, 10890000, 8, 20559600, 9, 10890000, 8, 20559600, 9, 11494800, 8,
     20559600, 9, 10890000, 8, 20559600, 9, 10890000, 8, 20559600, 9, 10890000, 8, 20559600, 9,
     10890000, 8, 20559600, 9, 11494800, 8, 20559600, 9, 10890000, 8, 20559600, 9, 10890000, 8,
     20559600, 9, 10890000, 8, 20559600, 9, 10890000, 8, 20559600, 9, 10890000, 8, 20559600, 9]⟩,
  ⟨"America/Noronha", "<-02>2",
    [3, 15559, 0, 7199, 1, 14399, 0, 40, 3534435639, 2, 560256620, 1, 15595200, 2, 15987600, 1,
     15548400, 2, 526006800, 1, 11750400, 2, 19785600, 1, 10450800, 2, 21085200, 1, 10537200, 2,
     21085200, 1, 7772400, 2, 339987600, 1, 7167600, 2, 29034000, 1, 5094000, 2, 21171600, 1,
     7772400, 2, 21171600, 1, 10364400, 2, 21171600, 1, 10450800, 2, 557715600, 1, 11487600, 2,
     19357200, 1, 9673200, 2, 21862800, 1, 9068400, 2, 21776400, 1, 9068400, 2, 22381200, 1,
     10278000, 2, 304218000, 1, 12697200, 2, 19357200, 1, 601200, 2, 31453200, 1, 10882800, 2,
     1133576047, 2]⟩,
  ⟨"America/North_Dakota/Beulah", "CST6CDT,M3.2.0,M11.1.0",
    [8, 48853, 0, 43199, 1, 50399, 0, 43199, 1, 43199, 1, 50399, 0, 35999, 1, 43199, 0, 150,
     5435287199, 5, 1084370400, 1, 18140400, 2, 13309200, 1, 18140400, 2, 703472400, 3, 110815200,
     4, 4006800, 2, 681008400, 1, 15721200, 2, 15728400, 1, 15721200, 2, 15728400, 1, 15721200, 2,
     15728400, 1, 15721200, 2, 15728400, 1, 16326000, 2, 15728400, 1, 15721200, 2, 15728400, 1,
     15721200, 2, 6051600, 1, 25398000, 2, 10285200, 1, 21164400, 2, 15728400, 1, 16326000, 2,
     15123600, 1, 16326000, 2, 15728400, 1, 15721200, 2, 15728400, 1, 15721200, 2, 15728400, 1,
     15721200, 2, 15728400, 1, 15721200, 2, 15728400, 1, 16326000, 2, 15123600, 1, 16326000, 2,
     15728400, 1, 15721200, 2, 15728400, 1, 15721200, 2, 15728400, 1, 15721200, 2, 13914000, 1,
     17535600, 2, 13914000, 1, 18140400, 2, 13309200, 1, 18140400, 2, 13309200, 1, 18140400, 2,
     13914000, 1, 17535600, 2, 13914000, 1, 17535600, 2, 13914000, 1, 18140400, 2, 13309200, 1,
     18140400, 2, 13309200, 1, 18140400, 2, 13914000, 1, 17535600, 2, 13914000, 1, 17535600, 2,
     13914000, 1, 17535600, 2, 13914000, 1, 18140400, 2, 13309200, 1, 18140400, 2, 13309200, 1,
     18140400, 2, 13914000, 1, 17535600, 2, 13914000, 1, 17535600, 2, 13914000, 1, 18140400, 2,
     13309200, 1, 18140400, 2, 13309200, 1, 18140400, 2, 11494800, 1, 20559600, 2, 10890000, 1,
     20559600, 2, 10890000, 1, 20559600, 2, 11494800, 1, 20559600, 7, 10886400, 6, 20559600, 7,
     10890000, 6, 20559600, 7, 10890000, 6, 20559600, 7, 10890000, 6, 20559600, 7, 10890000, 6,
     20559600, 7, 11494800, 6, 20559600, 7, 10890000, 6, 20559600, 7, 10890000, 6, 20559600, 7,
     10890000, 6, 20559600, 7, 10890000, 6, 20559600, 7, 11494800, 6, 20559600, 7, 10890000, 6,
     20559600, 7, 10890000, 6, 20559600, 7, 10890000, 6, 20559600, 7, 10890000, 6, 20559600, 7,
     10890000, 6, 20559600, 7, 11494800, 6, 20559600, 7, 10890000, 6, 20559600, 7, 10890000, 6,
     20559600, 7, 10890000, 6, 20559600, 7, 10890000, 6, 20559600, 7, 11494800, 6, 20559600, 7,
     10890000, 6, 20559600, 7, 10890000, 6, 20559600, 7, 10890000, 6, 20559600, 7, 10890000, 6,
     20559600, 7, 10890000, 6, 20559600, 7]⟩,
  ⟨"America/North_Dakota/Center", "CST6CDT,M3.2.0,M11.1.0",
    [8, 48623, 0, 43199, 1, 50399, 0, 43199, 1, 43199, 1, 50399, 0, 35999, 1, 43199, 0, 150,
     5435287199, 5, 1084370400, 1, 18140400, 2, 13309200, 1, 18140400, 2, 703472400, 3, 110815200,
     4, 4006800, 2, 681008400, 1, 15721200, 2, 15728400, 1, 15721200, 2, 15728400, 1, 15721200, 2,
     15728400, 1, 15721200, 2, 15728400, 1, 16326000, 2, 15728400, 1, 15721200, 2, 15728400, 1,
     15721200, 2, 6051600, 1, 25398000, 2, 10285200, 1, 21164400, 2, 15728400, 1, 16326000, 2,
     15123600, 1, 16326000, 2, 15728400, 1, 15721200, 2, 15728400, 1, 15721200, 2, 15728400, 1,
     15721200, 2, 15728400, 1, 15721200, 2, 15728400, 1, 16326000, 2, 15123600, 1, 16326000, 2,
     15728400, 1, 15721200, 2, 15728400, 1, 15721200, 2, 15728400, 1, 15721200, 2, 13914000, 1,
     17535600, 2, 13914000, 1, 18140400, 2, 13309200, 1, 18140400, 2, 13309200, 1, 18140400, 2,
     13914000, 1, 17535600, 2, 13914000, 1, 17535600, 7, 13910400, 6, 18140400, 7, 13309200, 6,
     18140400, 7, 13309200, 6, 18140400, 7, 13914000, 6, 17535600, 7, 13914000, 6, 17535600, 7,
     13914000, 6, 17535600, 7, 13914000, 6, 18140400, 7, 13309200, 6, 18140400, 7, 13309200, 6,
     18140400, 7, 13914000, 6, 17535600, 7, 13914000, 6, 17535600, 7, 13914000, 6, 18140400, 7,
     13309200, 6, 18140400, 7, 13309200, 6, 18140400, 7, 11494800, 6, 20559600, 7, 10890000, 6,
     20559600, 7, 10890000, 6, 20559600, 7, 11494800, 6, 20559600, 7, 10890000, 6, 20559600, 7,
     10890000, 6, 20559600, 7, 10890000, 6, 20559600, 7, 10890000, 6, 20559600, 7, 10890000, 6,
     20559600, 7, 11494800, 6, 20559600, 7, 10890000, 6, 20559600, 7, 10890000, 6, 20559600, 7,
     10890000, 6, 20559600, 7, 10890000, 6, 20559600, 7, 11494800, 6, 20559600, 7, 10890000, 6,
     20559600, 7, 10890000, 6, 20559600, 7, 10890000, 6, 20559600, 7, 10890000, 6, 20559600, 7,
     10890000, 6, 20559600, 7, 11494800, 6, 20559600, 7, 10890000, 6, 20559600, 7, 10890000, 6,
     20559600, 7, 10890000, 6, 20559600, 7, 10890000, 6, 20559600, 7, 11494800, 6, 20559600, 7,
     10890000, 6, 20559600, 7, 10890000, 6, 20559600, 7, 10890000, 6, 20559600, 7, 10890000, 6,
     20559600, 7, 10890000, 6, 20559600, 7]⟩,
  ⟨"America/North_Dakota/New_Salem", "CST6CDT,M3.2.0,M11.1.0",
    [8, 48677, 0, 43199, 1, 50399, 0, 43199, 1, 43199, 1, 50399, 0, 35999, 1, 43199, 0, 150,
     5435287199, 5, 1084370400, 1, 18140400, 2, 13309200, 1, 18140400, 2, 703472400, 3, 110815200,
     4, 4006800, 2, 681008400, 1, 15721200, 2, 15728400, 1, 15721200, 2, 15728400, 1, 15721200, 2,
     15728400, 1, 15721200, 2, 15728400, 1, 16326000, 2, 15728400, 1, 15721200, 2, 15728400, 1,
     15721200, 2, 6051600, 1, 25398000, 2, 10285200, 1, 21164400, 2, 15728400, 1, 16326000, 2,
     15123600, 1, 16326000, 2, 15728400, 1, 15721200, 2, 15728400, 1, 15721200, 2, 15728400, 1,
     15721200, 2, 15728400, 1, 15721200, 2, 15728400, 1, 16326000, 2, 15123600, 1, 16326000, 2,
     15728400, 1, 15721200, 2, 15728400, 1, 15721200, 2, 15728400, 1, 15721200, 2, 13914000, 1,
     17535600, 2, 13914000, 1, 18140400, 2, 13309200, 1, 18140400, 2, 13309200, 1, 18140400, 2,
     13914000, 1, 17535600, 2, 13914000, 1, 17535600, 2, 13914000, 1, 18140400, 2, 13309200, 1,
     18140400, 2, 13309200, 1, 18140400, 2, 13914000, 1, 17535600, 2, 13914000, 1, 17535600, 2,
     13914000, 1, 17535600, 2, 13914000, 1, 18140400, 2, 13309200, 1, 18140400, 2, 13309200, 1,
     18140400, 2, 13914000, 1, 17535600, 2, 13914000, 1, 17535600, 7, 13910400, 6, 18140400, 7,
     13309200, 6, 18140400, 7, 13309200, 6, 18140400, 7, 11494800, 6, 20559600, 7, 10890000, 6,
     20559600, 7, 10890000, 6, 20559600, 7, 11494800, 6, 20559600, 7, 10890000, 6, 20559600, 7,
     10890000, 6, 20559600, 7, 10890000, 6, 20559600, 7, 10890000, 6, 20559600, 7, 10890000, 6,
     20559600, 7, 11494800, 6, 20559600, 7, 10890000, 6, 20559600, 7, 10890000, 6, 20559600, 7,
     10890000, 6, 20559600, 7, 10890000, 6, 20559600, 7, 11494800, 6, 20559600, 7, 10890000, 6,
     20559600, 7, 10890000, 6, 20559600, 7, 10890000, 6, 20559600, 7, 10890000, 6, 20559600, 7,
     10890000, 6, 20559600, 7, 11494800, 6, 20559600, 7, 10890000, 6, 20559600, 7, 10890000, 6,
     20559600, 7, 10890000, 6, 20559600, 7, 10890000, 6, 20559600, 7, 11494800, 6, 20559600, 7,
     10890000, 6, 20559600, 7, 10890000, 6, 20559600, 7, 10890000, 6, 20559600, 7, 10890000, 6,
     20559600, 7, 10890000, 6, 20559600, 7]⟩,
  ⟨"America/Nuuk", "<-02>2<-01>,M3.5.0/-1,M10.5.0/0",
    [7, 24831, 0, 21599, 0, 21599, 0, 14399, 1, 14399, 1, 14399, 0, 7199, 1, 117, 3372167167, 1,
     2009928784, 4, 15105600, 2, 15724800, 3, 15724800, 2, 15724800, 3, 15724800, 2, 15724800, 3,
     15724800, 2, 15724800, 3, 16329600, 2, 15724800, 3, 15724800, 2, 15724800, 3, 15724800, 2,
     15724800, 3, 15724800, 2, 15724800, 3, 15724800, 2, 15724800, 3, 15724800, 2, 15724800, 3,
     16329600, 2, 15724800, 3, 15724800, 2, 15724800, 3, 15724800, 2, 15724800, 3, 15724800, 2,
     15724800, 3, 15724800, 2, 15724800, 3, 15724800, 2, 16329600, 3, 18144000, 2, 13305600, 3,
     18144000, 2, 13305600, 3, 18144000, 2, 13305600, 3, 18748800, 2, 12700800, 3, 18748800, 2,
     12700800, 3, 18748800, 2, 13305600, 3, 18144000, 2, 13305600, 3, 18144000, 2, 13305600, 3,
     18748800, 2, 12700800, 3, 18748800, 2, 12700800, 3, 18748800, 2, 12700800, 3, 18748800, 2,
     13305600, 3, 18144000, 2, 13305600, 3, 18144000, 2, 13305600, 3, 18748800, 2, 12700800, 3,
     18748800, 2, 12700800, 3, 18748800, 2, 13305600, 3, 18144000, 2, 13305600, 3, 18144000, 2,
     13305600, 3, 18144000, 2, 13305600, 3, 18748800, 2, 12700800, 3, 18748800, 2, 12700800, 3,
     18748800, 2, 13305600, 3, 18144000, 2, 13305600, 3, 18144000, 2, 13305600, 3, 18748800, 2,
     12700800, 3, 18748800, 2, 12700800, 5, 32054400, 6, 18144000, 5, 13305600, 6, 18144000, 5,
     13305600, 6, 18144000, 5, 13305600, 6, 18748800, 5, 12700800, 6, 18748800, 5, 12700800, 6,
     18748800, 5, 13305600, 6, 18144000, 5, 13305600, 6, 18144000, 5, 13305600, 6, 18748800, 5,
     12700800, 6, 18748800, 5, 12700800, 6, 18748800, 5, 12700800, 6, 18748800, 5, 13305600, 6,
     18144000, 5, 13305600, 6, 18144000, 5, 7438447, 5]⟩,
  ⟨"America/Ojinaga", "CST6CDT,M3.2.0,M11.1.0",
    [7, 50119, 0, 50399, 0, 43199, 0, 43199, 1, 50399, 0, 35999, 1, 43199, 0, 90, 3029479199, 1,
     171590400, 2, 108342000, 4, 14346000, 3, 13302000, 4, 15814800, 2, 2020208400, 5, 17535600, 2,
     13914000, 5, 17535600, 2, 13917600, 3, 17535600, 4, 13914000, 3, 18140400, 4, 13309200, 3,
     18140400, 4, 16333200, 3, 12697200, 4, 16333200, 3, 17535600, 4, 13914000, 3, 17535600, 4,
     13914000, 3, 18140400, 4, 13309200, 3, 18140400, 4, 13309200, 3, 18140400, 4, 13309200, 3,
     18140400, 4, 13914000, 3, 17535600, 4, 13914000, 3, 17535600, 4, 12099600, 3, 20559600, 4,
     10890000, 3, 20559600, 4, 10890000, 3, 20559600, 4, 10890000, 3, 20559600, 4, 10890000, 3,
     20559600, 4, 10890000, 3, 20559600, 4, 11494800, 3, 20559600, 4, 10890000, 3, 20559600, 4,
     10890000, 3, 20559600, 4, 10890000, 3, 20559600, 4, 10890000, 3, 20559600, 4, 11494800, 3,
     20559600, 4, 10890000, 3, 19954800, 2, 11491200, 5, 20559600, 2, 10890000, 5, 20559600, 2,
     10890000, 5, 20559600, 2, 10890000, 5, 20559600, 2, 11494800, 5, 20559600, 2, 10890000, 5,
     20559600, 2, 10890000, 5, 20559600, 2, 10890000, 5, 20559600, 2, 10890000, 5, 20559600, 2,
     11494800, 5, 20559600, 2, 10890000, 5, 20559600, 2, 10890000, 5, 20559600, 2, 10890000, 5,
     20559600, 2, 10890000, 5, 20559600, 2, 10890000, 5, 20559600, 2]⟩,
  ⟨"America/Panama", "EST5",
    [3, 38175, 0, 38351, 0, 35999, 0, 2, 5049005023, 1, 577584088, 2]⟩,
  ⟨"America/Paramaribo", "<-03>3",
    [5, 26479, 0, 26503, 0, 26471, 0, 25199, 0, 21599, 0, 5, 3723813519, 1, 757382412, 2, 339206384,
     3, 1230767364, 4, 1682034247, 4]⟩,
  ⟨"America/Phoenix", "MST7",
    [5, 53795, 0, 43199, 1, 50399, 0, 43199, 1, 50399, 0, 11, 5435287199, 4, 1084370400, 1,
     18140400, 2, 13309200, 1, 18140400, 2, 703472400, 3, 59691660, 2, 7866000, 3, 15807600, 2,
     712465140, 1, 15721200, 2]⟩,
  ⟨"America/Port-au-Prince", "EST5EDT,M3.2.0,M11.1.0",
    [6, 34719, 0, 34679, 0, 28799, 1, 35999, 0, 28799, 1, 35999, 0, 86, 5049008479, 1, 854020780, 3,
     2091701460, 2, 15116400, 3, 15728400, 2, 15721200, 3, 15728400, 2, 15721200, 3, 15728400, 2,
     15721200, 3, 15728400, 2, 15721200, 3, 13917600, 4, 18144000, 5, 13305600, 4, 18144000, 5,
     13305600, 4, 18144000, 5, 13910400, 4, 17539200, 5, 13910400, 4, 17539200, 5, 13910400, 4,
     18144000, 5, 13305600, 4, 18144000, 5, 13305600, 4, 18144000, 5, 13910400, 4, 17539200, 5,
     13910400, 4, 17539200, 5, 234658800, 2, 18140400, 3, 13309200, 2, 18140400, 3, 169354800, 2,
     20559600, 3, 10890000, 2, 20559600, 3, 10890000, 2, 20559600, 3, 10890000, 2, 20559600, 3,
     42944400, 2, 20559600, 3, 10890000, 2, 20559600, 3, 10890000, 2, 20559600, 3, 10890000, 2,
     20559600, 3, 11494800, 2, 20559600, 3, 10890000, 2, 20559600, 3, 10890000, 2, 20559600, 3,
     10890000, 2, 20559600, 3, 10890000, 2, 20559600, 3, 10890000, 2, 20559600, 3, 11494800, 2,
     20559600, 3, 10890000, 2, 20559600, 3, 10890000, 2, 20559600, 3, 10890000, 2, 20559600, 3,
     10890000, 2, 20559600, 3, 11494800, 2, 20559600, 3, 10890000, 2, 20559600, 3, 10890000, 2,
     20559600, 3, 10890000, 2, 20559600, 3, 10890000, 2, 20559600, 3, 10890000, 2, 20559600, 3]⟩,
  ⟨"America/Port_of_Spain", "AST4",
    [2, 29527, 0, 28799, 0, 1, 3650197671, 1]⟩,
  ⟨"America/Porto_Velho", "<-04>4",
    [3, 30671, 0, 21599, 1, 28799, 0, 30, 3534420527, 2, 560256264, 1, 15595200, 2, 15987600, 1,
     15548400, 2, 526006800, 1, 11750400, 2, 19785600, 1, 10450800, 2, 21085200, 1, 10537200, 2,
     21085200, 1, 7772400, 2, 339987600, 1, 7167600, 2, 29034000, 1, 5094000, 2, 21171600, 1,
     7772400, 2, 21171600, 1, 10364400, 2, 21171600, 1, 10450800, 2, 557715600, 1, 11487600, 2,
     19357200, 1, 9673200, 2, 21862800, 1, 9068400, 2, 1576282447, 2]⟩,
  ⟨"America/Puerto_Rico", "AST4",
    [4, 31729, 0, 28799, 0, 21599, 1, 21599, 1, 4, 4466070669, 1, 1359977735, 3, 103662000, 2,
     3996000, 1]⟩,
  ⟨"America/Punta_Arenas", "<-03>3",
    [8, 34039, 0, 33929, 0, 35999, 0, 28799, 0, 28799, 1, 21599, 1, 28799, 0, 21599, 0, 118,
     5049009159, 1, 631843145, 2, 204250635, 1, 69205365, 3, 25399035, 1, 257820165, 4, 18400635, 2,
     13222800, 4, 18313200, 2, 13222800, 4, 18313200, 2, 13222800, 4, 18313200, 2, 13222800, 4,
     18399600, 2, 13222800, 3, 307580400, 2, 5274000, 3, 128646000, 4, 18576000, 2, 4406400, 3,
     677030400, 5, 12697200, 6, 20566800, 5, 10882800, 6, 16938000, 5, 13302000, 6, 18147600, 5,
     13302000, 6, 18752400, 5, 12697200, 6, 17542800, 5, 13906800, 6, 18752400, 5, 12697200, 6,
     18752400, 5, 13302000, 6, 18147600, 5, 13302000, 6, 18147600, 5, 13302000, 6, 18752400, 5,
     12697200, 6, 18752400, 5, 12697200, 6, 18752400, 5, 13302000, 6, 18147600, 5, 13302000, 6,
     18147600, 5, 13302000, 6, 18147600, 5, 13302000, 6, 18752400, 5, 12697200, 6, 18752400, 5,
     12697200, 6, 18752400, 5, 15721200, 6, 15728400, 5, 13302000, 6, 18147600, 5, 13302000, 6,
     18752400, 5, 12697200, 6, 16333200, 5, 15116400, 6, 18752400, 5, 13302000, 6, 18147600, 5,
     13302000, 6, 18147600, 5, 13302000, 6, 18147600, 5, 13302000, 6, 18752400, 5, 12697200, 6,
     18752400, 5, 14511600, 6, 16938000, 5, 13302000, 6, 16938000, 5, 16326000, 6, 16333200, 5,
     13302000, 6, 18752400, 5, 12697200, 6, 18752400, 5, 12697200, 6, 18752400, 5, 12697200, 6,
     18752400, 5, 13302000, 6, 18147600, 5, 13302000, 6, 18147600, 5, 13302000, 6, 18752400, 5,
     12697200, 6, 18752400, 5, 14511600, 6, 16938000, 5, 13302000, 6, 18147600, 5, 15116400, 6,
     16333200, 5, 18140400, 6, 9075600, 5, 21769200, 6, 10890000, 5, 20559600, 6, 11494800, 5,
     19954800, 6, 11494800, 5, 53218800, 6, 7866000, 5, 9673200, 7, 666663247, 7]⟩,
  ⟨"America/Rankin_Inlet", "CST6CDT,M3.2.0,M11.1.0",
    [5, 0, 0, 35999, 1, 43199, 0, 35999, 0, 43199, 0, 133, 820454399, 2, 483696000, 1, 15721200, 2,
     15728400, 1, 15721200, 2, 15728400, 1, 15721200, 2, 15728400, 1, 15721200, 2, 15728400, 1,
     16326000, 2, 15123600, 1, 16326000, 2, 15728400, 1, 15721200, 2, 15728400, 1, 15721200, 2,
     15728400, 1, 15721200, 2, 15728400, 1, 15721200, 2, 15728400, 1, 16326000, 2, 15123600, 1,
     16326000, 2, 15728400, 1, 15721200, 2, 15728400, 1, 15721200, 2, 15728400, 1, 15721200, 2,
     13914000, 1, 17535600, 2, 13914000, 1, 18140400, 2, 13309200, 1, 18140400, 2, 13309200, 1,
     18140400, 2, 13914000, 1, 17535600, 2, 13914000, 1, 17535600, 2, 13914000, 1, 18140400, 2,
     13309200, 1, 18140400, 2, 13309200, 1, 18140400, 2, 13914000, 1, 17535600, 2, 13914000, 1,
     17535600, 2, 13914000, 1, 17535600, 2, 13914000, 1, 18140400, 2, 13309200, 1, 18140400, 3,
     13309200, 1, 18140400, 2, 13914000, 1, 17535600, 2, 13914000, 1, 17535600, 2, 13914000, 1,
     18140400, 2, 13309200, 1, 18140400, 2, 13309200, 1, 18140400, 2, 11494800, 1, 20559600, 2,
     10890000, 1, 20559600, 2, 10890000, 1, 20559600, 2, 11494800, 1, 20559600, 2, 10890000, 1,
     20559600, 2, 10890000, 1, 20559600, 2, 10890000, 1, 20559600, 2, 10890000, 1, 20559600, 2,
     10890000, 1, 20559600, 2, 11494800, 1, 20559600, 2, 10890000, 1, 20559600, 2, 10890000, 1,
     20559600, 2, 10890000, 1, 20559600, 2, 10890000, 1, 20559600, 2, 11494800, 1, 20559600, 2,
     10890000, 1, 20559600, 2, 10890000, 1, 20559600, 2, 10890000, 1, 20559600, 2, 10890000, 1,
     20559600, 2, 10890000, 1, 20559600, 2, 11494800, 1, 20559600, 2, 10890000, 1, 20559600, 2,
     10890000, 1, 20559600, 2, 10890000, 1, 20559600, 2, 10890000, 1, 20559600, 2, 11494800, 1,
     20559600, 2, 10890000, 1, 20559600, 2, 10890000, 1, 20559600, 2, 10890000, 1, 20559600, 2,
     10890000, 1, 20559600, 2, 10890000, 1, 20559600, 2]⟩,
  ⟨"America/Recife", "<-03>3",
    [3, 16751, 0, 14399, 1, 21599, 0, 40, 3534434447, 2, 560259624, 1, 15595200, 2, 15987600, 1,
     15548400, 2, 526006800, 1, 11750400, 2, 19785600, 1, 10450800, 2, 21085200, 1, 10537200, 2,
     21085200, 1, 7772400, 2, 339987600, 1, 7167600, 2, 29034000, 1, 5094000, 2, 21171600, 1,
     7772400, 2, 21171600, 1, 10364400, 2, 21171600, 1, 10450800, 2, 557715600, 1, 11487600, 2,
     19357200, 1, 9673200, 2, 21862800, 1, 9068400, 2, 21776400, 1, 9068400, 2, 22381200, 1,
     10278000, 2, 304218000, 1, 12697200, 2, 19357200, 1, 601200, 2, 31453200, 1, 10882800, 2,
     1133572447, 2]⟩,
  ⟨"America/Regina", "CST6",
    [6, 50231, 0, 43199, 1, 50399, 0, 43199, 1, 43199, 1, 43199, 0, 53, 4060404167, 2, 398138484, 1,
     16930800, 2, 363481200, 1, 13302000, 2, 18147600, 1, 13302000, 2, 18147600, 1, 13302000, 2,
     18752400, 1, 12697200, 2, 18752400, 1, 13302000, 2, 79232400, 1, 15721200, 2, 15728400, 1,
     15116400, 2, 16333200, 1, 15721200, 2, 16333200, 1, 15721200, 2, 15728400, 1, 15721200, 2,
     10378800, 3, 110815200, 4, 4006800, 2, 16938000, 1, 15721200, 2, 16938000, 1, 13302000, 2,
     18147600, 1, 13302000, 2, 18147600, 1, 13302000, 2, 18752400, 1, 12697200, 2, 18752400, 1,
     13302000, 2, 18147600, 1, 13302000, 2, 18147600, 1, 13302000, 2, 18147600, 1, 13302000, 2,
     18147600, 1, 13302000, 2, 18752400, 1, 13302000, 2, 18147600, 1, 13302000, 2, 49597200, 1,
     15721200, 2, 15728400, 5]⟩,
  ⟨"America/Resolute", "CST6CDT,M3.2.0,M11.1.0",
    [5, 0, 0, 35999, 1, 43199, 0, 35999, 0, 43199, 0, 133, 1409875199, 2, 778406400, 1, 15721200, 2,
     15728400, 1, 15721200, 2, 15728400, 1, 15721200, 2, 15728400, 1, 15721200, 2, 15728400, 1,
     16326000, 2, 15123600, 1, 16326000, 2, 15728400, 1, 15721200, 2, 15728400, 1, 15721200, 2,
     15728400, 1, 15721200, 2, 15728400, 1, 15721200, 2, 15728400, 1, 16326000, 2, 15123600, 1,
     16326000, 2, 15728400, 1, 15721200, 2, 15728400, 1, 15721200, 2, 15728400, 1, 15721200, 2,
     13914000, 1, 17535600, 2, 13914000, 1, 18140400, 2, 13309200, 1, 18140400, 2, 13309200, 1,
     18140400, 2, 13914000, 1, 17535600, 2, 13914000, 1, 17535600, 2, 13914000, 1, 18140400, 2,
     13309200, 1, 18140400, 2, 13309200, 1, 18140400, 2, 13914000, 1, 17535600, 2, 13914000, 1,
     17535600, 2, 13914000, 1, 17535600, 2, 13914000, 1, 18140400, 2, 13309200, 1, 18140400, 3,
     13309200, 1, 18140400, 2, 13914000, 1, 17535600, 2, 13914000, 1, 17535600, 2, 13914000, 1,
     18140400, 2, 13309200, 1, 18140400, 2, 13309200, 1, 18140400, 3, 11494800, 1, 20559600, 2,
     10890000, 1, 20559600, 2, 10890000, 1, 20559600, 2, 11494800, 1, 20559600, 2, 10890000, 1,
     20559600, 2, 10890000, 1, 20559600, 2, 10890000, 1, 20559600, 2, 10890000, 1, 20559600, 2,
     10890000, 1, 20559600, 2, 11494800, 1, 20559600, 2, 10890000, 1, 20559600, 2, 10890000, 1,
     20559600, 2, 10890000, 1, 20559600, 2, 10890000, 1, 20559600, 2, 11494800, 1, 20559600, 2,
     10890000, 1, 20559600, 2, 10890000, 1, 20559600, 2, 10890000, 1, 20559600, 2, 10890000, 1,
     20559600, 2, 10890000, 1, 20559600, 2, 11494800, 1, 20559600, 2, 10890000, 1, 20559600, 2,
     10890000, 1, 20559600, 2, 10890000, 1, 20559600, 2, 10890000, 1, 20559600, 2, 11494800, 1,
     20559600, 2, 10890000, 1, 20559600, 2, 10890000, 1, 20559600, 2, 10890000, 1, 20559600, 2,
     10890000, 1, 20559600, 2, 10890000, 1, 20559600, 2]⟩,
  ⟨"America/Rio_Branco", "<-05>5",
    [5, 32543, 0, 28799, 1, 35999, 0, 28799, 0, 35999, 0, 32, 3534418655, 2, 560258928, 1, 15595200,
     2, 15987600, 1, 15548400, 2, 526006800, 1, 11750400, 2, 19785600, 1, 10450800, 2, 21085200, 1,
     10537200, 2, 21085200, 1, 7772400, 2, 339987600, 1, 7167600, 2, 29034000, 1, 5094000, 2,
     21171600, 1, 7772400, 2, 21171600, 1, 10364400, 2, 21171600, 1, 10450800, 2, 557715600, 1,
     11487600, 2, 19357200, 1, 9673200, 2, 21862800, 1, 9068400, 2, 643078800, 3, 169772400, 2,
     763427647, 2]⟩,
  ⟨"America/Santarem", "<-03>3",
    [4, 26255, 0, 21599, 1, 28799, 0, 21599, 0, 31, 3534424943, 2, 560258472, 1, 15595200, 2,
     15987600, 1, 15548400, 2, 526006800, 1, 11750400, 2, 19785600, 1, 10450800, 2, 21085200, 1,
     10537200, 2, 21085200, 1, 7772400, 2, 339987600, 1, 7167600, 2, 29034000, 1, 5094000, 2,
     21171600, 1, 7772400, 2, 21171600, 1, 10364400, 2, 21171600, 1, 10450800, 2, 557715600, 1,
     11487600, 2, 19357200, 1, 9673200, 2, 21862800, 1, 9068400, 2, 643078800, 3, 933203647, 3]⟩,
  ⟨"America/Santiago", "<-04>4<-03>,M9.1.6/24,M4.1.6/24",
    [8, 33929, 0, 33929, 0, 35999, 0, 28799, 0, 28799, 1, 21599, 1, 21599, 1, 28799, 0, 160,
     5049009269, 1, 631843200, 2, 204250635, 1, 69205365, 3, 25399035, 1, 257820165, 4, 18400635, 2,
     13222800, 4, 18313200, 2, 13222800, 4, 18313200, 2, 13222800, 4, 18313200, 2, 13222800, 4,
     18399600, 2, 13222800, 3, 307580400, 2, 5274000, 3, 124758000, 5, 3884400, 4, 18579600, 2,
     4406400, 3, 677030400, 6, 12697200, 7, 20566800, 6, 10882800, 7, 16938000, 6, 13302000, 7,
     18147600, 6, 13302000, 7, 18752400, 6, 12697200, 7, 17542800, 6, 13906800, 7, 18752400, 6,
     12697200, 7, 18752400, 6, 13302000, 7, 18147600, 6, 13302000, 7, 18147600, 6, 13302000, 7,
     18752400, 6, 12697200, 7, 18752400, 6, 12697200, 7, 18752400, 6, 13302000, 7, 18147600, 6,
     13302000, 7, 18147600, 6, 13302000, 7, 18147600, 6, 13302000, 7, 18752400, 6, 12697200, 7,
     18752400, 6, 12697200, 7, 18752400, 6, 15721200, 7, 15728400, 6, 13302000, 7, 18147600, 6,
     13302000, 7, 18752400, 6, 12697200, 7, 16333200, 6, 15116400, 7, 18752400, 6, 13302000, 7,
     18147600, 6, 13302000, 7, 18147600, 6, 13302000, 7, 18147600, 6, 13302000, 7, 18752400, 6,
     12697200, 7, 18752400, 6, 14511600, 7, 16938000, 6, 13302000, 7, 16938000, 6, 16326000, 7,
     16333200, 6, 13302000, 7, 18752400, 6, 12697200, 7, 18752400, 6, 12697200, 7, 18752400, 6,
     12697200, 7, 18752400, 6, 13302000, 7, 18147600, 6, 13302000, 7, 18147600, 6, 13302000, 7,
     18752400, 6, 12697200, 7, 18752400, 6, 14511600, 7, 16938000, 6, 13302000, 7, 18147600, 6,
     15116400, 7, 16333200, 6, 18140400, 7, 9075600, 6, 21769200, 7, 10890000, 6, 20559600, 7,
     11494800, 6, 19954800, 7, 11494800, 6, 53218800, 7, 7866000, 6, 23583600, 7, 7866000, 6,
     23583600, 7, 7866000, 6, 20559600, 7, 13309200, 6, 18140400, 7, 13309200, 6, 18140400, 7,
     13309200, 6, 18140400, 7, 13914000, 6, 17535600, 7, 13309200, 6, 18745200, 7, 13309200, 6,
     18140400, 7, 13309200, 6, 18140400, 7, 13309200, 6, 18140400, 7, 13309200, 6, 18140400, 7,
     13309200, 6, 18745200, 7, 12704400, 6, 18745200, 7, 13309200, 6, 18140400, 7, 13309200, 6,
     18140400, 7, 13309200, 6, 18140400, 7, 13309200, 6, 18140400, 7, 13309200, 6, 18745200, 7,
     12704400, 6, 18745200, 7, 13309200, 6, 18140400, 7, 13309200, 6, 11661247, 6]⟩,
  ⟨"America/Santo_Domingo", "AST4",
    [6, 33551, 0, 33599, 0, 28799, 1, 35999, 0, 32399, 1, 28799, 0, 17, 5049009647, 1, 1364731224,
     3, 1059654000, 2, 10450800, 3, 83898000, 4, 10193400, 3, 21256200, 4, 7515000, 3, 24539400, 4,
     7083000, 3, 24366600, 4, 7255800, 3, 24193800, 4, 7342200, 3, 24107400, 5, 820717200, 3,
     3024000, 5]⟩,
  ⟨"America/Sao_Paulo", "<-03>3",
    [3, 22375, 0, 14399, 1, 21599, 0, 92, 3534428823, 2, 560256812, 1, 15595200, 2, 15987600, 1,
     15548400, 2, 526006800, 1, 11750400, 2, 19785600, 1, 10450800, 2, 21085200, 1, 10537200, 2,
     21085200, 1, 7772400, 2, 335926800, 1, 11228400, 2, 29034000, 1, 5094000, 2, 21171600, 1,
     7772400, 2, 21171600, 1, 10364400, 2, 21171600, 1, 10450800, 2, 557715600, 1, 11487600, 2,
     19357200, 1, 9673200, 2, 21862800, 1, 9068400, 2, 21776400, 1, 9068400, 2, 22381200, 1,
     10278000, 2, 21776400, 1, 10278000, 2, 21171600, 1, 9673200, 2, 22381200, 1, 8463600, 2,
     22381200, 1, 10882800, 2, 20566800, 1, 10882800, 2, 20566800, 1, 10278000, 2, 20566800, 1,
     11487600, 2, 20048400, 1, 12610800, 2, 19357200, 1, 11487600, 2, 19357200, 1, 12697200, 2,
     19357200, 1, 11487600, 2, 20566800, 1, 10882800, 2, 22381200, 1, 9068400, 2, 21171600, 1,
     10278000, 2, 22554000, 1, 9500400, 2, 20566800, 1, 10882800, 2, 22381200, 1, 9673200, 2,
     19962000, 1, 10882800, 2, 21171600, 1, 10278000, 2, 21171600, 1, 10882800, 2, 20566800, 1,
     10882800, 2, 20566800, 1, 11487600, 2, 20566800, 1, 10278000, 2, 21171600, 1, 10278000, 2,
     21171600, 1, 10882800, 2, 20566800, 1, 10882800, 2, 20566800, 1, 10882800, 2, 20566800, 1,
     10882800, 2, 22381200, 1, 9068400, 2, 597114847, 2]⟩,
  ⟨"America/Scoresbysund", "<-02>2<-01>,M3.5.0/-1,M10.5.0/0",
    [9, 10543, 0, 14399, 0, 7199, 1, 14399, 0, 7199, 0, 0, 1, 0, 1, 7199, 1, 14399, 0, 118,
     3372181455, 1, 2009932328, 2, 15120000, 3, 15717600, 6, 15721200, 4, 15724800, 5, 15724800, 4,
     15724800, 5, 15724800, 4, 15724800, 5, 16329600, 4, 15724800, 5, 15724800, 4, 15724800, 5,
     15724800, 4, 15724800, 5, 15724800, 4, 15724800, 5, 15724800, 4, 15724800, 5, 15724800, 4,
     15724800, 5, 16329600, 4, 15724800, 5, 15724800, 4, 15724800, 5, 15724800, 4, 15724800, 5,
     15724800, 4, 15724800, 5, 15724800, 4, 15724800, 5, 15724800, 4, 16329600, 5, 18144000, 4,
     13305600, 5, 18144000, 4, 13305600, 5, 18144000, 4, 13305600, 5, 18748800, 4, 12700800, 5,
     18748800, 4, 12700800, 5, 18748800, 4, 13305600, 5, 18144000, 4, 13305600, 5, 18144000, 4,
     13305600, 5, 18748800, 4, 12700800, 5, 18748800, 4, 12700800, 5, 18748800, 4, 12700800, 5,
     18748800, 4, 13305600, 5, 18144000, 4, 13305600, 5, 18144000, 4, 13305600, 5, 18748800, 4,
     12700800, 5, 18748800, 4, 12700800, 5, 18748800, 4, 13305600, 5, 18144000, 4, 13305600, 5,
     18144000, 4, 13305600, 5, 18144000, 4, 13305600, 5, 18748800, 4, 12700800, 5, 18748800, 4,
     12700800, 5, 18748800, 4, 13305600, 5, 18144000, 4, 13305600, 5, 18144000, 4, 13305600, 5,
     18748800, 4, 12700800, 5, 18748800, 4, 12700800, 5, 18748800, 4, 13305600, 7, 18144000, 8,
     13305600, 7, 18144000, 8, 13305600, 7, 18144000, 8, 13305600, 7, 18748800, 8, 12700800, 7,
     18748800, 8, 12700800, 7, 18748800, 8, 13305600, 7, 18144000, 8, 13305600, 7, 18144000, 8,
     13305600, 7, 18748800, 8, 12700800, 7, 18748800, 8, 12700800, 7, 18748800, 8, 12700800, 7,
     18748800, 8, 13305600, 7, 18144000, 8, 13305600, 7, 18144000, 8, 7438447, 8]⟩,
  ⟨"America/Sitka", "AKST9AKDT,M3.2.0,M11.1.0",
    [9, 107854, 0, 64945, 0, 57599, 0, 50399, 1, 50399, 1, 50399, 1, 64799, 0, 57599, 1, 64799, 0,
     144, 6450447453, 1, 1036269000, 2, 1308747527, 3, 110811600, 4, 4010400, 2, 743907600, 5,
     15721200, 2, 15728400, 5, 15721200, 2, 15728400, 5, 16326000, 2, 15728400, 5, 15721200, 2,
     15728400, 5, 15721200, 2, 6051600, 5, 25398000, 2, 10285200, 5, 21164400, 2, 15728400, 5,
     16326000, 2, 15123600, 5, 16326000, 2, 15728400, 5, 15721200, 2, 15728400, 5, 15721200, 2,
     15728400, 5, 15721200, 2, 15728400, 5, 15721200, 2, 15728400, 5, 16326000, 2, 15123600, 5,
     16326000, 6, 2678400, 8, 13053600, 7, 15721200, 8, 15728400, 7, 15721200, 8, 15728400, 7,
     15721200, 8, 13914000, 7, 17535600, 8, 13914000, 7, 18140400, 8, 13309200, 7, 18140400, 8,
     13309200, 7, 18140400, 8, 13914000, 7, 17535600, 8, 13914000, 7, 17535600, 8, 13914000, 7,
     18140400, 8, 13309200, 7, 18140400, 8, 13309200, 7, 18140400, 8, 13914000, 7, 17535600, 8,
     13914000, 7, 17535600, 8, 13914000, 7, 17535600, 8, 13914000, 7, 18140400, 8, 13309200, 7,
     18140400, 8, 13309200, 7, 18140400, 8, 13914000, 7, 17535600, 8, 13914000, 7, 17535600, 8,
     13914000, 7, 18140400, 8, 13309200, 7, 18140400, 8, 13309200, 7, 18140400, 8, 11494800, 7,
     20559600, 8, 10890000, 7, 20559600, 8, 10890000, 7, 20559600, 8, 11494800, 7, 20559600, 8,
     10890000, 7, 20559600, 8, 10890000, 7, 20559600, 8, 10890000, 7, 20559600, 8, 10890000, 7,
     20559600, 8, 10890000, 7, 20559600, 8, 11494800, 7, 20559600, 8, 10890000, 7, 20559600, 8,
     10890000, 7, 20559600, 8, 10890000, 7, 20559600, 8, 10890000, 7, 20559600, 8, 11494800, 7,
     20559600, 8, 10890000, 7, 20559600, 8, 10890000, 7, 20559600, 8, 10890000, 7, 20559600, 8,
     10890000, 7, 20559600, 8, 10890000, 7, 20559600, 8, 11494800, 7, 20559600, 8, 10890000, 7,
     20559600, 8, 10890000, 7, 20559600, 8, 10890000, 7, 20559600, 8, 10890000, 7, 20559600, 8,
     11494800, 7, 20559600, 8, 10890000, 7, 20559600, 8, 10890000, 7, 20559600, 8, 10890000, 7,
     20559600, 8, 10890000, 7, 20559600, 8, 10890000, 7, 20559600, 8]⟩,
  ⟨"America/St_Johns", "NST3:30NDT,M3.2.0,M11.1.0",
    [9, 25303, 0, 18103, 1, 25303, 0, 17999, 1, 25199, 0, 17999, 1, 17999, 1, 10799, 1, 17999, 1,
     239, 5427795495, 2, 1049767200, 1, 13993200, 2, 18061200, 1, 16930800, 2, 16495200, 1, 8550000,
     2, 22813200, 1, 15721200, 2, 15728400, 1, 15721200, 2, 16333200, 1, 15116400, 2, 16333200, 1,
     15116400, 2, 16333200, 1, 15116400, 2, 16333200, 1, 15116400, 2, 16333200, 1, 15721200, 2,
     15728400, 1, 15721200, 2, 16333200, 1, 15116400, 2, 16333200, 1, 15116400, 2, 16333200, 1,
     15116400, 2, 16333200, 1, 15116400, 2, 16333200, 1, 15721200, 2, 16333200, 1, 15116400, 2,
     16333200, 1, 15116400, 2, 13140000, 4, 3193148, 3, 15116400, 4, 16941600, 3, 12697200, 4,
     18752400, 3, 12697200, 4, 18752400, 3, 12697200, 4, 19357200, 3, 12092400, 4, 19357200, 3,
     12697200, 4, 18752400, 3, 12697200, 4, 18752400, 6, 102972600, 5, 3994200, 4, 19357200, 3,
     12697200, 4, 18752400, 3, 12697200, 4, 18752400, 3, 12697200, 4, 18752400, 3, 12697200, 4,
     19357200, 3, 12697200, 4, 17542800, 3, 13302000, 4, 18147600, 3, 13302000, 4, 18147600, 3,
     13302000, 4, 18147600, 3, 13302000, 4, 18147600, 3, 13302000, 4, 18752400, 3, 13302000, 4,
     18147600, 3, 13302000, 4, 18147600, 3, 13302000, 4, 18147600, 3, 13302000, 4, 18147600, 3,
     16326000, 4, 15728400, 3, 15721200, 4, 15728400, 3, 15721200, 4, 15728400, 3, 15721200, 4,
     15728400, 3, 15721200, 4, 15728400, 3, 16326000, 4, 15123600, 3, 16326000, 4, 15728400, 3,
     15721200, 4, 15728400, 3, 15721200, 4, 15728400, 3, 15721200, 4, 15728400, 3, 15721200, 4,
     15728400, 3, 16326000, 4, 15728400, 3, 15721200, 4, 15728400, 3, 15721200, 4, 15728400, 3,
     15721200, 4, 15728400, 3, 15721200, 4, 15728400, 3, 16326000, 4, 15123600, 3, 16326000, 4,
     15728400, 3, 15721200, 4, 15728400, 3, 15721200, 4, 15728400, 3, 15721200, 4, 15728400, 3,
     15721200, 4, 15728400, 3, 16326000, 4, 15123600, 3, 16326000, 4, 15728400, 3, 15721200, 4,
     15728400, 3, 15721200, 4, 15728400, 3, 15721200, 4, 13906860, 3, 17535600, 4, 13914000, 7,
     18136800, 4, 13312800, 3, 18140400, 4, 13309200, 3, 18140400, 4, 13914000, 3, 17535600, 4,
     13914000, 3, 17535600, 4, 13914000, 3, 18140400, 4, 13309200, 3, 18140400, 4, 13309200, 3,
     18140400, 4, 13914000, 3, 17535600, 4, 13914000, 3, 17535600, 4, 13914000, 3, 17535600, 4,
     13914000, 3, 18140400, 4, 13309200, 3, 18140400, 4, 13309200, 3, 18140400, 4, 13914000, 3,
     17535600, 4, 13914000, 3, 17535600, 4, 13914000, 3, 18140400, 4, 13309200, 3, 18140400, 4,
     13309200, 3, 18140400, 4, 11494800, 3, 20559600, 4, 10890000, 3, 20559600, 4, 10890000, 3,
     20559600, 4, 11494800, 3, 20559600, 4, 10890000, 3, 20566740, 4, 10890000, 3, 20559600, 4,
     10890000, 3, 20559600, 4, 10890000, 3, 20559600, 4, 10890000, 3, 20559600, 4, 11494800, 3,
     20559600, 4, 10890000, 3, 20559600, 4, 10890000, 3, 20559600, 4, 10890000, 3, 20559600, 4,
     10890000, 3, 20559600, 4, 11494800, 3, 20559600, 4, 10890000, 3, 20559600, 4, 10890000, 3,
     20559600, 4, 10890000, 3, 20559600, 4, 10890000, 3, 20559600, 4, 10890000, 3, 20559600, 4,
     11494800, 3, 20559600, 4, 10890000, 3, 20559600, 4, 10890000, 3, 20559600, 4, 10890000, 3,
     20559600, 4, 10890000, 3, 20559600, 4, 11494800, 3, 20559600, 4, 10890000, 3, 20559600, 4,
     10890000, 3, 20559600, 4, 10890000, 3, 20559600, 4, 10890000, 3, 20559600, 4, 10890000, 3,
     20559600, 4]⟩,
  ⟨"America/St_Kitts", "AST4",
    [2, 30103, 0, 28799, 0, 1, 3650197095, 1]⟩,
  ⟨"America/St_Lucia", "AST4",
    [3, 29279, 0, 29279, 0, 28799, 0, 2, 5049013919, 1, 694137600, 2]⟩,
  ⟨"America/St_Thomas", "AST4",
    [2, 31167, 0, 28799, 0, 1, 3692532031, 1]⟩,
  ⟨"America/St_Vincent", "AST4",
    [3, 29391, 0, 29391, 0, 28799, 0, 2, 5049013807, 1, 694137600, 2]⟩,
  ⟨"America/Swift_Current", "CST6",
    [6, 51759, 0, 43199, 1, 50399, 0, 43199, 1, 43199, 1, 43199, 0, 23, 4060402639, 2, 398137720, 1,
     16930800, 2, 734922000, 3, 110815200, 4, 4006800, 2, 18147600, 1, 14511600, 2, 16938000, 1,
     13302000, 2, 18147600, 1, 13302000, 2, 18147600, 1, 13302000, 2, 239504400, 1, 15721200, 2,
     47178000, 1, 15721200, 2, 15728400, 1, 13302000, 2, 18752400, 1, 12697200, 2, 334458000, 5]⟩,
  ⟨"America/Tegucigalpa", "CST6",
    [3, 41863, 0, 35999, 1, 43199, 0, 7, 3077007735, 2, 2085523868, 1, 12697200, 2, 18752400, 1,
     12697200, 2, 555814800, 1, 7945200, 2]⟩,
  ⟨"America/Thule", "AST4ADT,M3.2.0,M11.1.0",
    [3, 33015, 0, 21599, 1, 28799, 0, 95, 3372158983, 2, 2356478692, 1, 15721200, 2, 15728400, 1,
     15721200, 2, 16333200, 1, 18140400, 2, 13309200, 1, 18140400, 2, 13309200, 1, 18140400, 2,
     13914000, 1, 17535600, 2, 13914000, 1, 17535600, 2, 13914000, 1, 17535600, 2, 13914000, 1,
     18140400, 2, 13309200, 1, 18140400, 2, 13309200, 1, 18140400, 2, 13914000, 1, 17535600, 2,
     13914000, 1, 17535600, 2, 13914000, 1, 18140400, 2, 13309200, 1, 18140400, 2, 13309200, 1,
     18140400, 2, 11494800, 1, 20559600, 2, 10890000, 1, 20559600, 2, 10890000, 1, 20559600, 2,
     11494800, 1, 20559600, 2, 10890000, 1, 20559600, 2, 10890000, 1, 20559600, 2, 10890000, 1,
     20559600, 2, 10890000, 1, 20559600, 2, 10890000, 1, 20559600, 2, 11494800, 1, 20559600, 2,
     10890000, 1, 20559600, 2, 10890000, 1, 20559600, 2, 10890000, 1, 20559600, 2, 10890000, 1,
     20559600, 2, 11494800, 1, 20559600, 2, 10890000, 1, 20559600, 2, 10890000, 1, 20559600, 2,
     10890000, 1, 20559600, 2, 10890000, 1, 20559600, 2, 10890000, 1, 20559600, 2, 11494800, 1,
     20559600, 2, 10890000, 1, 20559600, 2, 10890000, 1, 20559600, 2, 10890000, 1, 20559600, 2,
     10890000, 1, 20559600, 2, 11494800, 1, 20559600, 2, 10890000, 1, 20559600, 2, 10890000, 1,
     20559600, 2, 10890000, 1, 20559600, 2, 10890000, 1, 20559600, 2, 10890000, 1, 20559600, 2]⟩,
  ⟨"America/Tijuana", "PST8PDT,M3.2.0,M11.1.0",
    [8, 56167, 0, 50399, 0, 57599, 0, 50399, 0, 50399, 1, 50399, 1, 50399, 1, 57599, 0, 187,
     3029479199, 1, 63072000, 2, 108522000, 3, 108342000, 2, 11840400, 4, 15721200, 2, 333421200, 5,
     104425200, 6, 7977600, 2, 75344400, 4, 24534000, 2, 40784400, 4, 12610800, 2, 18759600, 4,
     13302000, 2, 18147600, 4, 13302000, 2, 18144000, 4, 13305600, 2, 18144000, 4, 13305600, 2,
     18144000, 4, 13305600, 2, 18748800, 4, 13305600, 2, 18144000, 4, 13305600, 2, 18144000, 4,
     13305600, 2, 18144000, 4, 13305600, 2, 18144000, 4, 13305600, 2, 18748800, 4, 12700800, 2,
     18748800, 4, 15724800, 2, 15724800, 4, 15724800, 2, 15724800, 4, 15724800, 2, 15724800, 4,
     16329600, 2, 15120000, 4, 16329600, 2, 15728400, 4, 15721200, 2, 15728400, 4, 15721200, 2,
     15728400, 4, 15721200, 2, 15728400, 4, 15721200, 2, 15728400, 4, 16326000, 2, 15728400, 4,
     15721200, 2, 15728400, 4, 15721200, 2, 6051600, 4, 25398000, 2, 10285200, 4, 21164400, 2,
     15728400, 4, 16326000, 2, 15123600, 4, 16326000, 2, 15728400, 4, 15721200, 2, 15728400, 4,
     15721200, 2, 15728400, 4, 15721200, 2, 15728400, 4, 15721200, 2, 15728400, 4, 16326000, 2,
     15123600, 4, 16326000, 2, 15728400, 4, 15721200, 2, 15728400, 4, 15721200, 2, 15728400, 4,
     15721200, 2, 13914000, 4, 17535600, 2, 13914000, 4, 18140400, 2, 13309200, 4, 18140400, 2,
     13309200, 4, 18140400, 2, 13914000, 4, 17535600, 2, 13914000, 4, 17535600, 2, 13914000, 4,
     18140400, 2, 13309200, 4, 18140400, 2, 13309200, 4, 18140400, 2, 13914000, 4, 17535600, 2,
     13914000, 4, 17535600, 2, 13914000, 4, 17535600, 2, 13914000, 4, 18140400, 2, 13309200, 4,
     18140400, 2, 13309200, 4, 18140400, 2, 13914000, 4, 17535600, 2, 13914000, 4, 17535600, 2,
     13914000, 4, 18140400, 2, 13309200, 4, 18140400, 2, 13309200, 4, 18140400, 2, 13309200, 4,
     18140400, 2, 13914000, 4, 17535600, 2, 13914000, 4, 17535600, 2, 12099600, 4, 20559600, 2,
     10890000, 4, 20559600, 2, 10890000, 4, 20559600, 2, 10890000, 4, 20559600, 2, 10890000, 4,
     20559600, 2, 10890000, 4, 20559600, 2, 11494800, 4, 20559600, 2, 10890000, 4, 20559600, 2,
     10890000, 4, 20559600, 2, 10890000, 4, 20559600, 2, 10890000, 4, 20559600, 2, 11494800, 4,
     20559600, 2, 10890000, 4, 20559600, 2, 10890000, 4, 20559600, 2, 10890000, 4, 20559600, 2,
     10890000, 4, 20559600, 2, 10890000, 4, 20559600, 2, 11494800, 4, 20559600, 2, 10890000, 4,
     20559600, 2, 10890000, 4, 20559600, 2, 10890000, 4, 20559600, 2, 10890000, 4, 20559600, 2,
     11494800, 4, 20559600, 2, 10890000, 4, 20559600, 2, 10890000, 4, 20559600, 2, 10890000, 4,
     20559600, 2, 10890000, 4, 20559600, 2, 10890000, 4, 20559600, 2]⟩,
  ⟨"America/Toronto", "EST5EDT,M3.2.0,M11.1.0",
    [5, 38103, 0, 28799, 1, 35999, 0, 28799, 1, 28799, 1, 233, 4733472295, 2, 734665348, 1,
     16930800, 2, 13386600, 1, 18055800, 2, 16340400, 1, 12690000, 2, 19969200, 1, 10623600, 2,
     20826000, 1, 10882800, 2, 20566800, 1, 10882800, 2, 19962000, 1, 12092400, 2, 19357200, 1,
     12092400, 2, 19357200, 1, 12092400, 2, 19357200, 1, 12697200, 2, 18752400, 1, 13302000, 2,
     18147600, 1, 13302000, 2, 18147600, 1, 13302000, 2, 18147600, 1, 13302000, 2, 18752400, 1,
     12697200, 2, 18752400, 1, 13302000, 2, 18147600, 1, 13302000, 2, 18147600, 1, 13302000, 2,
     18147600, 1, 13302000, 2, 18147600, 1, 13302000, 2, 18147600, 1, 13302000, 2, 18752400, 1,
     12697200, 2, 18752400, 1, 56332800, 3, 110822400, 4, 3999600, 2, 18147600, 1, 13302000, 2,
     18147600, 1, 13302000, 2, 18147600, 1, 13302000, 2, 18147600, 1, 18745200, 2, 13309200, 1,
     18140400, 2, 13309200, 1, 13302000, 2, 18147600, 1, 13302000, 2, 18147600, 1, 13302000, 2,
     18147600, 1, 13302000, 2, 18147600, 1, 13302000, 2, 18752400, 1, 13302000, 2, 18147600, 1,
     15721200, 2, 15728400, 1, 15721200, 2, 15728400, 1, 15721200, 2, 15728400, 1, 16326000, 2,
     15728400, 1, 15721200, 2, 15728400, 1, 15721200, 2, 15728400, 1, 15721200, 2, 15728400, 1,
     15721200, 2, 15728400, 1, 16326000, 2, 15123600, 1, 16326000, 2, 15728400, 1, 15721200, 2,
     15728400, 1, 15721200, 2, 15728400, 1, 15721200, 2, 15728400, 1, 15721200, 2, 15728400, 1,
     16326000, 2, 15728400, 1, 15721200, 2, 15728400, 1, 15721200, 2, 15728400, 1, 15721200, 2,
     15728400, 1, 15721200, 2, 15728400, 1, 16326000, 2, 15123600, 1, 16326000, 2, 15728400, 1,
     15721200, 2, 15728400, 1, 15721200, 2, 15728400, 1, 15721200, 2, 15728400, 1, 15721200, 2,
     15728400, 1, 16326000, 2, 15123600, 1, 16326000, 2, 15728400, 1, 15721200, 2, 15728400, 1,
     15721200, 2, 15728400, 1, 15721200, 2, 13914000, 1, 17535600, 2, 13914000, 1, 18140400, 2,
     13309200, 1, 18140400, 2, 13309200, 1, 18140400, 2, 13914000, 1, 17535600, 2, 13914000, 1,
     17535600, 2, 13914000, 1, 18140400, 2, 13309200, 1, 18140400, 2, 13309200, 1, 18140400, 2,
     13914000, 1, 17535600, 2, 13914000, 1, 17535600, 2, 13914000, 1, 17535600, 2, 13914000, 1,
     18140400, 2, 13309200, 1, 18140400, 2, 13309200, 1, 18140400, 2, 13914000, 1, 17535600, 2,
     13914000, 1, 17535600, 2, 13914000, 1, 18140400, 2, 13309200, 1, 18140400, 2, 13309200, 1,
     18140400, 2, 11494800, 1, 20559600, 2, 10890000, 1, 20559600, 2, 10890000, 1, 20559600, 2,
     11494800, 1, 20559600, 2, 10890000, 1, 20559600, 2, 10890000, 1, 20559600, 2, 10890000, 1,
     20559600, 2, 10890000, 1, 20559600, 2, 10890000, 1, 20559600, 2, 11494800, 1, 20559600, 2,
     10890000, 1, 20559600, 2, 10890000, 1, 20559600, 2, 10890000, 1, 20559600, 2, 10890000, 1,
     20559600, 2, 11494800, 1, 20559600, 2, 10890000, 1, 20559600, 2, 10890000, 1, 20559600, 2,
     10890000, 1, 20559600, 2, 10890000, 1, 20559600, 2, 10890000, 1, 20559600, 2, 11494800, 1,
     20559600, 2, 10890000, 1, 20559600, 2, 10890000, 1, 20559600, 2, 10890000, 1, 20559600, 2,
     10890000, 1, 20559600, 2, 11494800, 1, 20559600, 2, 10890000, 1, 20559600, 2, 10890000, 1,
     20559600, 2, 10890000, 1, 20559600, 2, 10890000, 1, 20559600, 2, 10890000, 1, 20559600, 2]⟩,
  ⟨"America/Tortola", "AST4",
    [2, 31015, 0, 28799, 0, 1, 3692532183, 1]⟩,
  ⟨"America/Vancouver", "PST8PDT,M3.2.0,M11.1.0",
    [5, 59095, 0, 50399, 1, 57599, 0, 50399, 1, 50399, 1, 190, 5427761703, 2, 1081820852, 1,
     16930800, 2, 734922000, 3, 110811600, 4, 4010400, 2, 18147600, 1, 13302000, 2, 18147600, 1,
     13302000, 2, 18147600, 1, 13302000, 2, 18147600, 1, 13302000, 2, 18752400, 1, 12697200, 2,
     18752400, 1, 13302000, 2, 18147600, 1, 13302000, 2, 18147600, 1, 13302000, 2, 18147600, 1,
     13302000, 2, 18147600, 1, 13302000, 2, 18752400, 1, 13302000, 2, 18147600, 1, 13302000, 2,
     18147600, 1, 13302000, 2, 18147600, 1, 13302000, 2, 18147600, 1, 13302000, 2, 18752400, 1,
     12697200, 2, 18752400, 1, 15721200, 2, 15728400, 1, 15721200, 2, 15728400, 1, 15721200, 2,
     15728400, 1, 16326000, 2, 15123600, 1, 16326000, 2, 15728400, 1, 15721200, 2, 15728400, 1,
     15721200, 2, 15728400, 1, 15721200, 2, 15728400, 1, 15721200, 2, 15728400, 1, 16326000, 2,
     15728400, 1, 15721200, 2, 15728400, 1, 15721200, 2, 15728400, 1, 15721200, 2, 15728400, 1,
     15721200, 2, 15728400, 1, 16326000, 2, 15123600, 1, 16326000, 2, 15728400, 1, 15721200, 2,
     15728400, 1, 15721200, 2, 15728400, 1, 15721200, 2, 15728400, 1, 15721200, 2, 15728400, 1,
     16326000, 2, 15123600, 1, 16326000, 2, 15728400, 1, 15721200, 2, 15728400, 1, 15721200, 2,
     15728400, 1, 15721200, 2, 13914000, 1, 17535600, 2, 13914000, 1, 18140400, 2, 13309200, 1,
     18140400, 2, 13309200, 1, 18140400, 2, 13914000, 1, 17535600, 2, 13914000, 1, 17535600, 2,
     13914000, 1, 18140400, 2, 13309200, 1, 18140400, 2, 13309200, 1, 18140400, 2, 13914000, 1,
     17535600, 2, 13914000, 1, 17535600, 2, 13914000, 1, 17535600, 2, 13914000, 1, 18140400, 2,
     13309200, 1, 18140400, 2, 13309200, 1, 18140400, 2, 13914000, 1, 17535600, 2, 13914000, 1,
     17535600, 2, 13914000, 1, 18140400, 2, 13309200, 1, 18140400, 2, 13309200, 1, 18140400, 2,
     11494800, 1, 20559600, 2, 10890000, 1, 20559600, 2, 10890000, 1, 20559600, 2, 11494800, 1,
     20559600, 2, 10890000, 1, 20559600, 2, 10890000, 1, 20559600, 2, 10890000, 1, 20559600, 2,
     10890000, 1, 20559600, 2, 10890000, 1, 20559600, 2, 11494800, 1, 20559600, 2, 10890000, 1,
     20559600, 2, 10890000, 1, 20559600, 2, 10890000, 1, 20559600, 2, 10890000, 1, 20559600, 2,
     11494800, 1, 20559600, 2, 10890000, 1, 20559600, 2, 10890000, 1, 20559600, 2, 10890000, 1,
     20559600, 2, 10890000, 1, 20559600, 2, 10890000, 1, 20559600, 2, 11494800, 1, 20559600, 2,
     10890000, 1, 20559600, 2, 10890000, 1, 20559600, 2, 10890000, 1, 20559600, 2, 10890000, 1,
     20559600, 2, 11494800, 1, 20559600, 2, 10890000, 1, 20559600, 2, 10890000, 1, 20559600, 2,
     10890000, 1, 20559600, 2, 10890000, 1, 20559600, 2, 10890000, 1, 20559600, 2]⟩,
  ⟨"America/Whitehorse", "MST7",
    [9, 64823, 0, 57599, 1, 64799, 0, 57599, 1, 57599, 1, 50399, 1, 57599, 0, 50399, 1, 50399, 0,
     93, 4377995975, 2, 556941588, 1, 16930800, 2, 18147600, 1, 13813200, 2, 702961200, 3,
     110808000, 4, 4014000, 2, 617497200, 5, 16329600, 2, 10281600, 6, 446950800, 7, 15721200, 6,
     15728400, 7, 15721200, 6, 15728400, 7, 16326000, 6, 15123600, 7, 16326000, 6, 15728400, 7,
     15721200, 6, 15728400, 7, 15721200, 6, 15728400, 7, 15721200, 6, 13914000, 7, 17535600, 6,
     13914000, 7, 18140400, 6, 13309200, 7, 18140400, 6, 13309200, 7, 18140400, 6, 13914000, 7,
     17535600, 6, 13914000, 7, 17535600, 6, 13914000, 7, 18140400, 6, 13309200, 7, 18140400, 6,
     13309200, 7, 18140400, 6, 13914000, 7, 17535600, 6, 13914000, 7, 17535600, 6, 13914000, 7,
     17535600, 6, 13914000, 7, 18140400, 6, 13309200, 7, 18140400, 6, 13309200, 7, 18140400, 6,
     13914000, 7, 17535600, 6, 13914000, 7, 17535600, 6, 13914000, 7, 18140400, 6, 13309200, 7,
     18140400, 6, 13309200, 7, 18140400, 6, 11494800, 7, 20559600, 6, 10890000, 7, 20559600, 6,
     10890000, 7, 20559600, 6, 11494800, 7, 20559600, 6, 10890000, 7, 20559600, 6, 10890000, 7,
     20559600, 6, 10890000, 7, 20559600, 6, 10890000, 7, 20559600, 6, 10890000, 7, 20559600, 6,
     11494800, 7, 20559600, 6, 10890000, 7, 20559600, 6, 10890000, 7, 20559600, 6, 10890000, 7,
     20559600, 6, 10890000, 7, 20552400, 8]⟩,
  ⟨"America/Winnipeg", "CST6CDT,M3.2.0,M11.1.0",
    [7, 46631, 0, 35999, 1, 43199, 0, 35999, 1, 35999, 1, 35999, 1, 43199, 0, 186, 5204516567, 2,
     907889484, 1, 12697200, 2, 49604400, 1, 16930800, 2, 585450000, 1, 11487600, 2, 137984400, 3,
     110818800, 4, 4003200, 2, 19357200, 1, 13302000, 2, 16938000, 1, 13302000, 2, 18147600, 1,
     13302000, 2, 18147600, 1, 13302000, 2, 18838800, 1, 13129200, 2, 18234000, 1, 13302000, 2,
     18147600, 1, 13302000, 2, 18147600, 1, 13302000, 2, 18147600, 1, 13302000, 2, 18147600, 1,
     13302000, 2, 18752400, 1, 13302000, 2, 18147600, 1, 13302000, 2, 18147600, 1, 13302000, 2,
     18147600, 1, 15721200, 2, 15728400, 1, 13302000, 2, 81651600, 1, 12697200, 2, 81651600, 5,
     16329600, 6, 15724800, 5, 15724800, 6, 15724800, 5, 15724800, 6, 15724800, 5, 15724800, 6,
     15724800, 5, 15724800, 6, 15724800, 5, 16329600, 6, 15724800, 5, 15724800, 6, 15724800, 5,
     15724800, 6, 15724800, 5, 15724800, 6, 15724800, 5, 15724800, 6, 15724800, 5, 16329600, 6,
     15120000, 5, 16329600, 6, 15724800, 5, 15724800, 6, 15724800, 5, 15724800, 6, 15724800, 5,
     15724800, 6, 15724800, 5, 15724800, 6, 15724800, 5, 16329600, 6, 15120000, 5, 16329600, 6,
     15724800, 5, 15724800, 6, 15724800, 5, 15724800, 6, 15724800, 5, 15724800, 6, 13910400, 5,
     17539200, 6, 13910400, 5, 18144000, 6, 13305600, 5, 18144000, 6, 13305600, 5, 18144000, 6,
     13910400, 5, 17539200, 6, 13910400, 5, 17539200, 6, 13910400, 5, 18144000, 6, 13305600, 5,
     18144000, 6, 13305600, 5, 18144000, 6, 13910400, 5, 17539200, 6, 13910400, 5, 17539200, 6,
     13910400, 5, 17539200, 6, 13910400, 5, 18144000, 6, 13305600, 5, 18144000, 6, 13305600, 5,
     18144000, 6, 13910400, 5, 17539200, 6, 13910400, 5, 17539200, 6, 13910400, 5, 18144000, 6,
     13305600, 5, 18144000, 6, 13305600, 1, 18140400, 2, 11494800, 1, 20559600, 2, 10890000, 1,
     20559600, 2, 10890000, 1, 20559600, 2, 11494800, 1, 20559600, 2, 10890000, 1, 20559600, 2,
     10890000, 1, 20559600, 2, 10890000, 1, 20559600, 2, 10890000, 1, 20559600, 2, 10890000, 1,
     20559600, 2, 11494800, 1, 20559600, 2, 10890000, 1, 20559600, 2, 10890000, 1, 20559600, 2,
     10890000, 1, 20559600, 2, 10890000, 1, 20559600, 2, 11494800, 1, 20559600, 2, 10890000, 1,
     20559600, 2, 10890000, 1, 20559600, 2, 10890000, 1, 20559600, 2, 10890000, 1, 20559600, 2,
     10890000, 1, 20559600, 2, 11494800, 1, 20559600, 2, 10890000, 1, 20559600, 2, 10890000, 1,
     20559600, 2, 10890000, 1, 20559600, 2, 10890000, 1, 20559600, 2, 11494800, 1, 20559600, 2,
     10890000, 1, 20559600, 2, 10890000, 1, 20559600, 2, 10890000, 1, 20559600, 2, 10890000, 1,
     20559600, 2, 10890000, 1, 20559600, 2]⟩,
  ⟨"America/Yakutat", "AKST9AKDT,M3.2.0,M11.1.0",
    [8, 105730, 0, 67069, 0, 64799, 0, 57599, 1, 57599, 1, 57599, 1, 57599, 1, 64799, 0, 144,
     6450447453, 1, 1036270062, 2, 1308750065, 3, 110808000, 4, 4014000, 2, 743907600, 5, 15721200,
     2, 15728400, 5, 15721200, 2, 15728400, 5, 16326000, 2, 15728400, 5, 15721200, 2, 15728400, 5,
     15721200, 2, 6051600, 5, 25398000, 2, 10285200, 5, 21164400, 2, 15728400, 5, 16326000, 2,
     15123600, 5, 16326000, 2, 15728400, 5, 15721200, 2, 15728400, 5, 15721200, 2, 15728400, 5,
     15721200, 2, 15728400, 5, 15721200, 2, 15728400, 5, 16326000, 2, 15123600, 5, 16326000, 2,
     2674800, 7, 13053600, 6, 15721200, 7, 15728400, 6, 15721200, 7, 15728400, 6, 15721200, 7,
     13914000, 6, 17535600, 7, 13914000, 6, 18140400, 7, 13309200, 6, 18140400, 7, 13309200, 6,
     18140400, 7, 13914000, 6, 17535600, 7, 13914000, 6, 17535600, 7, 13914000, 6, 18140400, 7,
     13309200, 6, 18140400, 7, 13309200, 6, 18140400, 7, 13914000, 6, 17535600, 7, 13914000, 6,
     17535600, 7, 13914000, 6, 17535600, 7, 13914000, 6, 18140400, 7, 13309200, 6, 18140400, 7,
     13309200, 6, 18140400, 7, 13914000, 6, 17535600, 7, 13914000, 6, 17535600, 7, 13914000, 6,
     18140400, 7, 13309200, 6, 18140400, 7, 13309200, 6, 18140400, 7, 11494800, 6, 20559600, 7,
     10890000, 6, 20559600, 7, 10890000, 6, 20559600, 7, 11494800, 6, 20559600, 7, 10890000, 6,
     20559600, 7, 10890000, 6, 20559600, 7, 10890000, 6, 20559600, 7, 10890000, 6, 20559600, 7,
     10890000, 6, 20559600, 7, 11494800, 6, 20559600, 7, 10890000, 6, 20559600, 7, 10890000, 6,
     20559600, 7, 10890000, 6, 20559600, 7, 10890000, 6, 20559600, 7, 11494800, 6, 20559600, 7,
     10890000, 6, 20559600, 7, 10890000, 6, 20559600, 7, 10890000, 6, 20559600, 7, 10890000, 6,
     20559600, 7, 10890000, 6, 20559600, 7, 11494800, 6, 20559600, 7, 10890000, 6, 20559600, 7,
     10890000, 6, 20559600, 7, 10890000, 6, 20559600, 7, 10890000, 6, 20559600, 7, 11494800, 6,
     20559600, 7, 10890000, 6, 20559600, 7, 10890000, 6, 20559600, 7, 10890000, 6, 20559600, 7,
     10890000, 6, 20559600, 7, 10890000, 6, 20559600, 7]⟩
]

end SalonBooking.Zone.Data
