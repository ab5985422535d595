import Standings.Calendar.Offset

/-! # Named places

The offsets of the places of the time zone database that the library knows, from 2005 to 2031, and
for Toronto also those before. Places that have kept the same clocks over this time share a table.
Names are matched exactly. -/

namespace Standings

namespace Calendar

namespace Place

/-- Clocks of America/New_York and US/Eastern. -/
def newYork : OffsetTable where
  initial := -18000
  changes :=
    [(1112511600, -14400), (1130652000, -18000), (1143961200, -14400), (1162101600, -18000),
    (1173596400, -14400), (1194156000, -18000), (1205046000, -14400), (1225605600, -18000),
    (1236495600, -14400), (1257055200, -18000), (1268550000, -14400), (1289109600, -18000),
    (1299999600, -14400), (1320559200, -18000), (1331449200, -14400), (1352008800, -18000),
    (1362898800, -14400), (1383458400, -18000), (1394348400, -14400), (1414908000, -18000),
    (1425798000, -14400), (1446357600, -18000), (1457852400, -14400), (1478412000, -18000),
    (1489302000, -14400), (1509861600, -18000), (1520751600, -14400), (1541311200, -18000),
    (1552201200, -14400), (1572760800, -18000), (1583650800, -14400), (1604210400, -18000),
    (1615705200, -14400), (1636264800, -18000), (1647154800, -14400), (1667714400, -18000),
    (1678604400, -14400), (1699164000, -18000), (1710054000, -14400), (1730613600, -18000),
    (1741503600, -14400), (1762063200, -18000), (1772953200, -14400), (1793512800, -18000),
    (1805007600, -14400), (1825567200, -18000), (1836457200, -14400), (1857016800, -18000),
    (1867906800, -14400), (1888466400, -18000), (1899356400, -14400), (1919916000, -18000)]

/-- Changes of the clocks in America/Toronto from 1895 to 1940. -/
def toronto1895To1940 : List (Int × Int) :=
  [(-2366736148, -18000), (-1632070800, -14400), (-1615140000, -18000), (-1601753400, -14400),
  (-1583697600, -18000), (-1567357200, -14400), (-1554667200, -18000), (-1534698000, -14400),
  (-1524074400, -18000), (-1503248400, -14400), (-1492365600, -18000), (-1471798800, -14400),
  (-1460916000, -18000), (-1440954000, -14400), (-1428861600, -18000), (-1409504400, -14400),
  (-1397412000, -18000), (-1378054800, -14400), (-1365962400, -18000), (-1346605200, -14400),
  (-1333908000, -18000), (-1315155600, -14400), (-1301853600, -18000), (-1283706000, -14400),
  (-1270404000, -18000), (-1252256400, -14400), (-1238954400, -18000), (-1220806800, -14400),
  (-1207504800, -18000), (-1188752400, -14400), (-1176055200, -18000), (-1157302800, -14400),
  (-1144000800, -18000), (-1125853200, -14400), (-1112551200, -18000), (-1094403600, -14400),
  (-1081101600, -18000), (-1062954000, -14400), (-1049652000, -18000), (-1031504400, -14400),
  (-1018202400, -18000), (-1000054800, -14400), (-986752800, -18000), (-968000400, -14400),
  (-955303200, -18000), (-936550800, -14400)]

/-- Changes of the clocks in America/Toronto from 1945 to 1967. -/
def toronto1945To1967 : List (Int × Int) :=
  [(-765396000, -18000), (-747248400, -14400), (-733946400, -18000), (-715798800, -14400),
  (-702496800, -18000), (-684349200, -14400), (-671047200, -18000), (-652899600, -14400),
  (-634154400, -18000), (-620845200, -14400), (-602704800, -18000), (-589395600, -14400),
  (-576093600, -18000), (-557946000, -14400), (-544644000, -18000), (-526496400, -14400),
  (-513194400, -18000), (-495046800, -14400), (-481744800, -18000), (-463597200, -14400),
  (-450295200, -18000), (-431542800, -14400), (-418240800, -18000), (-400093200, -14400),
  (-384372000, -18000), (-368643600, -14400), (-352922400, -18000), (-337194000, -14400),
  (-321472800, -18000), (-305744400, -14400), (-289418400, -18000), (-273690000, -14400),
  (-257968800, -18000), (-242240400, -14400), (-226519200, -18000), (-210790800, -14400),
  (-195069600, -18000), (-179341200, -14400), (-163620000, -18000), (-147891600, -14400),
  (-131565600, -18000), (-116442000, -14400), (-100116000, -18000), (-84387600, -14400),
  (-68666400, -18000)]

/-- Changes of the clocks in America/Toronto from 1968 to 2004. -/
def toronto1968To2004 : List (Int × Int) :=
  [(-52938000, -14400), (-37216800, -18000), (-21488400, -14400), (-5767200, -18000),
  (9961200, -14400), (25682400, -18000), (41410800, -14400), (57736800, -18000),
  (73465200, -14400), (89186400, -18000), (104914800, -14400), (120636000, -18000),
  (136364400, -14400), (152085600, -18000), (167814000, -14400), (183535200, -18000),
  (199263600, -14400), (215589600, -18000), (230713200, -14400), (247039200, -18000),
  (262767600, -14400), (278488800, -18000), (294217200, -14400), (309938400, -18000),
  (325666800, -14400), (341388000, -18000), (357116400, -14400), (372837600, -18000),
  (388566000, -14400), (404892000, -18000), (420015600, -14400), (436341600, -18000),
  (452070000, -14400), (467791200, -18000), (483519600, -14400), (499240800, -18000),
  (514969200, -14400), (530690400, -18000), (544604400, -14400), (562140000, -18000),
  (576054000, -14400), (594194400, -18000), (607503600, -14400), (625644000, -18000),
  (638953200, -14400), (657093600, -18000), (671007600, -14400), (688543200, -18000),
  (702457200, -14400), (719992800, -18000), (733906800, -14400), (752047200, -18000),
  (765356400, -14400), (783496800, -18000), (796806000, -14400), (814946400, -18000),
  (828860400, -14400), (846396000, -18000), (860310000, -14400), (877845600, -18000),
  (891759600, -14400), (909295200, -18000), (923209200, -14400), (941349600, -18000),
  (954658800, -14400), (972799200, -18000), (986108400, -14400), (1004248800, -18000),
  (1018162800, -14400), (1035698400, -18000), (1049612400, -14400), (1067148000, -18000),
  (1081062000, -14400), (1099202400, -18000)]

/-- Clocks of America/Toronto, kept from their beginning: in 1919 they skipped a midnight from half
an hour before it. Since 2005 they have been changed with those of New York. -/
def toronto : OffsetTable where
  initial := -19052
  changes :=
    toronto1895To1940 ++ toronto1945To1967 ++ toronto1968To2004 ++ newYork.changes

/-- Clocks of America/Sao_Paulo. -/
def saoPaulo : OffsetTable where
  initial := -7200
  changes :=
    [(1108864800, -10800), (1129431600, -7200), (1140314400, -10800), (1162695600, -7200),
    (1172368800, -10800), (1192330800, -7200), (1203213600, -10800), (1224385200, -7200),
    (1234663200, -10800), (1255834800, -7200), (1266717600, -10800), (1287284400, -7200),
    (1298167200, -10800), (1318734000, -7200), (1330221600, -10800), (1350788400, -7200),
    (1361066400, -10800), (1382238000, -7200), (1392516000, -10800), (1413687600, -7200),
    (1424570400, -10800), (1445137200, -7200), (1456020000, -10800), (1476586800, -7200),
    (1487469600, -10800), (1508036400, -7200), (1518919200, -10800), (1541300400, -7200),
    (1550368800, -10800)]

/-- Clocks of America/Havana. -/
def havana : OffsetTable where
  initial := -14400
  changes :=
    [(1162098000, -18000), (1173589200, -14400), (1193547600, -18000), (1205643600, -14400),
    (1224997200, -18000), (1236488400, -14400), (1256446800, -18000), (1268542800, -14400),
    (1288501200, -18000), (1300597200, -14400), (1321160400, -18000), (1333256400, -14400),
    (1352005200, -18000), (1362891600, -14400), (1383454800, -18000), (1394341200, -14400),
    (1414904400, -18000), (1425790800, -14400), (1446354000, -18000), (1457845200, -14400),
    (1478408400, -18000), (1489294800, -14400), (1509858000, -18000), (1520744400, -14400),
    (1541307600, -18000), (1552194000, -14400), (1572757200, -18000), (1583643600, -14400),
    (1604206800, -18000), (1615698000, -14400), (1636261200, -18000), (1647147600, -14400),
    (1667710800, -18000), (1678597200, -14400), (1699160400, -18000), (1710046800, -14400),
    (1730610000, -18000), (1741496400, -14400), (1762059600, -18000), (1772946000, -14400),
    (1793509200, -18000), (1805000400, -14400), (1825563600, -18000), (1836450000, -14400),
    (1857013200, -18000), (1867899600, -14400), (1888462800, -18000), (1899349200, -14400),
    (1919912400, -18000)]

/-- Clocks of America/Santiago. -/
def santiago : OffsetTable where
  initial := -10800
  changes :=
    [(1110682800, -14400), (1128830400, -10800), (1142132400, -14400), (1160884800, -10800),
    (1173582000, -14400), (1192334400, -10800), (1206846000, -14400), (1223784000, -10800),
    (1237086000, -14400), (1255233600, -10800), (1270350000, -14400), (1286683200, -10800),
    (1304823600, -14400), (1313899200, -10800), (1335668400, -14400), (1346558400, -10800),
    (1367118000, -14400), (1378612800, -10800), (1398567600, -14400), (1410062400, -10800),
    (1463281200, -14400), (1471147200, -10800), (1494730800, -14400), (1502596800, -10800),
    (1526180400, -14400), (1534046400, -10800), (1554606000, -14400), (1567915200, -10800),
    (1586055600, -14400), (1599364800, -10800), (1617505200, -14400), (1630814400, -10800),
    (1648954800, -14400), (1662868800, -10800), (1680404400, -14400), (1693713600, -10800),
    (1712458800, -14400), (1725768000, -10800), (1743908400, -14400), (1757217600, -10800),
    (1775358000, -14400), (1788667200, -10800), (1806807600, -14400), (1820116800, -10800),
    (1838257200, -14400), (1851566400, -10800), (1870311600, -14400), (1883016000, -10800),
    (1901761200, -14400), (1915070400, -10800)]

/-- Clocks of America/Asuncion. -/
def asuncion : OffsetTable where
  initial := -10800
  changes :=
    [(1110682800, -14400), (1129435200, -10800), (1142132400, -14400), (1160884800, -10800),
    (1173582000, -14400), (1192939200, -10800), (1205031600, -14400), (1224388800, -10800),
    (1236481200, -14400), (1255838400, -10800), (1270954800, -14400), (1286078400, -10800),
    (1302404400, -14400), (1317528000, -10800), (1333854000, -14400), (1349582400, -10800),
    (1364094000, -14400), (1381032000, -10800), (1395543600, -14400), (1412481600, -10800),
    (1426993200, -14400), (1443931200, -10800), (1459047600, -14400), (1475380800, -10800),
    (1490497200, -14400), (1506830400, -10800), (1521946800, -14400), (1538884800, -10800),
    (1553396400, -14400), (1570334400, -10800), (1584846000, -14400), (1601784000, -10800),
    (1616900400, -14400), (1633233600, -10800), (1648350000, -14400), (1664683200, -10800),
    (1679799600, -14400), (1696132800, -10800), (1711249200, -14400), (1728187200, -10800)]

/-- Clocks of America/St_Johns. -/
def stJohns : OffsetTable where
  initial := -12600
  changes :=
    [(1112499060, -9000), (1130639460, -12600), (1143948660, -9000), (1162089060, -12600),
    (1173583860, -9000), (1194143460, -12600), (1205033460, -9000), (1225593060, -12600),
    (1236483060, -9000), (1257042660, -12600), (1268537460, -9000), (1289097060, -12600),
    (1299987060, -9000), (1320553800, -12600), (1331443800, -9000), (1352003400, -12600),
    (1362893400, -9000), (1383453000, -12600), (1394343000, -9000), (1414902600, -12600),
    (1425792600, -9000), (1446352200, -12600), (1457847000, -9000), (1478406600, -12600),
    (1489296600, -9000), (1509856200, -12600), (1520746200, -9000), (1541305800, -12600),
    (1552195800, -9000), (1572755400, -12600), (1583645400, -9000), (1604205000, -12600),
    (1615699800, -9000), (1636259400, -12600), (1647149400, -9000), (1667709000, -12600),
    (1678599000, -9000), (1699158600, -12600), (1710048600, -9000), (1730608200, -12600),
    (1741498200, -9000), (1762057800, -12600), (1772947800, -9000), (1793507400, -12600),
    (1805002200, -9000), (1825561800, -12600), (1836451800, -9000), (1857011400, -12600),
    (1867901400, -9000), (1888461000, -12600), (1899351000, -9000), (1919910600, -12600)]

/-- Clocks of America/Caracas. -/
def caracas : OffsetTable where
  initial := -14400
  changes :=
    [(1197183600, -16200), (1462086000, -14400)]

/-- Clocks of Europe/London and Europe/Dublin. -/
def london : OffsetTable where
  initial := 0
  changes :=
    [(1111885200, 3600), (1130634000, 0), (1143334800, 3600), (1162083600, 0), (1174784400, 3600),
    (1193533200, 0), (1206838800, 3600), (1224982800, 0), (1238288400, 3600), (1256432400, 0),
    (1269738000, 3600), (1288486800, 0), (1301187600, 3600), (1319936400, 0), (1332637200, 3600),
    (1351386000, 0), (1364691600, 3600), (1382835600, 0), (1396141200, 3600), (1414285200, 0),
    (1427590800, 3600), (1445734800, 0), (1459040400, 3600), (1477789200, 0), (1490490000, 3600),
    (1509238800, 0), (1521939600, 3600), (1540688400, 0), (1553994000, 3600), (1572138000, 0),
    (1585443600, 3600), (1603587600, 0), (1616893200, 3600), (1635642000, 0), (1648342800, 3600),
    (1667091600, 0), (1679792400, 3600), (1698541200, 0), (1711846800, 3600), (1729990800, 0),
    (1743296400, 3600), (1761440400, 0), (1774746000, 3600), (1792890000, 0), (1806195600, 3600),
    (1824944400, 0), (1837645200, 3600), (1856394000, 0), (1869094800, 3600), (1887843600, 0),
    (1901149200, 3600), (1919293200, 0)]

/-- Clocks of Europe/Berlin. -/
def berlin : OffsetTable where
  initial := 3600
  changes :=
    [(1111885200, 7200), (1130634000, 3600), (1143334800, 7200), (1162083600, 3600),
    (1174784400, 7200), (1193533200, 3600), (1206838800, 7200), (1224982800, 3600),
    (1238288400, 7200), (1256432400, 3600), (1269738000, 7200), (1288486800, 3600),
    (1301187600, 7200), (1319936400, 3600), (1332637200, 7200), (1351386000, 3600),
    (1364691600, 7200), (1382835600, 3600), (1396141200, 7200), (1414285200, 3600),
    (1427590800, 7200), (1445734800, 3600), (1459040400, 7200), (1477789200, 3600),
    (1490490000, 7200), (1509238800, 3600), (1521939600, 7200), (1540688400, 3600),
    (1553994000, 7200), (1572138000, 3600), (1585443600, 7200), (1603587600, 3600),
    (1616893200, 7200), (1635642000, 3600), (1648342800, 7200), (1667091600, 3600),
    (1679792400, 7200), (1698541200, 3600), (1711846800, 7200), (1729990800, 3600),
    (1743296400, 7200), (1761440400, 3600), (1774746000, 7200), (1792890000, 3600),
    (1806195600, 7200), (1824944400, 3600), (1837645200, 7200), (1856394000, 3600),
    (1869094800, 7200), (1887843600, 3600), (1901149200, 7200), (1919293200, 3600)]

/-- Clocks of Africa/Cairo. -/
def cairo : OffsetTable where
  initial := 7200
  changes :=
    [(1114725600, 10800), (1128027600, 7200), (1146175200, 10800), (1158872400, 7200),
    (1177624800, 10800), (1189112400, 7200), (1209074400, 10800), (1219957200, 7200),
    (1240524000, 10800), (1250802000, 7200), (1272578400, 10800), (1281474000, 7200),
    (1284069600, 10800), (1285880400, 7200), (1400191200, 10800), (1403816400, 7200),
    (1406844000, 10800), (1411678800, 7200), (1682632800, 10800), (1698354000, 7200),
    (1714082400, 10800), (1730408400, 7200), (1745532000, 10800), (1761858000, 7200),
    (1776981600, 10800), (1793307600, 7200), (1809036000, 10800), (1824757200, 7200),
    (1840485600, 10800), (1856206800, 7200), (1871935200, 10800), (1887656400, 7200),
    (1903384800, 10800), (1919710800, 7200)]

/-- Clocks of Africa/Casablanca. -/
def casablanca : OffsetTable where
  initial := 0
  changes :=
    [(1212278400, 3600), (1220223600, 0), (1243814400, 3600), (1250809200, 0), (1272758400, 3600),
    (1281222000, 0), (1301788800, 3600), (1312066800, 0), (1335664800, 3600), (1342749600, 0),
    (1345428000, 3600), (1348970400, 0), (1367114400, 3600), (1373162400, 0), (1376100000, 3600),
    (1382839200, 0), (1396144800, 3600), (1403920800, 0), (1406944800, 3600), (1414288800, 0),
    (1427594400, 3600), (1434247200, 0), (1437271200, 3600), (1445738400, 0), (1459044000, 3600),
    (1465092000, 0), (1468116000, 3600), (1477792800, 0), (1490493600, 3600), (1495332000, 0),
    (1498960800, 3600), (1509242400, 0), (1521943200, 3600), (1526176800, 0), (1529200800, 3600),
    (1557021600, 0), (1560045600, 3600), (1587261600, 0), (1590890400, 3600), (1618106400, 0),
    (1621130400, 3600), (1648346400, 0), (1651975200, 3600), (1679191200, 0), (1682215200, 3600),
    (1710036000, 0), (1713060000, 3600), (1740276000, 0), (1743904800, 3600), (1771120800, 0),
    (1774144800, 3600), (1801965600, 0), (1804989600, 3600), (1832205600, 0), (1835834400, 3600),
    (1863050400, 0), (1866074400, 3600), (1893290400, 0), (1896919200, 3600), (1924135200, 0)]

/-- Clocks of Asia/Beirut. -/
def beirut : OffsetTable where
  initial := 7200
  changes :=
    [(1111874400, 10800), (1130619600, 7200), (1143324000, 10800), (1162069200, 7200),
    (1174773600, 10800), (1193518800, 7200), (1206828000, 10800), (1224968400, 7200),
    (1238277600, 10800), (1256418000, 7200), (1269727200, 10800), (1288472400, 7200),
    (1301176800, 10800), (1319922000, 7200), (1332626400, 10800), (1351371600, 7200),
    (1364680800, 10800), (1382821200, 7200), (1396130400, 10800), (1414270800, 7200),
    (1427580000, 10800), (1445720400, 7200), (1459029600, 10800), (1477774800, 7200),
    (1490479200, 10800), (1509224400, 7200), (1521928800, 10800), (1540674000, 7200),
    (1553983200, 10800), (1572123600, 7200), (1585432800, 10800), (1603573200, 7200),
    (1616882400, 10800), (1635627600, 7200), (1648332000, 10800), (1667077200, 7200),
    (1679781600, 10800), (1698526800, 7200), (1711836000, 10800), (1729976400, 7200),
    (1743285600, 10800), (1761426000, 7200), (1774735200, 10800), (1792875600, 7200),
    (1806184800, 10800), (1824930000, 7200), (1837634400, 10800), (1856379600, 7200),
    (1869084000, 10800), (1887829200, 7200), (1901138400, 10800), (1919278800, 7200)]

/-- Clocks of Asia/Amman. -/
def amman : OffsetTable where
  initial := 7200
  changes :=
    [(1112306400, 10800), (1128031200, 7200), (1143756000, 10800), (1161900000, 7200),
    (1175205600, 10800), (1193349600, 7200), (1206655200, 10800), (1225404000, 7200),
    (1238104800, 10800), (1256853600, 7200), (1269554400, 10800), (1288303200, 7200),
    (1301608800, 10800), (1319752800, 7200), (1333058400, 10800), (1387486800, 7200),
    (1395957600, 10800), (1414706400, 7200), (1427407200, 10800), (1446156000, 7200),
    (1459461600, 10800), (1477605600, 7200), (1490911200, 10800), (1509055200, 7200),
    (1522360800, 10800), (1540504800, 7200), (1553810400, 10800), (1571954400, 7200),
    (1585260000, 10800), (1604008800, 7200), (1616709600, 10800), (1635458400, 7200),
    (1645740000, 10800)]

/-- Clocks of Asia/Tehran. -/
def tehran : OffsetTable where
  initial := 12600
  changes :=
    [(1111437000, 16200), (1127331000, 12600), (1206045000, 16200), (1221939000, 12600),
    (1237667400, 16200), (1253561400, 12600), (1269203400, 16200), (1285097400, 12600),
    (1300739400, 16200), (1316633400, 12600), (1332275400, 16200), (1348169400, 12600),
    (1363897800, 16200), (1379791800, 12600), (1395433800, 16200), (1411327800, 12600),
    (1426969800, 16200), (1442863800, 12600), (1458505800, 16200), (1474399800, 12600),
    (1490128200, 16200), (1506022200, 12600), (1521664200, 16200), (1537558200, 12600),
    (1553200200, 16200), (1569094200, 12600), (1584736200, 16200), (1600630200, 12600),
    (1616358600, 16200), (1632252600, 12600), (1647894600, 16200), (1663788600, 12600)]

/-- Clocks of Asia/Pyongyang. -/
def pyongyang : OffsetTable where
  initial := 32400
  changes :=
    [(1439564400, 30600), (1525446000, 32400)]

/-- Clocks of Australia/Lord_Howe. -/
def lordHowe : OffsetTable where
  initial := 39600
  changes :=
    [(1111849200, 37800), (1130599800, 39600), (1143903600, 37800), (1162049400, 39600),
    (1174748400, 37800), (1193499000, 39600), (1207407600, 37800), (1223134200, 39600),
    (1238857200, 37800), (1254583800, 39600), (1270306800, 37800), (1286033400, 39600),
    (1301756400, 37800), (1317483000, 39600), (1333206000, 37800), (1349537400, 39600),
    (1365260400, 37800), (1380987000, 39600), (1396710000, 37800), (1412436600, 39600),
    (1428159600, 37800), (1443886200, 39600), (1459609200, 37800), (1475335800, 39600),
    (1491058800, 37800), (1506785400, 39600), (1522508400, 37800), (1538839800, 39600),
    (1554562800, 37800), (1570289400, 39600), (1586012400, 37800), (1601739000, 39600),
    (1617462000, 37800), (1633188600, 39600), (1648911600, 37800), (1664638200, 39600),
    (1680361200, 37800), (1696087800, 39600), (1712415600, 37800), (1728142200, 39600),
    (1743865200, 37800), (1759591800, 39600), (1775314800, 37800), (1791041400, 39600),
    (1806764400, 37800), (1822491000, 39600), (1838214000, 37800), (1853940600, 39600),
    (1869663600, 37800), (1885995000, 39600), (1901718000, 37800), (1917444600, 39600)]

/-- Clocks of Australia/Sydney. -/
def sydney : OffsetTable where
  initial := 39600
  changes :=
    [(1111852800, 36000), (1130601600, 39600), (1143907200, 36000), (1162051200, 39600),
    (1174752000, 36000), (1193500800, 39600), (1207411200, 36000), (1223136000, 39600),
    (1238860800, 36000), (1254585600, 39600), (1270310400, 36000), (1286035200, 39600),
    (1301760000, 36000), (1317484800, 39600), (1333209600, 36000), (1349539200, 39600),
    (1365264000, 36000), (1380988800, 39600), (1396713600, 36000), (1412438400, 39600),
    (1428163200, 36000), (1443888000, 39600), (1459612800, 36000), (1475337600, 39600),
    (1491062400, 36000), (1506787200, 39600), (1522512000, 36000), (1538841600, 39600),
    (1554566400, 36000), (1570291200, 39600), (1586016000, 36000), (1601740800, 39600),
    (1617465600, 36000), (1633190400, 39600), (1648915200, 36000), (1664640000, 39600),
    (1680364800, 36000), (1696089600, 39600), (1712419200, 36000), (1728144000, 39600),
    (1743868800, 36000), (1759593600, 39600), (1775318400, 36000), (1791043200, 39600),
    (1806768000, 36000), (1822492800, 39600), (1838217600, 36000), (1853942400, 39600),
    (1869667200, 36000), (1885996800, 39600), (1901721600, 36000), (1917446400, 39600)]

/-- Clocks of Pacific/Apia. -/
def apia : OffsetTable where
  initial := -39600
  changes :=
    [(1285498800, -36000), (1301752800, -39600), (1316872800, -36000), (1325239200, 50400),
    (1333202400, 46800), (1348927200, 50400), (1365256800, 46800), (1380376800, 50400),
    (1396706400, 46800), (1411826400, 50400), (1428156000, 46800), (1443276000, 50400),
    (1459605600, 46800), (1474725600, 50400), (1491055200, 46800), (1506175200, 50400),
    (1522504800, 46800), (1538229600, 50400), (1554559200, 46800), (1569679200, 50400),
    (1586008800, 46800), (1601128800, 50400), (1617458400, 46800)]

/-- Clocks of Pacific/Fakaofo. -/
def fakaofo : OffsetTable where
  initial := -39600
  changes :=
    [(1325242800, 46800)]

/-- Clocks of Pacific/Chatham. -/
def chatham : OffsetTable where
  initial := 49500
  changes :=
    [(1111240800, 45900), (1128175200, 49500), (1142690400, 45900), (1159624800, 49500),
    (1174140000, 45900), (1191074400, 49500), (1207404000, 45900), (1222524000, 49500),
    (1238853600, 45900), (1253973600, 49500), (1270303200, 45900), (1285423200, 49500),
    (1301752800, 45900), (1316872800, 49500), (1333202400, 45900), (1348927200, 49500),
    (1365256800, 45900), (1380376800, 49500), (1396706400, 45900), (1411826400, 49500),
    (1428156000, 45900), (1443276000, 49500), (1459605600, 45900), (1474725600, 49500),
    (1491055200, 45900), (1506175200, 49500), (1522504800, 45900), (1538229600, 49500),
    (1554559200, 45900), (1569679200, 49500), (1586008800, 45900), (1601128800, 49500),
    (1617458400, 45900), (1632578400, 49500), (1648908000, 45900), (1664028000, 49500),
    (1680357600, 45900), (1695477600, 49500), (1712412000, 45900), (1727532000, 49500),
    (1743861600, 45900), (1758981600, 49500), (1775311200, 45900), (1790431200, 49500),
    (1806760800, 45900), (1821880800, 49500), (1838210400, 45900), (1853330400, 49500),
    (1869660000, 45900), (1885384800, 49500), (1901714400, 45900), (1916834400, 49500)]

/-- Clocks of Antarctica/Troll. -/
def troll : OffsetTable where
  initial := 0
  changes :=
    [(1111885200, 7200), (1130634000, 0), (1143334800, 7200), (1162083600, 0), (1174784400, 7200),
    (1193533200, 0), (1206838800, 7200), (1224982800, 0), (1238288400, 7200), (1256432400, 0),
    (1269738000, 7200), (1288486800, 0), (1301187600, 7200), (1319936400, 0), (1332637200, 7200),
    (1351386000, 0), (1364691600, 7200), (1382835600, 0), (1396141200, 7200), (1414285200, 0),
    (1427590800, 7200), (1445734800, 0), (1459040400, 7200), (1477789200, 0), (1490490000, 7200),
    (1509238800, 0), (1521939600, 7200), (1540688400, 0), (1553994000, 7200), (1572138000, 0),
    (1585443600, 7200), (1603587600, 0), (1616893200, 7200), (1635642000, 0), (1648342800, 7200),
    (1667091600, 0), (1679792400, 7200), (1698541200, 0), (1711846800, 7200), (1729990800, 0),
    (1743296400, 7200), (1761440400, 0), (1774746000, 7200), (1792890000, 0), (1806195600, 7200),
    (1824944400, 0), (1837645200, 7200), (1856394000, 0), (1869094800, 7200), (1887843600, 0),
    (1901149200, 7200), (1919293200, 0)]

/-- Clocks of Antarctica/Casey. -/
def casey : OffsetTable where
  initial := 28800
  changes :=
    [(1255802400, 39600), (1267714800, 28800), (1319738400, 39600), (1329843600, 28800),
    (1477065600, 39600), (1520701200, 28800), (1538856000, 39600), (1552752000, 28800),
    (1570129200, 39600), (1583596800, 28800), (1601740860, 39600), (1615640400, 28800),
    (1633190460, 39600), (1647090000, 28800), (1664640060, 39600), (1678291200, 28800)]

/-- Clocks of Atlantic/Azores. -/
def azores : OffsetTable where
  initial := -3600
  changes :=
    [(1111885200, 0), (1130634000, -3600), (1143334800, 0), (1162083600, -3600), (1174784400, 0),
    (1193533200, -3600), (1206838800, 0), (1224982800, -3600), (1238288400, 0), (1256432400, -3600),
    (1269738000, 0), (1288486800, -3600), (1301187600, 0), (1319936400, -3600), (1332637200, 0),
    (1351386000, -3600), (1364691600, 0), (1382835600, -3600), (1396141200, 0), (1414285200, -3600),
    (1427590800, 0), (1445734800, -3600), (1459040400, 0), (1477789200, -3600), (1490490000, 0),
    (1509238800, -3600), (1521939600, 0), (1540688400, -3600), (1553994000, 0), (1572138000, -3600),
    (1585443600, 0), (1603587600, -3600), (1616893200, 0), (1635642000, -3600), (1648342800, 0),
    (1667091600, -3600), (1679792400, 0), (1698541200, -3600), (1711846800, 0), (1729990800, -3600),
    (1743296400, 0), (1761440400, -3600), (1774746000, 0), (1792890000, -3600), (1806195600, 0),
    (1824944400, -3600), (1837645200, 0), (1856394000, -3600), (1869094800, 0), (1887843600, -3600),
    (1901149200, 0), (1919293200, -3600)]

/-- The known places with their clocks. -/
def all : List (String × OffsetTable) :=
  [("UTC", ⟨0, []⟩),
   ("America/New_York", newYork),
   ("America/Sao_Paulo", saoPaulo),
   ("America/Havana", havana),
   ("America/Santiago", santiago),
   ("America/Asuncion", asuncion),
   ("America/St_Johns", stJohns),
   ("America/Caracas", caracas),
   ("America/Toronto", toronto),
   ("Europe/London", london),
   ("Europe/Dublin", london),
   ("Europe/Berlin", berlin),
   ("Africa/Cairo", cairo),
   ("Africa/Casablanca", casablanca),
   ("Asia/Beirut", beirut),
   ("Asia/Amman", amman),
   ("Asia/Tehran", tehran),
   ("Asia/Kathmandu", ⟨20700, []⟩),
   ("Asia/Kolkata", ⟨19800, []⟩),
   ("Asia/Pyongyang", pyongyang),
   ("Asia/Tokyo", ⟨32400, []⟩),
   ("Australia/Lord_Howe", lordHowe),
   ("Australia/Sydney", sydney),
   ("Pacific/Apia", apia),
   ("Pacific/Fakaofo", fakaofo),
   ("Pacific/Chatham", chatham),
   ("Pacific/Kiritimati", ⟨50400, []⟩),
   ("Pacific/Pago_Pago", ⟨-39600, []⟩),
   ("Antarctica/Troll", troll),
   ("Antarctica/Casey", casey),
   ("Atlantic/Azores", azores),
   ("Etc/GMT+12", ⟨-43200, []⟩),
   ("Etc/GMT-14", ⟨50400, []⟩),
   ("US/Eastern", newYork)]

/-- The clocks of a place, by its name. -/
def table? (name : String) : Option OffsetTable :=
  all.lookup name

end Place

end Calendar

end Standings
