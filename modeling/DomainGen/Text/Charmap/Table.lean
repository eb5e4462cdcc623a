/-!
# Tables of encodings with one byte a character

Each table lists the code points of the bytes from 128 on, or of all bytes where the lower half is
not that of ASCII; `Charmap.gap` stands where a byte denotes nothing.
-/

namespace DomainGen.Text

/-- An encoding with one byte a character. -/
structure Charmap where
  /-- The name it is known by. -/
  name : String
  /-- Other names. -/
  aliases : List String
  /-- The code points of the bytes from 128 on, or of all bytes. -/
  codes : List Nat
  deriving DecidableEq, Repr, Inhabited

/-- What stands for a byte that denotes nothing. -/
def Charmap.gap : Nat := 0xfffe

namespace Charmap

/-- The table `cp037`. -/
def tableCp037 : Charmap :=
  ⟨"cp037", ["037", "csibm037", "ebcdic_cp_ca", "ebcdic_cp_nl", "ebcdic_cp_us", "ebcdic_cp_wt",
    "ibm037", "ibm039"],
   [0, 1, 2, 3, 156, 9, 134, 127, 151, 141, 142, 11, 12, 13, 14, 15, 16, 17, 18, 19, 157, 133, 8,
    135, 24, 25, 146, 143, 28, 29, 30, 31, 128, 129, 130, 131, 132, 10, 23, 27, 136, 137, 138,
    139, 140, 5, 6, 7, 144, 145, 22, 147, 148, 149, 150, 4, 152, 153, 154, 155, 20, 21, 158, 26,
    32, 160, 226, 228, 224, 225, 227, 229, 231, 241, 162, 46, 60, 40, 43, 124, 38, 233, 234, 235,
    232, 237, 238, 239, 236, 223, 33, 36, 42, 41, 59, 172, 45, 47, 194, 196, 192, 193, 195, 197,
    199, 209, 166, 44, 37, 95, 62, 63, 248, 201, 202, 203, 200, 205, 206, 207, 204, 96, 58, 35,
    64, 39, 61, 34, 216, 97, 98, 99, 100, 101, 102, 103, 104, 105, 171, 187, 240, 253, 254, 177,
    176, 106, 107, 108, 109, 110, 111, 112, 113, 114, 170, 186, 230, 184, 198, 164, 181, 126, 115,
    116, 117, 118, 119, 120, 121, 122, 161, 191, 208, 221, 222, 174, 94, 163, 165, 183, 169, 167,
    182, 188, 189, 190, 91, 93, 175, 168, 180, 215, 123, 65, 66, 67, 68, 69, 70, 71, 72, 73, 173,
    244, 246, 242, 243, 245, 125, 74, 75, 76, 77, 78, 79, 80, 81, 82, 185, 251, 252, 249, 250,
    255, 92, 247, 83, 84, 85, 86, 87, 88, 89, 90, 178, 212, 214, 210, 211, 213, 48, 49, 50, 51,
    52, 53, 54, 55, 56, 57, 179, 219, 220, 217, 218, 159]⟩

/-- The table `cp1006`. -/
def tableCp1006 : Charmap :=
  ⟨"cp1006", [],
   [128, 129, 130, 131, 132, 133, 134, 135, 136, 137, 138, 139, 140, 141, 142, 143, 144, 145, 146,
    147, 148, 149, 150, 151, 152, 153, 154, 155, 156, 157, 158, 159, 160, 1776, 1777, 1778, 1779,
    1780, 1781, 1782, 1783, 1784, 1785, 1548, 1563, 173, 1567, 65153, 65165, 65166, 65166, 65167,
    65169, 64342, 64344, 65171, 65173, 65175, 64358, 64360, 65177, 65179, 65181, 65183, 64378,
    64380, 65185, 65187, 65189, 65191, 65193, 64388, 65195, 65197, 64396, 65199, 64394, 65201,
    65203, 65205, 65207, 65209, 65211, 65213, 65215, 65217, 65221, 65225, 65226, 65227, 65228,
    65229, 65230, 65231, 65232, 65233, 65235, 65237, 65239, 65241, 65243, 64402, 64404, 65245,
    65247, 65248, 65249, 65251, 64414, 65253, 65255, 65157, 65261, 64422, 64424, 64425, 64426,
    65152, 65161, 65162, 65163, 65265, 65266, 65267, 64432, 64430, 65148, 65149]⟩

/-- The table `cp1026`. -/
def tableCp1026 : Charmap :=
  ⟨"cp1026", ["1026", "csibm1026", "ibm1026"],
   [0, 1, 2, 3, 156, 9, 134, 127, 151, 141, 142, 11, 12, 13, 14, 15, 16, 17, 18, 19, 157, 133, 8,
    135, 24, 25, 146, 143, 28, 29, 30, 31, 128, 129, 130, 131, 132, 10, 23, 27, 136, 137, 138,
    139, 140, 5, 6, 7, 144, 145, 22, 147, 148, 149, 150, 4, 152, 153, 154, 155, 20, 21, 158, 26,
    32, 160, 226, 228, 224, 225, 227, 229, 123, 241, 199, 46, 60, 40, 43, 33, 38, 233, 234, 235,
    232, 237, 238, 239, 236, 223, 286, 304, 42, 41, 59, 94, 45, 47, 194, 196, 192, 193, 195, 197,
    91, 209, 351, 44, 37, 95, 62, 63, 248, 201, 202, 203, 200, 205, 206, 207, 204, 305, 58, 214,
    350, 39, 61, 220, 216, 97, 98, 99, 100, 101, 102, 103, 104, 105, 171, 187, 125, 96, 166, 177,
    176, 106, 107, 108, 109, 110, 111, 112, 113, 114, 170, 186, 230, 184, 198, 164, 181, 246, 115,
    116, 117, 118, 119, 120, 121, 122, 161, 191, 93, 36, 64, 174, 162, 163, 165, 183, 169, 167,
    182, 188, 189, 190, 172, 124, 175, 168, 180, 215, 231, 65, 66, 67, 68, 69, 70, 71, 72, 73,
    173, 244, 126, 242, 243, 245, 287, 74, 75, 76, 77, 78, 79, 80, 81, 82, 185, 251, 92, 249, 250,
    255, 252, 247, 83, 84, 85, 86, 87, 88, 89, 90, 178, 212, 35, 210, 211, 213, 48, 49, 50, 51,
    52, 53, 54, 55, 56, 57, 179, 219, 34, 217, 218, 159]⟩

/-- The table `cp1125`. -/
def tableCp1125 : Charmap :=
  ⟨"cp1125", ["1125", "cp866u", "ibm1125", "ruscii"],
   [1040, 1041, 1042, 1043, 1044, 1045, 1046, 1047, 1048, 1049, 1050, 1051, 1052, 1053, 1054,
    1055, 1056, 1057, 1058, 1059, 1060, 1061, 1062, 1063, 1064, 1065, 1066, 1067, 1068, 1069,
    1070, 1071, 1072, 1073, 1074, 1075, 1076, 1077, 1078, 1079, 1080, 1081, 1082, 1083, 1084,
    1085, 1086, 1087, 9617, 9618, 9619, 9474, 9508, 9569, 9570, 9558, 9557, 9571, 9553, 9559,
    9565, 9564, 9563, 9488, 9492, 9524, 9516, 9500, 9472, 9532, 9566, 9567, 9562, 9556, 9577,
    9574, 9568, 9552, 9580, 9575, 9576, 9572, 9573, 9561, 9560, 9554, 9555, 9579, 9578, 9496,
    9484, 9608, 9604, 9612, 9616, 9600, 1088, 1089, 1090, 1091, 1092, 1093, 1094, 1095, 1096,
    1097, 1098, 1099, 1100, 1101, 1102, 1103, 1025, 1105, 1168, 1169, 1028, 1108, 1030, 1110,
    1031, 1111, 183, 8730, 8470, 164, 9632, 160]⟩

/-- The table `cp1140`. -/
def tableCp1140 : Charmap :=
  ⟨"cp1140", ["1140", "ibm1140"],
   [0, 1, 2, 3, 156, 9, 134, 127, 151, 141, 142, 11, 12, 13, 14, 15, 16, 17, 18, 19, 157, 133, 8,
    135, 24, 25, 146, 143, 28, 29, 30, 31, 128, 129, 130, 131, 132, 10, 23, 27, 136, 137, 138,
    139, 140, 5, 6, 7, 144, 145, 22, 147, 148, 149, 150, 4, 152, 153, 154, 155, 20, 21, 158, 26,
    32, 160, 226, 228, 224, 225, 227, 229, 231, 241, 162, 46, 60, 40, 43, 124, 38, 233, 234, 235,
    232, 237, 238, 239, 236, 223, 33, 36, 42, 41, 59, 172, 45, 47, 194, 196, 192, 193, 195, 197,
    199, 209, 166, 44, 37, 95, 62, 63, 248, 201, 202, 203, 200, 205, 206, 207, 204, 96, 58, 35,
    64, 39, 61, 34, 216, 97, 98, 99, 100, 101, 102, 103, 104, 105, 171, 187, 240, 253, 254, 177,
    176, 106, 107, 108, 109, 110, 111, 112, 113, 114, 170, 186, 230, 184, 198, 8364, 181, 126,
    115, 116, 117, 118, 119, 120, 121, 122, 161, 191, 208, 221, 222, 174, 94, 163, 165, 183, 169,
    167, 182, 188, 189, 190, 91, 93, 175, 168, 180, 215, 123, 65, 66, 67, 68, 69, 70, 71, 72, 73,
    173, 244, 246, 242, 243, 245, 125, 74, 75, 76, 77, 78, 79, 80, 81, 82, 185, 251, 252, 249,
    250, 255, 92, 247, 83, 84, 85, 86, 87, 88, 89, 90, 178, 212, 214, 210, 211, 213, 48, 49, 50,
    51, 52, 53, 54, 55, 56, 57, 179, 219, 220, 217, 218, 159]⟩

/-- The table `cp1250`. -/
def tableCp1250 : Charmap :=
  ⟨"cp1250", ["1250", "windows_1250"],
   [8364, 65534, 8218, 65534, 8222, 8230, 8224, 8225, 65534, 8240, 352, 8249, 346, 356, 381, 377,
    65534, 8216, 8217, 8220, 8221, 8226, 8211, 8212, 65534, 8482, 353, 8250, 347, 357, 382, 378,
    160, 711, 728, 321, 164, 260, 166, 167, 168, 169, 350, 171, 172, 173, 174, 379, 176, 177, 731,
    322, 180, 181, 182, 183, 184, 261, 351, 187, 317, 733, 318, 380, 340, 193, 194, 258, 196, 313,
    262, 199, 268, 201, 280, 203, 282, 205, 206, 270, 272, 323, 327, 211, 212, 336, 214, 215, 344,
    366, 218, 368, 220, 221, 354, 223, 341, 225, 226, 259, 228, 314, 263, 231, 269, 233, 281, 235,
    283, 237, 238, 271, 273, 324, 328, 243, 244, 337, 246, 247, 345, 367, 250, 369, 252, 253, 355,
    729]⟩

/-- The table `cp1251`. -/
def tableCp1251 : Charmap :=
  ⟨"cp1251", ["1251", "windows_1251"],
   [1026, 1027, 8218, 1107, 8222, 8230, 8224, 8225, 8364, 8240, 1033, 8249, 1034, 1036, 1035,
    1039, 1106, 8216, 8217, 8220, 8221, 8226, 8211, 8212, 65534, 8482, 1113, 8250, 1114, 1116,
    1115, 1119, 160, 1038, 1118, 1032, 164, 1168, 166, 167, 1025, 169, 1028, 171, 172, 173, 174,
    1031, 176, 177, 1030, 1110, 1169, 181, 182, 183, 1105, 8470, 1108, 187, 1112, 1029, 1109,
    1111, 1040, 1041, 1042, 1043, 1044, 1045, 1046, 1047, 1048, 1049, 1050, 1051, 1052, 1053,
    1054, 1055, 1056, 1057, 1058, 1059, 1060, 1061, 1062, 1063, 1064, 1065, 1066, 1067, 1068,
    1069, 1070, 1071, 1072, 1073, 1074, 1075, 1076, 1077, 1078, 1079, 1080, 1081, 1082, 1083,
    1084, 1085, 1086, 1087, 1088, 1089, 1090, 1091, 1092, 1093, 1094, 1095, 1096, 1097, 1098,
    1099, 1100, 1101, 1102, 1103]⟩

/-- The table `cp1252`. -/
def tableCp1252 : Charmap :=
  ⟨"cp1252", ["1252", "windows_1252"],
   [8364, 65534, 8218, 402, 8222, 8230, 8224, 8225, 710, 8240, 352, 8249, 338, 65534, 381, 65534,
    65534, 8216, 8217, 8220, 8221, 8226, 8211, 8212, 732, 8482, 353, 8250, 339, 65534, 382, 376,
    160, 161, 162, 163, 164, 165, 166, 167, 168, 169, 170, 171, 172, 173, 174, 175, 176, 177, 178,
    179, 180, 181, 182, 183, 184, 185, 186, 187, 188, 189, 190, 191, 192, 193, 194, 195, 196, 197,
    198, 199, 200, 201, 202, 203, 204, 205, 206, 207, 208, 209, 210, 211, 212, 213, 214, 215, 216,
    217, 218, 219, 220, 221, 222, 223, 224, 225, 226, 227, 228, 229, 230, 231, 232, 233, 234, 235,
    236, 237, 238, 239, 240, 241, 242, 243, 244, 245, 246, 247, 248, 249, 250, 251, 252, 253, 254,
    255]⟩

/-- The table `cp1253`. -/
def tableCp1253 : Charmap :=
  ⟨"cp1253", ["1253", "windows_1253"],
   [8364, 65534, 8218, 402, 8222, 8230, 8224, 8225, 65534, 8240, 65534, 8249, 65534, 65534, 65534,
    65534, 65534, 8216, 8217, 8220, 8221, 8226, 8211, 8212, 65534, 8482, 65534, 8250, 65534,
    65534, 65534, 65534, 160, 901, 902, 163, 164, 165, 166, 167, 168, 169, 65534, 171, 172, 173,
    174, 8213, 176, 177, 178, 179, 900, 181, 182, 183, 904, 905, 906, 187, 908, 189, 910, 911,
    912, 913, 914, 915, 916, 917, 918, 919, 920, 921, 922, 923, 924, 925, 926, 927, 928, 929,
    65534, 931, 932, 933, 934, 935, 936, 937, 938, 939, 940, 941, 942, 943, 944, 945, 946, 947,
    948, 949, 950, 951, 952, 953, 954, 955, 956, 957, 958, 959, 960, 961, 962, 963, 964, 965, 966,
    967, 968, 969, 970, 971, 972, 973, 974, 65534]⟩

/-- The table `cp1254`. -/
def tableCp1254 : Charmap :=
  ⟨"cp1254", ["1254", "windows_1254"],
   [8364, 65534, 8218, 402, 8222, 8230, 8224, 8225, 710, 8240, 352, 8249, 338, 65534, 65534,
    65534, 65534, 8216, 8217, 8220, 8221, 8226, 8211, 8212, 732, 8482, 353, 8250, 339, 65534,
    65534, 376, 160, 161, 162, 163, 164, 165, 166, 167, 168, 169, 170, 171, 172, 173, 174, 175,
    176, 177, 178, 179, 180, 181, 182, 183, 184, 185, 186, 187, 188, 189, 190, 191, 192, 193, 194,
    195, 196, 197, 198, 199, 200, 201, 202, 203, 204, 205, 206, 207, 286, 209, 210, 211, 212, 213,
    214, 215, 216, 217, 218, 219, 220, 304, 350, 223, 224, 225, 226, 227, 228, 229, 230, 231, 232,
    233, 234, 235, 236, 237, 238, 239, 287, 241, 242, 243, 244, 245, 246, 247, 248, 249, 250, 251,
    252, 305, 351, 255]⟩

/-- The table `cp1255`. -/
def tableCp1255 : Charmap :=
  ⟨"cp1255", ["1255", "windows_1255"],
   [8364, 65534, 8218, 402, 8222, 8230, 8224, 8225, 710, 8240, 65534, 8249, 65534, 65534, 65534,
    65534, 65534, 8216, 8217, 8220, 8221, 8226, 8211, 8212, 732, 8482, 65534, 8250, 65534, 65534,
    65534, 65534, 160, 161, 162, 163, 8362, 165, 166, 167, 168, 169, 215, 171, 172, 173, 174, 175,
    176, 177, 178, 179, 180, 181, 182, 183, 184, 185, 247, 187, 188, 189, 190, 191, 1456, 1457,
    1458, 1459, 1460, 1461, 1462, 1463, 1464, 1465, 65534, 1467, 1468, 1469, 1470, 1471, 1472,
    1473, 1474, 1475, 1520, 1521, 1522, 1523, 1524, 65534, 65534, 65534, 65534, 65534, 65534,
    65534, 1488, 1489, 1490, 1491, 1492, 1493, 1494, 1495, 1496, 1497, 1498, 1499, 1500, 1501,
    1502, 1503, 1504, 1505, 1506, 1507, 1508, 1509, 1510, 1511, 1512, 1513, 1514, 65534, 65534,
    8206, 8207, 65534]⟩

/-- The table `cp1256`. -/
def tableCp1256 : Charmap :=
  ⟨"cp1256", ["1256", "windows_1256"],
   [8364, 1662, 8218, 402, 8222, 8230, 8224, 8225, 710, 8240, 1657, 8249, 338, 1670, 1688, 1672,
    1711, 8216, 8217, 8220, 8221, 8226, 8211, 8212, 1705, 8482, 1681, 8250, 339, 8204, 8205, 1722,
    160, 1548, 162, 163, 164, 165, 166, 167, 168, 169, 1726, 171, 172, 173, 174, 175, 176, 177,
    178, 179, 180, 181, 182, 183, 184, 185, 1563, 187, 188, 189, 190, 1567, 1729, 1569, 1570,
    1571, 1572, 1573, 1574, 1575, 1576, 1577, 1578, 1579, 1580, 1581, 1582, 1583, 1584, 1585,
    1586, 1587, 1588, 1589, 1590, 215, 1591, 1592, 1593, 1594, 1600, 1601, 1602, 1603, 224, 1604,
    226, 1605, 1606, 1607, 1608, 231, 232, 233, 234, 235, 1609, 1610, 238, 239, 1611, 1612, 1613,
    1614, 244, 1615, 1616, 247, 1617, 249, 1618, 251, 252, 8206, 8207, 1746]⟩

/-- The table `cp1257`. -/
def tableCp1257 : Charmap :=
  ⟨"cp1257", ["1257", "windows_1257"],
   [8364, 65534, 8218, 65534, 8222, 8230, 8224, 8225, 65534, 8240, 65534, 8249, 65534, 168, 711,
    184, 65534, 8216, 8217, 8220, 8221, 8226, 8211, 8212, 65534, 8482, 65534, 8250, 65534, 175,
    731, 65534, 160, 65534, 162, 163, 164, 65534, 166, 167, 216, 169, 342, 171, 172, 173, 174,
    198, 176, 177, 178, 179, 180, 181, 182, 183, 248, 185, 343, 187, 188, 189, 190, 230, 260, 302,
    256, 262, 196, 197, 280, 274, 268, 201, 377, 278, 290, 310, 298, 315, 352, 323, 325, 211, 332,
    213, 214, 215, 370, 321, 346, 362, 220, 379, 381, 223, 261, 303, 257, 263, 228, 229, 281, 275,
    269, 233, 378, 279, 291, 311, 299, 316, 353, 324, 326, 243, 333, 245, 246, 247, 371, 322, 347,
    363, 252, 380, 382, 729]⟩

/-- The table `cp1258`. -/
def tableCp1258 : Charmap :=
  ⟨"cp1258", ["1258", "windows_1258"],
   [8364, 65534, 8218, 402, 8222, 8230, 8224, 8225, 710, 8240, 65534, 8249, 338, 65534, 65534,
    65534, 65534, 8216, 8217, 8220, 8221, 8226, 8211, 8212, 732, 8482, 65534, 8250, 339, 65534,
    65534, 376, 160, 161, 162, 163, 164, 165, 166, 167, 168, 169, 170, 171, 172, 173, 174, 175,
    176, 177, 178, 179, 180, 181, 182, 183, 184, 185, 186, 187, 188, 189, 190, 191, 192, 193, 194,
    258, 196, 197, 198, 199, 200, 201, 202, 203, 768, 205, 206, 207, 272, 209, 777, 211, 212, 416,
    214, 215, 216, 217, 218, 219, 220, 431, 771, 223, 224, 225, 226, 259, 228, 229, 230, 231, 232,
    233, 234, 235, 769, 237, 238, 239, 273, 241, 803, 243, 244, 417, 246, 247, 248, 249, 250, 251,
    252, 432, 8363, 255]⟩

/-- The table `cp273`. -/
def tableCp273 : Charmap :=
  ⟨"cp273", ["273", "csibm273", "ibm273"],
   [0, 1, 2, 3, 156, 9, 134, 127, 151, 141, 142, 11, 12, 13, 14, 15, 16, 17, 18, 19, 157, 133, 8,
    135, 24, 25, 146, 143, 28, 29, 30, 31, 128, 129, 130, 131, 132, 10, 23, 27, 136, 137, 138,
    139, 140, 5, 6, 7, 144, 145, 22, 147, 148, 149, 150, 4, 152, 153, 154, 155, 20, 21, 158, 26,
    32, 160, 226, 123, 224, 225, 227, 229, 231, 241, 196, 46, 60, 40, 43, 33, 38, 233, 234, 235,
    232, 237, 238, 239, 236, 126, 220, 36, 42, 41, 59, 94, 45, 47, 194, 91, 192, 193, 195, 197,
    199, 209, 246, 44, 37, 95, 62, 63, 248, 201, 202, 203, 200, 205, 206, 207, 204, 96, 58, 35,
    167, 39, 61, 34, 216, 97, 98, 99, 100, 101, 102, 103, 104, 105, 171, 187, 240, 253, 254, 177,
    176, 106, 107, 108, 109, 110, 111, 112, 113, 114, 170, 186, 230, 184, 198, 164, 181, 223, 115,
    116, 117, 118, 119, 120, 121, 122, 161, 191, 208, 221, 222, 174, 162, 163, 165, 183, 169, 64,
    182, 188, 189, 190, 172, 124, 8254, 168, 180, 215, 228, 65, 66, 67, 68, 69, 70, 71, 72, 73,
    173, 244, 166, 242, 243, 245, 252, 74, 75, 76, 77, 78, 79, 80, 81, 82, 185, 251, 125, 249,
    250, 255, 214, 247, 83, 84, 85, 86, 87, 88, 89, 90, 178, 212, 92, 210, 211, 213, 48, 49, 50,
    51, 52, 53, 54, 55, 56, 57, 179, 219, 93, 217, 218, 159]⟩

/-- The table `cp424`. -/
def tableCp424 : Charmap :=
  ⟨"cp424", ["424", "csibm424", "ebcdic_cp_he", "ibm424"],
   [0, 1, 2, 3, 156, 9, 134, 127, 151, 141, 142, 11, 12, 13, 14, 15, 16, 17, 18, 19, 157, 133, 8,
    135, 24, 25, 146, 143, 28, 29, 30, 31, 128, 129, 130, 131, 132, 10, 23, 27, 136, 137, 138,
    139, 140, 5, 6, 7, 144, 145, 22, 147, 148, 149, 150, 4, 152, 153, 154, 155, 20, 21, 158, 26,
    32, 1488, 1489, 1490, 1491, 1492, 1493, 1494, 1495, 1496, 162, 46, 60, 40, 43, 124, 38, 1497,
    1498, 1499, 1500, 1501, 1502, 1503, 1504, 1505, 33, 36, 42, 41, 59, 172, 45, 47, 1506, 1507,
    1508, 1509, 1510, 1511, 1512, 1513, 166, 44, 37, 95, 62, 63, 65534, 1514, 65534, 65534, 160,
    65534, 65534, 65534, 8215, 96, 58, 35, 64, 39, 61, 34, 65534, 97, 98, 99, 100, 101, 102, 103,
    104, 105, 171, 187, 65534, 65534, 65534, 177, 176, 106, 107, 108, 109, 110, 111, 112, 113,
    114, 65534, 65534, 65534, 184, 65534, 164, 181, 126, 115, 116, 117, 118, 119, 120, 121, 122,
    65534, 65534, 65534, 65534, 65534, 174, 94, 163, 165, 183, 169, 167, 182, 188, 189, 190, 91,
    93, 175, 168, 180, 215, 123, 65, 66, 67, 68, 69, 70, 71, 72, 73, 173, 65534, 65534, 65534,
    65534, 65534, 125, 74, 75, 76, 77, 78, 79, 80, 81, 82, 185, 65534, 65534, 65534, 65534, 65534,
    92, 247, 83, 84, 85, 86, 87, 88, 89, 90, 178, 65534, 65534, 65534, 65534, 65534, 48, 49, 50,
    51, 52, 53, 54, 55, 56, 57, 179, 65534, 65534, 65534, 65534, 159]⟩

/-- The table `cp437`. -/
def tableCp437 : Charmap :=
  ⟨"cp437", ["437", "cspc8codepage437", "ibm437"],
   [199, 252, 233, 226, 228, 224, 229, 231, 234, 235, 232, 239, 238, 236, 196, 197, 201, 230, 198,
    244, 246, 242, 251, 249, 255, 214, 220, 162, 163, 165, 8359, 402, 225, 237, 243, 250, 241,
    209, 170, 186, 191, 8976, 172, 189, 188, 161, 171, 187, 9617, 9618, 9619, 9474, 9508, 9569,
    9570, 9558, 9557, 9571, 9553, 9559, 9565, 9564, 9563, 9488, 9492, 9524, 9516, 9500, 9472,
    9532, 9566, 9567, 9562, 9556, 9577, 9574, 9568, 9552, 9580, 9575, 9576, 9572, 9573, 9561,
    9560, 9554, 9555, 9579, 9578, 9496, 9484, 9608, 9604, 9612, 9616, 9600, 945, 223, 915, 960,
    931, 963, 181, 964, 934, 920, 937, 948, 8734, 966, 949, 8745, 8801, 177, 8805, 8804, 8992,
    8993, 247, 8776, 176, 8729, 183, 8730, 8319, 178, 9632, 160]⟩

/-- The table `cp500`. -/
def tableCp500 : Charmap :=
  ⟨"cp500", ["500", "csibm500", "ebcdic_cp_be", "ebcdic_cp_ch", "ibm500"],
   [0, 1, 2, 3, 156, 9, 134, 127, 151, 141, 142, 11, 12, 13, 14, 15, 16, 17, 18, 19, 157, 133, 8,
    135, 24, 25, 146, 143, 28, 29, 30, 31, 128, 129, 130, 131, 132, 10, 23, 27, 136, 137, 138,
    139, 140, 5, 6, 7, 144, 145, 22, 147, 148, 149, 150, 4, 152, 153, 154, 155, 20, 21, 158, 26,
    32, 160, 226, 228, 224, 225, 227, 229, 231, 241, 91, 46, 60, 40, 43, 33, 38, 233, 234, 235,
    232, 237, 238, 239, 236, 223, 93, 36, 42, 41, 59, 94, 45, 47, 194, 196, 192, 193, 195, 197,
    199, 209, 166, 44, 37, 95, 62, 63, 248, 201, 202, 203, 200, 205, 206, 207, 204, 96, 58, 35,
    64, 39, 61, 34, 216, 97, 98, 99, 100, 101, 102, 103, 104, 105, 171, 187, 240, 253, 254, 177,
    176, 106, 107, 108, 109, 110, 111, 112, 113, 114, 170, 186, 230, 184, 198, 164, 181, 126, 115,
    116, 117, 118, 119, 120, 121, 122, 161, 191, 208, 221, 222, 174, 162, 163, 165, 183, 169, 167,
    182, 188, 189, 190, 172, 124, 175, 168, 180, 215, 123, 65, 66, 67, 68, 69, 70, 71, 72, 73,
    173, 244, 246, 242, 243, 245, 125, 74, 75, 76, 77, 78, 79, 80, 81, 82, 185, 251, 252, 249,
    250, 255, 92, 247, 83, 84, 85, 86, 87, 88, 89, 90, 178, 212, 214, 210, 211, 213, 48, 49, 50,
    51, 52, 53, 54, 55, 56, 57, 179, 219, 220, 217, 218, 159]⟩

/-- The table `cp720`. -/
def tableCp720 : Charmap :=
  ⟨"cp720", [],
   [128, 129, 233, 226, 132, 224, 134, 231, 234, 235, 232, 239, 238, 141, 142, 143, 144, 1617,
    1618, 244, 164, 1600, 251, 249, 1569, 1570, 1571, 1572, 163, 1573, 1574, 1575, 1576, 1577,
    1578, 1579, 1580, 1581, 1582, 1583, 1584, 1585, 1586, 1587, 1588, 1589, 171, 187, 9617, 9618,
    9619, 9474, 9508, 9569, 9570, 9558, 9557, 9571, 9553, 9559, 9565, 9564, 9563, 9488, 9492,
    9524, 9516, 9500, 9472, 9532, 9566, 9567, 9562, 9556, 9577, 9574, 9568, 9552, 9580, 9575,
    9576, 9572, 9573, 9561, 9560, 9554, 9555, 9579, 9578, 9496, 9484, 9608, 9604, 9612, 9616,
    9600, 1590, 1591, 1592, 1593, 1594, 1601, 181, 1602, 1603, 1604, 1605, 1606, 1607, 1608, 1609,
    1610, 8801, 1611, 1612, 1613, 1614, 1615, 1616, 8776, 176, 8729, 183, 8730, 8319, 178, 9632,
    160]⟩

/-- The table `cp737`. -/
def tableCp737 : Charmap :=
  ⟨"cp737", [],
   [913, 914, 915, 916, 917, 918, 919, 920, 921, 922, 923, 924, 925, 926, 927, 928, 929, 931, 932,
    933, 934, 935, 936, 937, 945, 946, 947, 948, 949, 950, 951, 952, 953, 954, 955, 956, 957, 958,
    959, 960, 961, 963, 962, 964, 965, 966, 967, 968, 9617, 9618, 9619, 9474, 9508, 9569, 9570,
    9558, 9557, 9571, 9553, 9559, 9565, 9564, 9563, 9488, 9492, 9524, 9516, 9500, 9472, 9532,
    9566, 9567, 9562, 9556, 9577, 9574, 9568, 9552, 9580, 9575, 9576, 9572, 9573, 9561, 9560,
    9554, 9555, 9579, 9578, 9496, 9484, 9608, 9604, 9612, 9616, 9600, 969, 940, 941, 942, 970,
    943, 972, 973, 971, 974, 902, 904, 905, 906, 908, 910, 911, 177, 8805, 8804, 938, 939, 247,
    8776, 176, 8729, 183, 8730, 8319, 178, 9632, 160]⟩

/-- The table `cp775`. -/
def tableCp775 : Charmap :=
  ⟨"cp775", ["775", "cspc775baltic", "ibm775"],
   [262, 252, 233, 257, 228, 291, 229, 263, 322, 275, 342, 343, 299, 377, 196, 197, 201, 230, 198,
    333, 246, 290, 162, 346, 347, 214, 220, 248, 163, 216, 215, 164, 256, 298, 243, 379, 380, 378,
    8221, 166, 169, 174, 172, 189, 188, 321, 171, 187, 9617, 9618, 9619, 9474, 9508, 260, 268,
    280, 278, 9571, 9553, 9559, 9565, 302, 352, 9488, 9492, 9524, 9516, 9500, 9472, 9532, 370,
    362, 9562, 9556, 9577, 9574, 9568, 9552, 9580, 381, 261, 269, 281, 279, 303, 353, 371, 363,
    382, 9496, 9484, 9608, 9604, 9612, 9616, 9600, 211, 223, 332, 323, 245, 213, 181, 324, 310,
    311, 315, 316, 326, 274, 325, 8217, 173, 177, 8220, 190, 182, 167, 247, 8222, 176, 8729, 183,
    185, 179, 178, 9632, 160]⟩

/-- The table `cp850`. -/
def tableCp850 : Charmap :=
  ⟨"cp850", ["850", "cspc850multilingual", "ibm850"],
   [199, 252, 233, 226, 228, 224, 229, 231, 234, 235, 232, 239, 238, 236, 196, 197, 201, 230, 198,
    244, 246, 242, 251, 249, 255, 214, 220, 248, 163, 216, 215, 402, 225, 237, 243, 250, 241, 209,
    170, 186, 191, 174, 172, 189, 188, 161, 171, 187, 9617, 9618, 9619, 9474, 9508, 193, 194, 192,
    169, 9571, 9553, 9559, 9565, 162, 165, 9488, 9492, 9524, 9516, 9500, 9472, 9532, 227, 195,
    9562, 9556, 9577, 9574, 9568, 9552, 9580, 164, 240, 208, 202, 203, 200, 305, 205, 206, 207,
    9496, 9484, 9608, 9604, 166, 204, 9600, 211, 223, 212, 210, 245, 213, 181, 254, 222, 218, 219,
    217, 253, 221, 175, 180, 173, 177, 8215, 190, 182, 167, 247, 184, 176, 168, 183, 185, 179,
    178, 9632, 160]⟩

/-- The table `cp852`. -/
def tableCp852 : Charmap :=
  ⟨"cp852", ["852", "cspcp852", "ibm852"],
   [199, 252, 233, 226, 228, 367, 263, 231, 322, 235, 336, 337, 238, 377, 196, 262, 201, 313, 314,
    244, 246, 317, 318, 346, 347, 214, 220, 356, 357, 321, 215, 269, 225, 237, 243, 250, 260, 261,
    381, 382, 280, 281, 172, 378, 268, 351, 171, 187, 9617, 9618, 9619, 9474, 9508, 193, 194, 282,
    350, 9571, 9553, 9559, 9565, 379, 380, 9488, 9492, 9524, 9516, 9500, 9472, 9532, 258, 259,
    9562, 9556, 9577, 9574, 9568, 9552, 9580, 164, 273, 272, 270, 203, 271, 327, 205, 206, 283,
    9496, 9484, 9608, 9604, 354, 366, 9600, 211, 223, 212, 323, 324, 328, 352, 353, 340, 218, 341,
    368, 253, 221, 355, 180, 173, 733, 731, 711, 728, 167, 247, 184, 176, 168, 729, 369, 344, 345,
    9632, 160]⟩

/-- The table `cp855`. -/
def tableCp855 : Charmap :=
  ⟨"cp855", ["855", "csibm855", "ibm855"],
   [1106, 1026, 1107, 1027, 1105, 1025, 1108, 1028, 1109, 1029, 1110, 1030, 1111, 1031, 1112,
    1032, 1113, 1033, 1114, 1034, 1115, 1035, 1116, 1036, 1118, 1038, 1119, 1039, 1102, 1070,
    1098, 1066, 1072, 1040, 1073, 1041, 1094, 1062, 1076, 1044, 1077, 1045, 1092, 1060, 1075,
    1043, 171, 187, 9617, 9618, 9619, 9474, 9508, 1093, 1061, 1080, 1048, 9571, 9553, 9559, 9565,
    1081, 1049, 9488, 9492, 9524, 9516, 9500, 9472, 9532, 1082, 1050, 9562, 9556, 9577, 9574,
    9568, 9552, 9580, 164, 1083, 1051, 1084, 1052, 1085, 1053, 1086, 1054, 1087, 9496, 9484, 9608,
    9604, 1055, 1103, 9600, 1071, 1088, 1056, 1089, 1057, 1090, 1058, 1091, 1059, 1078, 1046,
    1074, 1042, 1100, 1068, 8470, 173, 1099, 1067, 1079, 1047, 1096, 1064, 1101, 1069, 1097, 1065,
    1095, 1063, 167, 9632, 160]⟩

/-- The table `cp856`. -/
def tableCp856 : Charmap :=
  ⟨"cp856", [],
   [1488, 1489, 1490, 1491, 1492, 1493, 1494, 1495, 1496, 1497, 1498, 1499, 1500, 1501, 1502,
    1503, 1504, 1505, 1506, 1507, 1508, 1509, 1510, 1511, 1512, 1513, 1514, 65534, 163, 65534,
    215, 65534, 65534, 65534, 65534, 65534, 65534, 65534, 65534, 65534, 65534, 174, 172, 189, 188,
    65534, 171, 187, 9617, 9618, 9619, 9474, 9508, 65534, 65534, 65534, 169, 9571, 9553, 9559,
    9565, 162, 165, 9488, 9492, 9524, 9516, 9500, 9472, 9532, 65534, 65534, 9562, 9556, 9577,
    9574, 9568, 9552, 9580, 164, 65534, 65534, 65534, 65534, 65534, 65534, 65534, 65534, 65534,
    9496, 9484, 9608, 9604, 166, 65534, 9600, 65534, 65534, 65534, 65534, 65534, 65534, 181,
    65534, 65534, 65534, 65534, 65534, 65534, 65534, 175, 180, 173, 177, 8215, 190, 182, 167, 247,
    184, 176, 168, 183, 185, 179, 178, 9632, 160]⟩

/-- The table `cp857`. -/
def tableCp857 : Charmap :=
  ⟨"cp857", ["857", "csibm857", "ibm857"],
   [199, 252, 233, 226, 228, 224, 229, 231, 234, 235, 232, 239, 238, 305, 196, 197, 201, 230, 198,
    244, 246, 242, 251, 249, 304, 214, 220, 248, 163, 216, 350, 351, 225, 237, 243, 250, 241, 209,
    286, 287, 191, 174, 172, 189, 188, 161, 171, 187, 9617, 9618, 9619, 9474, 9508, 193, 194, 192,
    169, 9571, 9553, 9559, 9565, 162, 165, 9488, 9492, 9524, 9516, 9500, 9472, 9532, 227, 195,
    9562, 9556, 9577, 9574, 9568, 9552, 9580, 164, 186, 170, 202, 203, 200, 65534, 205, 206, 207,
    9496, 9484, 9608, 9604, 166, 204, 9600, 211, 223, 212, 210, 245, 213, 181, 65534, 215, 218,
    219, 217, 236, 255, 175, 180, 173, 177, 65534, 190, 182, 167, 247, 184, 176, 168, 183, 185,
    179, 178, 9632, 160]⟩

/-- The table `cp858`. -/
def tableCp858 : Charmap :=
  ⟨"cp858", ["858", "csibm858", "ibm858"],
   [199, 252, 233, 226, 228, 224, 229, 231, 234, 235, 232, 239, 238, 236, 196, 197, 201, 230, 198,
    244, 246, 242, 251, 249, 255, 214, 220, 248, 163, 216, 215, 402, 225, 237, 243, 250, 241, 209,
    170, 186, 191, 174, 172, 189, 188, 161, 171, 187, 9617, 9618, 9619, 9474, 9508, 193, 194, 192,
    169, 9571, 9553, 9559, 9565, 162, 165, 9488, 9492, 9524, 9516, 9500, 9472, 9532, 227, 195,
    9562, 9556, 9577, 9574, 9568, 9552, 9580, 164, 240, 208, 202, 203, 200, 8364, 205, 206, 207,
    9496, 9484, 9608, 9604, 166, 204, 9600, 211, 223, 212, 210, 245, 213, 181, 254, 222, 218, 219,
    217, 253, 221, 175, 180, 173, 177, 8215, 190, 182, 167, 247, 184, 176, 168, 183, 185, 179,
    178, 9632, 160]⟩

/-- The table `cp860`. -/
def tableCp860 : Charmap :=
  ⟨"cp860", ["860", "csibm860", "ibm860"],
   [199, 252, 233, 226, 227, 224, 193, 231, 234, 202, 232, 205, 212, 236, 195, 194, 201, 192, 200,
    244, 245, 242, 218, 249, 204, 213, 220, 162, 163, 217, 8359, 211, 225, 237, 243, 250, 241,
    209, 170, 186, 191, 210, 172, 189, 188, 161, 171, 187, 9617, 9618, 9619, 9474, 9508, 9569,
    9570, 9558, 9557, 9571, 9553, 9559, 9565, 9564, 9563, 9488, 9492, 9524, 9516, 9500, 9472,
    9532, 9566, 9567, 9562, 9556, 9577, 9574, 9568, 9552, 9580, 9575, 9576, 9572, 9573, 9561,
    9560, 9554, 9555, 9579, 9578, 9496, 9484, 9608, 9604, 9612, 9616, 9600, 945, 223, 915, 960,
    931, 963, 181, 964, 934, 920, 937, 948, 8734, 966, 949, 8745, 8801, 177, 8805, 8804, 8992,
    8993, 247, 8776, 176, 8729, 183, 8730, 8319, 178, 9632, 160]⟩

/-- The table `cp861`. -/
def tableCp861 : Charmap :=
  ⟨"cp861", ["861", "cp_is", "csibm861", "ibm861"],
   [199, 252, 233, 226, 228, 224, 229, 231, 234, 235, 232, 208, 240, 222, 196, 197, 201, 230, 198,
    244, 246, 254, 251, 221, 253, 214, 220, 248, 163, 216, 8359, 402, 225, 237, 243, 250, 193,
    205, 211, 218, 191, 8976, 172, 189, 188, 161, 171, 187, 9617, 9618, 9619, 9474, 9508, 9569,
    9570, 9558, 9557, 9571, 9553, 9559, 9565, 9564, 9563, 9488, 9492, 9524, 9516, 9500, 9472,
    9532, 9566, 9567, 9562, 9556, 9577, 9574, 9568, 9552, 9580, 9575, 9576, 9572, 9573, 9561,
    9560, 9554, 9555, 9579, 9578, 9496, 9484, 9608, 9604, 9612, 9616, 9600, 945, 223, 915, 960,
    931, 963, 181, 964, 934, 920, 937, 948, 8734, 966, 949, 8745, 8801, 177, 8805, 8804, 8992,
    8993, 247, 8776, 176, 8729, 183, 8730, 8319, 178, 9632, 160]⟩

/-- The table `cp862`. -/
def tableCp862 : Charmap :=
  ⟨"cp862", ["862", "cspc862latinhebrew", "ibm862"],
   [1488, 1489, 1490, 1491, 1492, 1493, 1494, 1495, 1496, 1497, 1498, 1499, 1500, 1501, 1502,
    1503, 1504, 1505, 1506, 1507, 1508, 1509, 1510, 1511, 1512, 1513, 1514, 162, 163, 165, 8359,
    402, 225, 237, 243, 250, 241, 209, 170, 186, 191, 8976, 172, 189, 188, 161, 171, 187, 9617,
    9618, 9619, 9474, 9508, 9569, 9570, 9558, 9557, 9571, 9553, 9559, 9565, 9564, 9563, 9488,
    9492, 9524, 9516, 9500, 9472, 9532, 9566, 9567, 9562, 9556, 9577, 9574, 9568, 9552, 9580,
    9575, 9576, 9572, 9573, 9561, 9560, 9554, 9555, 9579, 9578, 9496, 9484, 9608, 9604, 9612,
    9616, 9600, 945, 223, 915, 960, 931, 963, 181, 964, 934, 920, 937, 948, 8734, 966, 949, 8745,
    8801, 177, 8805, 8804, 8992, 8993, 247, 8776, 176, 8729, 183, 8730, 8319, 178, 9632, 160]⟩

/-- The table `cp863`. -/
def tableCp863 : Charmap :=
  ⟨"cp863", ["863", "csibm863", "ibm863"],
   [199, 252, 233, 226, 194, 224, 182, 231, 234, 235, 232, 239, 238, 8215, 192, 167, 201, 200,
    202, 244, 203, 207, 251, 249, 164, 212, 220, 162, 163, 217, 219, 402, 166, 180, 243, 250, 168,
    184, 179, 175, 206, 8976, 172, 189, 188, 190, 171, 187, 9617, 9618, 9619, 9474, 9508, 9569,
    9570, 9558, 9557, 9571, 9553, 9559, 9565, 9564, 9563, 9488, 9492, 9524, 9516, 9500, 9472,
    9532, 9566, 9567, 9562, 9556, 9577, 9574, 9568, 9552, 9580, 9575, 9576, 9572, 9573, 9561,
    9560, 9554, 9555, 9579, 9578, 9496, 9484, 9608, 9604, 9612, 9616, 9600, 945, 223, 915, 960,
    931, 963, 181, 964, 934, 920, 937, 948, 8734, 966, 949, 8745, 8801, 177, 8805, 8804, 8992,
    8993, 247, 8776, 176, 8729, 183, 8730, 8319, 178, 9632, 160]⟩

/-- The table `cp864`. -/
def tableCp864 : Charmap :=
  ⟨"cp864", ["864", "csibm864", "ibm864"],
   [0, 1, 2, 3, 4, 5, 6, 7, 8, 9, 10, 11, 12, 13, 14, 15, 16, 17, 18, 19, 20, 21, 22, 23, 24, 25,
    26, 27, 28, 29, 30, 31, 32, 33, 34, 35, 36, 1642, 38, 39, 40, 41, 42, 43, 44, 45, 46, 47, 48,
    49, 50, 51, 52, 53, 54, 55, 56, 57, 58, 59, 60, 61, 62, 63, 64, 65, 66, 67, 68, 69, 70, 71,
    72, 73, 74, 75, 76, 77, 78, 79, 80, 81, 82, 83, 84, 85, 86, 87, 88, 89, 90, 91, 92, 93, 94,
    95, 96, 97, 98, 99, 100, 101, 102, 103, 104, 105, 106, 107, 108, 109, 110, 111, 112, 113, 114,
    115, 116, 117, 118, 119, 120, 121, 122, 123, 124, 125, 126, 127, 176, 183, 8729, 8730, 9618,
    9472, 9474, 9532, 9508, 9516, 9500, 9524, 9488, 9484, 9492, 9496, 946, 8734, 966, 177, 189,
    188, 8776, 171, 187, 65271, 65272, 65534, 65534, 65275, 65276, 65534, 160, 173, 65154, 163,
    164, 65156, 65534, 65534, 65166, 65167, 65173, 65177, 1548, 65181, 65185, 65189, 1632, 1633,
    1634, 1635, 1636, 1637, 1638, 1639, 1640, 1641, 65233, 1563, 65201, 65205, 65209, 1567, 162,
    65152, 65153, 65155, 65157, 65226, 65163, 65165, 65169, 65171, 65175, 65179, 65183, 65187,
    65191, 65193, 65195, 65197, 65199, 65203, 65207, 65211, 65215, 65217, 65221, 65227, 65231,
    166, 172, 247, 215, 65225, 1600, 65235, 65239, 65243, 65247, 65251, 65255, 65259, 65261,
    65263, 65267, 65213, 65228, 65230, 65229, 65249, 65149, 1617, 65253, 65257, 65260, 65264,
    65266, 65232, 65237, 65269, 65270, 65245, 65241, 65265, 9632, 65534]⟩

/-- The table `cp865`. -/
def tableCp865 : Charmap :=
  ⟨"cp865", ["865", "csibm865", "ibm865"],
   [199, 252, 233, 226, 228, 224, 229, 231, 234, 235, 232, 239, 238, 236, 196, 197, 201, 230, 198,
    244, 246, 242, 251, 249, 255, 214, 220, 248, 163, 216, 8359, 402, 225, 237, 243, 250, 241,
    209, 170, 186, 191, 8976, 172, 189, 188, 161, 171, 164, 9617, 9618, 9619, 9474, 9508, 9569,
    9570, 9558, 9557, 9571, 9553, 9559, 9565, 9564, 9563, 9488, 9492, 9524, 9516, 9500, 9472,
    9532, 9566, 9567, 9562, 9556, 9577, 9574, 9568, 9552, 9580, 9575, 9576, 9572, 9573, 9561,
    9560, 9554, 9555, 9579, 9578, 9496, 9484, 9608, 9604, 9612, 9616, 9600, 945, 223, 915, 960,
    931, 963, 181, 964, 934, 920, 937, 948, 8734, 966, 949, 8745, 8801, 177, 8805, 8804, 8992,
    8993, 247, 8776, 176, 8729, 183, 8730, 8319, 178, 9632, 160]⟩

/-- The table `cp866`. -/
def tableCp866 : Charmap :=
  ⟨"cp866", ["866", "csibm866", "ibm866"],
   [1040, 1041, 1042, 1043, 1044, 1045, 1046, 1047, 1048, 1049, 1050, 1051, 1052, 1053, 1054,
    1055, 1056, 1057, 1058, 1059, 1060, 1061, 1062, 1063, 1064, 1065, 1066, 1067, 1068, 1069,
    1070, 1071, 1072, 1073, 1074, 1075, 1076, 1077, 1078, 1079, 1080, 1081, 1082, 1083, 1084,
    1085, 1086, 1087, 9617, 9618, 9619, 9474, 9508, 9569, 9570, 9558, 9557, 9571, 9553, 9559,
    9565, 9564, 9563, 9488, 9492, 9524, 9516, 9500, 9472, 9532, 9566, 9567, 9562, 9556, 9577,
    9574, 9568, 9552, 9580, 9575, 9576, 9572, 9573, 9561, 9560, 9554, 9555, 9579, 9578, 9496,
    9484, 9608, 9604, 9612, 9616, 9600, 1088, 1089, 1090, 1091, 1092, 1093, 1094, 1095, 1096,
    1097, 1098, 1099, 1100, 1101, 1102, 1103, 1025, 1105, 1028, 1108, 1031, 1111, 1038, 1118, 176,
    8729, 183, 8730, 8470, 164, 9632, 160]⟩

/-- The table `cp869`. -/
def tableCp869 : Charmap :=
  ⟨"cp869", ["869", "cp_gr", "csibm869", "ibm869"],
   [65534, 65534, 65534, 65534, 65534, 65534, 902, 65534, 183, 172, 166, 8216, 8217, 904, 8213,
    905, 906, 938, 908, 65534, 65534, 910, 939, 169, 911, 178, 179, 940, 163, 941, 942, 943, 970,
    912, 972, 973, 913, 914, 915, 916, 917, 918, 919, 189, 920, 921, 171, 187, 9617, 9618, 9619,
    9474, 9508, 922, 923, 924, 925, 9571, 9553, 9559, 9565, 926, 927, 9488, 9492, 9524, 9516,
    9500, 9472, 9532, 928, 929, 9562, 9556, 9577, 9574, 9568, 9552, 9580, 931, 932, 933, 934, 935,
    936, 937, 945, 946, 947, 9496, 9484, 9608, 9604, 948, 949, 9600, 950, 951, 952, 953, 954, 955,
    956, 957, 958, 959, 960, 961, 963, 962, 964, 900, 173, 177, 965, 966, 967, 167, 968, 901, 176,
    168, 969, 971, 944, 974, 9632, 160]⟩

/-- The table `cp874`. -/
def tableCp874 : Charmap :=
  ⟨"cp874", [],
   [8364, 65534, 65534, 65534, 65534, 8230, 65534, 65534, 65534, 65534, 65534, 65534, 65534,
    65534, 65534, 65534, 65534, 8216, 8217, 8220, 8221, 8226, 8211, 8212, 65534, 65534, 65534,
    65534, 65534, 65534, 65534, 65534, 160, 3585, 3586, 3587, 3588, 3589, 3590, 3591, 3592, 3593,
    3594, 3595, 3596, 3597, 3598, 3599, 3600, 3601, 3602, 3603, 3604, 3605, 3606, 3607, 3608,
    3609, 3610, 3611, 3612, 3613, 3614, 3615, 3616, 3617, 3618, 3619, 3620, 3621, 3622, 3623,
    3624, 3625, 3626, 3627, 3628, 3629, 3630, 3631, 3632, 3633, 3634, 3635, 3636, 3637, 3638,
    3639, 3640, 3641, 3642, 65534, 65534, 65534, 65534, 3647, 3648, 3649, 3650, 3651, 3652, 3653,
    3654, 3655, 3656, 3657, 3658, 3659, 3660, 3661, 3662, 3663, 3664, 3665, 3666, 3667, 3668,
    3669, 3670, 3671, 3672, 3673, 3674, 3675, 65534, 65534, 65534, 65534]⟩

/-- The table `cp875`. -/
def tableCp875 : Charmap :=
  ⟨"cp875", [],
   [0, 1, 2, 3, 156, 9, 134, 127, 151, 141, 142, 11, 12, 13, 14, 15, 16, 17, 18, 19, 157, 133, 8,
    135, 24, 25, 146, 143, 28, 29, 30, 31, 128, 129, 130, 131, 132, 10, 23, 27, 136, 137, 138,
    139, 140, 5, 6, 7, 144, 145, 22, 147, 148, 149, 150, 4, 152, 153, 154, 155, 20, 21, 158, 26,
    32, 913, 914, 915, 916, 917, 918, 919, 920, 921, 91, 46, 60, 40, 43, 33, 38, 922, 923, 924,
    925, 926, 927, 928, 929, 931, 93, 36, 42, 41, 59, 94, 45, 47, 932, 933, 934, 935, 936, 937,
    938, 939, 124, 44, 37, 95, 62, 63, 168, 902, 904, 905, 160, 906, 908, 910, 911, 96, 58, 35,
    64, 39, 61, 34, 901, 97, 98, 99, 100, 101, 102, 103, 104, 105, 945, 946, 947, 948, 949, 950,
    176, 106, 107, 108, 109, 110, 111, 112, 113, 114, 951, 952, 953, 954, 955, 956, 180, 126, 115,
    116, 117, 118, 119, 120, 121, 122, 957, 958, 959, 960, 961, 963, 163, 940, 941, 942, 970, 943,
    972, 973, 971, 974, 962, 964, 965, 966, 967, 968, 123, 65, 66, 67, 68, 69, 70, 71, 72, 73,
    173, 969, 912, 944, 8216, 8213, 125, 74, 75, 76, 77, 78, 79, 80, 81, 82, 177, 189, 26, 903,
    8217, 166, 92, 26, 83, 84, 85, 86, 87, 88, 89, 90, 178, 167, 26, 26, 171, 172, 48, 49, 50, 51,
    52, 53, 54, 55, 56, 57, 179, 169, 26, 26, 187, 159]⟩

/-- The table `hp_roman8`. -/
def tableHpRoman8 : Charmap :=
  ⟨"hp_roman8", ["cp1051", "csHPRoman8", "ibm1051", "r8", "roman8"],
   [128, 129, 130, 131, 132, 133, 134, 135, 136, 137, 138, 139, 140, 141, 142, 143, 144, 145, 146,
    147, 148, 149, 150, 151, 152, 153, 154, 155, 156, 157, 158, 159, 160, 192, 194, 200, 202, 203,
    206, 207, 180, 715, 710, 168, 732, 217, 219, 8356, 175, 221, 253, 176, 199, 231, 209, 241,
    161, 191, 164, 163, 165, 167, 402, 162, 226, 234, 244, 251, 225, 233, 243, 250, 224, 232, 242,
    249, 228, 235, 246, 252, 197, 238, 216, 198, 229, 237, 248, 230, 196, 236, 214, 220, 201, 239,
    223, 212, 193, 195, 227, 208, 240, 205, 204, 211, 210, 213, 245, 352, 353, 218, 376, 255, 222,
    254, 183, 181, 182, 190, 8212, 188, 189, 170, 186, 171, 9632, 187, 177, 65534]⟩

/-- The table `iso8859_10`. -/
def tableIso885910 : Charmap :=
  ⟨"iso8859_10", ["csisolatin6", "iso_8859_10", "iso_8859_10_1992", "iso_ir_157", "l6", "latin6"],
   [128, 129, 130, 131, 132, 133, 134, 135, 136, 137, 138, 139, 140, 141, 142, 143, 144, 145, 146,
    147, 148, 149, 150, 151, 152, 153, 154, 155, 156, 157, 158, 159, 160, 260, 274, 290, 298, 296,
    310, 167, 315, 272, 352, 358, 381, 173, 362, 330, 176, 261, 275, 291, 299, 297, 311, 183, 316,
    273, 353, 359, 382, 8213, 363, 331, 256, 193, 194, 195, 196, 197, 198, 302, 268, 201, 280,
    203, 278, 205, 206, 207, 208, 325, 332, 211, 212, 213, 214, 360, 216, 370, 218, 219, 220, 221,
    222, 223, 257, 225, 226, 227, 228, 229, 230, 303, 269, 233, 281, 235, 279, 237, 238, 239, 240,
    326, 333, 243, 244, 245, 246, 361, 248, 371, 250, 251, 252, 253, 254, 312]⟩

/-- The table `iso8859_11`. -/
def tableIso885911 : Charmap :=
  ⟨"iso8859_11", ["iso_8859_11", "iso_8859_11_2001", "thai"],
   [128, 129, 130, 131, 132, 133, 134, 135, 136, 137, 138, 139, 140, 141, 142, 143, 144, 145, 146,
    147, 148, 149, 150, 151, 152, 153, 154, 155, 156, 157, 158, 159, 160, 3585, 3586, 3587, 3588,
    3589, 3590, 3591, 3592, 3593, 3594, 3595, 3596, 3597, 3598, 3599, 3600, 3601, 3602, 3603,
    3604, 3605, 3606, 3607, 3608, 3609, 3610, 3611, 3612, 3613, 3614, 3615, 3616, 3617, 3618,
    3619, 3620, 3621, 3622, 3623, 3624, 3625, 3626, 3627, 3628, 3629, 3630, 3631, 3632, 3633,
    3634, 3635, 3636, 3637, 3638, 3639, 3640, 3641, 3642, 65534, 65534, 65534, 65534, 3647, 3648,
    3649, 3650, 3651, 3652, 3653, 3654, 3655, 3656, 3657, 3658, 3659, 3660, 3661, 3662, 3663,
    3664, 3665, 3666, 3667, 3668, 3669, 3670, 3671, 3672, 3673, 3674, 3675, 65534, 65534, 65534,
    65534]⟩

/-- The table `iso8859_13`. -/
def tableIso885913 : Charmap :=
  ⟨"iso8859_13", ["iso_8859_13", "l7", "latin7"],
   [128, 129, 130, 131, 132, 133, 134, 135, 136, 137, 138, 139, 140, 141, 142, 143, 144, 145, 146,
    147, 148, 149, 150, 151, 152, 153, 154, 155, 156, 157, 158, 159, 160, 8221, 162, 163, 164,
    8222, 166, 167, 216, 169, 342, 171, 172, 173, 174, 198, 176, 177, 178, 179, 8220, 181, 182,
    183, 248, 185, 343, 187, 188, 189, 190, 230, 260, 302, 256, 262, 196, 197, 280, 274, 268, 201,
    377, 278, 290, 310, 298, 315, 352, 323, 325, 211, 332, 213, 214, 215, 370, 321, 346, 362, 220,
    379, 381, 223, 261, 303, 257, 263, 228, 229, 281, 275, 269, 233, 378, 279, 291, 311, 299, 316,
    353, 324, 326, 243, 333, 245, 246, 247, 371, 322, 347, 363, 252, 380, 382, 8217]⟩

/-- The table `iso8859_14`. -/
def tableIso885914 : Charmap :=
  ⟨"iso8859_14", ["iso_8859_14", "iso_8859_14_1998", "iso_celtic", "iso_ir_199", "l8", "latin8"],
   [128, 129, 130, 131, 132, 133, 134, 135, 136, 137, 138, 139, 140, 141, 142, 143, 144, 145, 146,
    147, 148, 149, 150, 151, 152, 153, 154, 155, 156, 157, 158, 159, 160, 7682, 7683, 163, 266,
    267, 7690, 167, 7808, 169, 7810, 7691, 7922, 173, 174, 376, 7710, 7711, 288, 289, 7744, 7745,
    182, 7766, 7809, 7767, 7811, 7776, 7923, 7812, 7813, 7777, 192, 193, 194, 195, 196, 197, 198,
    199, 200, 201, 202, 203, 204, 205, 206, 207, 372, 209, 210, 211, 212, 213, 214, 7786, 216,
    217, 218, 219, 220, 221, 374, 223, 224, 225, 226, 227, 228, 229, 230, 231, 232, 233, 234, 235,
    236, 237, 238, 239, 373, 241, 242, 243, 244, 245, 246, 7787, 248, 249, 250, 251, 252, 253,
    375, 255]⟩

/-- The table `iso8859_15`. -/
def tableIso885915 : Charmap :=
  ⟨"iso8859_15", ["iso_8859_15", "l9", "latin9"],
   [128, 129, 130, 131, 132, 133, 134, 135, 136, 137, 138, 139, 140, 141, 142, 143, 144, 145, 146,
    147, 148, 149, 150, 151, 152, 153, 154, 155, 156, 157, 158, 159, 160, 161, 162, 163, 8364,
    165, 352, 167, 353, 169, 170, 171, 172, 173, 174, 175, 176, 177, 178, 179, 381, 181, 182, 183,
    382, 185, 186, 187, 338, 339, 376, 191, 192, 193, 194, 195, 196, 197, 198, 199, 200, 201, 202,
    203, 204, 205, 206, 207, 208, 209, 210, 211, 212, 213, 214, 215, 216, 217, 218, 219, 220, 221,
    222, 223, 224, 225, 226, 227, 228, 229, 230, 231, 232, 233, 234, 235, 236, 237, 238, 239, 240,
    241, 242, 243, 244, 245, 246, 247, 248, 249, 250, 251, 252, 253, 254, 255]⟩

/-- The table `iso8859_16`. -/
def tableIso885916 : Charmap :=
  ⟨"iso8859_16", ["iso_8859_16", "iso_8859_16_2001", "iso_ir_226", "l10", "latin10"],
   [128, 129, 130, 131, 132, 133, 134, 135, 136, 137, 138, 139, 140, 141, 142, 143, 144, 145, 146,
    147, 148, 149, 150, 151, 152, 153, 154, 155, 156, 157, 158, 159, 160, 260, 261, 321, 8364,
    8222, 352, 167, 353, 169, 536, 171, 377, 173, 378, 379, 176, 177, 268, 322, 381, 8221, 182,
    183, 382, 269, 537, 187, 338, 339, 376, 380, 192, 193, 194, 258, 196, 262, 198, 199, 200, 201,
    202, 203, 204, 205, 206, 207, 272, 323, 210, 211, 212, 336, 214, 346, 368, 217, 218, 219, 220,
    280, 538, 223, 224, 225, 226, 259, 228, 263, 230, 231, 232, 233, 234, 235, 236, 237, 238, 239,
    273, 324, 242, 243, 244, 337, 246, 347, 369, 249, 250, 251, 252, 281, 539, 255]⟩

/-- The table `iso8859_2`. -/
def tableIso88592 : Charmap :=
  ⟨"iso8859_2", ["csisolatin2", "iso_8859_2", "iso_8859_2_1987", "iso_ir_101", "l2", "latin2"],
   [128, 129, 130, 131, 132, 133, 134, 135, 136, 137, 138, 139, 140, 141, 142, 143, 144, 145, 146,
    147, 148, 149, 150, 151, 152, 153, 154, 155, 156, 157, 158, 159, 160, 260, 728, 321, 164, 317,
    346, 167, 168, 352, 350, 356, 377, 173, 381, 379, 176, 261, 731, 322, 180, 318, 347, 711, 184,
    353, 351, 357, 378, 733, 382, 380, 340, 193, 194, 258, 196, 313, 262, 199, 268, 201, 280, 203,
    282, 205, 206, 270, 272, 323, 327, 211, 212, 336, 214, 215, 344, 366, 218, 368, 220, 221, 354,
    223, 341, 225, 226, 259, 228, 314, 263, 231, 269, 233, 281, 235, 283, 237, 238, 271, 273, 324,
    328, 243, 244, 337, 246, 247, 345, 367, 250, 369, 252, 253, 355, 729]⟩

/-- The table `iso8859_3`. -/
def tableIso88593 : Charmap :=
  ⟨"iso8859_3", ["csisolatin3", "iso_8859_3", "iso_8859_3_1988", "iso_ir_109", "l3", "latin3"],
   [128, 129, 130, 131, 132, 133, 134, 135, 136, 137, 138, 139, 140, 141, 142, 143, 144, 145, 146,
    147, 148, 149, 150, 151, 152, 153, 154, 155, 156, 157, 158, 159, 160, 294, 728, 163, 164,
    65534, 292, 167, 168, 304, 350, 286, 308, 173, 65534, 379, 176, 295, 178, 179, 180, 181, 293,
    183, 184, 305, 351, 287, 309, 189, 65534, 380, 192, 193, 194, 65534, 196, 266, 264, 199, 200,
    201, 202, 203, 204, 205, 206, 207, 65534, 209, 210, 211, 212, 288, 214, 215, 284, 217, 218,
    219, 220, 364, 348, 223, 224, 225, 226, 65534, 228, 267, 265, 231, 232, 233, 234, 235, 236,
    237, 238, 239, 65534, 241, 242, 243, 244, 289, 246, 247, 285, 249, 250, 251, 252, 365, 349,
    729]⟩

/-- The table `iso8859_4`. -/
def tableIso88594 : Charmap :=
  ⟨"iso8859_4", ["csisolatin4", "iso_8859_4", "iso_8859_4_1988", "iso_ir_110", "l4", "latin4"],
   [128, 129, 130, 131, 132, 133, 134, 135, 136, 137, 138, 139, 140, 141, 142, 143, 144, 145, 146,
    147, 148, 149, 150, 151, 152, 153, 154, 155, 156, 157, 158, 159, 160, 260, 312, 342, 164, 296,
    315, 167, 168, 352, 274, 290, 358, 173, 381, 175, 176, 261, 731, 343, 180, 297, 316, 711, 184,
    353, 275, 291, 359, 330, 382, 331, 256, 193, 194, 195, 196, 197, 198, 302, 268, 201, 280, 203,
    278, 205, 206, 298, 272, 325, 332, 310, 212, 213, 214, 215, 216, 370, 218, 219, 220, 360, 362,
    223, 257, 225, 226, 227, 228, 229, 230, 303, 269, 233, 281, 235, 279, 237, 238, 299, 273, 326,
    333, 311, 244, 245, 246, 247, 248, 371, 250, 251, 252, 361, 363, 729]⟩

/-- The table `iso8859_5`. -/
def tableIso88595 : Charmap :=
  ⟨"iso8859_5", ["csisolatincyrillic", "cyrillic", "iso_8859_5", "iso_8859_5_1988", "iso_ir_144"],
   [128, 129, 130, 131, 132, 133, 134, 135, 136, 137, 138, 139, 140, 141, 142, 143, 144, 145, 146,
    147, 148, 149, 150, 151, 152, 153, 154, 155, 156, 157, 158, 159, 160, 1025, 1026, 1027, 1028,
    1029, 1030, 1031, 1032, 1033, 1034, 1035, 1036, 173, 1038, 1039, 1040, 1041, 1042, 1043, 1044,
    1045, 1046, 1047, 1048, 1049, 1050, 1051, 1052, 1053, 1054, 1055, 1056, 1057, 1058, 1059,
    1060, 1061, 1062, 1063, 1064, 1065, 1066, 1067, 1068, 1069, 1070, 1071, 1072, 1073, 1074,
    1075, 1076, 1077, 1078, 1079, 1080, 1081, 1082, 1083, 1084, 1085, 1086, 1087, 1088, 1089,
    1090, 1091, 1092, 1093, 1094, 1095, 1096, 1097, 1098, 1099, 1100, 1101, 1102, 1103, 8470,
    1105, 1106, 1107, 1108, 1109, 1110, 1111, 1112, 1113, 1114, 1115, 1116, 167, 1118, 1119]⟩

/-- The table `iso8859_6`. -/
def tableIso88596 : Charmap :=
  ⟨"iso8859_6", ["arabic", "asmo_708", "csisolatinarabic", "ecma_114", "iso_8859_6",
    "iso_8859_6_1987", "iso_ir_127"],
   [128, 129, 130, 131, 132, 133, 134, 135, 136, 137, 138, 139, 140, 141, 142, 143, 144, 145, 146,
    147, 148, 149, 150, 151, 152, 153, 154, 155, 156, 157, 158, 159, 160, 65534, 65534, 65534,
    164, 65534, 65534, 65534, 65534, 65534, 65534, 65534, 1548, 173, 65534, 65534, 65534, 65534,
    65534, 65534, 65534, 65534, 65534, 65534, 65534, 65534, 65534, 1563, 65534, 65534, 65534,
    1567, 65534, 1569, 1570, 1571, 1572, 1573, 1574, 1575, 1576, 1577, 1578, 1579, 1580, 1581,
    1582, 1583, 1584, 1585, 1586, 1587, 1588, 1589, 1590, 1591, 1592, 1593, 1594, 65534, 65534,
    65534, 65534, 65534, 1600, 1601, 1602, 1603, 1604, 1605, 1606, 1607, 1608, 1609, 1610, 1611,
    1612, 1613, 1614, 1615, 1616, 1617, 1618, 65534, 65534, 65534, 65534, 65534, 65534, 65534,
    65534, 65534, 65534, 65534, 65534, 65534]⟩

/-- The table `iso8859_7`. -/
def tableIso88597 : Charmap :=
  ⟨"iso8859_7", ["csisolatingreek", "ecma_118", "elot_928", "greek", "greek8", "iso_8859_7",
    "iso_8859_7_1987", "iso_ir_126"],
   [128, 129, 130, 131, 132, 133, 134, 135, 136, 137, 138, 139, 140, 141, 142, 143, 144, 145, 146,
    147, 148, 149, 150, 151, 152, 153, 154, 155, 156, 157, 158, 159, 160, 8216, 8217, 163, 8364,
    8367, 166, 167, 168, 169, 890, 171, 172, 173, 65534, 8213, 176, 177, 178, 179, 900, 901, 902,
    183, 904, 905, 906, 187, 908, 189, 910, 911, 912, 913, 914, 915, 916, 917, 918, 919, 920, 921,
    922, 923, 924, 925, 926, 927, 928, 929, 65534, 931, 932, 933, 934, 935, 936, 937, 938, 939,
    940, 941, 942, 943, 944, 945, 946, 947, 948, 949, 950, 951, 952, 953, 954, 955, 956, 957, 958,
    959, 960, 961, 962, 963, 964, 965, 966, 967, 968, 969, 970, 971, 972, 973, 974, 65534]⟩

/-- The table `iso8859_8`. -/
def tableIso88598 : Charmap :=
  ⟨"iso8859_8", ["csisolatinhebrew", "hebrew", "iso_8859_8", "iso_8859_8_1988", "iso_ir_138"],
   [128, 129, 130, 131, 132, 133, 134, 135, 136, 137, 138, 139, 140, 141, 142, 143, 144, 145, 146,
    147, 148, 149, 150, 151, 152, 153, 154, 155, 156, 157, 158, 159, 160, 65534, 162, 163, 164,
    165, 166, 167, 168, 169, 215, 171, 172, 173, 174, 175, 176, 177, 178, 179, 180, 181, 182, 183,
    184, 185, 247, 187, 188, 189, 190, 65534, 65534, 65534, 65534, 65534, 65534, 65534, 65534,
    65534, 65534, 65534, 65534, 65534, 65534, 65534, 65534, 65534, 65534, 65534, 65534, 65534,
    65534, 65534, 65534, 65534, 65534, 65534, 65534, 65534, 65534, 65534, 65534, 8215, 1488, 1489,
    1490, 1491, 1492, 1493, 1494, 1495, 1496, 1497, 1498, 1499, 1500, 1501, 1502, 1503, 1504,
    1505, 1506, 1507, 1508, 1509, 1510, 1511, 1512, 1513, 1514, 65534, 65534, 8206, 8207, 65534]⟩

/-- The table `iso8859_9`. -/
def tableIso88599 : Charmap :=
  ⟨"iso8859_9", ["csisolatin5", "iso_8859_9", "iso_8859_9_1989", "iso_ir_148", "l5", "latin5"],
   [128, 129, 130, 131, 132, 133, 134, 135, 136, 137, 138, 139, 140, 141, 142, 143, 144, 145, 146,
    147, 148, 149, 150, 151, 152, 153, 154, 155, 156, 157, 158, 159, 160, 161, 162, 163, 164, 165,
    166, 167, 168, 169, 170, 171, 172, 173, 174, 175, 176, 177, 178, 179, 180, 181, 182, 183, 184,
    185, 186, 187, 188, 189, 190, 191, 192, 193, 194, 195, 196, 197, 198, 199, 200, 201, 202, 203,
    204, 205, 206, 207, 286, 209, 210, 211, 212, 213, 214, 215, 216, 217, 218, 219, 220, 304, 350,
    223, 224, 225, 226, 227, 228, 229, 230, 231, 232, 233, 234, 235, 236, 237, 238, 239, 287, 241,
    242, 243, 244, 245, 246, 247, 248, 249, 250, 251, 252, 305, 351, 255]⟩

/-- The table `koi8_r`. -/
def tableKoi8R : Charmap :=
  ⟨"koi8_r", ["cskoi8r"],
   [9472, 9474, 9484, 9488, 9492, 9496, 9500, 9508, 9516, 9524, 9532, 9600, 9604, 9608, 9612,
    9616, 9617, 9618, 9619, 8992, 9632, 8729, 8730, 8776, 8804, 8805, 160, 8993, 176, 178, 183,
    247, 9552, 9553, 9554, 1105, 9555, 9556, 9557, 9558, 9559, 9560, 9561, 9562, 9563, 9564, 9565,
    9566, 9567, 9568, 9569, 1025, 9570, 9571, 9572, 9573, 9574, 9575, 9576, 9577, 9578, 9579,
    9580, 169, 1102, 1072, 1073, 1094, 1076, 1077, 1092, 1075, 1093, 1080, 1081, 1082, 1083, 1084,
    1085, 1086, 1087, 1103, 1088, 1089, 1090, 1091, 1078, 1074, 1100, 1099, 1079, 1096, 1101,
    1097, 1095, 1098, 1070, 1040, 1041, 1062, 1044, 1045, 1060, 1043, 1061, 1048, 1049, 1050,
    1051, 1052, 1053, 1054, 1055, 1071, 1056, 1057, 1058, 1059, 1046, 1042, 1068, 1067, 1047,
    1064, 1069, 1065, 1063, 1066]⟩

/-- The table `koi8_t`. -/
def tableKoi8T : Charmap :=
  ⟨"koi8_t", [],
   [1179, 1171, 8218, 1170, 8222, 8230, 8224, 8225, 65534, 8240, 1203, 8249, 1202, 1207, 1206,
    65534, 1178, 8216, 8217, 8220, 8221, 8226, 8211, 8212, 65534, 8482, 65534, 8250, 65534, 65534,
    65534, 65534, 65534, 1263, 1262, 1105, 164, 1251, 166, 167, 65534, 65534, 65534, 171, 172,
    173, 174, 65534, 176, 177, 178, 1025, 65534, 1250, 182, 183, 65534, 8470, 65534, 187, 65534,
    65534, 65534, 169, 1102, 1072, 1073, 1094, 1076, 1077, 1092, 1075, 1093, 1080, 1081, 1082,
    1083, 1084, 1085, 1086, 1087, 1103, 1088, 1089, 1090, 1091, 1078, 1074, 1100, 1099, 1079,
    1096, 1101, 1097, 1095, 1098, 1070, 1040, 1041, 1062, 1044, 1045, 1060, 1043, 1061, 1048,
    1049, 1050, 1051, 1052, 1053, 1054, 1055, 1071, 1056, 1057, 1058, 1059, 1046, 1042, 1068,
    1067, 1047, 1064, 1069, 1065, 1063, 1066]⟩

/-- The table `koi8_u`. -/
def tableKoi8U : Charmap :=
  ⟨"koi8_u", [],
   [9472, 9474, 9484, 9488, 9492, 9496, 9500, 9508, 9516, 9524, 9532, 9600, 9604, 9608, 9612,
    9616, 9617, 9618, 9619, 8992, 9632, 8729, 8730, 8776, 8804, 8805, 160, 8993, 176, 178, 183,
    247, 9552, 9553, 9554, 1105, 1108, 9556, 1110, 1111, 9559, 9560, 9561, 9562, 9563, 1169, 9565,
    9566, 9567, 9568, 9569, 1025, 1028, 9571, 1030, 1031, 9574, 9575, 9576, 9577, 9578, 1168,
    9580, 169, 1102, 1072, 1073, 1094, 1076, 1077, 1092, 1075, 1093, 1080, 1081, 1082, 1083, 1084,
    1085, 1086, 1087, 1103, 1088, 1089, 1090, 1091, 1078, 1074, 1100, 1099, 1079, 1096, 1101,
    1097, 1095, 1098, 1070, 1040, 1041, 1062, 1044, 1045, 1060, 1043, 1061, 1048, 1049, 1050,
    1051, 1052, 1053, 1054, 1055, 1071, 1056, 1057, 1058, 1059, 1046, 1042, 1068, 1067, 1047,
    1064, 1069, 1065, 1063, 1066]⟩

/-- The table `kz1048`. -/
def tableKz1048 : Charmap :=
  ⟨"kz1048", ["kz_1048", "rk1048", "strk1048_2002"],
   [1026, 1027, 8218, 1107, 8222, 8230, 8224, 8225, 8364, 8240, 1033, 8249, 1034, 1178, 1210,
    1039, 1106, 8216, 8217, 8220, 8221, 8226, 8211, 8212, 65534, 8482, 1113, 8250, 1114, 1179,
    1211, 1119, 160, 1200, 1201, 1240, 164, 1256, 166, 167, 1025, 169, 1170, 171, 172, 173, 174,
    1198, 176, 177, 1030, 1110, 1257, 181, 182, 183, 1105, 8470, 1171, 187, 1241, 1186, 1187,
    1199, 1040, 1041, 1042, 1043, 1044, 1045, 1046, 1047, 1048, 1049, 1050, 1051, 1052, 1053,
    1054, 1055, 1056, 1057, 1058, 1059, 1060, 1061, 1062, 1063, 1064, 1065, 1066, 1067, 1068,
    1069, 1070, 1071, 1072, 1073, 1074, 1075, 1076, 1077, 1078, 1079, 1080, 1081, 1082, 1083,
    1084, 1085, 1086, 1087, 1088, 1089, 1090, 1091, 1092, 1093, 1094, 1095, 1096, 1097, 1098,
    1099, 1100, 1101, 1102, 1103]⟩

/-- The table `mac_arabic`. -/
def tableMacArabic : Charmap :=
  ⟨"mac_arabic", [],
   [196, 160, 199, 201, 209, 214, 220, 225, 224, 226, 228, 1722, 171, 231, 233, 232, 234, 235,
    237, 8230, 238, 239, 241, 243, 187, 244, 246, 247, 250, 249, 251, 252, 32, 33, 34, 35, 36,
    1642, 38, 39, 40, 41, 42, 43, 1548, 45, 46, 47, 1632, 1633, 1634, 1635, 1636, 1637, 1638,
    1639, 1640, 1641, 58, 1563, 60, 61, 62, 1567, 10058, 1569, 1570, 1571, 1572, 1573, 1574, 1575,
    1576, 1577, 1578, 1579, 1580, 1581, 1582, 1583, 1584, 1585, 1586, 1587, 1588, 1589, 1590,
    1591, 1592, 1593, 1594, 91, 92, 93, 94, 95, 1600, 1601, 1602, 1603, 1604, 1605, 1606, 1607,
    1608, 1609, 1610, 1611, 1612, 1613, 1614, 1615, 1616, 1617, 1618, 1662, 1657, 1670, 1749,
    1700, 1711, 1672, 1681, 123, 124, 125, 1688, 1746]⟩

/-- The table `mac_croatian`. -/
def tableMacCroatian : Charmap :=
  ⟨"mac_croatian", [],
   [196, 197, 199, 201, 209, 214, 220, 225, 224, 226, 228, 227, 229, 231, 233, 232, 234, 235, 237,
    236, 238, 239, 241, 243, 242, 244, 246, 245, 250, 249, 251, 252, 8224, 176, 162, 163, 167,
    8226, 182, 223, 174, 352, 8482, 180, 168, 8800, 381, 216, 8734, 177, 8804, 8805, 8710, 181,
    8706, 8721, 8719, 353, 8747, 170, 186, 937, 382, 248, 191, 161, 172, 8730, 402, 8776, 262,
    171, 268, 8230, 160, 192, 195, 213, 338, 339, 272, 8212, 8220, 8221, 8216, 8217, 247, 9674,
    63743, 169, 8260, 8364, 8249, 8250, 198, 187, 8211, 183, 8218, 8222, 8240, 194, 263, 193, 269,
    200, 205, 206, 207, 204, 211, 212, 273, 210, 218, 219, 217, 305, 710, 732, 175, 960, 203, 730,
    184, 202, 230, 711]⟩

/-- The table `mac_cyrillic`. -/
def tableMacCyrillic : Charmap :=
  ⟨"mac_cyrillic", ["maccyrillic"],
   [1040, 1041, 1042, 1043, 1044, 1045, 1046, 1047, 1048, 1049, 1050, 1051, 1052, 1053, 1054,
    1055, 1056, 1057, 1058, 1059, 1060, 1061, 1062, 1063, 1064, 1065, 1066, 1067, 1068, 1069,
    1070, 1071, 8224, 176, 1168, 163, 167, 8226, 182, 1030, 174, 169, 8482, 1026, 1106, 8800,
    1027, 1107, 8734, 177, 8804, 8805, 1110, 181, 1169, 1032, 1028, 1108, 1031, 1111, 1033, 1113,
    1034, 1114, 1112, 1029, 172, 8730, 402, 8776, 8710, 171, 187, 8230, 160, 1035, 1115, 1036,
    1116, 1109, 8211, 8212, 8220, 8221, 8216, 8217, 247, 8222, 1038, 1118, 1039, 1119, 8470, 1025,
    1105, 1103, 1072, 1073, 1074, 1075, 1076, 1077, 1078, 1079, 1080, 1081, 1082, 1083, 1084,
    1085, 1086, 1087, 1088, 1089, 1090, 1091, 1092, 1093, 1094, 1095, 1096, 1097, 1098, 1099,
    1100, 1101, 1102, 8364]⟩

/-- The table `mac_farsi`. -/
def tableMacFarsi : Charmap :=
  ⟨"mac_farsi", [],
   [196, 160, 199, 201, 209, 214, 220, 225, 224, 226, 228, 1722, 171, 231, 233, 232, 234, 235,
    237, 8230, 238, 239, 241, 243, 187, 244, 246, 247, 250, 249, 251, 252, 32, 33, 34, 35, 36,
    1642, 38, 39, 40, 41, 42, 43, 1548, 45, 46, 47, 1776, 1777, 1778, 1779, 1780, 1781, 1782,
    1783, 1784, 1785, 58, 1563, 60, 61, 62, 1567, 10058, 1569, 1570, 1571, 1572, 1573, 1574, 1575,
    1576, 1577, 1578, 1579, 1580, 1581, 1582, 1583, 1584, 1585, 1586, 1587, 1588, 1589, 1590,
    1591, 1592, 1593, 1594, 91, 92, 93, 94, 95, 1600, 1601, 1602, 1603, 1604, 1605, 1606, 1607,
    1608, 1609, 1610, 1611, 1612, 1613, 1614, 1615, 1616, 1617, 1618, 1662, 1657, 1670, 1749,
    1700, 1711, 1672, 1681, 123, 124, 125, 1688, 1746]⟩

/-- The table `mac_greek`. -/
def tableMacGreek : Charmap :=
  ⟨"mac_greek", ["macgreek"],
   [196, 185, 178, 201, 179, 214, 220, 901, 224, 226, 228, 900, 168, 231, 233, 232, 234, 235, 163,
    8482, 238, 239, 8226, 189, 8240, 244, 246, 166, 8364, 249, 251, 252, 8224, 915, 916, 920, 923,
    926, 928, 223, 174, 169, 931, 938, 167, 8800, 176, 183, 913, 177, 8804, 8805, 165, 914, 917,
    918, 919, 921, 922, 924, 934, 939, 936, 937, 940, 925, 172, 927, 929, 8776, 932, 171, 187,
    8230, 160, 933, 935, 902, 904, 339, 8211, 8213, 8220, 8221, 8216, 8217, 247, 905, 906, 908,
    910, 941, 942, 943, 972, 911, 973, 945, 946, 968, 948, 949, 966, 947, 951, 953, 958, 954, 955,
    956, 957, 959, 960, 974, 961, 963, 964, 952, 969, 962, 967, 965, 950, 970, 971, 912, 944,
    173]⟩

/-- The table `mac_iceland`. -/
def tableMacIceland : Charmap :=
  ⟨"mac_iceland", ["maciceland"],
   [196, 197, 199, 201, 209, 214, 220, 225, 224, 226, 228, 227, 229, 231, 233, 232, 234, 235, 237,
    236, 238, 239, 241, 243, 242, 244, 246, 245, 250, 249, 251, 252, 221, 176, 162, 163, 167,
    8226, 182, 223, 174, 169, 8482, 180, 168, 8800, 198, 216, 8734, 177, 8804, 8805, 165, 181,
    8706, 8721, 8719, 960, 8747, 170, 186, 937, 230, 248, 191, 161, 172, 8730, 402, 8776, 8710,
    171, 187, 8230, 160, 192, 195, 213, 338, 339, 8211, 8212, 8220, 8221, 8216, 8217, 247, 9674,
    255, 376, 8260, 8364, 208, 240, 222, 254, 253, 183, 8218, 8222, 8240, 194, 202, 193, 203, 200,
    205, 206, 207, 204, 211, 212, 63743, 210, 218, 219, 217, 305, 710, 732, 175, 728, 729, 730,
    184, 733, 731, 711]⟩

/-- The table `mac_latin2`. -/
def tableMacLatin2 : Charmap :=
  ⟨"mac_latin2", ["mac_centeuro", "maccentraleurope", "maclatin2"],
   [196, 256, 257, 201, 260, 214, 220, 225, 261, 268, 228, 269, 262, 263, 233, 377, 378, 270, 237,
    271, 274, 275, 278, 243, 279, 244, 246, 245, 250, 282, 283, 252, 8224, 176, 280, 163, 167,
    8226, 182, 223, 174, 169, 8482, 281, 168, 8800, 291, 302, 303, 298, 8804, 8805, 299, 310,
    8706, 8721, 322, 315, 316, 317, 318, 313, 314, 325, 326, 323, 172, 8730, 324, 327, 8710, 171,
    187, 8230, 160, 328, 336, 213, 337, 332, 8211, 8212, 8220, 8221, 8216, 8217, 247, 9674, 333,
    340, 341, 344, 8249, 8250, 345, 342, 343, 352, 8218, 8222, 353, 346, 347, 193, 356, 357, 205,
    381, 382, 362, 211, 212, 363, 366, 218, 367, 368, 369, 370, 371, 221, 253, 311, 379, 321, 380,
    290, 711]⟩

/-- The table `mac_roman`. -/
def tableMacRoman : Charmap :=
  ⟨"mac_roman", ["macintosh", "macroman"],
   [196, 197, 199, 201, 209, 214, 220, 225, 224, 226, 228, 227, 229, 231, 233, 232, 234, 235, 237,
    236, 238, 239, 241, 243, 242, 244, 246, 245, 250, 249, 251, 252, 8224, 176, 162, 163, 167,
    8226, 182, 223, 174, 169, 8482, 180, 168, 8800, 198, 216, 8734, 177, 8804, 8805, 165, 181,
    8706, 8721, 8719, 960, 8747, 170, 186, 937, 230, 248, 191, 161, 172, 8730, 402, 8776, 8710,
    171, 187, 8230, 160, 192, 195, 213, 338, 339, 8211, 8212, 8220, 8221, 8216, 8217, 247, 9674,
    255, 376, 8260, 8364, 8249, 8250, 64257, 64258, 8225, 183, 8218, 8222, 8240, 194, 202, 193,
    203, 200, 205, 206, 207, 204, 211, 212, 63743, 210, 218, 219, 217, 305, 710, 732, 175, 728,
    729, 730, 184, 733, 731, 711]⟩

/-- The table `mac_romanian`. -/
def tableMacRomanian : Charmap :=
  ⟨"mac_romanian", [],
   [196, 197, 199, 201, 209, 214, 220, 225, 224, 226, 228, 227, 229, 231, 233, 232, 234, 235, 237,
    236, 238, 239, 241, 243, 242, 244, 246, 245, 250, 249, 251, 252, 8224, 176, 162, 163, 167,
    8226, 182, 223, 174, 169, 8482, 180, 168, 8800, 258, 536, 8734, 177, 8804, 8805, 165, 181,
    8706, 8721, 8719, 960, 8747, 170, 186, 937, 259, 537, 191, 161, 172, 8730, 402, 8776, 8710,
    171, 187, 8230, 160, 192, 195, 213, 338, 339, 8211, 8212, 8220, 8221, 8216, 8217, 247, 9674,
    255, 376, 8260, 8364, 8249, 8250, 538, 539, 8225, 183, 8218, 8222, 8240, 194, 202, 193, 203,
    200, 205, 206, 207, 204, 211, 212, 63743, 210, 218, 219, 217, 305, 710, 732, 175, 728, 729,
    730, 184, 733, 731, 711]⟩

/-- The table `mac_turkish`. -/
def tableMacTurkish : Charmap :=
  ⟨"mac_turkish", ["macturkish"],
   [196, 197, 199, 201, 209, 214, 220, 225, 224, 226, 228, 227, 229, 231, 233, 232, 234, 235, 237,
    236, 238, 239, 241, 243, 242, 244, 246, 245, 250, 249, 251, 252, 8224, 176, 162, 163, 167,
    8226, 182, 223, 174, 169, 8482, 180, 168, 8800, 198, 216, 8734, 177, 8804, 8805, 165, 181,
    8706, 8721, 8719, 960, 8747, 170, 186, 937, 230, 248, 191, 161, 172, 8730, 402, 8776, 8710,
    171, 187, 8230, 160, 192, 195, 213, 338, 339, 8211, 8212, 8220, 8221, 8216, 8217, 247, 9674,
    255, 376, 286, 287, 304, 305, 350, 351, 8225, 183, 8218, 8222, 8240, 194, 202, 193, 203, 200,
    205, 206, 207, 204, 211, 212, 63743, 210, 218, 219, 217, 63648, 710, 732, 175, 728, 729, 730,
    184, 733, 731, 711]⟩

/-- The table `palmos`. -/
def tablePalmos : Charmap :=
  ⟨"palmos", [],
   [8364, 129, 8218, 402, 8222, 8230, 8224, 8225, 710, 8240, 352, 8249, 338, 9830, 9827, 9829,
    9824, 8216, 8217, 8220, 8221, 8226, 8211, 8212, 732, 8482, 353, 155, 339, 157, 158, 376, 160,
    161, 162, 163, 164, 165, 166, 167, 168, 169, 170, 171, 172, 173, 174, 175, 176, 177, 178, 179,
    180, 181, 182, 183, 184, 185, 186, 187, 188, 189, 190, 191, 192, 193, 194, 195, 196, 197, 198,
    199, 200, 201, 202, 203, 204, 205, 206, 207, 208, 209, 210, 211, 212, 213, 214, 215, 216, 217,
    218, 219, 220, 221, 222, 223, 224, 225, 226, 227, 228, 229, 230, 231, 232, 233, 234, 235, 236,
    237, 238, 239, 240, 241, 242, 243, 244, 245, 246, 247, 248, 249, 250, 251, 252, 253, 254,
    255]⟩

/-- The table `ptcp154`. -/
def tablePtcp154 : Charmap :=
  ⟨"ptcp154", ["cp154", "csptcp154", "cyrillic_asian", "pt154"],
   [1174, 1170, 1262, 1171, 8222, 8230, 1206, 1198, 1202, 1199, 1184, 1250, 1186, 1178, 1210,
    1208, 1175, 8216, 8217, 8220, 8221, 8226, 8211, 8212, 1203, 1207, 1185, 1251, 1187, 1179,
    1211, 1209, 160, 1038, 1118, 1032, 1256, 1176, 1200, 167, 1025, 169, 1240, 171, 172, 1263,
    174, 1180, 176, 1201, 1030, 1110, 1177, 1257, 182, 183, 1105, 8470, 1241, 187, 1112, 1194,
    1195, 1181, 1040, 1041, 1042, 1043, 1044, 1045, 1046, 1047, 1048, 1049, 1050, 1051, 1052,
    1053, 1054, 1055, 1056, 1057, 1058, 1059, 1060, 1061, 1062, 1063, 1064, 1065, 1066, 1067,
    1068, 1069, 1070, 1071, 1072, 1073, 1074, 1075, 1076, 1077, 1078, 1079, 1080, 1081, 1082,
    1083, 1084, 1085, 1086, 1087, 1088, 1089, 1090, 1091, 1092, 1093, 1094, 1095, 1096, 1097,
    1098, 1099, 1100, 1101, 1102, 1103]⟩

/-- The table `tis_620`. -/
def tableTis620 : Charmap :=
  ⟨"tis_620", ["iso_ir_166", "tis620", "tis_620_0", "tis_620_2529_0", "tis_620_2529_1"],
   [128, 129, 130, 131, 132, 133, 134, 135, 136, 137, 138, 139, 140, 141, 142, 143, 144, 145, 146,
    147, 148, 149, 150, 151, 152, 153, 154, 155, 156, 157, 158, 159, 65534, 3585, 3586, 3587,
    3588, 3589, 3590, 3591, 3592, 3593, 3594, 3595, 3596, 3597, 3598, 3599, 3600, 3601, 3602,
    3603, 3604, 3605, 3606, 3607, 3608, 3609, 3610, 3611, 3612, 3613, 3614, 3615, 3616, 3617,
    3618, 3619, 3620, 3621, 3622, 3623, 3624, 3625, 3626, 3627, 3628, 3629, 3630, 3631, 3632,
    3633, 3634, 3635, 3636, 3637, 3638, 3639, 3640, 3641, 3642, 65534, 65534, 65534, 65534, 3647,
    3648, 3649, 3650, 3651, 3652, 3653, 3654, 3655, 3656, 3657, 3658, 3659, 3660, 3661, 3662,
    3663, 3664, 3665, 3666, 3667, 3668, 3669, 3670, 3671, 3672, 3673, 3674, 3675, 65534, 65534,
    65534, 65534]⟩

/-- All tables. -/
def tables : List Charmap :=
  [tableCp037, tableCp1006, tableCp1026, tableCp1125, tableCp1140, tableCp1250, tableCp1251,
   tableCp1252, tableCp1253, tableCp1254, tableCp1255, tableCp1256, tableCp1257, tableCp1258,
   tableCp273, tableCp424, tableCp437, tableCp500, tableCp720, tableCp737, tableCp775, tableCp850,
   tableCp852, tableCp855, tableCp856, tableCp857, tableCp858, tableCp860, tableCp861, tableCp862,
   tableCp863, tableCp864, tableCp865, tableCp866, tableCp869, tableCp874, tableCp875,
   tableHpRoman8, tableIso885910, tableIso885911, tableIso885913, tableIso885914, tableIso885915,
   tableIso885916, tableIso88592, tableIso88593, tableIso88594, tableIso88595, tableIso88596,
   tableIso88597, tableIso88598, tableIso88599, tableKoi8R, tableKoi8T, tableKoi8U, tableKz1048,
   tableMacArabic, tableMacCroatian, tableMacCyrillic, tableMacFarsi, tableMacGreek,
   tableMacIceland, tableMacLatin2, tableMacRoman, tableMacRomanian, tableMacTurkish, tablePalmos,
   tablePtcp154, tableTis620]

end Charmap

end DomainGen.Text
