import Testbed.Text.Table

/-!
# Characters of host names

What becomes of each character beyond ASCII when a name is brought to its usual form, for Unicode
17 and the pictographs that came after it: some vanish, some give way to others, and some no name
may hold. Characters that only change to lower case, or to their canonical decomposition, have no
row here.
-/

namespace Testbed.Address

def ignoredRanges : List (Nat × Nat) :=
  [(0xAD, 0xAD), (0x34F, 0x34F), (0x115F, 0x1160), (0x17B4, 0x17B5), (0x180B, 0x180F),
    (0x200B, 0x200B), (0x2060, 0x2064), (0x206A, 0x206F), (0x3164, 0x3164), (0xFE00, 0xFE0F),
    (0xFEFF, 0xFEFF), (0xFFA0, 0xFFA0), (0x1BCA0, 0x1BCA3), (0x1D173, 0x1D17A), (0xE0100, 0xE01EF)]

def refusedRanges : List (Nat × Nat) :=
  [(0x80, 0x9F), (0x378, 0x379), (0x380, 0x383), (0x38B, 0x38B), (0x38D, 0x38D), (0x3A2, 0x3A2),
    (0x530, 0x530), (0x557, 0x558), (0x58B, 0x58C), (0x590, 0x590), (0x5C8, 0x5CF),
    (0x5EB, 0x5EE), (0x5F5, 0x605), (0x61C, 0x61C), (0x6DD, 0x6DD), (0x70E, 0x70F),
    (0x74B, 0x74C), (0x7B2, 0x7BF), (0x7FB, 0x7FC), (0x82E, 0x82F), (0x83F, 0x83F),
    (0x85C, 0x85D), (0x85F, 0x85F), (0x86B, 0x86F), (0x890, 0x896), (0x8E2, 0x8E2),
    (0x984, 0x984), (0x98D, 0x98E), (0x991, 0x992), (0x9A9, 0x9A9), (0x9B1, 0x9B1),
    (0x9B3, 0x9B5), (0x9BA, 0x9BB), (0x9C5, 0x9C6), (0x9C9, 0x9CA), (0x9CF, 0x9D6),
    (0x9D8, 0x9DB), (0x9DE, 0x9DE), (0x9E4, 0x9E5), (0x9FF, 0xA00), (0xA04, 0xA04),
    (0xA0B, 0xA0E), (0xA11, 0xA12), (0xA29, 0xA29), (0xA31, 0xA31), (0xA34, 0xA34),
    (0xA37, 0xA37), (0xA3A, 0xA3B), (0xA3D, 0xA3D), (0xA43, 0xA46), (0xA49, 0xA4A),
    (0xA4E, 0xA50), (0xA52, 0xA58), (0xA5D, 0xA5D), (0xA5F, 0xA65), (0xA77, 0xA80),
    (0xA84, 0xA84), (0xA8E, 0xA8E), (0xA92, 0xA92), (0xAA9, 0xAA9), (0xAB1, 0xAB1),
    (0xAB4, 0xAB4), (0xABA, 0xABB), (0xAC6, 0xAC6), (0xACA, 0xACA), (0xACE, 0xACF),
    (0xAD1, 0xADF), (0xAE4, 0xAE5), (0xAF2, 0xAF8), (0xB00, 0xB00), (0xB04, 0xB04),
    (0xB0D, 0xB0E), (0xB11, 0xB12), (0xB29, 0xB29), (0xB31, 0xB31), (0xB34, 0xB34),
    (0xB3A, 0xB3B), (0xB45, 0xB46), (0xB49, 0xB4A), (0xB4E, 0xB54), (0xB58, 0xB5B),
    (0xB5E, 0xB5E), (0xB64, 0xB65), (0xB78, 0xB81), (0xB84, 0xB84), (0xB8B, 0xB8D),
    (0xB91, 0xB91), (0xB96, 0xB98), (0xB9B, 0xB9B), (0xB9D, 0xB9D), (0xBA0, 0xBA2),
    (0xBA5, 0xBA7), (0xBAB, 0xBAD), (0xBBA, 0xBBD), (0xBC3, 0xBC5), (0xBC9, 0xBC9),
    (0xBCE, 0xBCF), (0xBD1, 0xBD6), (0xBD8, 0xBE5), (0xBFB, 0xBFF), (0xC0D, 0xC0D),
    (0xC11, 0xC11), (0xC29, 0xC29), (0xC3A, 0xC3B), (0xC45, 0xC45), (0xC49, 0xC49),
    (0xC4E, 0xC54), (0xC57, 0xC57), (0xC5B, 0xC5B), (0xC5E, 0xC5F), (0xC64, 0xC65),
    (0xC70, 0xC76), (0xC8D, 0xC8D), (0xC91, 0xC91), (0xCA9, 0xCA9), (0xCB4, 0xCB4),
    (0xCBA, 0xCBB), (0xCC5, 0xCC5), (0xCC9, 0xCC9), (0xCCE, 0xCD4), (0xCD7, 0xCDB),
    (0xCDF, 0xCDF), (0xCE4, 0xCE5), (0xCF0, 0xCF0), (0xCF4, 0xCFF), (0xD0D, 0xD0D),
    (0xD11, 0xD11), (0xD45, 0xD45), (0xD49, 0xD49), (0xD50, 0xD53), (0xD64, 0xD65),
    (0xD80, 0xD80), (0xD84, 0xD84), (0xD97, 0xD99), (0xDB2, 0xDB2), (0xDBC, 0xDBC),
    (0xDBE, 0xDBF), (0xDC7, 0xDC9), (0xDCB, 0xDCE), (0xDD5, 0xDD5), (0xDD7, 0xDD7),
    (0xDE0, 0xDE5), (0xDF0, 0xDF1), (0xDF5, 0xE00), (0xE3B, 0xE3E), (0xE5C, 0xE80),
    (0xE83, 0xE83), (0xE85, 0xE85), (0xE8B, 0xE8B), (0xEA4, 0xEA4), (0xEA6, 0xEA6),
    (0xEBE, 0xEBF), (0xEC5, 0xEC5), (0xEC7, 0xEC7), (0xECF, 0xECF), (0xEDA, 0xEDB),
    (0xEE0, 0xEFF), (0xF48, 0xF48), (0xF6D, 0xF70), (0xF98, 0xF98), (0xFBD, 0xFBD),
    (0xFCD, 0xFCD), (0xFDB, 0xFFF), (0x10C6, 0x10C6), (0x10C8, 0x10CC), (0x10CE, 0x10CF),
    (0x1249, 0x1249), (0x124E, 0x124F), (0x1257, 0x1257), (0x1259, 0x1259), (0x125E, 0x125F),
    (0x1289, 0x1289), (0x128E, 0x128F), (0x12B1, 0x12B1), (0x12B6, 0x12B7), (0x12BF, 0x12BF),
    (0x12C1, 0x12C1), (0x12C6, 0x12C7), (0x12D7, 0x12D7), (0x1311, 0x1311), (0x1316, 0x1317),
    (0x135B, 0x135C), (0x137D, 0x137F), (0x139A, 0x139F), (0x13F6, 0x13F7), (0x13FE, 0x13FF),
    (0x1680, 0x1680), (0x169D, 0x169F), (0x16F9, 0x16FF), (0x1716, 0x171E), (0x1737, 0x173F),
    (0x1754, 0x175F), (0x176D, 0x176D), (0x1771, 0x1771), (0x1774, 0x177F), (0x17DE, 0x17DF),
    (0x17EA, 0x17EF), (0x17FA, 0x17FF), (0x181A, 0x181F), (0x1879, 0x187F), (0x18AB, 0x18AF),
    (0x18F6, 0x18FF), (0x191F, 0x191F), (0x192C, 0x192F), (0x193C, 0x193F), (0x1941, 0x1943),
    (0x196E, 0x196F), (0x1975, 0x197F), (0x19AC, 0x19AF), (0x19CA, 0x19CF), (0x19DB, 0x19DD),
    (0x1A1C, 0x1A1D), (0x1A5F, 0x1A5F), (0x1A7D, 0x1A7E), (0x1A8A, 0x1A8F), (0x1A9A, 0x1A9F),
    (0x1AAE, 0x1AAF), (0x1ADE, 0x1ADF), (0x1AEC, 0x1AFF), (0x1B4D, 0x1B4D), (0x1BF4, 0x1BFB),
    (0x1C38, 0x1C3A), (0x1C4A, 0x1C4C), (0x1C8B, 0x1C8F), (0x1CBB, 0x1CBC), (0x1CC8, 0x1CCF),
    (0x1CFB, 0x1CFF), (0x1F16, 0x1F17), (0x1F1E, 0x1F1F), (0x1F46, 0x1F47), (0x1F4E, 0x1F4F),
    (0x1F58, 0x1F58), (0x1F5A, 0x1F5A), (0x1F5C, 0x1F5C), (0x1F5E, 0x1F5E), (0x1F7E, 0x1F7F),
    (0x1FB5, 0x1FB5), (0x1FC5, 0x1FC5), (0x1FD4, 0x1FD5), (0x1FDC, 0x1FDC), (0x1FF0, 0x1FF1),
    (0x1FF5, 0x1FF5), (0x1FFF, 0x1FFF), (0x200E, 0x200F), (0x2024, 0x2026), (0x2028, 0x202E),
    (0x2065, 0x2069), (0x2072, 0x2073), (0x208F, 0x208F), (0x209D, 0x209F), (0x20C2, 0x20CF),
    (0x20F1, 0x20FF), (0x218C, 0x218F), (0x242A, 0x243F), (0x244B, 0x245F), (0x2488, 0x249B),
    (0x2B74, 0x2B75), (0x2CF4, 0x2CF8), (0x2D26, 0x2D26), (0x2D28, 0x2D2C), (0x2D2E, 0x2D2F),
    (0x2D68, 0x2D6E), (0x2D71, 0x2D7E), (0x2D97, 0x2D9F), (0x2DA7, 0x2DA7), (0x2DAF, 0x2DAF),
    (0x2DB7, 0x2DB7), (0x2DBF, 0x2DBF), (0x2DC7, 0x2DC7), (0x2DCF, 0x2DCF), (0x2DD7, 0x2DD7),
    (0x2DDF, 0x2DDF), (0x2E5E, 0x2E7F), (0x2E9A, 0x2E9A), (0x2EF4, 0x2EFF), (0x2FD6, 0x2FFF),
    (0x3040, 0x3040), (0x3097, 0x3098), (0x3100, 0x3104), (0x3130, 0x3130), (0x318F, 0x318F),
    (0x31E6, 0x31EF), (0x321F, 0x321F), (0x33C2, 0x33C2), (0x33C7, 0x33C7), (0x33D8, 0x33D8),
    (0xA48D, 0xA48F), (0xA4C7, 0xA4CF), (0xA62C, 0xA63F), (0xA6F8, 0xA6FF), (0xA7DD, 0xA7F0),
    (0xA82D, 0xA82F), (0xA83A, 0xA83F), (0xA878, 0xA87F), (0xA8C6, 0xA8CD), (0xA8DA, 0xA8DF),
    (0xA954, 0xA95E), (0xA97D, 0xA97F), (0xA9CE, 0xA9CE), (0xA9DA, 0xA9DD), (0xA9FF, 0xA9FF),
    (0xAA37, 0xAA3F), (0xAA4E, 0xAA4F), (0xAA5A, 0xAA5B), (0xAAC3, 0xAADA), (0xAAF7, 0xAB00),
    (0xAB07, 0xAB08), (0xAB0F, 0xAB10), (0xAB17, 0xAB1F), (0xAB27, 0xAB27), (0xAB2F, 0xAB2F),
    (0xAB6C, 0xAB6F), (0xABEE, 0xABEF), (0xABFA, 0xABFF), (0xD7A4, 0xD7AF), (0xD7C7, 0xD7CA),
    (0xD7FC, 0xF8FF), (0xFA6E, 0xFA6F), (0xFADA, 0xFAFF), (0xFB07, 0xFB12), (0xFB18, 0xFB1C),
    (0xFB37, 0xFB37), (0xFB3D, 0xFB3D), (0xFB3F, 0xFB3F), (0xFB42, 0xFB42), (0xFB45, 0xFB45),
    (0xFDD0, 0xFDEF), (0xFE12, 0xFE12), (0xFE19, 0xFE1F), (0xFE30, 0xFE30), (0xFE52, 0xFE53),
    (0xFE67, 0xFE67), (0xFE6C, 0xFE6F), (0xFE75, 0xFE75), (0xFEFD, 0xFEFE), (0xFF00, 0xFF00),
    (0xFFBF, 0xFFC1), (0xFFC8, 0xFFC9), (0xFFD0, 0xFFD1), (0xFFD8, 0xFFD9), (0xFFDD, 0xFFDF),
    (0xFFE7, 0xFFE7), (0xFFEF, 0xFFFF), (0x1000C, 0x1000C), (0x10027, 0x10027),
    (0x1003B, 0x1003B), (0x1003E, 0x1003E), (0x1004E, 0x1004F), (0x1005E, 0x1007F),
    (0x100FB, 0x100FF), (0x10103, 0x10106), (0x10134, 0x10136), (0x1018F, 0x1018F),
    (0x1019D, 0x1019F), (0x101A1, 0x101CF), (0x101FE, 0x1027F), (0x1029D, 0x1029F),
    (0x102D1, 0x102DF), (0x102FC, 0x102FF), (0x10324, 0x1032C), (0x1034B, 0x1034F),
    (0x1037B, 0x1037F), (0x1039E, 0x1039E), (0x103C4, 0x103C7), (0x103D6, 0x103FF),
    (0x1049E, 0x1049F), (0x104AA, 0x104AF), (0x104D4, 0x104D7), (0x104FC, 0x104FF),
    (0x10528, 0x1052F), (0x10564, 0x1056E), (0x1057B, 0x1057B), (0x1058B, 0x1058B),
    (0x10593, 0x10593), (0x10596, 0x10596), (0x105A2, 0x105A2), (0x105B2, 0x105B2),
    (0x105BA, 0x105BA), (0x105BD, 0x105BF), (0x105F4, 0x105FF), (0x10737, 0x1073F),
    (0x10756, 0x1075F), (0x10768, 0x1077F), (0x10786, 0x10786), (0x107B1, 0x107B1),
    (0x107BB, 0x107FF), (0x10806, 0x10807), (0x10809, 0x10809), (0x10836, 0x10836),
    (0x10839, 0x1083B), (0x1083D, 0x1083E), (0x10856, 0x10856), (0x1089F, 0x108A6),
    (0x108B0, 0x108DF), (0x108F3, 0x108F3), (0x108F6, 0x108FA), (0x1091C, 0x1091E),
    (0x1093A, 0x1093E), (0x1095A, 0x1097F), (0x109B8, 0x109BB), (0x109D0, 0x109D1),
    (0x10A04, 0x10A04), (0x10A07, 0x10A0B), (0x10A14, 0x10A14), (0x10A18, 0x10A18),
    (0x10A36, 0x10A37), (0x10A3B, 0x10A3E), (0x10A49, 0x10A4F), (0x10A59, 0x10A5F),
    (0x10AA0, 0x10ABF), (0x10AE7, 0x10AEA), (0x10AF7, 0x10AFF), (0x10B36, 0x10B38),
    (0x10B56, 0x10B57), (0x10B73, 0x10B77), (0x10B92, 0x10B98), (0x10B9D, 0x10BA8),
    (0x10BB0, 0x10BFF), (0x10C49, 0x10C7F), (0x10CB3, 0x10CBF), (0x10CF3, 0x10CF9),
    (0x10D28, 0x10D2F), (0x10D3A, 0x10D3F), (0x10D66, 0x10D68), (0x10D86, 0x10D8D),
    (0x10D90, 0x10E5F), (0x10E7F, 0x10E7F), (0x10EAA, 0x10EAA), (0x10EAE, 0x10EAF),
    (0x10EB2, 0x10EC1), (0x10EC8, 0x10ECF), (0x10ED9, 0x10EF9), (0x10F28, 0x10F2F),
    (0x10F5A, 0x10F6F), (0x10F8A, 0x10FAF), (0x10FCC, 0x10FDF), (0x10FF7, 0x10FFF),
    (0x1104E, 0x11051), (0x11076, 0x1107E), (0x110BD, 0x110BD), (0x110C3, 0x110CF),
    (0x110E9, 0x110EF), (0x110FA, 0x110FF), (0x11135, 0x11135), (0x11148, 0x1114F),
    (0x11177, 0x1117F), (0x111E0, 0x111E0), (0x111F5, 0x111FF), (0x11212, 0x11212),
    (0x11242, 0x1127F), (0x11287, 0x11287), (0x11289, 0x11289), (0x1128E, 0x1128E),
    (0x1129E, 0x1129E), (0x112AA, 0x112AF), (0x112EB, 0x112EF), (0x112FA, 0x112FF),
    (0x11304, 0x11304), (0x1130D, 0x1130E), (0x11311, 0x11312), (0x11329, 0x11329),
    (0x11331, 0x11331), (0x11334, 0x11334), (0x1133A, 0x1133A), (0x11345, 0x11346),
    (0x11349, 0x1134A), (0x1134E, 0x1134F), (0x11351, 0x11356), (0x11358, 0x1135C),
    (0x11364, 0x11365), (0x1136D, 0x1136F), (0x11375, 0x1137F), (0x1138A, 0x1138A),
    (0x1138C, 0x1138D), (0x1138F, 0x1138F), (0x113B6, 0x113B6), (0x113C1, 0x113C1),
    (0x113C3, 0x113C4), (0x113C6, 0x113C6), (0x113CB, 0x113CB), (0x113D6, 0x113D6),
    (0x113D9, 0x113E0), (0x113E3, 0x113FF), (0x1145C, 0x1145C), (0x11462, 0x1147F),
    (0x114C8, 0x114CF), (0x114DA, 0x1157F), (0x115B6, 0x115B7), (0x115DE, 0x115FF),
    (0x11645, 0x1164F), (0x1165A, 0x1165F), (0x1166D, 0x1167F), (0x116BA, 0x116BF),
    (0x116CA, 0x116CF), (0x116E4, 0x116FF), (0x1171B, 0x1171C), (0x1172C, 0x1172F),
    (0x11747, 0x117FF), (0x1183C, 0x1189F), (0x118F3, 0x118FE), (0x11907, 0x11908),
    (0x1190A, 0x1190B), (0x11914, 0x11914), (0x11917, 0x11917), (0x11936, 0x11936),
    (0x11939, 0x1193A), (0x11947, 0x1194F), (0x1195A, 0x1199F), (0x119A8, 0x119A9),
    (0x119D8, 0x119D9), (0x119E5, 0x119FF), (0x11A48, 0x11A4F), (0x11AA3, 0x11AAF),
    (0x11AF9, 0x11AFF), (0x11B0A, 0x11B5F), (0x11B68, 0x11BBF), (0x11BE2, 0x11BEF),
    (0x11BFA, 0x11BFF), (0x11C09, 0x11C09), (0x11C37, 0x11C37), (0x11C46, 0x11C4F),
    (0x11C6D, 0x11C6F), (0x11C90, 0x11C91), (0x11CA8, 0x11CA8), (0x11CB7, 0x11CFF),
    (0x11D07, 0x11D07), (0x11D0A, 0x11D0A), (0x11D37, 0x11D39), (0x11D3B, 0x11D3B),
    (0x11D3E, 0x11D3E), (0x11D48, 0x11D4F), (0x11D5A, 0x11D5F), (0x11D66, 0x11D66),
    (0x11D69, 0x11D69), (0x11D8F, 0x11D8F), (0x11D92, 0x11D92), (0x11D99, 0x11D9F),
    (0x11DAA, 0x11DAF), (0x11DDC, 0x11DDF), (0x11DEA, 0x11EDF), (0x11EF9, 0x11EFF),
    (0x11F11, 0x11F11), (0x11F3B, 0x11F3D), (0x11F5B, 0x11FAF), (0x11FB1, 0x11FBF),
    (0x11FF2, 0x11FFE), (0x1239A, 0x123FF), (0x1246F, 0x1246F), (0x12475, 0x1247F),
    (0x12544, 0x12F8F), (0x12FF3, 0x12FFF), (0x13430, 0x1343F), (0x13456, 0x1345F),
    (0x143FB, 0x143FF), (0x14647, 0x160FF), (0x1613A, 0x167FF), (0x16A39, 0x16A3F),
    (0x16A5F, 0x16A5F), (0x16A6A, 0x16A6D), (0x16ABF, 0x16ABF), (0x16ACA, 0x16ACF),
    (0x16AEE, 0x16AEF), (0x16AF6, 0x16AFF), (0x16B46, 0x16B4F), (0x16B5A, 0x16B5A),
    (0x16B62, 0x16B62), (0x16B78, 0x16B7C), (0x16B90, 0x16D3F), (0x16D7A, 0x16E3F),
    (0x16E9B, 0x16E9F), (0x16EB9, 0x16EBA), (0x16ED4, 0x16EFF), (0x16F4B, 0x16F4E),
    (0x16F88, 0x16F8E), (0x16FA0, 0x16FDF), (0x16FE5, 0x16FEF), (0x16FF7, 0x16FFF),
    (0x18CD6, 0x18CFE), (0x18D1F, 0x18D7F), (0x18DF3, 0x1AFEF), (0x1AFF4, 0x1AFF4),
    (0x1AFFC, 0x1AFFC), (0x1AFFF, 0x1AFFF), (0x1B123, 0x1B131), (0x1B133, 0x1B14F),
    (0x1B153, 0x1B154), (0x1B156, 0x1B163), (0x1B168, 0x1B16F), (0x1B2FC, 0x1BBFF),
    (0x1BC6B, 0x1BC6F), (0x1BC7D, 0x1BC7F), (0x1BC89, 0x1BC8F), (0x1BC9A, 0x1BC9B),
    (0x1BCA4, 0x1CBFF), (0x1CCFD, 0x1CCFF), (0x1CEB4, 0x1CEB9), (0x1CED1, 0x1CEDF),
    (0x1CEF1, 0x1CEFF), (0x1CF2E, 0x1CF2F), (0x1CF47, 0x1CF4F), (0x1CFC4, 0x1CFFF),
    (0x1D0F6, 0x1D0FF), (0x1D127, 0x1D128), (0x1D1EB, 0x1D1FF), (0x1D246, 0x1D2BF),
    (0x1D2D4, 0x1D2DF), (0x1D2F4, 0x1D2FF), (0x1D357, 0x1D35F), (0x1D379, 0x1D3FF),
    (0x1D455, 0x1D455), (0x1D49D, 0x1D49D), (0x1D4A0, 0x1D4A1), (0x1D4A3, 0x1D4A4),
    (0x1D4A7, 0x1D4A8), (0x1D4AD, 0x1D4AD), (0x1D4BA, 0x1D4BA), (0x1D4BC, 0x1D4BC),
    (0x1D4C4, 0x1D4C4), (0x1D506, 0x1D506), (0x1D50B, 0x1D50C), (0x1D515, 0x1D515),
    (0x1D51D, 0x1D51D), (0x1D53A, 0x1D53A), (0x1D53F, 0x1D53F), (0x1D545, 0x1D545),
    (0x1D547, 0x1D549), (0x1D551, 0x1D551), (0x1D6A6, 0x1D6A7), (0x1D7CC, 0x1D7CD),
    (0x1DA8C, 0x1DA9A), (0x1DAA0, 0x1DAA0), (0x1DAB0, 0x1DEFF), (0x1DF1F, 0x1DF24),
    (0x1DF2B, 0x1DFFF), (0x1E007, 0x1E007), (0x1E019, 0x1E01A), (0x1E022, 0x1E022),
    (0x1E025, 0x1E025), (0x1E02B, 0x1E02F), (0x1E06E, 0x1E08E), (0x1E090, 0x1E0FF),
    (0x1E12D, 0x1E12F), (0x1E13E, 0x1E13F), (0x1E14A, 0x1E14D), (0x1E150, 0x1E28F),
    (0x1E2AF, 0x1E2BF), (0x1E2FA, 0x1E2FE), (0x1E300, 0x1E4CF), (0x1E4FA, 0x1E5CF),
    (0x1E5FB, 0x1E5FE), (0x1E600, 0x1E6BF), (0x1E6DF, 0x1E6DF), (0x1E6F6, 0x1E6FD),
    (0x1E700, 0x1E7DF), (0x1E7E7, 0x1E7E7), (0x1E7EC, 0x1E7EC), (0x1E7EF, 0x1E7EF),
    (0x1E7FF, 0x1E7FF), (0x1E8C5, 0x1E8C6), (0x1E8D7, 0x1E8FF), (0x1E94C, 0x1E94F),
    (0x1E95A, 0x1E95D), (0x1E960, 0x1EC70), (0x1ECB5, 0x1ED00), (0x1ED3E, 0x1EDFF),
    (0x1EE04, 0x1EE04), (0x1EE20, 0x1EE20), (0x1EE23, 0x1EE23), (0x1EE25, 0x1EE26),
    (0x1EE28, 0x1EE28), (0x1EE33, 0x1EE33), (0x1EE38, 0x1EE38), (0x1EE3A, 0x1EE3A),
    (0x1EE3C, 0x1EE41), (0x1EE43, 0x1EE46), (0x1EE48, 0x1EE48), (0x1EE4A, 0x1EE4A),
    (0x1EE4C, 0x1EE4C), (0x1EE50, 0x1EE50), (0x1EE53, 0x1EE53), (0x1EE55, 0x1EE56),
    (0x1EE58, 0x1EE58), (0x1EE5A, 0x1EE5A), (0x1EE5C, 0x1EE5C), (0x1EE5E, 0x1EE5E),
    (0x1EE60, 0x1EE60), (0x1EE63, 0x1EE63), (0x1EE65, 0x1EE66), (0x1EE6B, 0x1EE6B),
    (0x1EE73, 0x1EE73), (0x1EE78, 0x1EE78), (0x1EE7D, 0x1EE7D), (0x1EE7F, 0x1EE7F),
    (0x1EE8A, 0x1EE8A), (0x1EE9C, 0x1EEA0), (0x1EEA4, 0x1EEA4), (0x1EEAA, 0x1EEAA),
    (0x1EEBC, 0x1EEEF), (0x1EEF2, 0x1EFFF), (0x1F02C, 0x1F02F), (0x1F094, 0x1F09F),
    (0x1F0AF, 0x1F0B0), (0x1F0C0, 0x1F0C0), (0x1F0D0, 0x1F0D0), (0x1F0F6, 0x1F100),
    (0x1F1AE, 0x1F1E5), (0x1F203, 0x1F20F), (0x1F23C, 0x1F23F), (0x1F249, 0x1F24F),
    (0x1F252, 0x1F25F), (0x1F266, 0x1F2FF), (0x1F6DA, 0x1F6DB), (0x1F6ED, 0x1F6EF),
    (0x1F6FD, 0x1F6FF), (0x1F7DA, 0x1F7DF), (0x1F7EC, 0x1F7EF), (0x1F7F1, 0x1F7FF),
    (0x1F80C, 0x1F80F), (0x1F848, 0x1F84F), (0x1F85A, 0x1F85F), (0x1F888, 0x1F88F),
    (0x1F8AE, 0x1F8AF), (0x1F8BC, 0x1F8BF), (0x1F8C2, 0x1F8CF), (0x1F8D9, 0x1F8FF),
    (0x1FA58, 0x1FA5F), (0x1FA6E, 0x1FA6F), (0x1FA7D, 0x1FA7F), (0x1FA8B, 0x1FA8D),
    (0x1FAC7, 0x1FAC7), (0x1FAC9, 0x1FACC), (0x1FADE, 0x1FADE), (0x1FAEC, 0x1FAEE),
    (0x1FAFB, 0x1FAFF), (0x1FB93, 0x1FB93), (0x1FBFB, 0x1FFFF), (0x2A6E0, 0x2A6FF),
    (0x2B81E, 0x2B81F), (0x2CEAE, 0x2CEAF), (0x2EBE1, 0x2EBEF), (0x2EE5E, 0x2F7FF),
    (0x2FA1E, 0x2FFFF), (0x3134B, 0x3134F), (0x3347A, 0xE00FF), (0xE01F0, 0x10FFFF)]

/-- Runs of characters that give way to a run of others: first, last, and where the first goes. -/
def replacedRunRows : List (List Nat) := Text.Table.rows
  "A0 A0 20; AA AA 61; B2 B3 32; B5 B5 3BC; B9 B9 31; BA BA 6F; 17F 17F 73; 2B0 2B0 68;
    2B1 2B1 266; 2B2 2B2 6A; 2B3 2B3 72; 2B4 2B4 279; 2B5 2B5 27B; 2B6 2B6 281; 2B7 2B7 77;
    2B8 2B8 79; 2E0 2E0 263; 2E1 2E1 6C; 2E2 2E2 73; 2E3 2E3 78; 2E4 2E4 295; 345 345 3B9;
    3D0 3D0 3B2; 3D1 3D1 3B8; 3D2 3D2 3C5; 3D3 3D3 3CD; 3D4 3D4 3CB; 3D5 3D5 3C6; 3D6 3D6 3C0;
    3F0 3F0 3BA; 3F1 3F1 3C1; 3F2 3F2 3C3; 3F5 3F5 3B5; 3F9 3F9 3C3; F0C F0C F0B;
    10FC 10FC 10DC; 13F8 13FD 13F0; 1C80 1C80 432; 1C81 1C81 434; 1C82 1C82 43E;
    1C83 1C84 441; 1C85 1C85 442; 1C86 1C86 44A; 1C87 1C87 463; 1C88 1C88 A64B; 1D2C 1D2C 61;
    1D2D 1D2D E6; 1D2E 1D2E 62; 1D30 1D31 64; 1D32 1D32 1DD; 1D33 1D3A 67; 1D3C 1D3C 6F;
    1D3D 1D3D 223; 1D3E 1D3E 70; 1D3F 1D3F 72; 1D40 1D41 74; 1D42 1D42 77; 1D43 1D43 61;
    1D44 1D45 250; 1D46 1D46 1D02; 1D47 1D47 62; 1D48 1D49 64; 1D4A 1D4A 259; 1D4B 1D4C 25B;
    1D4D 1D4D 67; 1D4F 1D4F 6B; 1D50 1D50 6D; 1D51 1D51 14B; 1D52 1D52 6F; 1D53 1D53 254;
    1D54 1D55 1D16; 1D56 1D56 70; 1D57 1D58 74; 1D59 1D59 1D1D; 1D5A 1D5A 26F; 1D5B 1D5B 76;
    1D5C 1D5C 1D25; 1D5D 1D5F 3B2; 1D60 1D61 3C6; 1D62 1D62 69; 1D63 1D63 72; 1D64 1D65 75;
    1D66 1D67 3B2; 1D68 1D68 3C1; 1D69 1D6A 3C6; 1D78 1D78 43D; 1D9B 1D9B 252; 1D9C 1D9C 63;
    1D9D 1D9D 255; 1D9E 1D9E F0; 1D9F 1D9F 25C; 1DA0 1DA0 66; 1DA1 1DA1 25F; 1DA2 1DA2 261;
    1DA3 1DA3 265; 1DA4 1DA6 268; 1DA7 1DA7 1D7B; 1DA8 1DA8 29D; 1DA9 1DA9 26D;
    1DAA 1DAA 1D85; 1DAB 1DAB 29F; 1DAC 1DAC 271; 1DAD 1DAD 270; 1DAE 1DB1 272; 1DB2 1DB2 278;
    1DB3 1DB4 282; 1DB5 1DB5 1AB; 1DB6 1DB7 289; 1DB8 1DB8 1D1C; 1DB9 1DBA 28B; 1DBB 1DBB 7A;
    1DBC 1DBE 290; 1DBF 1DBF 3B8; 1E9B 1E9B 1E61; 1FBB 1FBB 3AC; 1FC9 1FC9 3AD; 1FCB 1FCB 3AE;
    1FDB 1FDB 3AF; 1FEB 1FEB 3CD; 1FF9 1FF9 3CC; 1FFB 1FFB 3CE; 2000 2000 20; 2001 2001 20;
    2002 2002 20; 2003 2003 20; 2004 2004 20; 2005 2005 20; 2006 2006 20; 2007 2007 20;
    2008 2008 20; 2009 2009 20; 200A 200A 20; 2011 2011 2010; 202F 202F 20; 205F 205F 20;
    2070 2070 30; 2071 2071 69; 2074 2079 34; 207A 207A 2B; 207B 207B 2212; 207C 207C 3D;
    207D 207E 28; 207F 207F 6E; 2080 2089 30; 208A 208A 2B; 208B 208B 2212; 208C 208C 3D;
    208D 208E 28; 2090 2090 61; 2091 2091 65; 2092 2092 6F; 2093 2093 78; 2094 2094 259;
    2095 2095 68; 2096 2099 6B; 209A 209A 70; 209B 209C 73; 2102 2102 63; 2107 2107 25B;
    210A 210B 67; 210C 210C 68; 210D 210D 68; 210E 210E 68; 210F 210F 127; 2110 2110 69;
    2111 2111 69; 2112 2112 6C; 2113 2113 6C; 2115 2115 6E; 2119 211B 70; 211C 211C 72;
    211D 211D 72; 2124 2124 7A; 2128 2128 7A; 212C 212D 62; 212F 212F 65; 2130 2131 65;
    2133 2133 6D; 2134 2134 6F; 2135 2138 5D0; 2139 2139 69; 213C 213C 3C0; 213D 213D 3B3;
    213E 213E 3B3; 213F 213F 3C0; 2140 2140 2211; 2145 2145 64; 2146 2147 64; 2148 2149 69;
    2160 2160 69; 2164 2164 76; 2169 2169 78; 216C 216C 6C; 216D 216E 63; 216F 216F 6D;
    2170 2170 69; 2174 2174 76; 2179 2179 78; 217C 217C 6C; 217D 217E 63; 217F 217F 6D;
    2460 2468 31; 24B6 24CF 61; 24D0 24E9 61; 24EA 24EA 30; 2C7C 2C7C 6A; 2C7D 2C7D 76;
    2D6F 2D6F 2D61; 2E9F 2E9F 6BCD; 2EF3 2EF3 9F9F; 2F00 2F00 4E00; 2F01 2F01 4E28;
    2F02 2F02 4E36; 2F03 2F03 4E3F; 2F04 2F04 4E59; 2F05 2F05 4E85; 2F06 2F06 4E8C;
    2F07 2F07 4EA0; 2F08 2F08 4EBA; 2F09 2F09 513F; 2F0A 2F0A 5165; 2F0B 2F0B 516B;
    2F0C 2F0C 5182; 2F0D 2F0D 5196; 2F0E 2F0E 51AB; 2F0F 2F0F 51E0; 2F10 2F10 51F5;
    2F11 2F11 5200; 2F12 2F12 529B; 2F13 2F13 52F9; 2F14 2F14 5315; 2F15 2F15 531A;
    2F16 2F16 5338; 2F17 2F17 5341; 2F18 2F18 535C; 2F19 2F19 5369; 2F1A 2F1A 5382;
    2F1B 2F1B 53B6; 2F1C 2F1C 53C8; 2F1D 2F1D 53E3; 2F1E 2F1E 56D7; 2F1F 2F1F 571F;
    2F20 2F20 58EB; 2F21 2F21 5902; 2F22 2F22 590A; 2F23 2F23 5915; 2F24 2F24 5927;
    2F25 2F25 5973; 2F26 2F26 5B50; 2F27 2F27 5B80; 2F28 2F28 5BF8; 2F29 2F29 5C0F;
    2F2A 2F2A 5C22; 2F2B 2F2B 5C38; 2F2C 2F2C 5C6E; 2F2D 2F2D 5C71; 2F2E 2F2E 5DDB;
    2F2F 2F2F 5DE5; 2F30 2F30 5DF1; 2F31 2F31 5DFE; 2F32 2F32 5E72; 2F33 2F33 5E7A;
    2F34 2F34 5E7F; 2F35 2F35 5EF4; 2F36 2F36 5EFE; 2F37 2F37 5F0B; 2F38 2F38 5F13;
    2F39 2F39 5F50; 2F3A 2F3A 5F61; 2F3B 2F3B 5F73; 2F3C 2F3C 5FC3; 2F3D 2F3D 6208;
    2F3E 2F3E 6236; 2F3F 2F3F 624B; 2F40 2F40 652F; 2F41 2F41 6534; 2F42 2F42 6587;
    2F43 2F43 6597; 2F44 2F44 65A4; 2F45 2F45 65B9; 2F46 2F46 65E0; 2F47 2F47 65E5;
    2F48 2F48 66F0; 2F49 2F49 6708; 2F4A 2F4A 6728; 2F4B 2F4B 6B20; 2F4C 2F4C 6B62;
    2F4D 2F4D 6B79; 2F4E 2F4E 6BB3; 2F4F 2F4F 6BCB; 2F50 2F50 6BD4; 2F51 2F51 6BDB;
    2F52 2F52 6C0F; 2F53 2F53 6C14; 2F54 2F54 6C34; 2F55 2F55 706B; 2F56 2F56 722A;
    2F57 2F57 7236; 2F58 2F58 723B; 2F59 2F59 723F; 2F5A 2F5A 7247; 2F5B 2F5B 7259;
    2F5C 2F5C 725B; 2F5D 2F5D 72AC; 2F5E 2F5E 7384; 2F5F 2F5F 7389; 2F60 2F60 74DC;
    2F61 2F61 74E6; 2F62 2F62 7518; 2F63 2F63 751F; 2F64 2F64 7528; 2F65 2F65 7530;
    2F66 2F66 758B; 2F67 2F67 7592; 2F68 2F68 7676; 2F69 2F69 767D; 2F6A 2F6A 76AE;
    2F6B 2F6B 76BF; 2F6C 2F6C 76EE; 2F6D 2F6D 77DB; 2F6E 2F6E 77E2; 2F6F 2F6F 77F3;
    2F70 2F70 793A; 2F71 2F71 79B8; 2F72 2F72 79BE; 2F73 2F73 7A74; 2F74 2F74 7ACB;
    2F75 2F75 7AF9; 2F76 2F76 7C73; 2F77 2F77 7CF8; 2F78 2F78 7F36; 2F79 2F79 7F51;
    2F7A 2F7A 7F8A; 2F7B 2F7B 7FBD; 2F7C 2F7C 8001; 2F7D 2F7D 800C; 2F7E 2F7E 8012;
    2F7F 2F7F 8033; 2F80 2F80 807F; 2F81 2F81 8089; 2F82 2F82 81E3; 2F83 2F83 81EA;
    2F84 2F84 81F3; 2F85 2F85 81FC; 2F86 2F86 820C; 2F87 2F87 821B; 2F88 2F88 821F;
    2F89 2F89 826E; 2F8A 2F8A 8272; 2F8B 2F8B 8278; 2F8C 2F8C 864D; 2F8D 2F8D 866B;
    2F8E 2F8E 8840; 2F8F 2F8F 884C; 2F90 2F90 8863; 2F91 2F91 897E; 2F92 2F92 898B;
    2F93 2F93 89D2; 2F94 2F94 8A00; 2F95 2F95 8C37; 2F96 2F96 8C46; 2F97 2F97 8C55;
    2F98 2F98 8C78; 2F99 2F99 8C9D; 2F9A 2F9A 8D64; 2F9B 2F9B 8D70; 2F9C 2F9C 8DB3;
    2F9D 2F9D 8EAB; 2F9E 2F9E 8ECA; 2F9F 2F9F 8F9B; 2FA0 2FA0 8FB0; 2FA1 2FA1 8FB5;
    2FA2 2FA2 9091; 2FA3 2FA3 9149; 2FA4 2FA4 91C6; 2FA5 2FA5 91CC; 2FA6 2FA6 91D1;
    2FA7 2FA7 9577; 2FA8 2FA8 9580; 2FA9 2FA9 961C; 2FAA 2FAA 96B6; 2FAB 2FAB 96B9;
    2FAC 2FAC 96E8; 2FAD 2FAD 9751; 2FAE 2FAE 975E; 2FAF 2FAF 9762; 2FB0 2FB0 9769;
    2FB1 2FB1 97CB; 2FB2 2FB2 97ED; 2FB3 2FB3 97F3; 2FB4 2FB4 9801; 2FB5 2FB5 98A8;
    2FB6 2FB6 98DB; 2FB7 2FB7 98DF; 2FB8 2FB8 9996; 2FB9 2FB9 9999; 2FBA 2FBA 99AC;
    2FBB 2FBB 9AA8; 2FBC 2FBC 9AD8; 2FBD 2FBD 9ADF; 2FBE 2FBE 9B25; 2FBF 2FBF 9B2F;
    2FC0 2FC0 9B32; 2FC1 2FC1 9B3C; 2FC2 2FC2 9B5A; 2FC3 2FC3 9CE5; 2FC4 2FC4 9E75;
    2FC5 2FC5 9E7F; 2FC6 2FC6 9EA5; 2FC7 2FC7 9EBB; 2FC8 2FC8 9EC3; 2FC9 2FC9 9ECD;
    2FCA 2FCA 9ED1; 2FCB 2FCB 9EF9; 2FCC 2FCC 9EFD; 2FCD 2FCD 9F0E; 2FCE 2FCE 9F13;
    2FCF 2FCF 9F20; 2FD0 2FD0 9F3B; 2FD1 2FD1 9F4A; 2FD2 2FD2 9F52; 2FD3 2FD3 9F8D;
    2FD4 2FD4 9F9C; 2FD5 2FD5 9FA0; 3000 3000 20; 3002 3002 2E; 3036 3036 3012;
    3038 3038 5341; 3039 303A 5344; 3131 3132 1100; 3133 3133 11AA; 3134 3134 1102;
    3135 3136 11AC; 3137 3139 1103; 313A 313F 11B0; 3140 3140 111A; 3141 3143 1106;
    3144 3144 1121; 3145 314E 1109; 314F 3163 1161; 3165 3166 1114; 3167 3168 11C7;
    3169 3169 11CC; 316A 316A 11CE; 316B 316B 11D3; 316C 316C 11D7; 316D 316D 11D9;
    316E 316E 111C; 316F 316F 11DD; 3170 3170 11DF; 3171 3172 111D; 3173 3173 1120;
    3174 3175 1122; 3176 3176 1127; 3177 3177 1129; 3178 317C 112B; 317D 317D 1132;
    317E 317E 1136; 317F 317F 1140; 3180 3180 1147; 3181 3181 114C; 3182 3183 11F1;
    3184 3186 1157; 3187 3188 1184; 3189 3189 1188; 318A 318B 1191; 318C 318C 1194;
    318D 318D 119E; 318E 318E 11A1; 3192 3192 4E00; 3193 3193 4E8C; 3194 3194 4E09;
    3195 3195 56DB; 3196 3196 4E0A; 3197 3197 4E2D; 3198 3198 4E0B; 3199 3199 7532;
    319A 319A 4E59; 319B 319B 4E19; 319C 319C 4E01; 319D 319D 5929; 319E 319E 5730;
    319F 319F 4EBA; 3244 3244 554F; 3245 3245 5E7C; 3246 3246 6587; 3247 3247 7B8F;
    3260 3260 1100; 3261 3262 1102; 3263 3265 1105; 3266 3266 1109; 3267 3268 110B;
    3269 326D 110E; 326E 326E AC00; 326F 326F B098; 3270 3270 B2E4; 3271 3271 B77C;
    3272 3272 B9C8; 3273 3273 BC14; 3274 3274 C0AC; 3275 3275 C544; 3276 3276 C790;
    3277 3277 CC28; 3278 3278 CE74; 3279 3279 D0C0; 327A 327A D30C; 327B 327B D558;
    327E 327E C6B0; 3280 3280 4E00; 3281 3281 4E8C; 3282 3282 4E09; 3283 3283 56DB;
    3284 3284 4E94; 3285 3285 516D; 3286 3286 4E03; 3287 3287 516B; 3288 3288 4E5D;
    3289 3289 5341; 328A 328A 6708; 328B 328B 706B; 328C 328C 6C34; 328D 328D 6728;
    328E 328E 91D1; 328F 328F 571F; 3290 3290 65E5; 3291 3291 682A; 3292 3292 6709;
    3293 3293 793E; 3294 3294 540D; 3295 3295 7279; 3296 3296 8CA1; 3297 3297 795D;
    3298 3298 52B4; 3299 3299 79D8; 329A 329A 7537; 329B 329B 5973; 329C 329C 9069;
    329D 329D 512A; 329E 329E 5370; 329F 329F 6CE8; 32A0 32A0 9805; 32A1 32A1 4F11;
    32A2 32A2 5199; 32A3 32A3 6B63; 32A4 32A4 4E0A; 32A5 32A5 4E2D; 32A6 32A6 4E0B;
    32A7 32A7 5DE6; 32A8 32A8 53F3; 32A9 32A9 533B; 32AA 32AA 5B97; 32AB 32AB 5B66;
    32AC 32AC 76E3; 32AD 32AD 4F01; 32AE 32AE 8CC7; 32AF 32AF 5354; 32B0 32B0 591C;
    32D0 32D0 30A2; 32D1 32D1 30A4; 32D2 32D2 30A6; 32D3 32D3 30A8; 32D4 32D5 30AA;
    32D6 32D6 30AD; 32D7 32D7 30AF; 32D8 32D8 30B1; 32D9 32D9 30B3; 32DA 32DA 30B5;
    32DB 32DB 30B7; 32DC 32DC 30B9; 32DD 32DD 30BB; 32DE 32DE 30BD; 32DF 32DF 30BF;
    32E0 32E0 30C1; 32E1 32E1 30C4; 32E2 32E2 30C6; 32E3 32E3 30C8; 32E4 32E9 30CA;
    32EA 32EA 30D2; 32EB 32EB 30D5; 32EC 32EC 30D8; 32ED 32ED 30DB; 32EE 32F2 30DE;
    32F3 32F3 30E4; 32F4 32F4 30E6; 32F5 32FA 30E8; 32FB 32FE 30EF; A69C A69C 44A;
    A69D A69D 44C; A770 A770 A76F; A7F1 A7F1 73; A7F2 A7F2 63; A7F3 A7F3 66; A7F4 A7F4 71;
    A7F8 A7F8 127; A7F9 A7F9 153; AB5C AB5C A727; AB5D AB5D AB37; AB5E AB5E 26B;
    AB5F AB5F AB52; AB69 AB69 28D; AB70 ABBF 13A0; FB20 FB20 5E2; FB21 FB21 5D0;
    FB22 FB23 5D3; FB24 FB26 5DB; FB27 FB27 5E8; FB28 FB28 5EA; FB29 FB29 2B; FB50 FB50 671;
    FB51 FB51 671; FB52 FB52 67B; FB53 FB53 67B; FB54 FB54 67B; FB55 FB55 67B; FB56 FB56 67E;
    FB57 FB57 67E; FB58 FB58 67E; FB59 FB59 67E; FB5A FB5A 680; FB5B FB5B 680; FB5C FB5C 680;
    FB5D FB5D 680; FB5E FB5E 67A; FB5F FB5F 67A; FB60 FB60 67A; FB61 FB61 67A; FB62 FB62 67F;
    FB63 FB63 67F; FB64 FB64 67F; FB65 FB65 67F; FB66 FB66 679; FB67 FB67 679; FB68 FB68 679;
    FB69 FB69 679; FB6A FB6A 6A4; FB6B FB6B 6A4; FB6C FB6C 6A4; FB6D FB6D 6A4; FB6E FB6E 6A6;
    FB6F FB6F 6A6; FB70 FB70 6A6; FB71 FB71 6A6; FB72 FB72 684; FB73 FB73 684; FB74 FB74 684;
    FB75 FB75 684; FB76 FB76 683; FB77 FB77 683; FB78 FB78 683; FB79 FB79 683; FB7A FB7A 686;
    FB7B FB7B 686; FB7C FB7C 686; FB7D FB7E 686; FB7F FB7F 687; FB80 FB80 687; FB81 FB81 687;
    FB82 FB82 68D; FB83 FB83 68D; FB84 FB84 68C; FB85 FB85 68C; FB86 FB86 68E; FB87 FB87 68E;
    FB88 FB88 688; FB89 FB89 688; FB8A FB8A 698; FB8B FB8B 698; FB8C FB8C 691; FB8D FB8D 691;
    FB8E FB8E 6A9; FB8F FB8F 6A9; FB90 FB90 6A9; FB91 FB91 6A9; FB92 FB92 6AF; FB93 FB93 6AF;
    FB94 FB94 6AF; FB95 FB95 6AF; FB96 FB96 6B3; FB97 FB97 6B3; FB98 FB98 6B3; FB99 FB99 6B3;
    FB9A FB9A 6B1; FB9B FB9B 6B1; FB9C FB9C 6B1; FB9D FB9D 6B1; FB9E FB9E 6BA; FB9F FBA0 6BA;
    FBA1 FBA1 6BB; FBA2 FBA2 6BB; FBA3 FBA3 6BB; FBA4 FBA4 6C0; FBA5 FBA6 6C0; FBA7 FBA7 6C1;
    FBA8 FBA8 6C1; FBA9 FBA9 6C1; FBAA FBAA 6BE; FBAB FBAB 6BE; FBAC FBAC 6BE; FBAD FBAD 6BE;
    FBAE FBAE 6D2; FBAF FBB0 6D2; FBB1 FBB1 6D3; FBD3 FBD3 6AD; FBD4 FBD4 6AD; FBD5 FBD5 6AD;
    FBD6 FBD6 6AD; FBD7 FBD7 6C7; FBD8 FBD8 6C7; FBD9 FBD9 6C6; FBDA FBDA 6C6; FBDB FBDB 6C8;
    FBDC FBDC 6C8; FBDE FBDE 6CB; FBDF FBDF 6CB; FBE0 FBE0 6C5; FBE1 FBE1 6C5; FBE2 FBE2 6C9;
    FBE3 FBE3 6C9; FBE4 FBE4 6D0; FBE5 FBE5 6D0; FBE6 FBE6 6D0; FBE7 FBE7 6D0; FBE8 FBE8 649;
    FBE9 FBE9 649; FBFC FBFC 6CC; FBFD FBFD 6CC; FBFE FBFE 6CC; FBFF FBFF 6CC; FE10 FE10 2C;
    FE11 FE11 3001; FE13 FE14 3A; FE15 FE15 21; FE16 FE16 3F; FE17 FE18 3016; FE31 FE31 2014;
    FE32 FE32 2013; FE33 FE33 5F; FE34 FE34 5F; FE35 FE36 28; FE37 FE37 7B; FE38 FE38 7D;
    FE39 FE3A 3014; FE3B FE3C 3010; FE3D FE3E 300A; FE3F FE40 3008; FE41 FE44 300C;
    FE47 FE47 5B; FE48 FE48 5D; FE4D FE4D 5F; FE4E FE4E 5F; FE4F FE4F 5F; FE50 FE50 2C;
    FE51 FE51 3001; FE54 FE54 3B; FE55 FE55 3A; FE56 FE56 3F; FE57 FE57 21; FE58 FE58 2014;
    FE59 FE5A 28; FE5B FE5B 7B; FE5C FE5C 7D; FE5D FE5E 3014; FE5F FE5F 23; FE60 FE60 26;
    FE61 FE62 2A; FE63 FE63 2D; FE64 FE64 3C; FE65 FE65 3E; FE66 FE66 3D; FE68 FE68 5C;
    FE69 FE6A 24; FE6B FE6B 40; FE80 FE81 621; FE82 FE83 622; FE84 FE85 623; FE86 FE87 624;
    FE88 FE89 625; FE8A FE8A 626; FE8B FE8B 626; FE8C FE8D 626; FE8E FE8F 627; FE90 FE90 628;
    FE91 FE91 628; FE92 FE93 628; FE94 FE95 629; FE96 FE96 62A; FE97 FE97 62A; FE98 FE99 62A;
    FE9A FE9A 62B; FE9B FE9B 62B; FE9C FE9D 62B; FE9E FE9E 62C; FE9F FE9F 62C; FEA0 FEA1 62C;
    FEA2 FEA2 62D; FEA3 FEA3 62D; FEA4 FEA5 62D; FEA6 FEA6 62E; FEA7 FEA7 62E; FEA8 FEA9 62E;
    FEAA FEAB 62F; FEAC FEAD 630; FEAE FEAF 631; FEB0 FEB1 632; FEB2 FEB2 633; FEB3 FEB3 633;
    FEB4 FEB5 633; FEB6 FEB6 634; FEB7 FEB7 634; FEB8 FEB9 634; FEBA FEBA 635; FEBB FEBB 635;
    FEBC FEBD 635; FEBE FEBE 636; FEBF FEBF 636; FEC0 FEC1 636; FEC2 FEC2 637; FEC3 FEC3 637;
    FEC4 FEC5 637; FEC6 FEC6 638; FEC7 FEC7 638; FEC8 FEC9 638; FECA FECA 639; FECB FECB 639;
    FECC FECD 639; FECE FECE 63A; FECF FECF 63A; FED0 FED0 63A; FED1 FED1 641; FED2 FED2 641;
    FED3 FED3 641; FED4 FED5 641; FED6 FED6 642; FED7 FED7 642; FED8 FED9 642; FEDA FEDA 643;
    FEDB FEDB 643; FEDC FEDD 643; FEDE FEDE 644; FEDF FEDF 644; FEE0 FEE1 644; FEE2 FEE2 645;
    FEE3 FEE3 645; FEE4 FEE5 645; FEE6 FEE6 646; FEE7 FEE7 646; FEE8 FEE9 646; FEEA FEEA 647;
    FEEB FEEB 647; FEEC FEED 647; FEEE FEEF 648; FEF0 FEF1 649; FEF2 FEF2 64A; FEF3 FEF3 64A;
    FEF4 FEF4 64A; FF01 FF20 21; FF21 FF3A 61; FF3B FF5E 5B; FF5F FF60 2985; FF61 FF61 2E;
    FF62 FF63 300C; FF64 FF64 3001; FF65 FF65 30FB; FF66 FF66 30F2; FF67 FF67 30A1;
    FF68 FF68 30A3; FF69 FF69 30A5; FF6A FF6A 30A7; FF6B FF6B 30A9; FF6C FF6C 30E3;
    FF6D FF6D 30E5; FF6E FF6E 30E7; FF6F FF6F 30C3; FF70 FF70 30FC; FF71 FF71 30A2;
    FF72 FF72 30A4; FF73 FF73 30A6; FF74 FF74 30A8; FF75 FF76 30AA; FF77 FF77 30AD;
    FF78 FF78 30AF; FF79 FF79 30B1; FF7A FF7A 30B3; FF7B FF7B 30B5; FF7C FF7C 30B7;
    FF7D FF7D 30B9; FF7E FF7E 30BB; FF7F FF7F 30BD; FF80 FF80 30BF; FF81 FF81 30C1;
    FF82 FF82 30C4; FF83 FF83 30C6; FF84 FF84 30C8; FF85 FF8A 30CA; FF8B FF8B 30D2;
    FF8C FF8C 30D5; FF8D FF8D 30D8; FF8E FF8E 30DB; FF8F FF93 30DE; FF94 FF94 30E4;
    FF95 FF95 30E6; FF96 FF9B 30E8; FF9C FF9C 30EF; FF9D FF9D 30F3; FF9E FF9F 3099;
    FFA1 FFA2 1100; FFA3 FFA3 11AA; FFA4 FFA4 1102; FFA5 FFA6 11AC; FFA7 FFA9 1103;
    FFAA FFAF 11B0; FFB0 FFB0 111A; FFB1 FFB3 1106; FFB4 FFB4 1121; FFB5 FFBE 1109;
    FFC2 FFC7 1161; FFCA FFCF 1167; FFD2 FFD7 116D; FFDA FFDC 1173; FFE0 FFE1 A2;
    FFE2 FFE2 AC; FFE4 FFE4 A6; FFE5 FFE5 A5; FFE6 FFE6 20A9; FFE8 FFE8 2502; FFE9 FFEC 2190;
    FFED FFED 25A0; FFEE FFEE 25CB; 10781 10782 2D0; 10783 10783 E6; 10784 10784 299;
    10785 10785 253; 10787 10787 2A3; 10788 10788 AB66; 10789 10789 2A5; 1078A 1078A 2A4;
    1078B 1078C 256; 1078D 1078D 1D91; 1078E 1078E 258; 1078F 1078F 25E; 10790 10790 2A9;
    10791 10791 264; 10792 10792 262; 10793 10793 260; 10794 10794 29B; 10795 10795 127;
    10796 10796 29C; 10797 10797 267; 10798 10798 284; 10799 1079A 2AA; 1079B 1079B 26C;
    1079C 1079C 1DF04; 1079D 1079D A78E; 1079E 1079E 26E; 1079F 1079F 1DF05; 107A0 107A0 28E;
    107A1 107A1 1DF06; 107A2 107A2 F8; 107A3 107A4 276; 107A5 107A5 71; 107A6 107A6 27A;
    107A7 107A7 1DF08; 107A8 107A9 27D; 107AA 107AA 280; 107AB 107AB 2A8; 107AC 107AC 2A6;
    107AD 107AD AB67; 107AE 107AE 2A7; 107AF 107AF 288; 107B0 107B0 2C71; 107B2 107B2 28F;
    107B3 107B4 2A1; 107B5 107B5 298; 107B6 107B8 1C0; 107B9 107B9 1DF0A; 107BA 107BA 1DF1E;
    1CCD6 1CCEF 61; 1CCF0 1CCF9 30; 1D400 1D419 61; 1D41A 1D433 61; 1D434 1D44D 61;
    1D44E 1D454 61; 1D456 1D467 69; 1D468 1D481 61; 1D482 1D49B 61; 1D49C 1D49C 61;
    1D49E 1D49F 63; 1D4A2 1D4A2 67; 1D4A5 1D4A6 6A; 1D4A9 1D4AC 6E; 1D4AE 1D4B5 73;
    1D4B6 1D4B9 61; 1D4BB 1D4BB 66; 1D4BD 1D4C3 68; 1D4C5 1D4CF 70; 1D4D0 1D4E9 61;
    1D4EA 1D503 61; 1D504 1D505 61; 1D507 1D50A 64; 1D50D 1D514 6A; 1D516 1D51C 73;
    1D51E 1D537 61; 1D538 1D539 61; 1D53B 1D53E 64; 1D540 1D544 69; 1D546 1D546 6F;
    1D54A 1D550 73; 1D552 1D56B 61; 1D56C 1D585 61; 1D586 1D59F 61; 1D5A0 1D5B9 61;
    1D5BA 1D5D3 61; 1D5D4 1D5ED 61; 1D5EE 1D607 61; 1D608 1D621 61; 1D622 1D63B 61;
    1D63C 1D655 61; 1D656 1D66F 61; 1D670 1D689 61; 1D68A 1D6A3 61; 1D6A4 1D6A4 131;
    1D6A5 1D6A5 237; 1D6A8 1D6B8 3B1; 1D6B9 1D6B9 3B8; 1D6BA 1D6C0 3C3; 1D6C1 1D6C1 2207;
    1D6C2 1D6D2 3B1; 1D6D3 1D6D3 3C3; 1D6D4 1D6DA 3C3; 1D6DB 1D6DB 2202; 1D6DC 1D6DC 3B5;
    1D6DD 1D6DD 3B8; 1D6DE 1D6DE 3BA; 1D6DF 1D6DF 3C6; 1D6E0 1D6E0 3C1; 1D6E1 1D6E1 3C0;
    1D6E2 1D6F2 3B1; 1D6F3 1D6F3 3B8; 1D6F4 1D6FA 3C3; 1D6FB 1D6FB 2207; 1D6FC 1D70C 3B1;
    1D70D 1D70D 3C3; 1D70E 1D714 3C3; 1D715 1D715 2202; 1D716 1D716 3B5; 1D717 1D717 3B8;
    1D718 1D718 3BA; 1D719 1D719 3C6; 1D71A 1D71A 3C1; 1D71B 1D71B 3C0; 1D71C 1D72C 3B1;
    1D72D 1D72D 3B8; 1D72E 1D734 3C3; 1D735 1D735 2207; 1D736 1D746 3B1; 1D747 1D747 3C3;
    1D748 1D74E 3C3; 1D74F 1D74F 2202; 1D750 1D750 3B5; 1D751 1D751 3B8; 1D752 1D752 3BA;
    1D753 1D753 3C6; 1D754 1D754 3C1; 1D755 1D755 3C0; 1D756 1D766 3B1; 1D767 1D767 3B8;
    1D768 1D76E 3C3; 1D76F 1D76F 2207; 1D770 1D780 3B1; 1D781 1D781 3C3; 1D782 1D788 3C3;
    1D789 1D789 2202; 1D78A 1D78A 3B5; 1D78B 1D78B 3B8; 1D78C 1D78C 3BA; 1D78D 1D78D 3C6;
    1D78E 1D78E 3C1; 1D78F 1D78F 3C0; 1D790 1D7A0 3B1; 1D7A1 1D7A1 3B8; 1D7A2 1D7A8 3C3;
    1D7A9 1D7A9 2207; 1D7AA 1D7BA 3B1; 1D7BB 1D7BB 3C3; 1D7BC 1D7C2 3C3; 1D7C3 1D7C3 2202;
    1D7C4 1D7C4 3B5; 1D7C5 1D7C5 3B8; 1D7C6 1D7C6 3BA; 1D7C7 1D7C7 3C6; 1D7C8 1D7C8 3C1;
    1D7C9 1D7C9 3C0; 1D7CA 1D7CA 3DD; 1D7CB 1D7CB 3DD; 1D7CE 1D7D7 30; 1D7D8 1D7E1 30;
    1D7E2 1D7EB 30; 1D7EC 1D7F5 30; 1D7F6 1D7FF 30; 1E030 1E038 430; 1E039 1E03B 43A;
    1E03C 1E046 43E; 1E047 1E047 44B; 1E048 1E049 44D; 1E04A 1E04A A689; 1E04B 1E04B 4D9;
    1E04C 1E04C 456; 1E04D 1E04D 458; 1E04E 1E04E 4E9; 1E04F 1E04F 4AF; 1E050 1E050 4CF;
    1E051 1E059 430; 1E05A 1E05B 43A; 1E05C 1E05D 43E; 1E05E 1E05E 441; 1E05F 1E064 443;
    1E065 1E066 44A; 1E067 1E067 491; 1E068 1E068 456; 1E069 1E069 455; 1E06A 1E06A 45F;
    1E06B 1E06B 4AB; 1E06C 1E06C A651; 1E06D 1E06D 4B1; 1EE00 1EE01 627; 1EE02 1EE02 62C;
    1EE03 1EE03 62F; 1EE05 1EE05 648; 1EE06 1EE06 632; 1EE07 1EE07 62D; 1EE08 1EE08 637;
    1EE09 1EE09 64A; 1EE0A 1EE0D 643; 1EE0E 1EE0E 633; 1EE0F 1EE0F 639; 1EE10 1EE10 641;
    1EE11 1EE11 635; 1EE12 1EE12 642; 1EE13 1EE13 631; 1EE14 1EE14 634; 1EE15 1EE16 62A;
    1EE17 1EE17 62E; 1EE18 1EE18 630; 1EE19 1EE19 636; 1EE1A 1EE1A 638; 1EE1B 1EE1B 63A;
    1EE1C 1EE1C 66E; 1EE1D 1EE1D 6BA; 1EE1E 1EE1E 6A1; 1EE1F 1EE1F 66F; 1EE21 1EE21 628;
    1EE22 1EE22 62C; 1EE24 1EE24 647; 1EE27 1EE27 62D; 1EE29 1EE29 64A; 1EE2A 1EE2D 643;
    1EE2E 1EE2E 633; 1EE2F 1EE2F 639; 1EE30 1EE30 641; 1EE31 1EE31 635; 1EE32 1EE32 642;
    1EE34 1EE34 634; 1EE35 1EE36 62A; 1EE37 1EE37 62E; 1EE39 1EE39 636; 1EE3B 1EE3B 63A;
    1EE42 1EE42 62C; 1EE47 1EE47 62D; 1EE49 1EE49 64A; 1EE4B 1EE4B 644; 1EE4D 1EE4D 646;
    1EE4E 1EE4E 633; 1EE4F 1EE4F 639; 1EE51 1EE51 635; 1EE52 1EE52 642; 1EE54 1EE54 634;
    1EE57 1EE57 62E; 1EE59 1EE59 636; 1EE5B 1EE5B 63A; 1EE5D 1EE5D 6BA; 1EE5F 1EE5F 66F;
    1EE61 1EE61 628; 1EE62 1EE62 62C; 1EE64 1EE64 647; 1EE67 1EE67 62D; 1EE68 1EE68 637;
    1EE69 1EE69 64A; 1EE6A 1EE6A 643; 1EE6C 1EE6D 645; 1EE6E 1EE6E 633; 1EE6F 1EE6F 639;
    1EE70 1EE70 641; 1EE71 1EE71 635; 1EE72 1EE72 642; 1EE74 1EE74 634; 1EE75 1EE76 62A;
    1EE77 1EE77 62E; 1EE79 1EE79 636; 1EE7A 1EE7A 638; 1EE7B 1EE7B 63A; 1EE7C 1EE7C 66E;
    1EE7E 1EE7E 6A1; 1EE80 1EE81 627; 1EE82 1EE82 62C; 1EE83 1EE83 62F; 1EE84 1EE85 647;
    1EE86 1EE86 632; 1EE87 1EE87 62D; 1EE88 1EE88 637; 1EE89 1EE89 64A; 1EE8B 1EE8D 644;
    1EE8E 1EE8E 633; 1EE8F 1EE8F 639; 1EE90 1EE90 641; 1EE91 1EE91 635; 1EE92 1EE92 642;
    1EE93 1EE93 631; 1EE94 1EE94 634; 1EE95 1EE96 62A; 1EE97 1EE97 62E; 1EE98 1EE98 630;
    1EE99 1EE99 636; 1EE9A 1EE9A 638; 1EE9B 1EE9B 63A; 1EEA1 1EEA1 628; 1EEA2 1EEA2 62C;
    1EEA3 1EEA3 62F; 1EEA5 1EEA5 648; 1EEA6 1EEA6 632; 1EEA7 1EEA7 62D; 1EEA8 1EEA8 637;
    1EEA9 1EEA9 64A; 1EEAB 1EEAD 644; 1EEAE 1EEAE 633; 1EEAF 1EEAF 639; 1EEB0 1EEB0 641;
    1EEB1 1EEB1 635; 1EEB2 1EEB2 642; 1EEB3 1EEB3 631; 1EEB4 1EEB4 634; 1EEB5 1EEB6 62A;
    1EEB7 1EEB7 62E; 1EEB8 1EEB8 630; 1EEB9 1EEB9 636; 1EEBA 1EEBA 638; 1EEBB 1EEBB 63A;
    1F12B 1F12B 63; 1F12C 1F12C 72; 1F130 1F149 61; 1F202 1F202 30B5; 1F210 1F210 624B;
    1F211 1F211 5B57; 1F212 1F212 53CC; 1F213 1F213 30C7; 1F214 1F214 4E8C; 1F215 1F215 591A;
    1F216 1F216 89E3; 1F217 1F217 5929; 1F218 1F218 4EA4; 1F219 1F219 6620; 1F21A 1F21A 7121;
    1F21B 1F21B 6599; 1F21C 1F21C 524D; 1F21D 1F21D 5F8C; 1F21E 1F21E 518D; 1F21F 1F21F 65B0;
    1F220 1F220 521D; 1F221 1F221 7D42; 1F222 1F222 751F; 1F223 1F223 8CA9; 1F224 1F224 58F0;
    1F225 1F225 5439; 1F226 1F226 6F14; 1F227 1F227 6295; 1F228 1F228 6355; 1F229 1F229 4E00;
    1F22A 1F22A 4E09; 1F22B 1F22B 904A; 1F22C 1F22C 5DE6; 1F22D 1F22D 4E2D; 1F22E 1F22E 53F3;
    1F22F 1F22F 6307; 1F230 1F230 8D70; 1F231 1F231 6253; 1F232 1F232 7981; 1F233 1F233 7A7A;
    1F234 1F234 5408; 1F235 1F235 6E80; 1F236 1F236 6709; 1F237 1F237 6708; 1F238 1F238 7533;
    1F239 1F239 5272; 1F23A 1F23A 55B6; 1F23B 1F23B 914D; 1F250 1F250 5F97; 1F251 1F251 53EF;
    1FBF0 1FBF9 30"

def spelledOutRows : List (List Nat) := Text.Table.rows
  "A8 20 308; AF 20 304; B4 20 301; B8 20 327; BC 31 2044 34; BD 31 2044 32; BE 33 2044 34;
    132 69 6A; 133 69 6A; 13F 6C B7; 140 6C B7; 149 2BC 6E; 1C4 64 17E; 1C5 64 17E;
    1C6 64 17E; 1C7 6C 6A; 1C8 6C 6A; 1C9 6C 6A; 1CA 6E 6A; 1CB 6E 6A; 1CC 6E 6A; 1F1 64 7A;
    1F2 64 7A; 1F3 64 7A; 2D8 20 306; 2D9 20 307; 2DA 20 30A; 2DB 20 328; 2DC 20 303;
    2DD 20 30B; 37A 20 3B9; 384 20 301; 385 20 308 301; 587 565 582; 675 627 674; 676 648 674;
    677 6C7 674; 678 64A 674; E33 E4D E32; EB3 ECD EB2; EDC EAB E99; EDD EAB EA1;
    F77 FB2 F71 F80; F79 FB3 F71 F80; 1E9A 61 2BE; 1F80 1F00 3B9; 1F81 1F01 3B9;
    1F82 1F02 3B9; 1F83 1F03 3B9; 1F84 1F04 3B9; 1F85 1F05 3B9; 1F86 1F06 3B9; 1F87 1F07 3B9;
    1F88 1F00 3B9; 1F89 1F01 3B9; 1F8A 1F02 3B9; 1F8B 1F03 3B9; 1F8C 1F04 3B9; 1F8D 1F05 3B9;
    1F8E 1F06 3B9; 1F8F 1F07 3B9; 1F90 1F20 3B9; 1F91 1F21 3B9; 1F92 1F22 3B9; 1F93 1F23 3B9;
    1F94 1F24 3B9; 1F95 1F25 3B9; 1F96 1F26 3B9; 1F97 1F27 3B9; 1F98 1F20 3B9; 1F99 1F21 3B9;
    1F9A 1F22 3B9; 1F9B 1F23 3B9; 1F9C 1F24 3B9; 1F9D 1F25 3B9; 1F9E 1F26 3B9; 1F9F 1F27 3B9;
    1FA0 1F60 3B9; 1FA1 1F61 3B9; 1FA2 1F62 3B9; 1FA3 1F63 3B9; 1FA4 1F64 3B9; 1FA5 1F65 3B9;
    1FA6 1F66 3B9; 1FA7 1F67 3B9; 1FA8 1F60 3B9; 1FA9 1F61 3B9; 1FAA 1F62 3B9; 1FAB 1F63 3B9;
    1FAC 1F64 3B9; 1FAD 1F65 3B9; 1FAE 1F66 3B9; 1FAF 1F67 3B9; 1FB2 1F70 3B9; 1FB3 3B1 3B9;
    1FB4 3AC 3B9; 1FB7 1FB6 3B9; 1FBC 3B1 3B9; 1FBD 20 313; 1FBF 20 313; 1FC0 20 342;
    1FC1 20 308 342; 1FC2 1F74 3B9; 1FC3 3B7 3B9; 1FC4 3AE 3B9; 1FC7 1FC6 3B9; 1FCC 3B7 3B9;
    1FCD 20 313 300; 1FCE 20 313 301; 1FCF 20 313 342; 1FDD 20 314 300; 1FDE 20 314 301;
    1FDF 20 314 342; 1FED 20 308 300; 1FEE 20 308 301; 1FF2 1F7C 3B9; 1FF3 3C9 3B9;
    1FF4 3CE 3B9; 1FF7 1FF6 3B9; 1FFC 3C9 3B9; 1FFD 20 301; 1FFE 20 314; 2017 20 333;
    2033 2032 2032; 2034 2032 2032 2032; 2036 2035 2035; 2037 2035 2035 2035; 203C 21 21;
    203E 20 305; 2047 3F 3F; 2048 3F 21; 2049 21 3F; 2057 2032 2032 2032 2032; 20A8 72 73;
    2100 61 2F 63; 2101 61 2F 73; 2103 B0 63; 2105 63 2F 6F; 2106 63 2F 75; 2109 B0 66;
    2116 6E 6F; 2120 73 6D; 2121 74 65 6C; 2122 74 6D; 213B 66 61 78; 2150 31 2044 37;
    2151 31 2044 39; 2152 31 2044 31 30; 2153 31 2044 33; 2154 32 2044 33; 2155 31 2044 35;
    2156 32 2044 35; 2157 33 2044 35; 2158 34 2044 35; 2159 31 2044 36; 215A 35 2044 36;
    215B 31 2044 38; 215C 33 2044 38; 215D 35 2044 38; 215E 37 2044 38; 215F 31 2044;
    2161 69 69; 2162 69 69 69; 2163 69 76; 2165 76 69; 2166 76 69 69; 2167 76 69 69 69;
    2168 69 78; 216A 78 69; 216B 78 69 69; 2171 69 69; 2172 69 69 69; 2173 69 76; 2175 76 69;
    2176 76 69 69; 2177 76 69 69 69; 2178 69 78; 217A 78 69; 217B 78 69 69; 2189 30 2044 33;
    222C 222B 222B; 222D 222B 222B 222B; 222F 222E 222E; 2230 222E 222E 222E; 2469 31 30;
    246A 31 31; 246B 31 32; 246C 31 33; 246D 31 34; 246E 31 35; 246F 31 36; 2470 31 37;
    2471 31 38; 2472 31 39; 2473 32 30; 2474 28 31 29; 2475 28 32 29; 2476 28 33 29;
    2477 28 34 29; 2478 28 35 29; 2479 28 36 29; 247A 28 37 29; 247B 28 38 29; 247C 28 39 29;
    247D 28 31 30 29; 247E 28 31 31 29; 247F 28 31 32 29; 2480 28 31 33 29; 2481 28 31 34 29;
    2482 28 31 35 29; 2483 28 31 36 29; 2484 28 31 37 29; 2485 28 31 38 29; 2486 28 31 39 29;
    2487 28 32 30 29; 249C 28 61 29; 249D 28 62 29; 249E 28 63 29; 249F 28 64 29;
    24A0 28 65 29; 24A1 28 66 29; 24A2 28 67 29; 24A3 28 68 29; 24A4 28 69 29; 24A5 28 6A 29;
    24A6 28 6B 29; 24A7 28 6C 29; 24A8 28 6D 29; 24A9 28 6E 29; 24AA 28 6F 29; 24AB 28 70 29;
    24AC 28 71 29; 24AD 28 72 29; 24AE 28 73 29; 24AF 28 74 29; 24B0 28 75 29; 24B1 28 76 29;
    24B2 28 77 29; 24B3 28 78 29; 24B4 28 79 29; 24B5 28 7A 29; 2A0C 222B 222B 222B 222B;
    2A74 3A 3A 3D; 2A75 3D 3D; 2A76 3D 3D 3D; 309B 20 3099; 309C 20 309A; 309F 3088 308A;
    30FF 30B3 30C8; 3200 28 1100 29; 3201 28 1102 29; 3202 28 1103 29; 3203 28 1105 29;
    3204 28 1106 29; 3205 28 1107 29; 3206 28 1109 29; 3207 28 110B 29; 3208 28 110C 29;
    3209 28 110E 29; 320A 28 110F 29; 320B 28 1110 29; 320C 28 1111 29; 320D 28 1112 29;
    320E 28 AC00 29; 320F 28 B098 29; 3210 28 B2E4 29; 3211 28 B77C 29; 3212 28 B9C8 29;
    3213 28 BC14 29; 3214 28 C0AC 29; 3215 28 C544 29; 3216 28 C790 29; 3217 28 CC28 29;
    3218 28 CE74 29; 3219 28 D0C0 29; 321A 28 D30C 29; 321B 28 D558 29; 321C 28 C8FC 29;
    321D 28 C624 C804 29; 321E 28 C624 D6C4 29; 3220 28 4E00 29; 3221 28 4E8C 29;
    3222 28 4E09 29; 3223 28 56DB 29; 3224 28 4E94 29; 3225 28 516D 29; 3226 28 4E03 29;
    3227 28 516B 29; 3228 28 4E5D 29; 3229 28 5341 29; 322A 28 6708 29; 322B 28 706B 29;
    322C 28 6C34 29; 322D 28 6728 29; 322E 28 91D1 29; 322F 28 571F 29; 3230 28 65E5 29;
    3231 28 682A 29; 3232 28 6709 29; 3233 28 793E 29; 3234 28 540D 29; 3235 28 7279 29;
    3236 28 8CA1 29; 3237 28 795D 29; 3238 28 52B4 29; 3239 28 4EE3 29; 323A 28 547C 29;
    323B 28 5B66 29; 323C 28 76E3 29; 323D 28 4F01 29; 323E 28 8CC7 29; 323F 28 5354 29;
    3240 28 796D 29; 3241 28 4F11 29; 3242 28 81EA 29; 3243 28 81F3 29; 3250 70 74 65;
    3251 32 31; 3252 32 32; 3253 32 33; 3254 32 34; 3255 32 35; 3256 32 36; 3257 32 37;
    3258 32 38; 3259 32 39; 325A 33 30; 325B 33 31; 325C 33 32; 325D 33 33; 325E 33 34;
    325F 33 35; 327C CC38 ACE0; 327D C8FC C758; 32B1 33 36; 32B2 33 37; 32B3 33 38;
    32B4 33 39; 32B5 34 30; 32B6 34 31; 32B7 34 32; 32B8 34 33; 32B9 34 34; 32BA 34 35;
    32BB 34 36; 32BC 34 37; 32BD 34 38; 32BE 34 39; 32BF 35 30; 32C0 31 6708; 32C1 32 6708;
    32C2 33 6708; 32C3 34 6708; 32C4 35 6708; 32C5 36 6708; 32C6 37 6708; 32C7 38 6708;
    32C8 39 6708; 32C9 31 30 6708; 32CA 31 31 6708; 32CB 31 32 6708; 32CC 68 67;
    32CD 65 72 67; 32CE 65 76; 32CF 6C 74 64; 32FF 4EE4 548C; 3300 30A2 30D1 30FC 30C8;
    3301 30A2 30EB 30D5 30A1; 3302 30A2 30F3 30DA 30A2; 3303 30A2 30FC 30EB;
    3304 30A4 30CB 30F3 30B0; 3305 30A4 30F3 30C1; 3306 30A6 30A9 30F3;
    3307 30A8 30B9 30AF 30FC 30C9; 3308 30A8 30FC 30AB 30FC; 3309 30AA 30F3 30B9;
    330A 30AA 30FC 30E0; 330B 30AB 30A4 30EA; 330C 30AB 30E9 30C3 30C8;
    330D 30AB 30ED 30EA 30FC; 330E 30AC 30ED 30F3; 330F 30AC 30F3 30DE; 3310 30AE 30AC;
    3311 30AE 30CB 30FC; 3312 30AD 30E5 30EA 30FC; 3313 30AE 30EB 30C0 30FC; 3314 30AD 30ED;
    3315 30AD 30ED 30B0 30E9 30E0; 3316 30AD 30ED 30E1 30FC 30C8 30EB;
    3317 30AD 30ED 30EF 30C3 30C8; 3318 30B0 30E9 30E0; 3319 30B0 30E9 30E0 30C8 30F3;
    331A 30AF 30EB 30BC 30A4 30ED; 331B 30AF 30ED 30FC 30CD; 331C 30B1 30FC 30B9;
    331D 30B3 30EB 30CA; 331E 30B3 30FC 30DD; 331F 30B5 30A4 30AF 30EB;
    3320 30B5 30F3 30C1 30FC 30E0; 3321 30B7 30EA 30F3 30B0; 3322 30BB 30F3 30C1;
    3323 30BB 30F3 30C8; 3324 30C0 30FC 30B9; 3325 30C7 30B7; 3326 30C9 30EB; 3327 30C8 30F3;
    3328 30CA 30CE; 3329 30CE 30C3 30C8; 332A 30CF 30A4 30C4; 332B 30D1 30FC 30BB 30F3 30C8;
    332C 30D1 30FC 30C4; 332D 30D0 30FC 30EC 30EB; 332E 30D4 30A2 30B9 30C8 30EB;
    332F 30D4 30AF 30EB; 3330 30D4 30B3; 3331 30D3 30EB; 3332 30D5 30A1 30E9 30C3 30C9;
    3333 30D5 30A3 30FC 30C8; 3334 30D6 30C3 30B7 30A7 30EB; 3335 30D5 30E9 30F3;
    3336 30D8 30AF 30BF 30FC 30EB; 3337 30DA 30BD; 3338 30DA 30CB 30D2; 3339 30D8 30EB 30C4;
    333A 30DA 30F3 30B9; 333B 30DA 30FC 30B8; 333C 30D9 30FC 30BF; 333D 30DD 30A4 30F3 30C8;
    333E 30DC 30EB 30C8; 333F 30DB 30F3; 3340 30DD 30F3 30C9; 3341 30DB 30FC 30EB;
    3342 30DB 30FC 30F3; 3343 30DE 30A4 30AF 30ED; 3344 30DE 30A4 30EB; 3345 30DE 30C3 30CF;
    3346 30DE 30EB 30AF; 3347 30DE 30F3 30B7 30E7 30F3; 3348 30DF 30AF 30ED 30F3;
    3349 30DF 30EA; 334A 30DF 30EA 30D0 30FC 30EB; 334B 30E1 30AC; 334C 30E1 30AC 30C8 30F3;
    334D 30E1 30FC 30C8 30EB; 334E 30E4 30FC 30C9; 334F 30E4 30FC 30EB; 3350 30E6 30A2 30F3;
    3351 30EA 30C3 30C8 30EB; 3352 30EA 30E9; 3353 30EB 30D4 30FC; 3354 30EB 30FC 30D6 30EB;
    3355 30EC 30E0; 3356 30EC 30F3 30C8 30B2 30F3; 3357 30EF 30C3 30C8; 3358 30 70B9;
    3359 31 70B9; 335A 32 70B9; 335B 33 70B9; 335C 34 70B9; 335D 35 70B9; 335E 36 70B9;
    335F 37 70B9; 3360 38 70B9; 3361 39 70B9; 3362 31 30 70B9; 3363 31 31 70B9;
    3364 31 32 70B9; 3365 31 33 70B9; 3366 31 34 70B9; 3367 31 35 70B9; 3368 31 36 70B9;
    3369 31 37 70B9; 336A 31 38 70B9; 336B 31 39 70B9; 336C 32 30 70B9; 336D 32 31 70B9;
    336E 32 32 70B9; 336F 32 33 70B9; 3370 32 34 70B9; 3371 68 70 61; 3372 64 61; 3373 61 75;
    3374 62 61 72; 3375 6F 76; 3376 70 63; 3377 64 6D; 3378 64 6D 32; 3379 64 6D 33;
    337A 69 75; 337B 5E73 6210; 337C 662D 548C; 337D 5927 6B63; 337E 660E 6CBB;
    337F 682A 5F0F 4F1A 793E; 3380 70 61; 3381 6E 61; 3382 3BC 61; 3383 6D 61; 3384 6B 61;
    3385 6B 62; 3386 6D 62; 3387 67 62; 3388 63 61 6C; 3389 6B 63 61 6C; 338A 70 66;
    338B 6E 66; 338C 3BC 66; 338D 3BC 67; 338E 6D 67; 338F 6B 67; 3390 68 7A; 3391 6B 68 7A;
    3392 6D 68 7A; 3393 67 68 7A; 3394 74 68 7A; 3395 3BC 6C; 3396 6D 6C; 3397 64 6C;
    3398 6B 6C; 3399 66 6D; 339A 6E 6D; 339B 3BC 6D; 339C 6D 6D; 339D 63 6D; 339E 6B 6D;
    339F 6D 6D 32; 33A0 63 6D 32; 33A1 6D 32; 33A2 6B 6D 32; 33A3 6D 6D 33; 33A4 63 6D 33;
    33A5 6D 33; 33A6 6B 6D 33; 33A7 6D 2215 73; 33A8 6D 2215 73 32; 33A9 70 61; 33AA 6B 70 61;
    33AB 6D 70 61; 33AC 67 70 61; 33AD 72 61 64; 33AE 72 61 64 2215 73;
    33AF 72 61 64 2215 73 32; 33B0 70 73; 33B1 6E 73; 33B2 3BC 73; 33B3 6D 73; 33B4 70 76;
    33B5 6E 76; 33B6 3BC 76; 33B7 6D 76; 33B8 6B 76; 33B9 6D 76; 33BA 70 77; 33BB 6E 77;
    33BC 3BC 77; 33BD 6D 77; 33BE 6B 77; 33BF 6D 77; 33C0 6B 3C9; 33C1 6D 3C9; 33C3 62 71;
    33C4 63 63; 33C5 63 64; 33C6 63 2215 6B 67; 33C8 64 62; 33C9 67 79; 33CA 68 61;
    33CB 68 70; 33CC 69 6E; 33CD 6B 6B; 33CE 6B 6D; 33CF 6B 74; 33D0 6C 6D; 33D1 6C 6E;
    33D2 6C 6F 67; 33D3 6C 78; 33D4 6D 62; 33D5 6D 69 6C; 33D6 6D 6F 6C; 33D7 70 68;
    33D9 70 70 6D; 33DA 70 72; 33DB 73 72; 33DC 73 76; 33DD 77 62; 33DE 76 2215 6D;
    33DF 61 2215 6D; 33E0 31 65E5; 33E1 32 65E5; 33E2 33 65E5; 33E3 34 65E5; 33E4 35 65E5;
    33E5 36 65E5; 33E6 37 65E5; 33E7 38 65E5; 33E8 39 65E5; 33E9 31 30 65E5; 33EA 31 31 65E5;
    33EB 31 32 65E5; 33EC 31 33 65E5; 33ED 31 34 65E5; 33EE 31 35 65E5; 33EF 31 36 65E5;
    33F0 31 37 65E5; 33F1 31 38 65E5; 33F2 31 39 65E5; 33F3 32 30 65E5; 33F4 32 31 65E5;
    33F5 32 32 65E5; 33F6 32 33 65E5; 33F7 32 34 65E5; 33F8 32 35 65E5; 33F9 32 36 65E5;
    33FA 32 37 65E5; 33FB 32 38 65E5; 33FC 32 39 65E5; 33FD 33 30 65E5; 33FE 33 31 65E5;
    33FF 67 61 6C; FB00 66 66; FB01 66 69; FB02 66 6C; FB03 66 66 69; FB04 66 66 6C;
    FB05 73 74; FB06 73 74; FB13 574 576; FB14 574 565; FB15 574 56B; FB16 57E 576;
    FB17 574 56D; FB4F 5D0 5DC; FBDD 6C7 674; FBEA 626 627; FBEB 626 627; FBEC 626 6D5;
    FBED 626 6D5; FBEE 626 648; FBEF 626 648; FBF0 626 6C7; FBF1 626 6C7; FBF2 626 6C6;
    FBF3 626 6C6; FBF4 626 6C8; FBF5 626 6C8; FBF6 626 6D0; FBF7 626 6D0; FBF8 626 6D0;
    FBF9 626 649; FBFA 626 649; FBFB 626 649; FC00 626 62C; FC01 626 62D; FC02 626 645;
    FC03 626 649; FC04 626 64A; FC05 628 62C; FC06 628 62D; FC07 628 62E; FC08 628 645;
    FC09 628 649; FC0A 628 64A; FC0B 62A 62C; FC0C 62A 62D; FC0D 62A 62E; FC0E 62A 645;
    FC0F 62A 649; FC10 62A 64A; FC11 62B 62C; FC12 62B 645; FC13 62B 649; FC14 62B 64A;
    FC15 62C 62D; FC16 62C 645; FC17 62D 62C; FC18 62D 645; FC19 62E 62C; FC1A 62E 62D;
    FC1B 62E 645; FC1C 633 62C; FC1D 633 62D; FC1E 633 62E; FC1F 633 645; FC20 635 62D;
    FC21 635 645; FC22 636 62C; FC23 636 62D; FC24 636 62E; FC25 636 645; FC26 637 62D;
    FC27 637 645; FC28 638 645; FC29 639 62C; FC2A 639 645; FC2B 63A 62C; FC2C 63A 645;
    FC2D 641 62C; FC2E 641 62D; FC2F 641 62E; FC30 641 645; FC31 641 649; FC32 641 64A;
    FC33 642 62D; FC34 642 645; FC35 642 649; FC36 642 64A; FC37 643 627; FC38 643 62C;
    FC39 643 62D; FC3A 643 62E; FC3B 643 644; FC3C 643 645; FC3D 643 649; FC3E 643 64A;
    FC3F 644 62C; FC40 644 62D; FC41 644 62E; FC42 644 645; FC43 644 649; FC44 644 64A;
    FC45 645 62C; FC46 645 62D; FC47 645 62E; FC48 645 645; FC49 645 649; FC4A 645 64A;
    FC4B 646 62C; FC4C 646 62D; FC4D 646 62E; FC4E 646 645; FC4F 646 649; FC50 646 64A;
    FC51 647 62C; FC52 647 645; FC53 647 649; FC54 647 64A; FC55 64A 62C; FC56 64A 62D;
    FC57 64A 62E; FC58 64A 645; FC59 64A 649; FC5A 64A 64A; FC5B 630 670; FC5C 631 670;
    FC5D 649 670; FC5E 20 64C 651; FC5F 20 64D 651; FC60 20 64E 651; FC61 20 64F 651;
    FC62 20 650 651; FC63 20 651 670; FC64 626 631; FC65 626 632; FC66 626 645; FC67 626 646;
    FC68 626 649; FC69 626 64A; FC6A 628 631; FC6B 628 632; FC6C 628 645; FC6D 628 646;
    FC6E 628 649; FC6F 628 64A; FC70 62A 631; FC71 62A 632; FC72 62A 645; FC73 62A 646;
    FC74 62A 649; FC75 62A 64A; FC76 62B 631; FC77 62B 632; FC78 62B 645; FC79 62B 646;
    FC7A 62B 649; FC7B 62B 64A; FC7C 641 649; FC7D 641 64A; FC7E 642 649; FC7F 642 64A;
    FC80 643 627; FC81 643 644; FC82 643 645; FC83 643 649; FC84 643 64A; FC85 644 645;
    FC86 644 649; FC87 644 64A; FC88 645 627; FC89 645 645; FC8A 646 631; FC8B 646 632;
    FC8C 646 645; FC8D 646 646; FC8E 646 649; FC8F 646 64A; FC90 649 670; FC91 64A 631;
    FC92 64A 632; FC93 64A 645; FC94 64A 646; FC95 64A 649; FC96 64A 64A; FC97 626 62C;
    FC98 626 62D; FC99 626 62E; FC9A 626 645; FC9B 626 647; FC9C 628 62C; FC9D 628 62D;
    FC9E 628 62E; FC9F 628 645; FCA0 628 647; FCA1 62A 62C; FCA2 62A 62D; FCA3 62A 62E;
    FCA4 62A 645; FCA5 62A 647; FCA6 62B 645; FCA7 62C 62D; FCA8 62C 645; FCA9 62D 62C;
    FCAA 62D 645; FCAB 62E 62C; FCAC 62E 645; FCAD 633 62C; FCAE 633 62D; FCAF 633 62E;
    FCB0 633 645; FCB1 635 62D; FCB2 635 62E; FCB3 635 645; FCB4 636 62C; FCB5 636 62D;
    FCB6 636 62E; FCB7 636 645; FCB8 637 62D; FCB9 638 645; FCBA 639 62C; FCBB 639 645;
    FCBC 63A 62C; FCBD 63A 645; FCBE 641 62C; FCBF 641 62D; FCC0 641 62E; FCC1 641 645;
    FCC2 642 62D; FCC3 642 645; FCC4 643 62C; FCC5 643 62D; FCC6 643 62E; FCC7 643 644;
    FCC8 643 645; FCC9 644 62C; FCCA 644 62D; FCCB 644 62E; FCCC 644 645; FCCD 644 647;
    FCCE 645 62C; FCCF 645 62D; FCD0 645 62E; FCD1 645 645; FCD2 646 62C; FCD3 646 62D;
    FCD4 646 62E; FCD5 646 645; FCD6 646 647; FCD7 647 62C; FCD8 647 645; FCD9 647 670;
    FCDA 64A 62C; FCDB 64A 62D; FCDC 64A 62E; FCDD 64A 645; FCDE 64A 647; FCDF 626 645;
    FCE0 626 647; FCE1 628 645; FCE2 628 647; FCE3 62A 645; FCE4 62A 647; FCE5 62B 645;
    FCE6 62B 647; FCE7 633 645; FCE8 633 647; FCE9 634 645; FCEA 634 647; FCEB 643 644;
    FCEC 643 645; FCED 644 645; FCEE 646 645; FCEF 646 647; FCF0 64A 645; FCF1 64A 647;
    FCF2 640 64E 651; FCF3 640 64F 651; FCF4 640 650 651; FCF5 637 649; FCF6 637 64A;
    FCF7 639 649; FCF8 639 64A; FCF9 63A 649; FCFA 63A 64A; FCFB 633 649; FCFC 633 64A;
    FCFD 634 649; FCFE 634 64A; FCFF 62D 649; FD00 62D 64A; FD01 62C 649; FD02 62C 64A;
    FD03 62E 649; FD04 62E 64A; FD05 635 649; FD06 635 64A; FD07 636 649; FD08 636 64A;
    FD09 634 62C; FD0A 634 62D; FD0B 634 62E; FD0C 634 645; FD0D 634 631; FD0E 633 631;
    FD0F 635 631; FD10 636 631; FD11 637 649; FD12 637 64A; FD13 639 649; FD14 639 64A;
    FD15 63A 649; FD16 63A 64A; FD17 633 649; FD18 633 64A; FD19 634 649; FD1A 634 64A;
    FD1B 62D 649; FD1C 62D 64A; FD1D 62C 649; FD1E 62C 64A; FD1F 62E 649; FD20 62E 64A;
    FD21 635 649; FD22 635 64A; FD23 636 649; FD24 636 64A; FD25 634 62C; FD26 634 62D;
    FD27 634 62E; FD28 634 645; FD29 634 631; FD2A 633 631; FD2B 635 631; FD2C 636 631;
    FD2D 634 62C; FD2E 634 62D; FD2F 634 62E; FD30 634 645; FD31 633 647; FD32 634 647;
    FD33 637 645; FD34 633 62C; FD35 633 62D; FD36 633 62E; FD37 634 62C; FD38 634 62D;
    FD39 634 62E; FD3A 637 645; FD3B 638 645; FD3C 627 64B; FD3D 627 64B; FD50 62A 62C 645;
    FD51 62A 62D 62C; FD52 62A 62D 62C; FD53 62A 62D 645; FD54 62A 62E 645; FD55 62A 645 62C;
    FD56 62A 645 62D; FD57 62A 645 62E; FD58 62C 645 62D; FD59 62C 645 62D; FD5A 62D 645 64A;
    FD5B 62D 645 649; FD5C 633 62D 62C; FD5D 633 62C 62D; FD5E 633 62C 649; FD5F 633 645 62D;
    FD60 633 645 62D; FD61 633 645 62C; FD62 633 645 645; FD63 633 645 645; FD64 635 62D 62D;
    FD65 635 62D 62D; FD66 635 645 645; FD67 634 62D 645; FD68 634 62D 645; FD69 634 62C 64A;
    FD6A 634 645 62E; FD6B 634 645 62E; FD6C 634 645 645; FD6D 634 645 645; FD6E 636 62D 649;
    FD6F 636 62E 645; FD70 636 62E 645; FD71 637 645 62D; FD72 637 645 62D; FD73 637 645 645;
    FD74 637 645 64A; FD75 639 62C 645; FD76 639 645 645; FD77 639 645 645; FD78 639 645 649;
    FD79 63A 645 645; FD7A 63A 645 64A; FD7B 63A 645 649; FD7C 641 62E 645; FD7D 641 62E 645;
    FD7E 642 645 62D; FD7F 642 645 645; FD80 644 62D 645; FD81 644 62D 64A; FD82 644 62D 649;
    FD83 644 62C 62C; FD84 644 62C 62C; FD85 644 62E 645; FD86 644 62E 645; FD87 644 645 62D;
    FD88 644 645 62D; FD89 645 62D 62C; FD8A 645 62D 645; FD8B 645 62D 64A; FD8C 645 62C 62D;
    FD8D 645 62C 645; FD8E 645 62E 62C; FD8F 645 62E 645; FD92 645 62C 62E; FD93 647 645 62C;
    FD94 647 645 645; FD95 646 62D 645; FD96 646 62D 649; FD97 646 62C 645; FD98 646 62C 645;
    FD99 646 62C 649; FD9A 646 645 64A; FD9B 646 645 649; FD9C 64A 645 645; FD9D 64A 645 645;
    FD9E 628 62E 64A; FD9F 62A 62C 64A; FDA0 62A 62C 649; FDA1 62A 62E 64A; FDA2 62A 62E 649;
    FDA3 62A 645 64A; FDA4 62A 645 649; FDA5 62C 645 64A; FDA6 62C 62D 649; FDA7 62C 645 649;
    FDA8 633 62E 649; FDA9 635 62D 64A; FDAA 634 62D 64A; FDAB 636 62D 64A; FDAC 644 62C 64A;
    FDAD 644 645 64A; FDAE 64A 62D 64A; FDAF 64A 62C 64A; FDB0 64A 645 64A; FDB1 645 645 64A;
    FDB2 642 645 64A; FDB3 646 62D 64A; FDB4 642 645 62D; FDB5 644 62D 645; FDB6 639 645 64A;
    FDB7 643 645 64A; FDB8 646 62C 62D; FDB9 645 62E 64A; FDBA 644 62C 645; FDBB 643 645 645;
    FDBC 644 62C 645; FDBD 646 62C 62D; FDBE 62C 62D 64A; FDBF 62D 62C 64A; FDC0 645 62C 64A;
    FDC1 641 645 64A; FDC2 628 62D 64A; FDC3 643 645 645; FDC4 639 62C 645; FDC5 635 645 645;
    FDC6 633 62E 64A; FDC7 646 62C 64A; FDF0 635 644 6D2; FDF1 642 644 6D2;
    FDF2 627 644 644 647; FDF3 627 643 628 631; FDF4 645 62D 645 62F; FDF5 635 644 639 645;
    FDF6 631 633 648 644; FDF7 639 644 64A 647; FDF8 648 633 644 645; FDF9 635 644 649;
    FDFA 635 644 649 20 627 644 644 647 20 639 644 64A 647 20 648 633 644 645;
    FDFB 62C 644 20 62C 644 627 644 647; FDFC 631 6CC 627 644; FE49 20 305; FE4A 20 305;
    FE4B 20 305; FE4C 20 305; FE70 20 64B; FE71 640 64B; FE72 20 64C; FE74 20 64D;
    FE76 20 64E; FE77 640 64E; FE78 20 64F; FE79 640 64F; FE7A 20 650; FE7B 640 650;
    FE7C 20 651; FE7D 640 651; FE7E 20 652; FE7F 640 652; FEF5 644 622; FEF6 644 622;
    FEF7 644 623; FEF8 644 623; FEF9 644 625; FEFA 644 625; FEFB 644 627; FEFC 644 627;
    FFE3 20 304; 1F101 30 2C; 1F102 31 2C; 1F103 32 2C; 1F104 33 2C; 1F105 34 2C; 1F106 35 2C;
    1F107 36 2C; 1F108 37 2C; 1F109 38 2C; 1F10A 39 2C; 1F110 28 61 29; 1F111 28 62 29;
    1F112 28 63 29; 1F113 28 64 29; 1F114 28 65 29; 1F115 28 66 29; 1F116 28 67 29;
    1F117 28 68 29; 1F118 28 69 29; 1F119 28 6A 29; 1F11A 28 6B 29; 1F11B 28 6C 29;
    1F11C 28 6D 29; 1F11D 28 6E 29; 1F11E 28 6F 29; 1F11F 28 70 29; 1F120 28 71 29;
    1F121 28 72 29; 1F122 28 73 29; 1F123 28 74 29; 1F124 28 75 29; 1F125 28 76 29;
    1F126 28 77 29; 1F127 28 78 29; 1F128 28 79 29; 1F129 28 7A 29; 1F12A 3014 73 3015;
    1F12D 63 64; 1F12E 77 7A; 1F14A 68 76; 1F14B 6D 76; 1F14C 73 64; 1F14D 73 73;
    1F14E 70 70 76; 1F14F 77 63; 1F16A 6D 63; 1F16B 6D 64; 1F16C 6D 72; 1F190 64 6A;
    1F200 307B 304B; 1F201 30B3 30B3; 1F240 3014 672C 3015; 1F241 3014 4E09 3015;
    1F242 3014 4E8C 3015; 1F243 3014 5B89 3015; 1F244 3014 70B9 3015; 1F245 3014 6253 3015;
    1F246 3014 76D7 3015; 1F247 3014 52DD 3015; 1F248 3014 6557 3015"

end Testbed.Address
