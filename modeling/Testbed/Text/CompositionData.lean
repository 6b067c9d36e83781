import Testbed.Text.Table

/-!
# Canonical decompositions of Unicode

The characters of Unicode 17, Hangul syllables apart, that stand for a sequence of others. Each row
is a code point and its whole decomposition.
-/

namespace Testbed.Text

/-- Characters that stay together when text is composed. -/
def compositeRows : List (List Nat) := Table.rows
  "C0 41 300; C1 41 301; C2 41 302; C3 41 303; C4 41 308; C5 41 30A; C7 43 327; C8 45 300;
    C9 45 301; CA 45 302; CB 45 308; CC 49 300; CD 49 301; CE 49 302; CF 49 308; D1 4E 303;
    D2 4F 300; D3 4F 301; D4 4F 302; D5 4F 303; D6 4F 308; D9 55 300; DA 55 301; DB 55 302;
    DC 55 308; DD 59 301; E0 61 300; E1 61 301; E2 61 302; E3 61 303; E4 61 308; E5 61 30A;
    E7 63 327; E8 65 300; E9 65 301; EA 65 302; EB 65 308; EC 69 300; ED 69 301; EE 69 302;
    EF 69 308; F1 6E 303; F2 6F 300; F3 6F 301; F4 6F 302; F5 6F 303; F6 6F 308; F9 75 300;
    FA 75 301; FB 75 302; FC 75 308; FD 79 301; FF 79 308; 100 41 304; 101 61 304; 102 41 306;
    103 61 306; 104 41 328; 105 61 328; 106 43 301; 107 63 301; 108 43 302; 109 63 302;
    10A 43 307; 10B 63 307; 10C 43 30C; 10D 63 30C; 10E 44 30C; 10F 64 30C; 112 45 304;
    113 65 304; 114 45 306; 115 65 306; 116 45 307; 117 65 307; 118 45 328; 119 65 328;
    11A 45 30C; 11B 65 30C; 11C 47 302; 11D 67 302; 11E 47 306; 11F 67 306; 120 47 307;
    121 67 307; 122 47 327; 123 67 327; 124 48 302; 125 68 302; 128 49 303; 129 69 303;
    12A 49 304; 12B 69 304; 12C 49 306; 12D 69 306; 12E 49 328; 12F 69 328; 130 49 307;
    134 4A 302; 135 6A 302; 136 4B 327; 137 6B 327; 139 4C 301; 13A 6C 301; 13B 4C 327;
    13C 6C 327; 13D 4C 30C; 13E 6C 30C; 143 4E 301; 144 6E 301; 145 4E 327; 146 6E 327;
    147 4E 30C; 148 6E 30C; 14C 4F 304; 14D 6F 304; 14E 4F 306; 14F 6F 306; 150 4F 30B;
    151 6F 30B; 154 52 301; 155 72 301; 156 52 327; 157 72 327; 158 52 30C; 159 72 30C;
    15A 53 301; 15B 73 301; 15C 53 302; 15D 73 302; 15E 53 327; 15F 73 327; 160 53 30C;
    161 73 30C; 162 54 327; 163 74 327; 164 54 30C; 165 74 30C; 168 55 303; 169 75 303;
    16A 55 304; 16B 75 304; 16C 55 306; 16D 75 306; 16E 55 30A; 16F 75 30A; 170 55 30B;
    171 75 30B; 172 55 328; 173 75 328; 174 57 302; 175 77 302; 176 59 302; 177 79 302;
    178 59 308; 179 5A 301; 17A 7A 301; 17B 5A 307; 17C 7A 307; 17D 5A 30C; 17E 7A 30C;
    1A0 4F 31B; 1A1 6F 31B; 1AF 55 31B; 1B0 75 31B; 1CD 41 30C; 1CE 61 30C; 1CF 49 30C;
    1D0 69 30C; 1D1 4F 30C; 1D2 6F 30C; 1D3 55 30C; 1D4 75 30C; 1D5 55 308 304;
    1D6 75 308 304; 1D7 55 308 301; 1D8 75 308 301; 1D9 55 308 30C; 1DA 75 308 30C;
    1DB 55 308 300; 1DC 75 308 300; 1DE 41 308 304; 1DF 61 308 304; 1E0 41 307 304;
    1E1 61 307 304; 1E2 C6 304; 1E3 E6 304; 1E6 47 30C; 1E7 67 30C; 1E8 4B 30C; 1E9 6B 30C;
    1EA 4F 328; 1EB 6F 328; 1EC 4F 328 304; 1ED 6F 328 304; 1EE 1B7 30C; 1EF 292 30C;
    1F0 6A 30C; 1F4 47 301; 1F5 67 301; 1F8 4E 300; 1F9 6E 300; 1FA 41 30A 301;
    1FB 61 30A 301; 1FC C6 301; 1FD E6 301; 1FE D8 301; 1FF F8 301; 200 41 30F; 201 61 30F;
    202 41 311; 203 61 311; 204 45 30F; 205 65 30F; 206 45 311; 207 65 311; 208 49 30F;
    209 69 30F; 20A 49 311; 20B 69 311; 20C 4F 30F; 20D 6F 30F; 20E 4F 311; 20F 6F 311;
    210 52 30F; 211 72 30F; 212 52 311; 213 72 311; 214 55 30F; 215 75 30F; 216 55 311;
    217 75 311; 218 53 326; 219 73 326; 21A 54 326; 21B 74 326; 21E 48 30C; 21F 68 30C;
    226 41 307; 227 61 307; 228 45 327; 229 65 327; 22A 4F 308 304; 22B 6F 308 304;
    22C 4F 303 304; 22D 6F 303 304; 22E 4F 307; 22F 6F 307; 230 4F 307 304; 231 6F 307 304;
    232 59 304; 233 79 304; 385 A8 301; 386 391 301; 388 395 301; 389 397 301; 38A 399 301;
    38C 39F 301; 38E 3A5 301; 38F 3A9 301; 390 3B9 308 301; 3AA 399 308; 3AB 3A5 308;
    3AC 3B1 301; 3AD 3B5 301; 3AE 3B7 301; 3AF 3B9 301; 3B0 3C5 308 301; 3CA 3B9 308;
    3CB 3C5 308; 3CC 3BF 301; 3CD 3C5 301; 3CE 3C9 301; 3D3 3D2 301; 3D4 3D2 308; 400 415 300;
    401 415 308; 403 413 301; 407 406 308; 40C 41A 301; 40D 418 300; 40E 423 306; 419 418 306;
    439 438 306; 450 435 300; 451 435 308; 453 433 301; 457 456 308; 45C 43A 301; 45D 438 300;
    45E 443 306; 476 474 30F; 477 475 30F; 4C1 416 306; 4C2 436 306; 4D0 410 306; 4D1 430 306;
    4D2 410 308; 4D3 430 308; 4D6 415 306; 4D7 435 306; 4DA 4D8 308; 4DB 4D9 308; 4DC 416 308;
    4DD 436 308; 4DE 417 308; 4DF 437 308; 4E2 418 304; 4E3 438 304; 4E4 418 308; 4E5 438 308;
    4E6 41E 308; 4E7 43E 308; 4EA 4E8 308; 4EB 4E9 308; 4EC 42D 308; 4ED 44D 308; 4EE 423 304;
    4EF 443 304; 4F0 423 308; 4F1 443 308; 4F2 423 30B; 4F3 443 30B; 4F4 427 308; 4F5 447 308;
    4F8 42B 308; 4F9 44B 308; 622 627 653; 623 627 654; 624 648 654; 625 627 655; 626 64A 654;
    6C0 6D5 654; 6C2 6C1 654; 6D3 6D2 654; 929 928 93C; 931 930 93C; 934 933 93C; 9CB 9C7 9BE;
    9CC 9C7 9D7; B48 B47 B56; B4B B47 B3E; B4C B47 B57; B94 B92 BD7; BCA BC6 BBE; BCB BC7 BBE;
    BCC BC6 BD7; C48 C46 C56; CC0 CBF CD5; CC7 CC6 CD5; CC8 CC6 CD6; CCA CC6 CC2;
    CCB CC6 CC2 CD5; D4A D46 D3E; D4B D47 D3E; D4C D46 D57; DDA DD9 DCA; DDC DD9 DCF;
    DDD DD9 DCF DCA; DDE DD9 DDF; 1026 1025 102E; 1B06 1B05 1B35; 1B08 1B07 1B35;
    1B0A 1B09 1B35; 1B0C 1B0B 1B35; 1B0E 1B0D 1B35; 1B12 1B11 1B35; 1B3B 1B3A 1B35;
    1B3D 1B3C 1B35; 1B40 1B3E 1B35; 1B41 1B3F 1B35; 1B43 1B42 1B35; 1E00 41 325; 1E01 61 325;
    1E02 42 307; 1E03 62 307; 1E04 42 323; 1E05 62 323; 1E06 42 331; 1E07 62 331;
    1E08 43 327 301; 1E09 63 327 301; 1E0A 44 307; 1E0B 64 307; 1E0C 44 323; 1E0D 64 323;
    1E0E 44 331; 1E0F 64 331; 1E10 44 327; 1E11 64 327; 1E12 44 32D; 1E13 64 32D;
    1E14 45 304 300; 1E15 65 304 300; 1E16 45 304 301; 1E17 65 304 301; 1E18 45 32D;
    1E19 65 32D; 1E1A 45 330; 1E1B 65 330; 1E1C 45 327 306; 1E1D 65 327 306; 1E1E 46 307;
    1E1F 66 307; 1E20 47 304; 1E21 67 304; 1E22 48 307; 1E23 68 307; 1E24 48 323; 1E25 68 323;
    1E26 48 308; 1E27 68 308; 1E28 48 327; 1E29 68 327; 1E2A 48 32E; 1E2B 68 32E; 1E2C 49 330;
    1E2D 69 330; 1E2E 49 308 301; 1E2F 69 308 301; 1E30 4B 301; 1E31 6B 301; 1E32 4B 323;
    1E33 6B 323; 1E34 4B 331; 1E35 6B 331; 1E36 4C 323; 1E37 6C 323; 1E38 4C 323 304;
    1E39 6C 323 304; 1E3A 4C 331; 1E3B 6C 331; 1E3C 4C 32D; 1E3D 6C 32D; 1E3E 4D 301;
    1E3F 6D 301; 1E40 4D 307; 1E41 6D 307; 1E42 4D 323; 1E43 6D 323; 1E44 4E 307; 1E45 6E 307;
    1E46 4E 323; 1E47 6E 323; 1E48 4E 331; 1E49 6E 331; 1E4A 4E 32D; 1E4B 6E 32D;
    1E4C 4F 303 301; 1E4D 6F 303 301; 1E4E 4F 303 308; 1E4F 6F 303 308; 1E50 4F 304 300;
    1E51 6F 304 300; 1E52 4F 304 301; 1E53 6F 304 301; 1E54 50 301; 1E55 70 301; 1E56 50 307;
    1E57 70 307; 1E58 52 307; 1E59 72 307; 1E5A 52 323; 1E5B 72 323; 1E5C 52 323 304;
    1E5D 72 323 304; 1E5E 52 331; 1E5F 72 331; 1E60 53 307; 1E61 73 307; 1E62 53 323;
    1E63 73 323; 1E64 53 301 307; 1E65 73 301 307; 1E66 53 30C 307; 1E67 73 30C 307;
    1E68 53 323 307; 1E69 73 323 307; 1E6A 54 307; 1E6B 74 307; 1E6C 54 323; 1E6D 74 323;
    1E6E 54 331; 1E6F 74 331; 1E70 54 32D; 1E71 74 32D; 1E72 55 324; 1E73 75 324; 1E74 55 330;
    1E75 75 330; 1E76 55 32D; 1E77 75 32D; 1E78 55 303 301; 1E79 75 303 301; 1E7A 55 304 308;
    1E7B 75 304 308; 1E7C 56 303; 1E7D 76 303; 1E7E 56 323; 1E7F 76 323; 1E80 57 300;
    1E81 77 300; 1E82 57 301; 1E83 77 301; 1E84 57 308; 1E85 77 308; 1E86 57 307; 1E87 77 307;
    1E88 57 323; 1E89 77 323; 1E8A 58 307; 1E8B 78 307; 1E8C 58 308; 1E8D 78 308; 1E8E 59 307;
    1E8F 79 307; 1E90 5A 302; 1E91 7A 302; 1E92 5A 323; 1E93 7A 323; 1E94 5A 331; 1E95 7A 331;
    1E96 68 331; 1E97 74 308; 1E98 77 30A; 1E99 79 30A; 1E9B 17F 307; 1EA0 41 323;
    1EA1 61 323; 1EA2 41 309; 1EA3 61 309; 1EA4 41 302 301; 1EA5 61 302 301; 1EA6 41 302 300;
    1EA7 61 302 300; 1EA8 41 302 309; 1EA9 61 302 309; 1EAA 41 302 303; 1EAB 61 302 303;
    1EAC 41 323 302; 1EAD 61 323 302; 1EAE 41 306 301; 1EAF 61 306 301; 1EB0 41 306 300;
    1EB1 61 306 300; 1EB2 41 306 309; 1EB3 61 306 309; 1EB4 41 306 303; 1EB5 61 306 303;
    1EB6 41 323 306; 1EB7 61 323 306; 1EB8 45 323; 1EB9 65 323; 1EBA 45 309; 1EBB 65 309;
    1EBC 45 303; 1EBD 65 303; 1EBE 45 302 301; 1EBF 65 302 301; 1EC0 45 302 300;
    1EC1 65 302 300; 1EC2 45 302 309; 1EC3 65 302 309; 1EC4 45 302 303; 1EC5 65 302 303;
    1EC6 45 323 302; 1EC7 65 323 302; 1EC8 49 309; 1EC9 69 309; 1ECA 49 323; 1ECB 69 323;
    1ECC 4F 323; 1ECD 6F 323; 1ECE 4F 309; 1ECF 6F 309; 1ED0 4F 302 301; 1ED1 6F 302 301;
    1ED2 4F 302 300; 1ED3 6F 302 300; 1ED4 4F 302 309; 1ED5 6F 302 309; 1ED6 4F 302 303;
    1ED7 6F 302 303; 1ED8 4F 323 302; 1ED9 6F 323 302; 1EDA 4F 31B 301; 1EDB 6F 31B 301;
    1EDC 4F 31B 300; 1EDD 6F 31B 300; 1EDE 4F 31B 309; 1EDF 6F 31B 309; 1EE0 4F 31B 303;
    1EE1 6F 31B 303; 1EE2 4F 31B 323; 1EE3 6F 31B 323; 1EE4 55 323; 1EE5 75 323; 1EE6 55 309;
    1EE7 75 309; 1EE8 55 31B 301; 1EE9 75 31B 301; 1EEA 55 31B 300; 1EEB 75 31B 300;
    1EEC 55 31B 309; 1EED 75 31B 309; 1EEE 55 31B 303; 1EEF 75 31B 303; 1EF0 55 31B 323;
    1EF1 75 31B 323; 1EF2 59 300; 1EF3 79 300; 1EF4 59 323; 1EF5 79 323; 1EF6 59 309;
    1EF7 79 309; 1EF8 59 303; 1EF9 79 303; 1F00 3B1 313; 1F01 3B1 314; 1F02 3B1 313 300;
    1F03 3B1 314 300; 1F04 3B1 313 301; 1F05 3B1 314 301; 1F06 3B1 313 342; 1F07 3B1 314 342;
    1F08 391 313; 1F09 391 314; 1F0A 391 313 300; 1F0B 391 314 300; 1F0C 391 313 301;
    1F0D 391 314 301; 1F0E 391 313 342; 1F0F 391 314 342; 1F10 3B5 313; 1F11 3B5 314;
    1F12 3B5 313 300; 1F13 3B5 314 300; 1F14 3B5 313 301; 1F15 3B5 314 301; 1F18 395 313;
    1F19 395 314; 1F1A 395 313 300; 1F1B 395 314 300; 1F1C 395 313 301; 1F1D 395 314 301;
    1F20 3B7 313; 1F21 3B7 314; 1F22 3B7 313 300; 1F23 3B7 314 300; 1F24 3B7 313 301;
    1F25 3B7 314 301; 1F26 3B7 313 342; 1F27 3B7 314 342; 1F28 397 313; 1F29 397 314;
    1F2A 397 313 300; 1F2B 397 314 300; 1F2C 397 313 301; 1F2D 397 314 301; 1F2E 397 313 342;
    1F2F 397 314 342; 1F30 3B9 313; 1F31 3B9 314; 1F32 3B9 313 300; 1F33 3B9 314 300;
    1F34 3B9 313 301; 1F35 3B9 314 301; 1F36 3B9 313 342; 1F37 3B9 314 342; 1F38 399 313;
    1F39 399 314; 1F3A 399 313 300; 1F3B 399 314 300; 1F3C 399 313 301; 1F3D 399 314 301;
    1F3E 399 313 342; 1F3F 399 314 342; 1F40 3BF 313; 1F41 3BF 314; 1F42 3BF 313 300;
    1F43 3BF 314 300; 1F44 3BF 313 301; 1F45 3BF 314 301; 1F48 39F 313; 1F49 39F 314;
    1F4A 39F 313 300; 1F4B 39F 314 300; 1F4C 39F 313 301; 1F4D 39F 314 301; 1F50 3C5 313;
    1F51 3C5 314; 1F52 3C5 313 300; 1F53 3C5 314 300; 1F54 3C5 313 301; 1F55 3C5 314 301;
    1F56 3C5 313 342; 1F57 3C5 314 342; 1F59 3A5 314; 1F5B 3A5 314 300; 1F5D 3A5 314 301;
    1F5F 3A5 314 342; 1F60 3C9 313; 1F61 3C9 314; 1F62 3C9 313 300; 1F63 3C9 314 300;
    1F64 3C9 313 301; 1F65 3C9 314 301; 1F66 3C9 313 342; 1F67 3C9 314 342; 1F68 3A9 313;
    1F69 3A9 314; 1F6A 3A9 313 300; 1F6B 3A9 314 300; 1F6C 3A9 313 301; 1F6D 3A9 314 301;
    1F6E 3A9 313 342; 1F6F 3A9 314 342; 1F70 3B1 300; 1F72 3B5 300; 1F74 3B7 300;
    1F76 3B9 300; 1F78 3BF 300; 1F7A 3C5 300; 1F7C 3C9 300; 1F80 3B1 313 345;
    1F81 3B1 314 345; 1F82 3B1 313 300 345; 1F83 3B1 314 300 345; 1F84 3B1 313 301 345;
    1F85 3B1 314 301 345; 1F86 3B1 313 342 345; 1F87 3B1 314 342 345; 1F88 391 313 345;
    1F89 391 314 345; 1F8A 391 313 300 345; 1F8B 391 314 300 345; 1F8C 391 313 301 345;
    1F8D 391 314 301 345; 1F8E 391 313 342 345; 1F8F 391 314 342 345; 1F90 3B7 313 345;
    1F91 3B7 314 345; 1F92 3B7 313 300 345; 1F93 3B7 314 300 345; 1F94 3B7 313 301 345;
    1F95 3B7 314 301 345; 1F96 3B7 313 342 345; 1F97 3B7 314 342 345; 1F98 397 313 345;
    1F99 397 314 345; 1F9A 397 313 300 345; 1F9B 397 314 300 345; 1F9C 397 313 301 345;
    1F9D 397 314 301 345; 1F9E 397 313 342 345; 1F9F 397 314 342 345; 1FA0 3C9 313 345;
    1FA1 3C9 314 345; 1FA2 3C9 313 300 345; 1FA3 3C9 314 300 345; 1FA4 3C9 313 301 345;
    1FA5 3C9 314 301 345; 1FA6 3C9 313 342 345; 1FA7 3C9 314 342 345; 1FA8 3A9 313 345;
    1FA9 3A9 314 345; 1FAA 3A9 313 300 345; 1FAB 3A9 314 300 345; 1FAC 3A9 313 301 345;
    1FAD 3A9 314 301 345; 1FAE 3A9 313 342 345; 1FAF 3A9 314 342 345; 1FB0 3B1 306;
    1FB1 3B1 304; 1FB2 3B1 300 345; 1FB3 3B1 345; 1FB4 3B1 301 345; 1FB6 3B1 342;
    1FB7 3B1 342 345; 1FB8 391 306; 1FB9 391 304; 1FBA 391 300; 1FBC 391 345; 1FC1 A8 342;
    1FC2 3B7 300 345; 1FC3 3B7 345; 1FC4 3B7 301 345; 1FC6 3B7 342; 1FC7 3B7 342 345;
    1FC8 395 300; 1FCA 397 300; 1FCC 397 345; 1FCD 1FBF 300; 1FCE 1FBF 301; 1FCF 1FBF 342;
    1FD0 3B9 306; 1FD1 3B9 304; 1FD2 3B9 308 300; 1FD6 3B9 342; 1FD7 3B9 308 342;
    1FD8 399 306; 1FD9 399 304; 1FDA 399 300; 1FDD 1FFE 300; 1FDE 1FFE 301; 1FDF 1FFE 342;
    1FE0 3C5 306; 1FE1 3C5 304; 1FE2 3C5 308 300; 1FE4 3C1 313; 1FE5 3C1 314; 1FE6 3C5 342;
    1FE7 3C5 308 342; 1FE8 3A5 306; 1FE9 3A5 304; 1FEA 3A5 300; 1FEC 3A1 314; 1FED A8 300;
    1FF2 3C9 300 345; 1FF3 3C9 345; 1FF4 3C9 301 345; 1FF6 3C9 342; 1FF7 3C9 342 345;
    1FF8 39F 300; 1FFA 3A9 300; 1FFC 3A9 345; 219A 2190 338; 219B 2192 338; 21AE 2194 338;
    21CD 21D0 338; 21CE 21D4 338; 21CF 21D2 338; 2204 2203 338; 2209 2208 338; 220C 220B 338;
    2224 2223 338; 2226 2225 338; 2241 223C 338; 2244 2243 338; 2247 2245 338; 2249 2248 338;
    2260 3D 338; 2262 2261 338; 226D 224D 338; 226E 3C 338; 226F 3E 338; 2270 2264 338;
    2271 2265 338; 2274 2272 338; 2275 2273 338; 2278 2276 338; 2279 2277 338; 2280 227A 338;
    2281 227B 338; 2284 2282 338; 2285 2283 338; 2288 2286 338; 2289 2287 338; 22AC 22A2 338;
    22AD 22A8 338; 22AE 22A9 338; 22AF 22AB 338; 22E0 227C 338; 22E1 227D 338; 22E2 2291 338;
    22E3 2292 338; 22EA 22B2 338; 22EB 22B3 338; 22EC 22B4 338; 22ED 22B5 338; 304C 304B 3099;
    304E 304D 3099; 3050 304F 3099; 3052 3051 3099; 3054 3053 3099; 3056 3055 3099;
    3058 3057 3099; 305A 3059 3099; 305C 305B 3099; 305E 305D 3099; 3060 305F 3099;
    3062 3061 3099; 3065 3064 3099; 3067 3066 3099; 3069 3068 3099; 3070 306F 3099;
    3071 306F 309A; 3073 3072 3099; 3074 3072 309A; 3076 3075 3099; 3077 3075 309A;
    3079 3078 3099; 307A 3078 309A; 307C 307B 3099; 307D 307B 309A; 3094 3046 3099;
    309E 309D 3099; 30AC 30AB 3099; 30AE 30AD 3099; 30B0 30AF 3099; 30B2 30B1 3099;
    30B4 30B3 3099; 30B6 30B5 3099; 30B8 30B7 3099; 30BA 30B9 3099; 30BC 30BB 3099;
    30BE 30BD 3099; 30C0 30BF 3099; 30C2 30C1 3099; 30C5 30C4 3099; 30C7 30C6 3099;
    30C9 30C8 3099; 30D0 30CF 3099; 30D1 30CF 309A; 30D3 30D2 3099; 30D4 30D2 309A;
    30D6 30D5 3099; 30D7 30D5 309A; 30D9 30D8 3099; 30DA 30D8 309A; 30DC 30DB 3099;
    30DD 30DB 309A; 30F4 30A6 3099; 30F7 30EF 3099; 30F8 30F0 3099; 30F9 30F1 3099;
    30FA 30F2 3099; 30FE 30FD 3099; 105C9 105D2 307; 105E4 105DA 307; 1109A 11099 110BA;
    1109C 1109B 110BA; 110AB 110A5 110BA; 1112E 11131 11127; 1112F 11132 11127;
    1134B 11347 1133E; 1134C 11347 11357; 11383 11382 113C9; 11385 11384 113BB;
    1138E 1138B 113C2; 11391 11390 113C9; 113C5 113C2 113C2; 113C7 113C2 113B8;
    113C8 113C2 113C9; 114BB 114B9 114BA; 114BC 114B9 114B0; 114BE 114B9 114BD;
    115BA 115B8 115AF; 115BB 115B9 115AF; 11938 11935 11930; 16121 1611E 1611E;
    16122 1611E 16129; 16123 1611E 1611F; 16124 16129 1611F; 16125 1611E 16120;
    16126 1611E 1611E 1611F; 16127 1611E 16129 1611F; 16128 1611E 1611E 16120;
    16D68 16D67 16D67; 16D69 16D63 16D67; 16D6A 16D63 16D67 16D67"

def replacedRows : List (List Nat) := Table.rows
  "340 300; 341 301; 343 313; 344 308 301; 374 2B9; 37E 3B; 387 B7; 958 915 93C;
    959 916 93C; 95A 917 93C; 95B 91C 93C; 95C 921 93C; 95D 922 93C; 95E 92B 93C; 95F 92F 93C;
    9DC 9A1 9BC; 9DD 9A2 9BC; 9DF 9AF 9BC; A33 A32 A3C; A36 A38 A3C; A59 A16 A3C; A5A A17 A3C;
    A5B A1C A3C; A5E A2B A3C; B5C B21 B3C; B5D B22 B3C; F43 F42 FB7; F4D F4C FB7; F52 F51 FB7;
    F57 F56 FB7; F5C F5B FB7; F69 F40 FB5; F73 F71 F72; F75 F71 F74; F76 FB2 F80; F78 FB3 F80;
    F81 F71 F80; F93 F92 FB7; F9D F9C FB7; FA2 FA1 FB7; FA7 FA6 FB7; FAC FAB FB7; FB9 F90 FB5;
    1F71 3B1 301; 1F73 3B5 301; 1F75 3B7 301; 1F77 3B9 301; 1F79 3BF 301; 1F7B 3C5 301;
    1F7D 3C9 301; 1FBB 391 301; 1FBE 3B9; 1FC9 395 301; 1FCB 397 301; 1FD3 3B9 308 301;
    1FDB 399 301; 1FE3 3C5 308 301; 1FEB 3A5 301; 1FEE A8 301; 1FEF 60; 1FF9 39F 301;
    1FFB 3A9 301; 1FFD B4; 2000 2002; 2001 2003; 2126 3A9; 212A 4B; 212B 41 30A; 2329 3008;
    232A 3009; 2ADC 2ADD 338; F900 8C48; F901 66F4; F902 8ECA; F903 8CC8; F904 6ED1;
    F905 4E32; F906 53E5; F907 9F9C; F908 9F9C; F909 5951; F90A 91D1; F90B 5587; F90C 5948;
    F90D 61F6; F90E 7669; F90F 7F85; F910 863F; F911 87BA; F912 88F8; F913 908F; F914 6A02;
    F915 6D1B; F916 70D9; F917 73DE; F918 843D; F919 916A; F91A 99F1; F91B 4E82; F91C 5375;
    F91D 6B04; F91E 721B; F91F 862D; F920 9E1E; F921 5D50; F922 6FEB; F923 85CD; F924 8964;
    F925 62C9; F926 81D8; F927 881F; F928 5ECA; F929 6717; F92A 6D6A; F92B 72FC; F92C 90CE;
    F92D 4F86; F92E 51B7; F92F 52DE; F930 64C4; F931 6AD3; F932 7210; F933 76E7; F934 8001;
    F935 8606; F936 865C; F937 8DEF; F938 9732; F939 9B6F; F93A 9DFA; F93B 788C; F93C 797F;
    F93D 7DA0; F93E 83C9; F93F 9304; F940 9E7F; F941 8AD6; F942 58DF; F943 5F04; F944 7C60;
    F945 807E; F946 7262; F947 78CA; F948 8CC2; F949 96F7; F94A 58D8; F94B 5C62; F94C 6A13;
    F94D 6DDA; F94E 6F0F; F94F 7D2F; F950 7E37; F951 964B; F952 52D2; F953 808B; F954 51DC;
    F955 51CC; F956 7A1C; F957 7DBE; F958 83F1; F959 9675; F95A 8B80; F95B 62CF; F95C 6A02;
    F95D 8AFE; F95E 4E39; F95F 5BE7; F960 6012; F961 7387; F962 7570; F963 5317; F964 78FB;
    F965 4FBF; F966 5FA9; F967 4E0D; F968 6CCC; F969 6578; F96A 7D22; F96B 53C3; F96C 585E;
    F96D 7701; F96E 8449; F96F 8AAA; F970 6BBA; F971 8FB0; F972 6C88; F973 62FE; F974 82E5;
    F975 63A0; F976 7565; F977 4EAE; F978 5169; F979 51C9; F97A 6881; F97B 7CE7; F97C 826F;
    F97D 8AD2; F97E 91CF; F97F 52F5; F980 5442; F981 5973; F982 5EEC; F983 65C5; F984 6FFE;
    F985 792A; F986 95AD; F987 9A6A; F988 9E97; F989 9ECE; F98A 529B; F98B 66C6; F98C 6B77;
    F98D 8F62; F98E 5E74; F98F 6190; F990 6200; F991 649A; F992 6F23; F993 7149; F994 7489;
    F995 79CA; F996 7DF4; F997 806F; F998 8F26; F999 84EE; F99A 9023; F99B 934A; F99C 5217;
    F99D 52A3; F99E 54BD; F99F 70C8; F9A0 88C2; F9A1 8AAA; F9A2 5EC9; F9A3 5FF5; F9A4 637B;
    F9A5 6BAE; F9A6 7C3E; F9A7 7375; F9A8 4EE4; F9A9 56F9; F9AA 5BE7; F9AB 5DBA; F9AC 601C;
    F9AD 73B2; F9AE 7469; F9AF 7F9A; F9B0 8046; F9B1 9234; F9B2 96F6; F9B3 9748; F9B4 9818;
    F9B5 4F8B; F9B6 79AE; F9B7 91B4; F9B8 96B8; F9B9 60E1; F9BA 4E86; F9BB 50DA; F9BC 5BEE;
    F9BD 5C3F; F9BE 6599; F9BF 6A02; F9C0 71CE; F9C1 7642; F9C2 84FC; F9C3 907C; F9C4 9F8D;
    F9C5 6688; F9C6 962E; F9C7 5289; F9C8 677B; F9C9 67F3; F9CA 6D41; F9CB 6E9C; F9CC 7409;
    F9CD 7559; F9CE 786B; F9CF 7D10; F9D0 985E; F9D1 516D; F9D2 622E; F9D3 9678; F9D4 502B;
    F9D5 5D19; F9D6 6DEA; F9D7 8F2A; F9D8 5F8B; F9D9 6144; F9DA 6817; F9DB 7387; F9DC 9686;
    F9DD 5229; F9DE 540F; F9DF 5C65; F9E0 6613; F9E1 674E; F9E2 68A8; F9E3 6CE5; F9E4 7406;
    F9E5 75E2; F9E6 7F79; F9E7 88CF; F9E8 88E1; F9E9 91CC; F9EA 96E2; F9EB 533F; F9EC 6EBA;
    F9ED 541D; F9EE 71D0; F9EF 7498; F9F0 85FA; F9F1 96A3; F9F2 9C57; F9F3 9E9F; F9F4 6797;
    F9F5 6DCB; F9F6 81E8; F9F7 7ACB; F9F8 7B20; F9F9 7C92; F9FA 72C0; F9FB 7099; F9FC 8B58;
    F9FD 4EC0; F9FE 8336; F9FF 523A; FA00 5207; FA01 5EA6; FA02 62D3; FA03 7CD6; FA04 5B85;
    FA05 6D1E; FA06 66B4; FA07 8F3B; FA08 884C; FA09 964D; FA0A 898B; FA0B 5ED3; FA0C 5140;
    FA0D 55C0; FA10 585A; FA12 6674; FA15 51DE; FA16 732A; FA17 76CA; FA18 793C; FA19 795E;
    FA1A 7965; FA1B 798F; FA1C 9756; FA1D 7CBE; FA1E 7FBD; FA20 8612; FA22 8AF8; FA25 9038;
    FA26 90FD; FA2A 98EF; FA2B 98FC; FA2C 9928; FA2D 9DB4; FA2E 90DE; FA2F 96B7; FA30 4FAE;
    FA31 50E7; FA32 514D; FA33 52C9; FA34 52E4; FA35 5351; FA36 559D; FA37 5606; FA38 5668;
    FA39 5840; FA3A 58A8; FA3B 5C64; FA3C 5C6E; FA3D 6094; FA3E 6168; FA3F 618E; FA40 61F2;
    FA41 654F; FA42 65E2; FA43 6691; FA44 6885; FA45 6D77; FA46 6E1A; FA47 6F22; FA48 716E;
    FA49 722B; FA4A 7422; FA4B 7891; FA4C 793E; FA4D 7949; FA4E 7948; FA4F 7950; FA50 7956;
    FA51 795D; FA52 798D; FA53 798E; FA54 7A40; FA55 7A81; FA56 7BC0; FA57 7DF4; FA58 7E09;
    FA59 7E41; FA5A 7F72; FA5B 8005; FA5C 81ED; FA5D 8279; FA5E 8279; FA5F 8457; FA60 8910;
    FA61 8996; FA62 8B01; FA63 8B39; FA64 8CD3; FA65 8D08; FA66 8FB6; FA67 9038; FA68 96E3;
    FA69 97FF; FA6A 983B; FA6B 6075; FA6C 242EE; FA6D 8218; FA70 4E26; FA71 51B5; FA72 5168;
    FA73 4F80; FA74 5145; FA75 5180; FA76 52C7; FA77 52FA; FA78 559D; FA79 5555; FA7A 5599;
    FA7B 55E2; FA7C 585A; FA7D 58B3; FA7E 5944; FA7F 5954; FA80 5A62; FA81 5B28; FA82 5ED2;
    FA83 5ED9; FA84 5F69; FA85 5FAD; FA86 60D8; FA87 614E; FA88 6108; FA89 618E; FA8A 6160;
    FA8B 61F2; FA8C 6234; FA8D 63C4; FA8E 641C; FA8F 6452; FA90 6556; FA91 6674; FA92 6717;
    FA93 671B; FA94 6756; FA95 6B79; FA96 6BBA; FA97 6D41; FA98 6EDB; FA99 6ECB; FA9A 6F22;
    FA9B 701E; FA9C 716E; FA9D 77A7; FA9E 7235; FA9F 72AF; FAA0 732A; FAA1 7471; FAA2 7506;
    FAA3 753B; FAA4 761D; FAA5 761F; FAA6 76CA; FAA7 76DB; FAA8 76F4; FAA9 774A; FAAA 7740;
    FAAB 78CC; FAAC 7AB1; FAAD 7BC0; FAAE 7C7B; FAAF 7D5B; FAB0 7DF4; FAB1 7F3E; FAB2 8005;
    FAB3 8352; FAB4 83EF; FAB5 8779; FAB6 8941; FAB7 8986; FAB8 8996; FAB9 8ABF; FABA 8AF8;
    FABB 8ACB; FABC 8B01; FABD 8AFE; FABE 8AED; FABF 8B39; FAC0 8B8A; FAC1 8D08; FAC2 8F38;
    FAC3 9072; FAC4 9199; FAC5 9276; FAC6 967C; FAC7 96E3; FAC8 9756; FAC9 97DB; FACA 97FF;
    FACB 980B; FACC 983B; FACD 9B12; FACE 9F9C; FACF 2284A; FAD0 22844; FAD1 233D5; FAD2 3B9D;
    FAD3 4018; FAD4 4039; FAD5 25249; FAD6 25CD0; FAD7 27ED3; FAD8 9F43; FAD9 9F8E;
    FB1D 5D9 5B4; FB1F 5F2 5B7; FB2A 5E9 5C1; FB2B 5E9 5C2; FB2C 5E9 5BC 5C1;
    FB2D 5E9 5BC 5C2; FB2E 5D0 5B7; FB2F 5D0 5B8; FB30 5D0 5BC; FB31 5D1 5BC; FB32 5D2 5BC;
    FB33 5D3 5BC; FB34 5D4 5BC; FB35 5D5 5BC; FB36 5D6 5BC; FB38 5D8 5BC; FB39 5D9 5BC;
    FB3A 5DA 5BC; FB3B 5DB 5BC; FB3C 5DC 5BC; FB3E 5DE 5BC; FB40 5E0 5BC; FB41 5E1 5BC;
    FB43 5E3 5BC; FB44 5E4 5BC; FB46 5E6 5BC; FB47 5E7 5BC; FB48 5E8 5BC; FB49 5E9 5BC;
    FB4A 5EA 5BC; FB4B 5D5 5B9; FB4C 5D1 5BF; FB4D 5DB 5BF; FB4E 5E4 5BF; 1D15E 1D157 1D165;
    1D15F 1D158 1D165; 1D160 1D158 1D165 1D16E; 1D161 1D158 1D165 1D16F;
    1D162 1D158 1D165 1D170; 1D163 1D158 1D165 1D171; 1D164 1D158 1D165 1D172;
    1D1BB 1D1B9 1D165; 1D1BC 1D1BA 1D165; 1D1BD 1D1B9 1D165 1D16E; 1D1BE 1D1BA 1D165 1D16E;
    1D1BF 1D1B9 1D165 1D16F; 1D1C0 1D1BA 1D165 1D16F; 2F800 4E3D; 2F801 4E38; 2F802 4E41;
    2F803 20122; 2F804 4F60; 2F805 4FAE; 2F806 4FBB; 2F807 5002; 2F808 507A; 2F809 5099;
    2F80A 50E7; 2F80B 50CF; 2F80C 349E; 2F80D 2063A; 2F80E 514D; 2F80F 5154; 2F810 5164;
    2F811 5177; 2F812 2051C; 2F813 34B9; 2F814 5167; 2F815 518D; 2F816 2054B; 2F817 5197;
    2F818 51A4; 2F819 4ECC; 2F81A 51AC; 2F81B 51B5; 2F81C 291DF; 2F81D 51F5; 2F81E 5203;
    2F81F 34DF; 2F820 523B; 2F821 5246; 2F822 5272; 2F823 5277; 2F824 3515; 2F825 52C7;
    2F826 52C9; 2F827 52E4; 2F828 52FA; 2F829 5305; 2F82A 5306; 2F82B 5317; 2F82C 5349;
    2F82D 5351; 2F82E 535A; 2F82F 5373; 2F830 537D; 2F831 537F; 2F832 537F; 2F833 537F;
    2F834 20A2C; 2F835 7070; 2F836 53CA; 2F837 53DF; 2F838 20B63; 2F839 53EB; 2F83A 53F1;
    2F83B 5406; 2F83C 549E; 2F83D 5438; 2F83E 5448; 2F83F 5468; 2F840 54A2; 2F841 54F6;
    2F842 5510; 2F843 5553; 2F844 5563; 2F845 5584; 2F846 5584; 2F847 5599; 2F848 55AB;
    2F849 55B3; 2F84A 55C2; 2F84B 5716; 2F84C 5606; 2F84D 5717; 2F84E 5651; 2F84F 5674;
    2F850 5207; 2F851 58EE; 2F852 57CE; 2F853 57F4; 2F854 580D; 2F855 578B; 2F856 5832;
    2F857 5831; 2F858 58AC; 2F859 214E4; 2F85A 58F2; 2F85B 58F7; 2F85C 5906; 2F85D 591A;
    2F85E 5922; 2F85F 5962; 2F860 216A8; 2F861 216EA; 2F862 59EC; 2F863 5A1B; 2F864 5A27;
    2F865 59D8; 2F866 5A66; 2F867 36EE; 2F868 36FC; 2F869 5B08; 2F86A 5B3E; 2F86B 5B3E;
    2F86C 219C8; 2F86D 5BC3; 2F86E 5BD8; 2F86F 5BE7; 2F870 5BF3; 2F871 21B18; 2F872 5BFF;
    2F873 5C06; 2F874 5F53; 2F875 5C22; 2F876 3781; 2F877 5C60; 2F878 5C6E; 2F879 5CC0;
    2F87A 5C8D; 2F87B 21DE4; 2F87C 5D43; 2F87D 21DE6; 2F87E 5D6E; 2F87F 5D6B; 2F880 5D7C;
    2F881 5DE1; 2F882 5DE2; 2F883 382F; 2F884 5DFD; 2F885 5E28; 2F886 5E3D; 2F887 5E69;
    2F888 3862; 2F889 22183; 2F88A 387C; 2F88B 5EB0; 2F88C 5EB3; 2F88D 5EB6; 2F88E 5ECA;
    2F88F 2A392; 2F890 5EFE; 2F891 22331; 2F892 22331; 2F893 8201; 2F894 5F22; 2F895 5F22;
    2F896 38C7; 2F897 232B8; 2F898 261DA; 2F899 5F62; 2F89A 5F6B; 2F89B 38E3; 2F89C 5F9A;
    2F89D 5FCD; 2F89E 5FD7; 2F89F 5FF9; 2F8A0 6081; 2F8A1 393A; 2F8A2 391C; 2F8A3 6094;
    2F8A4 226D4; 2F8A5 60C7; 2F8A6 6148; 2F8A7 614C; 2F8A8 614E; 2F8A9 614C; 2F8AA 617A;
    2F8AB 618E; 2F8AC 61B2; 2F8AD 61A4; 2F8AE 61AF; 2F8AF 61DE; 2F8B0 61F2; 2F8B1 61F6;
    2F8B2 6210; 2F8B3 621B; 2F8B4 625D; 2F8B5 62B1; 2F8B6 62D4; 2F8B7 6350; 2F8B8 22B0C;
    2F8B9 633D; 2F8BA 62FC; 2F8BB 6368; 2F8BC 6383; 2F8BD 63E4; 2F8BE 22BF1; 2F8BF 6422;
    2F8C0 63C5; 2F8C1 63A9; 2F8C2 3A2E; 2F8C3 6469; 2F8C4 647E; 2F8C5 649D; 2F8C6 6477;
    2F8C7 3A6C; 2F8C8 654F; 2F8C9 656C; 2F8CA 2300A; 2F8CB 65E3; 2F8CC 66F8; 2F8CD 6649;
    2F8CE 3B19; 2F8CF 6691; 2F8D0 3B08; 2F8D1 3AE4; 2F8D2 5192; 2F8D3 5195; 2F8D4 6700;
    2F8D5 669C; 2F8D6 80AD; 2F8D7 43D9; 2F8D8 6717; 2F8D9 671B; 2F8DA 6721; 2F8DB 675E;
    2F8DC 6753; 2F8DD 233C3; 2F8DE 3B49; 2F8DF 67FA; 2F8E0 6785; 2F8E1 6852; 2F8E2 6885;
    2F8E3 2346D; 2F8E4 688E; 2F8E5 681F; 2F8E6 6914; 2F8E7 3B9D; 2F8E8 6942; 2F8E9 69A3;
    2F8EA 69EA; 2F8EB 6AA8; 2F8EC 236A3; 2F8ED 6ADB; 2F8EE 3C18; 2F8EF 6B21; 2F8F0 238A7;
    2F8F1 6B54; 2F8F2 3C4E; 2F8F3 6B72; 2F8F4 6B9F; 2F8F5 6BBA; 2F8F6 6BBB; 2F8F7 23A8D;
    2F8F8 21D0B; 2F8F9 23AFA; 2F8FA 6C4E; 2F8FB 23CBC; 2F8FC 6CBF; 2F8FD 6CCD; 2F8FE 6C67;
    2F8FF 6D16; 2F900 6D3E; 2F901 6D77; 2F902 6D41; 2F903 6D69; 2F904 6D78; 2F905 6D85;
    2F906 23D1E; 2F907 6D34; 2F908 6E2F; 2F909 6E6E; 2F90A 3D33; 2F90B 6ECB; 2F90C 6EC7;
    2F90D 23ED1; 2F90E 6DF9; 2F90F 6F6E; 2F910 23F5E; 2F911 23F8E; 2F912 6FC6; 2F913 7039;
    2F914 701E; 2F915 701B; 2F916 3D96; 2F917 704A; 2F918 707D; 2F919 7077; 2F91A 70AD;
    2F91B 20525; 2F91C 7145; 2F91D 24263; 2F91E 719C; 2F91F 243AB; 2F920 7228; 2F921 7235;
    2F922 7250; 2F923 24608; 2F924 7280; 2F925 7295; 2F926 24735; 2F927 24814; 2F928 737A;
    2F929 738B; 2F92A 3EAC; 2F92B 73A5; 2F92C 3EB8; 2F92D 3EB8; 2F92E 7447; 2F92F 745C;
    2F930 7471; 2F931 7485; 2F932 74CA; 2F933 3F1B; 2F934 7524; 2F935 24C36; 2F936 753E;
    2F937 24C92; 2F938 7570; 2F939 2219F; 2F93A 7610; 2F93B 24FA1; 2F93C 24FB8; 2F93D 25044;
    2F93E 3FFC; 2F93F 4008; 2F940 76F4; 2F941 250F3; 2F942 250F2; 2F943 25119; 2F944 25133;
    2F945 771E; 2F946 771F; 2F947 771F; 2F948 774A; 2F949 4039; 2F94A 778B; 2F94B 4046;
    2F94C 4096; 2F94D 2541D; 2F94E 784E; 2F94F 788C; 2F950 78CC; 2F951 40E3; 2F952 25626;
    2F953 7956; 2F954 2569A; 2F955 256C5; 2F956 798F; 2F957 79EB; 2F958 412F; 2F959 7A40;
    2F95A 7A4A; 2F95B 7A4F; 2F95C 2597C; 2F95D 25AA7; 2F95E 25AA7; 2F95F 7AEE; 2F960 4202;
    2F961 25BAB; 2F962 7BC6; 2F963 7BC9; 2F964 4227; 2F965 25C80; 2F966 7CD2; 2F967 42A0;
    2F968 7CE8; 2F969 7CE3; 2F96A 7D00; 2F96B 25F86; 2F96C 7D63; 2F96D 4301; 2F96E 7DC7;
    2F96F 7E02; 2F970 7E45; 2F971 4334; 2F972 26228; 2F973 26247; 2F974 4359; 2F975 262D9;
    2F976 7F7A; 2F977 2633E; 2F978 7F95; 2F979 7FFA; 2F97A 8005; 2F97B 264DA; 2F97C 26523;
    2F97D 8060; 2F97E 265A8; 2F97F 8070; 2F980 2335F; 2F981 43D5; 2F982 80B2; 2F983 8103;
    2F984 440B; 2F985 813E; 2F986 5AB5; 2F987 267A7; 2F988 267B5; 2F989 23393; 2F98A 2339C;
    2F98B 8201; 2F98C 8204; 2F98D 8F9E; 2F98E 446B; 2F98F 8291; 2F990 828B; 2F991 829D;
    2F992 52B3; 2F993 82B1; 2F994 82B3; 2F995 82BD; 2F996 82E6; 2F997 26B3C; 2F998 82E5;
    2F999 831D; 2F99A 8363; 2F99B 83AD; 2F99C 8323; 2F99D 83BD; 2F99E 83E7; 2F99F 8457;
    2F9A0 8353; 2F9A1 83CA; 2F9A2 83CC; 2F9A3 83DC; 2F9A4 26C36; 2F9A5 26D6B; 2F9A6 26CD5;
    2F9A7 452B; 2F9A8 84F1; 2F9A9 84F3; 2F9AA 8516; 2F9AB 273CA; 2F9AC 8564; 2F9AD 26F2C;
    2F9AE 455D; 2F9AF 4561; 2F9B0 26FB1; 2F9B1 270D2; 2F9B2 456B; 2F9B3 8650; 2F9B4 865C;
    2F9B5 8667; 2F9B6 8669; 2F9B7 86A9; 2F9B8 8688; 2F9B9 870E; 2F9BA 86E2; 2F9BB 8779;
    2F9BC 8728; 2F9BD 876B; 2F9BE 8786; 2F9BF 45D7; 2F9C0 87E1; 2F9C1 8801; 2F9C2 45F9;
    2F9C3 8860; 2F9C4 8863; 2F9C5 27667; 2F9C6 88D7; 2F9C7 88DE; 2F9C8 4635; 2F9C9 88FA;
    2F9CA 34BB; 2F9CB 278AE; 2F9CC 27966; 2F9CD 46BE; 2F9CE 46C7; 2F9CF 8AA0; 2F9D0 8AED;
    2F9D1 8B8A; 2F9D2 8C55; 2F9D3 27CA8; 2F9D4 8CAB; 2F9D5 8CC1; 2F9D6 8D1B; 2F9D7 8D77;
    2F9D8 27F2F; 2F9D9 20804; 2F9DA 8DCB; 2F9DB 8DBC; 2F9DC 8DF0; 2F9DD 208DE; 2F9DE 8ED4;
    2F9DF 8F38; 2F9E0 285D2; 2F9E1 285ED; 2F9E2 9094; 2F9E3 90F1; 2F9E4 9111; 2F9E5 2872E;
    2F9E6 911B; 2F9E7 9238; 2F9E8 92D7; 2F9E9 92D8; 2F9EA 927C; 2F9EB 93F9; 2F9EC 9415;
    2F9ED 28BFA; 2F9EE 958B; 2F9EF 4995; 2F9F0 95B7; 2F9F1 28D77; 2F9F2 49E6; 2F9F3 96C3;
    2F9F4 5DB2; 2F9F5 9723; 2F9F6 29145; 2F9F7 2921A; 2F9F8 4A6E; 2F9F9 4A76; 2F9FA 97E0;
    2F9FB 2940A; 2F9FC 4AB2; 2F9FD 29496; 2F9FE 980B; 2F9FF 980B; 2FA00 9829; 2FA01 295B6;
    2FA02 98E2; 2FA03 4B33; 2FA04 9929; 2FA05 99A7; 2FA06 99C2; 2FA07 99FE; 2FA08 4BCE;
    2FA09 29B30; 2FA0A 9B12; 2FA0B 9C40; 2FA0C 9CFD; 2FA0D 4CCE; 2FA0E 4CED; 2FA0F 9D67;
    2FA10 2A0CE; 2FA11 4CF8; 2FA12 2A105; 2FA13 2A20E; 2FA14 2A291; 2FA15 9EBB; 2FA16 4D56;
    2FA17 9EF9; 2FA18 9EFE; 2FA19 9F05; 2FA1A 9F0F; 2FA1B 9F16; 2FA1C 9F3B; 2FA1D 2A600"

end Testbed.Text
