/-!
# Characters in names of hosts

Which characters of Unicode 3.2 a label of a name drops, which it must not have, and in which
direction they are written. Runs of characters have a first and a last number.
-/

namespace ApiKeys.HostName

/-- The runs of characters that are dropped. -/
def dropped : List (Nat × Nat) := [
  (0xad, 0xad), (0x34f, 0x34f), (0x1806, 0x1806), (0x180b, 0x180d), (0x200b, 0x200d),
  (0x2060, 0x2060), (0xfe00, 0xfe0f), (0xfeff, 0xfeff)]

/-- The characters that have another small form than in general, of one character, those after the
given one too: the string has theirs in order. -/
def singleFoldings : List (Nat × String) := [
  (0xb5, "μ"), (0x17f, "s"), (0x345, "ι"), (0x3c2, "σ"), (0x3d0, "βθυύϋφπ"), (0x3f0, "κρσ"),
  (0x3f5, "ε"), (0x1e9b, "ṡ"), (0x1fbe, "ι"), (0x2102, "c"), (0x2107, "ɛ"), (0x210b, "hhh"),
  (0x2110, "iil"), (0x2115, "n"), (0x2119, "pqrrr"), (0x2124, "z"), (0x2128, "z"), (0x212c, "bc"),
  (0x2130, "ef"), (0x2133, "m"), (0x213e, "γπ"), (0x2145, "d"),
  (0x1d400, "abcdefghijklmnopqrstuvwxyz"), (0x1d434, "abcdefghijklmnopqrstuvwxyz"),
  (0x1d468, "abcdefghijklmnopqrstuvwxyz"), (0x1d49c, "a"), (0x1d49e, "cd"), (0x1d4a2, "g"),
  (0x1d4a5, "jk"), (0x1d4a9, "nopq"), (0x1d4ae, "stuvwxyz"),
  (0x1d4d0, "abcdefghijklmnopqrstuvwxyz"), (0x1d504, "ab"), (0x1d507, "defg"),
  (0x1d50d, "jklmnopq"), (0x1d516, "stuvwxy"), (0x1d538, "ab"), (0x1d53b, "defg"),
  (0x1d540, "ijklm"), (0x1d546, "o"), (0x1d54a, "stuvwxy"), (0x1d56c, "abcdefghijklmnopqrstuvwxyz"),
  (0x1d5a0, "abcdefghijklmnopqrstuvwxyz"), (0x1d5d4, "abcdefghijklmnopqrstuvwxyz"),
  (0x1d608, "abcdefghijklmnopqrstuvwxyz"), (0x1d63c, "abcdefghijklmnopqrstuvwxyz"),
  (0x1d670, "abcdefghijklmnopqrstuvwxyz"), (0x1d6a8, "αβγδεζηθικλμνξοπρθστυφχψω"), (0x1d6d3, "σ"),
  (0x1d6e2, "αβγδεζηθικλμνξοπρθστυφχψω"), (0x1d70d, "σ"), (0x1d71c, "αβγδεζηθικλμνξοπρθστυφχψω"),
  (0x1d747, "σ"), (0x1d756, "αβγδεζηθικλμνξοπρθστυφχψω"), (0x1d781, "σ"),
  (0x1d790, "αβγδεζηθικλμνξοπρθστυφχψω"), (0x1d7bb, "σ")]

/-- The characters that have another small form than in general, of several characters or none,
those after the given one too. -/
def severalFoldings : List (Nat × List String) := [
  (0xdf, ["ss"]), (0x130, ["i\u0307"]), (0x149, ["\u02bcn"]), (0x1f0, ["j\u030c"]), (0x37a, [" ι"]),
  (0x390, ["ι\u0308\u0301"]), (0x3b0, ["υ\u0308\u0301"]), (0x587, ["եւ"]),
  (0x1e96, ["h\u0331", "t\u0308", "w\u030a", "y\u030a", "a\u02be"]), (0x1f50, ["υ\u0313"]),
  (0x1f52, ["υ\u0313\u0300"]), (0x1f54, ["υ\u0313\u0301"]), (0x1f56, ["υ\u0313\u0342"]),
  (0x1f80, ["ἀι", "ἁι", "ἂι", "ἃι", "ἄι", "ἅι", "ἆι", "ἇι", "ἀι", "ἁι", "ἂι", "ἃι", "ἄι"]),
  (0x1f8d, ["ἅι", "ἆι", "ἇι", "ἠι", "ἡι", "ἢι", "ἣι", "ἤι", "ἥι", "ἦι", "ἧι", "ἠι", "ἡι"]),
  (0x1f9a, ["ἢι", "ἣι", "ἤι", "ἥι", "ἦι", "ἧι", "ὠι", "ὡι", "ὢι", "ὣι", "ὤι", "ὥι", "ὦι"]),
  (0x1fa7, ["ὧι", "ὠι", "ὡι", "ὢι", "ὣι", "ὤι", "ὥι", "ὦι", "ὧι"]), (0x1fb2, ["ὰι", "αι", "άι"]),
  (0x1fb6, ["α\u0342", "α\u0342ι"]), (0x1fbc, ["αι"]), (0x1fc2, ["ὴι", "ηι", "ήι"]),
  (0x1fc6, ["η\u0342", "η\u0342ι"]), (0x1fcc, ["ηι"]), (0x1fd2, ["ι\u0308\u0300", "ι\u0308\u0301"]),
  (0x1fd6, ["ι\u0342", "ι\u0308\u0342"]), (0x1fe2, ["υ\u0308\u0300", "υ\u0308\u0301", "ρ\u0313"]),
  (0x1fe6, ["υ\u0342", "υ\u0308\u0342"]), (0x1ff2, ["ὼι", "ωι", "ώι"]),
  (0x1ff6, ["ω\u0342", "ω\u0342ι"]), (0x1ffc, ["ωι"]), (0x20a8, ["rs"]), (0x2103, ["°c"]),
  (0x2109, ["°f"]), (0x2116, ["no"]), (0x2120, ["sm", "tel", "tm"]), (0x3371, ["hpa"]),
  (0x3373, ["au"]), (0x3375, ["ov"]), (0x3380, ["pa", "na", "μa", "ma", "ka", "kb", "mb", "gb"]),
  (0x338a, ["pf", "nf", "μf"]), (0x3390, ["hz", "khz", "mhz", "ghz", "thz"]),
  (0x33a9, ["pa", "kpa", "mpa", "gpa"]),
  (0x33b4, ["pv", "nv", "μv", "mv", "kv", "mv", "pw", "nw", "μw", "mw", "kw", "mw", "kω"]),
  (0x33c1, ["mω"]), (0x33c3, ["bq"]), (0x33c6, ["c∕kg", "co.", "db", "gy"]), (0x33cb, ["hp"]),
  (0x33cd, ["kk", "km"]), (0x33d7, ["ph"]), (0x33d9, ["ppm", "pr"]), (0x33dc, ["sv", "wb"]),
  (0xfb00, ["ff", "fi", "fl", "ffi", "ffl", "st", "st"]), (0xfb13, ["մն", "մե", "մի", "վն", "մխ"])]

/-- The runs of characters that no label has. -/
def prohibited : List (Nat × Nat) := [
  (0x80, 0xa0), (0x340, 0x341), (0x6dd, 0x6dd), (0x70f, 0x70f), (0x1680, 0x1680), (0x180e, 0x180e),
  (0x2000, 0x200f), (0x2028, 0x202f), (0x205f, 0x2063), (0x206a, 0x206f), (0x2ff0, 0x2ffb),
  (0x3000, 0x3000), (0xd800, 0xf8ff), (0xfdd0, 0xfdef), (0xfeff, 0xfeff), (0xfff9, 0xffff),
  (0x1d173, 0x1d17a), (0x1fffe, 0x1ffff), (0x2fffe, 0x2ffff), (0x3fffe, 0x3ffff),
  (0x4fffe, 0x4ffff), (0x5fffe, 0x5ffff), (0x6fffe, 0x6ffff), (0x7fffe, 0x7ffff),
  (0x8fffe, 0x8ffff), (0x9fffe, 0x9ffff), (0xafffe, 0xaffff), (0xbfffe, 0xbffff),
  (0xcfffe, 0xcffff), (0xdfffe, 0xdffff), (0xe0001, 0xe0001), (0xe0020, 0xe007f),
  (0xefffe, 0x10ffff)]

/-- The runs of characters that are written from right to left. -/
def leftward : List (Nat × Nat) := [
  (0x5be, 0x5be), (0x5c0, 0x5c0), (0x5c3, 0x5c3), (0x5d0, 0x5ea), (0x5f0, 0x5f4), (0x61b, 0x61b),
  (0x61f, 0x61f), (0x621, 0x63a), (0x640, 0x64a), (0x66d, 0x66f), (0x671, 0x6d5), (0x6dd, 0x6dd),
  (0x6e5, 0x6e6), (0x6fa, 0x6fe), (0x700, 0x70d), (0x710, 0x710), (0x712, 0x72c), (0x780, 0x7a5),
  (0x7b1, 0x7b1), (0x200f, 0x200f), (0xfb1d, 0xfb1d), (0xfb1f, 0xfb28), (0xfb2a, 0xfb36),
  (0xfb38, 0xfb3c), (0xfb3e, 0xfb3e), (0xfb40, 0xfb41), (0xfb43, 0xfb44), (0xfb46, 0xfbb1),
  (0xfbd3, 0xfd3d), (0xfd50, 0xfd8f), (0xfd92, 0xfdc7), (0xfdf0, 0xfdfc), (0xfe70, 0xfe74),
  (0xfe76, 0xfefc)]

/-- The runs of characters that are written from left to right. -/
def rightward : List (Nat × Nat) := [
  (0x41, 0x5a), (0x61, 0x7a), (0xaa, 0xaa), (0xb5, 0xb5), (0xba, 0xba), (0xc0, 0xd6), (0xd8, 0xf6),
  (0xf8, 0x220), (0x222, 0x233), (0x250, 0x2ad), (0x2b0, 0x2b8), (0x2bb, 0x2c1), (0x2d0, 0x2d1),
  (0x2e0, 0x2e4), (0x2ee, 0x2ee), (0x37a, 0x37a), (0x386, 0x386), (0x388, 0x38a), (0x38c, 0x38c),
  (0x38e, 0x3a1), (0x3a3, 0x3ce), (0x3d0, 0x3f5), (0x400, 0x482), (0x48a, 0x4ce), (0x4d0, 0x4f5),
  (0x4f8, 0x4f9), (0x500, 0x50f), (0x531, 0x556), (0x559, 0x55f), (0x561, 0x587), (0x589, 0x589),
  (0x903, 0x903), (0x905, 0x939), (0x93d, 0x940), (0x949, 0x94c), (0x950, 0x950), (0x958, 0x961),
  (0x964, 0x970), (0x982, 0x983), (0x985, 0x98c), (0x98f, 0x990), (0x993, 0x9a8), (0x9aa, 0x9b0),
  (0x9b2, 0x9b2), (0x9b6, 0x9b9), (0x9be, 0x9c0), (0x9c7, 0x9c8), (0x9cb, 0x9cc), (0x9d7, 0x9d7),
  (0x9dc, 0x9dd), (0x9df, 0x9e1), (0x9e6, 0x9f1), (0x9f4, 0x9fa), (0xa05, 0xa0a), (0xa0f, 0xa10),
  (0xa13, 0xa28), (0xa2a, 0xa30), (0xa32, 0xa33), (0xa35, 0xa36), (0xa38, 0xa39), (0xa3e, 0xa40),
  (0xa59, 0xa5c), (0xa5e, 0xa5e), (0xa66, 0xa6f), (0xa72, 0xa74), (0xa83, 0xa83), (0xa85, 0xa8b),
  (0xa8d, 0xa8d), (0xa8f, 0xa91), (0xa93, 0xaa8), (0xaaa, 0xab0), (0xab2, 0xab3), (0xab5, 0xab9),
  (0xabd, 0xac0), (0xac9, 0xac9), (0xacb, 0xacc), (0xad0, 0xad0), (0xae0, 0xae0), (0xae6, 0xaef),
  (0xb02, 0xb03), (0xb05, 0xb0c), (0xb0f, 0xb10), (0xb13, 0xb28), (0xb2a, 0xb30), (0xb32, 0xb33),
  (0xb36, 0xb39), (0xb3d, 0xb3e), (0xb40, 0xb40), (0xb47, 0xb48), (0xb4b, 0xb4c), (0xb57, 0xb57),
  (0xb5c, 0xb5d), (0xb5f, 0xb61), (0xb66, 0xb70), (0xb83, 0xb83), (0xb85, 0xb8a), (0xb8e, 0xb90),
  (0xb92, 0xb95), (0xb99, 0xb9a), (0xb9c, 0xb9c), (0xb9e, 0xb9f), (0xba3, 0xba4), (0xba8, 0xbaa),
  (0xbae, 0xbb5), (0xbb7, 0xbb9), (0xbbe, 0xbbf), (0xbc1, 0xbc2), (0xbc6, 0xbc8), (0xbca, 0xbcc),
  (0xbd7, 0xbd7), (0xbe7, 0xbf2), (0xc01, 0xc03), (0xc05, 0xc0c), (0xc0e, 0xc10), (0xc12, 0xc28),
  (0xc2a, 0xc33), (0xc35, 0xc39), (0xc41, 0xc44), (0xc60, 0xc61), (0xc66, 0xc6f), (0xc82, 0xc83),
  (0xc85, 0xc8c), (0xc8e, 0xc90), (0xc92, 0xca8), (0xcaa, 0xcb3), (0xcb5, 0xcb9), (0xcbe, 0xcbe),
  (0xcc0, 0xcc4), (0xcc7, 0xcc8), (0xcca, 0xccb), (0xcd5, 0xcd6), (0xcde, 0xcde), (0xce0, 0xce1),
  (0xce6, 0xcef), (0xd02, 0xd03), (0xd05, 0xd0c), (0xd0e, 0xd10), (0xd12, 0xd28), (0xd2a, 0xd39),
  (0xd3e, 0xd40), (0xd46, 0xd48), (0xd4a, 0xd4c), (0xd57, 0xd57), (0xd60, 0xd61), (0xd66, 0xd6f),
  (0xd82, 0xd83), (0xd85, 0xd96), (0xd9a, 0xdb1), (0xdb3, 0xdbb), (0xdbd, 0xdbd), (0xdc0, 0xdc6),
  (0xdcf, 0xdd1), (0xdd8, 0xddf), (0xdf2, 0xdf4), (0xe01, 0xe30), (0xe32, 0xe33), (0xe40, 0xe46),
  (0xe4f, 0xe5b), (0xe81, 0xe82), (0xe84, 0xe84), (0xe87, 0xe88), (0xe8a, 0xe8a), (0xe8d, 0xe8d),
  (0xe94, 0xe97), (0xe99, 0xe9f), (0xea1, 0xea3), (0xea5, 0xea5), (0xea7, 0xea7), (0xeaa, 0xeab),
  (0xead, 0xeb0), (0xeb2, 0xeb3), (0xebd, 0xebd), (0xec0, 0xec4), (0xec6, 0xec6), (0xed0, 0xed9),
  (0xedc, 0xedd), (0xf00, 0xf17), (0xf1a, 0xf34), (0xf36, 0xf36), (0xf38, 0xf38), (0xf3e, 0xf47),
  (0xf49, 0xf6a), (0xf7f, 0xf7f), (0xf85, 0xf85), (0xf88, 0xf8b), (0xfbe, 0xfc5), (0xfc7, 0xfcc),
  (0xfcf, 0xfcf), (0x1000, 0x1021), (0x1023, 0x1027), (0x1029, 0x102a), (0x102c, 0x102c),
  (0x1031, 0x1031), (0x1038, 0x1038), (0x1040, 0x1057), (0x10a0, 0x10c5), (0x10d0, 0x10f8),
  (0x10fb, 0x10fb), (0x1100, 0x1159), (0x115f, 0x11a2), (0x11a8, 0x11f9), (0x1200, 0x1206),
  (0x1208, 0x1246), (0x1248, 0x1248), (0x124a, 0x124d), (0x1250, 0x1256), (0x1258, 0x1258),
  (0x125a, 0x125d), (0x1260, 0x1286), (0x1288, 0x1288), (0x128a, 0x128d), (0x1290, 0x12ae),
  (0x12b0, 0x12b0), (0x12b2, 0x12b5), (0x12b8, 0x12be), (0x12c0, 0x12c0), (0x12c2, 0x12c5),
  (0x12c8, 0x12ce), (0x12d0, 0x12d6), (0x12d8, 0x12ee), (0x12f0, 0x130e), (0x1310, 0x1310),
  (0x1312, 0x1315), (0x1318, 0x131e), (0x1320, 0x1346), (0x1348, 0x135a), (0x1361, 0x137c),
  (0x13a0, 0x13f4), (0x1401, 0x1676), (0x1681, 0x169a), (0x16a0, 0x16f0), (0x1700, 0x170c),
  (0x170e, 0x1711), (0x1720, 0x1731), (0x1735, 0x1736), (0x1740, 0x1751), (0x1760, 0x176c),
  (0x176e, 0x1770), (0x1780, 0x17b6), (0x17be, 0x17c5), (0x17c7, 0x17c8), (0x17d4, 0x17da),
  (0x17dc, 0x17dc), (0x17e0, 0x17e9), (0x1810, 0x1819), (0x1820, 0x1877), (0x1880, 0x18a8),
  (0x1e00, 0x1e9b), (0x1ea0, 0x1ef9), (0x1f00, 0x1f15), (0x1f18, 0x1f1d), (0x1f20, 0x1f45),
  (0x1f48, 0x1f4d), (0x1f50, 0x1f57), (0x1f59, 0x1f59), (0x1f5b, 0x1f5b), (0x1f5d, 0x1f5d),
  (0x1f5f, 0x1f7d), (0x1f80, 0x1fb4), (0x1fb6, 0x1fbc), (0x1fbe, 0x1fbe), (0x1fc2, 0x1fc4),
  (0x1fc6, 0x1fcc), (0x1fd0, 0x1fd3), (0x1fd6, 0x1fdb), (0x1fe0, 0x1fec), (0x1ff2, 0x1ff4),
  (0x1ff6, 0x1ffc), (0x200e, 0x200e), (0x2071, 0x2071), (0x207f, 0x207f), (0x2102, 0x2102),
  (0x2107, 0x2107), (0x210a, 0x2113), (0x2115, 0x2115), (0x2119, 0x211d), (0x2124, 0x2124),
  (0x2126, 0x2126), (0x2128, 0x2128), (0x212a, 0x212d), (0x212f, 0x2131), (0x2133, 0x2139),
  (0x213d, 0x213f), (0x2145, 0x2149), (0x2160, 0x2183), (0x2336, 0x237a), (0x2395, 0x2395),
  (0x249c, 0x24e9), (0x3005, 0x3007), (0x3021, 0x3029), (0x3031, 0x3035), (0x3038, 0x303c),
  (0x3041, 0x3096), (0x309d, 0x309f), (0x30a1, 0x30fa), (0x30fc, 0x30ff), (0x3105, 0x312c),
  (0x3131, 0x318e), (0x3190, 0x31b7), (0x31f0, 0x321c), (0x3220, 0x3243), (0x3260, 0x327b),
  (0x327f, 0x32b0), (0x32c0, 0x32cb), (0x32d0, 0x32fe), (0x3300, 0x3376), (0x337b, 0x33dd),
  (0x33e0, 0x33fe), (0x3400, 0x4db5), (0x4e00, 0x9fa5), (0xa000, 0xa48c), (0xac00, 0xd7a3),
  (0xd800, 0xfa2d), (0xfa30, 0xfa6a), (0xfb00, 0xfb06), (0xfb13, 0xfb17), (0xff21, 0xff3a),
  (0xff41, 0xff5a), (0xff66, 0xffbe), (0xffc2, 0xffc7), (0xffca, 0xffcf), (0xffd2, 0xffd7),
  (0xffda, 0xffdc), (0x10300, 0x1031e), (0x10320, 0x10323), (0x10330, 0x1034a), (0x10400, 0x10425),
  (0x10428, 0x1044d), (0x1d000, 0x1d0f5), (0x1d100, 0x1d126), (0x1d12a, 0x1d166),
  (0x1d16a, 0x1d172), (0x1d183, 0x1d184), (0x1d18c, 0x1d1a9), (0x1d1ae, 0x1d1dd),
  (0x1d400, 0x1d454), (0x1d456, 0x1d49c), (0x1d49e, 0x1d49f), (0x1d4a2, 0x1d4a2),
  (0x1d4a5, 0x1d4a6), (0x1d4a9, 0x1d4ac), (0x1d4ae, 0x1d4b9), (0x1d4bb, 0x1d4bb),
  (0x1d4bd, 0x1d4c0), (0x1d4c2, 0x1d4c3), (0x1d4c5, 0x1d505), (0x1d507, 0x1d50a),
  (0x1d50d, 0x1d514), (0x1d516, 0x1d51c), (0x1d51e, 0x1d539), (0x1d53b, 0x1d53e),
  (0x1d540, 0x1d544), (0x1d546, 0x1d546), (0x1d54a, 0x1d550), (0x1d552, 0x1d6a3),
  (0x1d6a8, 0x1d7c9), (0x20000, 0x2a6d6), (0x2f800, 0x2fa1d), (0xf0000, 0xffffd),
  (0x100000, 0x10fffd)]

end ApiKeys.HostName
