namespace SessionBoard.Url.Mapping

/-- Runs of characters of a host name that each stand for one other: capitals for small letters, full-width and
other styled forms for plain ones. A run is told by its first character, its last, the step from one to the
next, and what the first stands for. -/
def shifted : List (Nat × Nat × Nat × Nat) := [
  (0x41, 0x5a, 1, 0x61), (0xa0, 0xa0, 1, 0x20), (0xaa, 0xaa, 1, 0x61), (0xb2, 0xb3, 1, 0x32),
  (0xb5, 0xb5, 1, 0x3bc), (0xb9, 0xb9, 1, 0x31), (0xba, 0xba, 1, 0x6f), (0xc0, 0xd6, 1, 0xe0),
  (0xd8, 0xde, 1, 0xf8), (0x100, 0x12e, 2, 0x101), (0x134, 0x136, 2, 0x135),
  (0x139, 0x13d, 2, 0x13a), (0x141, 0x147, 2, 0x142), (0x14a, 0x176, 2, 0x14b),
  (0x178, 0x178, 1, 0xff), (0x179, 0x17d, 2, 0x17a), (0x17f, 0x17f, 1, 0x73),
  (0x181, 0x181, 1, 0x253), (0x182, 0x184, 2, 0x183), (0x186, 0x186, 1, 0x254),
  (0x187, 0x187, 1, 0x188), (0x189, 0x18a, 1, 0x256), (0x18b, 0x18b, 1, 0x18c),
  (0x18e, 0x18e, 1, 0x1dd), (0x18f, 0x18f, 1, 0x259), (0x190, 0x190, 1, 0x25b),
  (0x191, 0x191, 1, 0x192), (0x193, 0x193, 1, 0x260), (0x194, 0x194, 1, 0x263),
  (0x196, 0x196, 1, 0x269), (0x197, 0x197, 1, 0x268), (0x198, 0x198, 1, 0x199),
  (0x19c, 0x19c, 1, 0x26f), (0x19d, 0x19d, 1, 0x272), (0x19f, 0x19f, 1, 0x275),
  (0x1a0, 0x1a4, 2, 0x1a1), (0x1a6, 0x1a6, 1, 0x280), (0x1a7, 0x1a7, 1, 0x1a8),
  (0x1a9, 0x1a9, 1, 0x283), (0x1ac, 0x1ac, 1, 0x1ad), (0x1ae, 0x1ae, 1, 0x288),
  (0x1af, 0x1af, 1, 0x1b0), (0x1b1, 0x1b2, 1, 0x28a), (0x1b3, 0x1b5, 2, 0x1b4),
  (0x1b7, 0x1b7, 1, 0x292), (0x1b8, 0x1b8, 1, 0x1b9), (0x1bc, 0x1bc, 1, 0x1bd),
  (0x1cd, 0x1db, 2, 0x1ce), (0x1de, 0x1ee, 2, 0x1df), (0x1f4, 0x1f4, 1, 0x1f5),
  (0x1f6, 0x1f6, 1, 0x195), (0x1f7, 0x1f7, 1, 0x1bf), (0x1f8, 0x21e, 2, 0x1f9),
  (0x220, 0x220, 1, 0x19e), (0x222, 0x232, 2, 0x223), (0x23a, 0x23a, 1, 0x2c65),
  (0x23b, 0x23b, 1, 0x23c), (0x23d, 0x23d, 1, 0x19a), (0x23e, 0x23e, 1, 0x2c66),
  (0x241, 0x241, 1, 0x242), (0x243, 0x243, 1, 0x180), (0x244, 0x244, 1, 0x289),
  (0x245, 0x245, 1, 0x28c), (0x246, 0x24e, 2, 0x247), (0x2b0, 0x2b0, 1, 0x68),
  (0x2b1, 0x2b1, 1, 0x266), (0x2b2, 0x2b2, 1, 0x6a), (0x2b3, 0x2b3, 1, 0x72),
  (0x2b4, 0x2b4, 1, 0x279), (0x2b5, 0x2b5, 1, 0x27b), (0x2b6, 0x2b6, 1, 0x281),
  (0x2b7, 0x2b7, 1, 0x77), (0x2b8, 0x2b8, 1, 0x79), (0x2e0, 0x2e0, 1, 0x263),
  (0x2e1, 0x2e1, 1, 0x6c), (0x2e2, 0x2e2, 1, 0x73), (0x2e3, 0x2e3, 1, 0x78),
  (0x2e4, 0x2e4, 1, 0x295), (0x340, 0x341, 1, 0x300), (0x343, 0x343, 1, 0x313),
  (0x345, 0x345, 1, 0x3b9), (0x370, 0x372, 2, 0x371), (0x374, 0x374, 1, 0x2b9),
  (0x376, 0x376, 1, 0x377), (0x37e, 0x37e, 1, 0x3b), (0x37f, 0x37f, 1, 0x3f3),
  (0x386, 0x386, 1, 0x3ac), (0x387, 0x387, 1, 0xb7), (0x388, 0x38a, 1, 0x3ad),
  (0x38c, 0x38c, 1, 0x3cc), (0x38e, 0x38f, 1, 0x3cd), (0x391, 0x3a1, 1, 0x3b1),
  (0x3a3, 0x3ab, 1, 0x3c3), (0x3cf, 0x3cf, 1, 0x3d7), (0x3d0, 0x3d0, 1, 0x3b2),
  (0x3d1, 0x3d1, 1, 0x3b8), (0x3d2, 0x3d2, 1, 0x3c5), (0x3d3, 0x3d3, 1, 0x3cd),
  (0x3d4, 0x3d4, 1, 0x3cb), (0x3d5, 0x3d5, 1, 0x3c6), (0x3d6, 0x3d6, 1, 0x3c0),
  (0x3d8, 0x3ee, 2, 0x3d9), (0x3f0, 0x3f0, 1, 0x3ba), (0x3f1, 0x3f1, 1, 0x3c1),
  (0x3f2, 0x3f2, 1, 0x3c3), (0x3f4, 0x3f4, 1, 0x3b8), (0x3f5, 0x3f5, 1, 0x3b5),
  (0x3f7, 0x3f7, 1, 0x3f8), (0x3f9, 0x3f9, 1, 0x3c3), (0x3fa, 0x3fa, 1, 0x3fb),
  (0x3fd, 0x3ff, 1, 0x37b), (0x400, 0x40f, 1, 0x450), (0x410, 0x42f, 1, 0x430),
  (0x460, 0x480, 2, 0x461), (0x48a, 0x4be, 2, 0x48b), (0x4c0, 0x4c0, 1, 0x4cf),
  (0x4c1, 0x4cd, 2, 0x4c2), (0x4d0, 0x52e, 2, 0x4d1), (0x531, 0x556, 1, 0x561),
  (0x10a0, 0x10c5, 1, 0x2d00), (0x10c7, 0x10c7, 1, 0x2d27), (0x10cd, 0x10cd, 1, 0x2d2d),
  (0x10fc, 0x10fc, 1, 0x10dc), (0x13f8, 0x13fd, 1, 0x13f0), (0x1c80, 0x1c80, 1, 0x432),
  (0x1c81, 0x1c81, 1, 0x434), (0x1c82, 0x1c82, 1, 0x43e), (0x1c83, 0x1c84, 1, 0x441),
  (0x1c85, 0x1c85, 1, 0x442), (0x1c86, 0x1c86, 1, 0x44a), (0x1c87, 0x1c87, 1, 0x463),
  (0x1c88, 0x1c88, 1, 0xa64b), (0x1c89, 0x1c89, 1, 0x1c8a), (0x1c90, 0x1cba, 1, 0x10d0),
  (0x1cbd, 0x1cbf, 1, 0x10fd), (0x1e00, 0x1e94, 2, 0x1e01), (0x1e9b, 0x1e9b, 1, 0x1e61),
  (0x1e9e, 0x1e9e, 1, 0xdf), (0x1ea0, 0x1efe, 2, 0x1ea1), (0x1f08, 0x1f0f, 1, 0x1f00),
  (0x1f18, 0x1f1d, 1, 0x1f10), (0x1f28, 0x1f2f, 1, 0x1f20), (0x1f38, 0x1f3f, 1, 0x1f30),
  (0x1f48, 0x1f4d, 1, 0x1f40), (0x1f59, 0x1f5f, 2, 0x1f51), (0x1f68, 0x1f6f, 1, 0x1f60),
  (0x1f71, 0x1f71, 1, 0x3ac), (0x1f73, 0x1f73, 1, 0x3ad), (0x1f75, 0x1f75, 1, 0x3ae),
  (0x1f77, 0x1f77, 1, 0x3af), (0x1f79, 0x1f79, 1, 0x3cc), (0x1f7b, 0x1f7b, 1, 0x3cd),
  (0x1f7d, 0x1f7d, 1, 0x3ce), (0x1fb8, 0x1fb9, 1, 0x1fb0), (0x1fba, 0x1fba, 1, 0x1f70),
  (0x1fbb, 0x1fbb, 1, 0x3ac), (0x1fbe, 0x1fbe, 1, 0x3b9), (0x1fc8, 0x1fc8, 1, 0x1f72),
  (0x1fc9, 0x1fc9, 1, 0x3ad), (0x1fca, 0x1fca, 1, 0x1f74), (0x1fcb, 0x1fcb, 1, 0x3ae),
  (0x1fd3, 0x1fd3, 1, 0x390), (0x1fd8, 0x1fd9, 1, 0x1fd0), (0x1fda, 0x1fda, 1, 0x1f76),
  (0x1fdb, 0x1fdb, 1, 0x3af), (0x1fe3, 0x1fe3, 1, 0x3b0), (0x1fe8, 0x1fe9, 1, 0x1fe0),
  (0x1fea, 0x1fea, 1, 0x1f7a), (0x1feb, 0x1feb, 1, 0x3cd), (0x1fec, 0x1fec, 1, 0x1fe5),
  (0x1fef, 0x1fef, 1, 0x60), (0x1ff8, 0x1ff8, 1, 0x1f78), (0x1ff9, 0x1ff9, 1, 0x3cc),
  (0x1ffa, 0x1ffa, 1, 0x1f7c), (0x1ffb, 0x1ffb, 1, 0x3ce), (0x2000, 0x2000, 1, 0x20),
  (0x2001, 0x2001, 1, 0x20), (0x2002, 0x2002, 1, 0x20), (0x2003, 0x2003, 1, 0x20),
  (0x2004, 0x2004, 1, 0x20), (0x2005, 0x2005, 1, 0x20), (0x2006, 0x2006, 1, 0x20),
  (0x2007, 0x2007, 1, 0x20), (0x2008, 0x2008, 1, 0x20), (0x2009, 0x2009, 1, 0x20),
  (0x200a, 0x200a, 1, 0x20), (0x2011, 0x2011, 1, 0x2010), (0x202f, 0x202f, 1, 0x20),
  (0x205f, 0x205f, 1, 0x20), (0x2070, 0x2070, 1, 0x30), (0x2071, 0x2071, 1, 0x69),
  (0x2074, 0x2079, 1, 0x34), (0x207a, 0x207a, 1, 0x2b), (0x207b, 0x207b, 1, 0x2212),
  (0x207c, 0x207c, 1, 0x3d), (0x207d, 0x207e, 1, 0x28), (0x207f, 0x207f, 1, 0x6e),
  (0x2080, 0x2089, 1, 0x30), (0x208a, 0x208a, 1, 0x2b), (0x208b, 0x208b, 1, 0x2212),
  (0x208c, 0x208c, 1, 0x3d), (0x208d, 0x208e, 1, 0x28), (0x2090, 0x2090, 1, 0x61),
  (0x2091, 0x2091, 1, 0x65), (0x2092, 0x2092, 1, 0x6f), (0x2093, 0x2093, 1, 0x78),
  (0x2094, 0x2094, 1, 0x259), (0x2095, 0x2095, 1, 0x68), (0x2096, 0x2099, 1, 0x6b),
  (0x209a, 0x209a, 1, 0x70), (0x209b, 0x209c, 1, 0x73), (0x2102, 0x2102, 1, 0x63),
  (0x2107, 0x2107, 1, 0x25b), (0x210a, 0x210b, 1, 0x67), (0x210c, 0x210c, 1, 0x68),
  (0x210d, 0x210d, 1, 0x68), (0x210e, 0x210e, 1, 0x68), (0x210f, 0x210f, 1, 0x127),
  (0x2110, 0x2110, 1, 0x69), (0x2111, 0x2111, 1, 0x69), (0x2112, 0x2112, 1, 0x6c),
  (0x2113, 0x2115, 2, 0x6c), (0x2119, 0x211b, 1, 0x70), (0x211c, 0x211c, 1, 0x72),
  (0x211d, 0x211d, 1, 0x72), (0x2124, 0x2124, 1, 0x7a), (0x2126, 0x2126, 1, 0x3c9),
  (0x2128, 0x2128, 1, 0x7a), (0x212a, 0x212a, 1, 0x6b), (0x212b, 0x212b, 1, 0xe5),
  (0x212c, 0x212d, 1, 0x62), (0x212f, 0x212f, 1, 0x65), (0x2130, 0x2131, 1, 0x65),
  (0x2132, 0x2132, 1, 0x214e), (0x2133, 0x2133, 1, 0x6d), (0x2134, 0x2134, 1, 0x6f),
  (0x2135, 0x2138, 1, 0x5d0), (0x2139, 0x2139, 1, 0x69), (0x213c, 0x213c, 1, 0x3c0),
  (0x213d, 0x213d, 1, 0x3b3), (0x213e, 0x213e, 1, 0x3b3), (0x213f, 0x213f, 1, 0x3c0),
  (0x2140, 0x2140, 1, 0x2211), (0x2145, 0x2145, 1, 0x64), (0x2146, 0x2147, 1, 0x64),
  (0x2148, 0x2149, 1, 0x69), (0x2160, 0x2160, 1, 0x69), (0x2164, 0x2164, 1, 0x76),
  (0x2169, 0x2169, 1, 0x78), (0x216c, 0x216c, 1, 0x6c), (0x216d, 0x216e, 1, 0x63),
  (0x216f, 0x216f, 1, 0x6d), (0x2170, 0x2170, 1, 0x69), (0x2174, 0x2174, 1, 0x76),
  (0x2179, 0x2179, 1, 0x78), (0x217c, 0x217c, 1, 0x6c), (0x217d, 0x217e, 1, 0x63),
  (0x217f, 0x217f, 1, 0x6d), (0x2183, 0x2183, 1, 0x2184), (0x2460, 0x2468, 1, 0x31),
  (0x24b6, 0x24cf, 1, 0x61), (0x24d0, 0x24e9, 1, 0x61), (0x24ea, 0x24ea, 1, 0x30),
  (0x2c00, 0x2c2f, 1, 0x2c30), (0x2c60, 0x2c60, 1, 0x2c61), (0x2c62, 0x2c62, 1, 0x26b),
  (0x2c63, 0x2c63, 1, 0x1d7d), (0x2c64, 0x2c64, 1, 0x27d), (0x2c67, 0x2c6b, 2, 0x2c68),
  (0x2c6d, 0x2c6d, 1, 0x251), (0x2c6e, 0x2c6e, 1, 0x271), (0x2c6f, 0x2c6f, 1, 0x250),
  (0x2c70, 0x2c70, 1, 0x252), (0x2c72, 0x2c72, 1, 0x2c73), (0x2c75, 0x2c75, 1, 0x2c76),
  (0x2c7c, 0x2c7c, 1, 0x6a), (0x2c7d, 0x2c7d, 1, 0x76), (0x2c7e, 0x2c7f, 1, 0x23f),
  (0x2c80, 0x2ce2, 2, 0x2c81), (0x2ceb, 0x2ced, 2, 0x2cec), (0x2cf2, 0x2cf2, 1, 0x2cf3),
  (0x2d6f, 0x2d6f, 1, 0x2d61), (0x3000, 0x3000, 1, 0x20), (0x3002, 0x3002, 1, 0x2e),
  (0x3036, 0x3036, 1, 0x3012), (0x3038, 0x3038, 1, 0x5341), (0x3039, 0x303a, 1, 0x5344),
  (0xa640, 0xa66c, 2, 0xa641), (0xa680, 0xa69a, 2, 0xa681), (0xa69c, 0xa69c, 1, 0x44a),
  (0xa69d, 0xa69d, 1, 0x44c), (0xa722, 0xa72e, 2, 0xa723), (0xa732, 0xa76e, 2, 0xa733),
  (0xa770, 0xa770, 1, 0xa76f), (0xa779, 0xa77b, 2, 0xa77a), (0xa77d, 0xa77d, 1, 0x1d79),
  (0xa77e, 0xa786, 2, 0xa77f), (0xa78b, 0xa78b, 1, 0xa78c), (0xa78d, 0xa78d, 1, 0x265),
  (0xa790, 0xa792, 2, 0xa791), (0xa796, 0xa7a8, 2, 0xa797), (0xa7aa, 0xa7aa, 1, 0x266),
  (0xa7ab, 0xa7ab, 1, 0x25c), (0xa7ac, 0xa7ac, 1, 0x261), (0xa7ad, 0xa7ad, 1, 0x26c),
  (0xa7ae, 0xa7ae, 1, 0x26a), (0xa7b0, 0xa7b0, 1, 0x29e), (0xa7b1, 0xa7b1, 1, 0x287),
  (0xa7b2, 0xa7b2, 1, 0x29d), (0xa7b3, 0xa7b3, 1, 0xab53), (0xa7b4, 0xa7c2, 2, 0xa7b5),
  (0xa7c4, 0xa7c4, 1, 0xa794), (0xa7c5, 0xa7c5, 1, 0x282), (0xa7c6, 0xa7c6, 1, 0x1d8e),
  (0xa7c7, 0xa7c9, 2, 0xa7c8), (0xa7cb, 0xa7cb, 1, 0x264), (0xa7cc, 0xa7da, 2, 0xa7cd),
  (0xa7dc, 0xa7dc, 1, 0x19b), (0xa7f1, 0xa7f1, 1, 0x73), (0xa7f2, 0xa7f2, 1, 0x63),
  (0xa7f3, 0xa7f3, 1, 0x66), (0xa7f4, 0xa7f4, 1, 0x71), (0xa7f5, 0xa7f5, 1, 0xa7f6),
  (0xa7f8, 0xa7f8, 1, 0x127), (0xa7f9, 0xa7f9, 1, 0x153), (0xab5c, 0xab5c, 1, 0xa727),
  (0xab5d, 0xab5d, 1, 0xab37), (0xab5e, 0xab5e, 1, 0x26b), (0xab5f, 0xab5f, 1, 0xab52),
  (0xab69, 0xab69, 1, 0x28d), (0xab70, 0xabbf, 1, 0x13a0), (0xff01, 0xff20, 1, 0x21),
  (0xff21, 0xff3a, 1, 0x61), (0xff3b, 0xff5e, 1, 0x5b), (0xff5f, 0xff60, 1, 0x2985),
  (0xff61, 0xff61, 1, 0x2e), (0xff62, 0xff63, 1, 0x300c), (0xff64, 0xff64, 1, 0x3001),
  (0xff65, 0xff65, 1, 0x30fb), (0xff66, 0xff66, 1, 0x30f2), (0xff67, 0xff67, 1, 0x30a1),
  (0xff68, 0xff68, 1, 0x30a3), (0xff69, 0xff69, 1, 0x30a5), (0xff6a, 0xff6a, 1, 0x30a7),
  (0xff6b, 0xff6b, 1, 0x30a9), (0xff6c, 0xff6c, 1, 0x30e3), (0xff6d, 0xff6d, 1, 0x30e5),
  (0xff6e, 0xff6e, 1, 0x30e7), (0xff6f, 0xff6f, 1, 0x30c3), (0xff70, 0xff70, 1, 0x30fc),
  (0xff71, 0xff71, 1, 0x30a2), (0xff72, 0xff72, 1, 0x30a4), (0xff73, 0xff73, 1, 0x30a6),
  (0xff74, 0xff74, 1, 0x30a8), (0xff75, 0xff76, 1, 0x30aa), (0xff77, 0xff77, 1, 0x30ad),
  (0xff78, 0xff78, 1, 0x30af), (0xff79, 0xff79, 1, 0x30b1), (0xff7a, 0xff7a, 1, 0x30b3),
  (0xff7b, 0xff7b, 1, 0x30b5), (0xff7c, 0xff7c, 1, 0x30b7), (0xff7d, 0xff7d, 1, 0x30b9),
  (0xff7e, 0xff7e, 1, 0x30bb), (0xff7f, 0xff7f, 1, 0x30bd), (0xff80, 0xff80, 1, 0x30bf),
  (0xff81, 0xff81, 1, 0x30c1), (0xff82, 0xff82, 1, 0x30c4), (0xff83, 0xff83, 1, 0x30c6),
  (0xff84, 0xff84, 1, 0x30c8), (0xff85, 0xff8a, 1, 0x30ca), (0xff8b, 0xff8b, 1, 0x30d2),
  (0xff8c, 0xff8c, 1, 0x30d5), (0xff8d, 0xff8d, 1, 0x30d8), (0xff8e, 0xff8e, 1, 0x30db),
  (0xff8f, 0xff93, 1, 0x30de), (0xff94, 0xff94, 1, 0x30e4), (0xff95, 0xff95, 1, 0x30e6),
  (0xff96, 0xff9b, 1, 0x30e8), (0xff9c, 0xff9c, 1, 0x30ef), (0xff9d, 0xff9d, 1, 0x30f3),
  (0xff9e, 0xff9f, 1, 0x3099), (0xffa1, 0xffa2, 1, 0x1100), (0xffa3, 0xffa3, 1, 0x11aa),
  (0xffa4, 0xffa4, 1, 0x1102), (0xffa5, 0xffa6, 1, 0x11ac), (0xffa7, 0xffa9, 1, 0x1103),
  (0xffaa, 0xffaf, 1, 0x11b0), (0xffb0, 0xffb0, 1, 0x111a), (0xffb1, 0xffb3, 1, 0x1106),
  (0xffb4, 0xffb4, 1, 0x1121), (0xffb5, 0xffbe, 1, 0x1109), (0xffc2, 0xffc7, 1, 0x1161),
  (0xffca, 0xffcf, 1, 0x1167), (0xffd2, 0xffd7, 1, 0x116d), (0xffda, 0xffdc, 1, 0x1173),
  (0xffe0, 0xffe1, 1, 0xa2), (0xffe2, 0xffe2, 1, 0xac), (0xffe4, 0xffe4, 1, 0xa6),
  (0xffe5, 0xffe5, 1, 0xa5), (0xffe6, 0xffe6, 1, 0x20a9), (0xffe8, 0xffe8, 1, 0x2502),
  (0xffe9, 0xffec, 1, 0x2190), (0xffed, 0xffed, 1, 0x25a0), (0xffee, 0xffee, 1, 0x25cb),
  (0x10400, 0x10427, 1, 0x10428), (0x104b0, 0x104d3, 1, 0x104d8), (0x10570, 0x1057a, 1, 0x10597),
  (0x1057c, 0x1058a, 1, 0x105a3), (0x1058c, 0x10592, 1, 0x105b3), (0x10594, 0x10595, 1, 0x105bb),
  (0x10781, 0x10782, 1, 0x2d0), (0x10783, 0x10783, 1, 0xe6), (0x10784, 0x10784, 1, 0x299),
  (0x10785, 0x10785, 1, 0x253), (0x10787, 0x10787, 1, 0x2a3), (0x10788, 0x10788, 1, 0xab66),
  (0x10789, 0x10789, 1, 0x2a5), (0x1078a, 0x1078a, 1, 0x2a4), (0x1078b, 0x1078c, 1, 0x256),
  (0x1078d, 0x1078d, 1, 0x1d91), (0x1078e, 0x1078e, 1, 0x258), (0x1078f, 0x1078f, 1, 0x25e),
  (0x10790, 0x10790, 1, 0x2a9), (0x10791, 0x10791, 1, 0x264), (0x10792, 0x10792, 1, 0x262),
  (0x10793, 0x10793, 1, 0x260), (0x10794, 0x10794, 1, 0x29b), (0x10795, 0x10795, 1, 0x127),
  (0x10796, 0x10796, 1, 0x29c), (0x10797, 0x10797, 1, 0x267), (0x10798, 0x10798, 1, 0x284),
  (0x10799, 0x1079a, 1, 0x2aa), (0x1079b, 0x1079b, 1, 0x26c), (0x1079c, 0x1079c, 1, 0x1df04),
  (0x1079d, 0x1079d, 1, 0xa78e), (0x1079e, 0x1079e, 1, 0x26e), (0x1079f, 0x1079f, 1, 0x1df05),
  (0x107a0, 0x107a0, 1, 0x28e), (0x107a1, 0x107a1, 1, 0x1df06), (0x107a2, 0x107a2, 1, 0xf8),
  (0x107a3, 0x107a4, 1, 0x276), (0x107a5, 0x107a5, 1, 0x71), (0x107a6, 0x107a6, 1, 0x27a),
  (0x107a7, 0x107a7, 1, 0x1df08), (0x107a8, 0x107a9, 1, 0x27d), (0x107aa, 0x107aa, 1, 0x280),
  (0x107ab, 0x107ab, 1, 0x2a8), (0x107ac, 0x107ac, 1, 0x2a6), (0x107ad, 0x107ad, 1, 0xab67),
  (0x107ae, 0x107ae, 1, 0x2a7), (0x107af, 0x107af, 1, 0x288), (0x107b0, 0x107b0, 1, 0x2c71),
  (0x107b2, 0x107b2, 1, 0x28f), (0x107b3, 0x107b4, 1, 0x2a1), (0x107b5, 0x107b5, 1, 0x298),
  (0x107b6, 0x107b8, 1, 0x1c0), (0x107b9, 0x107b9, 1, 0x1df0a), (0x107ba, 0x107ba, 1, 0x1df1e),
  (0x10c80, 0x10cb2, 1, 0x10cc0), (0x10d50, 0x10d65, 1, 0x10d70), (0x118a0, 0x118bf, 1, 0x118c0),
  (0x16e40, 0x16e5f, 1, 0x16e60), (0x16ea0, 0x16eb8, 1, 0x16ebb), (0x1d400, 0x1d419, 1, 0x61),
  (0x1d41a, 0x1d433, 1, 0x61), (0x1d434, 0x1d44d, 1, 0x61), (0x1d44e, 0x1d454, 1, 0x61),
  (0x1d456, 0x1d467, 1, 0x69), (0x1d468, 0x1d481, 1, 0x61), (0x1d482, 0x1d49b, 1, 0x61),
  (0x1d49c, 0x1d49e, 2, 0x61), (0x1d49f, 0x1d49f, 1, 0x64), (0x1d4a2, 0x1d4a2, 1, 0x67),
  (0x1d4a5, 0x1d4a6, 1, 0x6a), (0x1d4a9, 0x1d4ac, 1, 0x6e), (0x1d4ae, 0x1d4b5, 1, 0x73),
  (0x1d4b6, 0x1d4b9, 1, 0x61), (0x1d4bb, 0x1d4bb, 1, 0x66), (0x1d4bd, 0x1d4c3, 1, 0x68),
  (0x1d4c5, 0x1d4cf, 1, 0x70), (0x1d4d0, 0x1d4e9, 1, 0x61), (0x1d4ea, 0x1d503, 1, 0x61),
  (0x1d504, 0x1d505, 1, 0x61), (0x1d507, 0x1d50a, 1, 0x64), (0x1d50d, 0x1d514, 1, 0x6a),
  (0x1d516, 0x1d51c, 1, 0x73), (0x1d51e, 0x1d537, 1, 0x61), (0x1d538, 0x1d539, 1, 0x61),
  (0x1d53b, 0x1d53e, 1, 0x64), (0x1d540, 0x1d544, 1, 0x69), (0x1d546, 0x1d546, 1, 0x6f),
  (0x1d54a, 0x1d550, 1, 0x73), (0x1d552, 0x1d56b, 1, 0x61), (0x1d56c, 0x1d585, 1, 0x61),
  (0x1d586, 0x1d59f, 1, 0x61), (0x1d5a0, 0x1d5b9, 1, 0x61), (0x1d5ba, 0x1d5d3, 1, 0x61),
  (0x1d5d4, 0x1d5ed, 1, 0x61), (0x1d5ee, 0x1d607, 1, 0x61), (0x1d608, 0x1d621, 1, 0x61),
  (0x1d622, 0x1d63b, 1, 0x61), (0x1d63c, 0x1d655, 1, 0x61), (0x1d656, 0x1d66f, 1, 0x61),
  (0x1d670, 0x1d689, 1, 0x61), (0x1d68a, 0x1d6a3, 1, 0x61), (0x1d6a4, 0x1d6a4, 1, 0x131),
  (0x1d6a5, 0x1d6a5, 1, 0x237), (0x1d6a8, 0x1d6b8, 1, 0x3b1), (0x1d6b9, 0x1d6b9, 1, 0x3b8),
  (0x1d6ba, 0x1d6c0, 1, 0x3c3), (0x1d6c1, 0x1d6c1, 1, 0x2207), (0x1d6c2, 0x1d6d2, 1, 0x3b1),
  (0x1d6d3, 0x1d6d3, 1, 0x3c3), (0x1d6d4, 0x1d6da, 1, 0x3c3), (0x1d6db, 0x1d6db, 1, 0x2202),
  (0x1d6dc, 0x1d6dc, 1, 0x3b5), (0x1d6dd, 0x1d6dd, 1, 0x3b8), (0x1d6de, 0x1d6de, 1, 0x3ba),
  (0x1d6df, 0x1d6df, 1, 0x3c6), (0x1d6e0, 0x1d6e0, 1, 0x3c1), (0x1d6e1, 0x1d6e1, 1, 0x3c0),
  (0x1d6e2, 0x1d6f2, 1, 0x3b1), (0x1d6f3, 0x1d6f3, 1, 0x3b8), (0x1d6f4, 0x1d6fa, 1, 0x3c3),
  (0x1d6fb, 0x1d6fb, 1, 0x2207), (0x1d6fc, 0x1d70c, 1, 0x3b1), (0x1d70d, 0x1d70d, 1, 0x3c3),
  (0x1d70e, 0x1d714, 1, 0x3c3), (0x1d715, 0x1d715, 1, 0x2202), (0x1d716, 0x1d716, 1, 0x3b5),
  (0x1d717, 0x1d717, 1, 0x3b8), (0x1d718, 0x1d718, 1, 0x3ba), (0x1d719, 0x1d719, 1, 0x3c6),
  (0x1d71a, 0x1d71a, 1, 0x3c1), (0x1d71b, 0x1d71b, 1, 0x3c0), (0x1d71c, 0x1d72c, 1, 0x3b1),
  (0x1d72d, 0x1d72d, 1, 0x3b8), (0x1d72e, 0x1d734, 1, 0x3c3), (0x1d735, 0x1d735, 1, 0x2207),
  (0x1d736, 0x1d746, 1, 0x3b1), (0x1d747, 0x1d747, 1, 0x3c3), (0x1d748, 0x1d74e, 1, 0x3c3),
  (0x1d74f, 0x1d74f, 1, 0x2202), (0x1d750, 0x1d750, 1, 0x3b5), (0x1d751, 0x1d751, 1, 0x3b8),
  (0x1d752, 0x1d752, 1, 0x3ba), (0x1d753, 0x1d753, 1, 0x3c6), (0x1d754, 0x1d754, 1, 0x3c1),
  (0x1d755, 0x1d755, 1, 0x3c0), (0x1d756, 0x1d766, 1, 0x3b1), (0x1d767, 0x1d767, 1, 0x3b8),
  (0x1d768, 0x1d76e, 1, 0x3c3), (0x1d76f, 0x1d76f, 1, 0x2207), (0x1d770, 0x1d780, 1, 0x3b1),
  (0x1d781, 0x1d781, 1, 0x3c3), (0x1d782, 0x1d788, 1, 0x3c3), (0x1d789, 0x1d789, 1, 0x2202),
  (0x1d78a, 0x1d78a, 1, 0x3b5), (0x1d78b, 0x1d78b, 1, 0x3b8), (0x1d78c, 0x1d78c, 1, 0x3ba),
  (0x1d78d, 0x1d78d, 1, 0x3c6), (0x1d78e, 0x1d78e, 1, 0x3c1), (0x1d78f, 0x1d78f, 1, 0x3c0),
  (0x1d790, 0x1d7a0, 1, 0x3b1), (0x1d7a1, 0x1d7a1, 1, 0x3b8), (0x1d7a2, 0x1d7a8, 1, 0x3c3),
  (0x1d7a9, 0x1d7a9, 1, 0x2207), (0x1d7aa, 0x1d7ba, 1, 0x3b1), (0x1d7bb, 0x1d7bb, 1, 0x3c3),
  (0x1d7bc, 0x1d7c2, 1, 0x3c3), (0x1d7c3, 0x1d7c3, 1, 0x2202), (0x1d7c4, 0x1d7c4, 1, 0x3b5),
  (0x1d7c5, 0x1d7c5, 1, 0x3b8), (0x1d7c6, 0x1d7c6, 1, 0x3ba), (0x1d7c7, 0x1d7c7, 1, 0x3c6),
  (0x1d7c8, 0x1d7c8, 1, 0x3c1), (0x1d7c9, 0x1d7c9, 1, 0x3c0), (0x1d7ca, 0x1d7ca, 1, 0x3dd),
  (0x1d7cb, 0x1d7cb, 1, 0x3dd), (0x1d7ce, 0x1d7d7, 1, 0x30), (0x1d7d8, 0x1d7e1, 1, 0x30),
  (0x1d7e2, 0x1d7eb, 1, 0x30), (0x1d7ec, 0x1d7f5, 1, 0x30), (0x1d7f6, 0x1d7ff, 1, 0x30),
  (0x1e900, 0x1e921, 1, 0x1e922)]

/-- Characters that stand for several others, as their codes. -/
def spread : List (Nat × List Nat) := [
  (0xa8, [0x20, 0x308]), (0xaf, [0x20, 0x304]), (0xb4, [0x20, 0x301]), (0xb8, [0x20, 0x327]),
  (0xbc, [0x31, 0x2044, 0x34]), (0xbd, [0x31, 0x2044, 0x32]), (0xbe, [0x33, 0x2044, 0x34]),
  (0x130, [0x69, 0x307]), (0x132, [0x69, 0x6a]), (0x133, [0x69, 0x6a]), (0x13f, [0x6c, 0xb7]),
  (0x140, [0x6c, 0xb7]), (0x149, [0x2bc, 0x6e]), (0x1c4, [0x64, 0x17e]), (0x1c5, [0x64, 0x17e]),
  (0x1c6, [0x64, 0x17e]), (0x1c7, [0x6c, 0x6a]), (0x1c8, [0x6c, 0x6a]), (0x1c9, [0x6c, 0x6a]),
  (0x1ca, [0x6e, 0x6a]), (0x1cb, [0x6e, 0x6a]), (0x1cc, [0x6e, 0x6a]), (0x1f1, [0x64, 0x7a]),
  (0x1f2, [0x64, 0x7a]), (0x1f3, [0x64, 0x7a]), (0x2d8, [0x20, 0x306]), (0x2d9, [0x20, 0x307]),
  (0x2da, [0x20, 0x30a]), (0x2db, [0x20, 0x328]), (0x2dc, [0x20, 0x303]), (0x2dd, [0x20, 0x30b]),
  (0x344, [0x308, 0x301]), (0x37a, [0x20, 0x3b9]), (0x384, [0x20, 0x301]),
  (0x385, [0x20, 0x308, 0x301]), (0x587, [0x565, 0x582]), (0x1e9a, [0x61, 0x2be]),
  (0x1f80, [0x1f00, 0x3b9]), (0x1f81, [0x1f01, 0x3b9]), (0x1f82, [0x1f02, 0x3b9]),
  (0x1f83, [0x1f03, 0x3b9]), (0x1f84, [0x1f04, 0x3b9]), (0x1f85, [0x1f05, 0x3b9]),
  (0x1f86, [0x1f06, 0x3b9]), (0x1f87, [0x1f07, 0x3b9]), (0x1f88, [0x1f00, 0x3b9]),
  (0x1f89, [0x1f01, 0x3b9]), (0x1f8a, [0x1f02, 0x3b9]), (0x1f8b, [0x1f03, 0x3b9]),
  (0x1f8c, [0x1f04, 0x3b9]), (0x1f8d, [0x1f05, 0x3b9]), (0x1f8e, [0x1f06, 0x3b9]),
  (0x1f8f, [0x1f07, 0x3b9]), (0x1f90, [0x1f20, 0x3b9]), (0x1f91, [0x1f21, 0x3b9]),
  (0x1f92, [0x1f22, 0x3b9]), (0x1f93, [0x1f23, 0x3b9]), (0x1f94, [0x1f24, 0x3b9]),
  (0x1f95, [0x1f25, 0x3b9]), (0x1f96, [0x1f26, 0x3b9]), (0x1f97, [0x1f27, 0x3b9]),
  (0x1f98, [0x1f20, 0x3b9]), (0x1f99, [0x1f21, 0x3b9]), (0x1f9a, [0x1f22, 0x3b9]),
  (0x1f9b, [0x1f23, 0x3b9]), (0x1f9c, [0x1f24, 0x3b9]), (0x1f9d, [0x1f25, 0x3b9]),
  (0x1f9e, [0x1f26, 0x3b9]), (0x1f9f, [0x1f27, 0x3b9]), (0x1fa0, [0x1f60, 0x3b9]),
  (0x1fa1, [0x1f61, 0x3b9]), (0x1fa2, [0x1f62, 0x3b9]), (0x1fa3, [0x1f63, 0x3b9]),
  (0x1fa4, [0x1f64, 0x3b9]), (0x1fa5, [0x1f65, 0x3b9]), (0x1fa6, [0x1f66, 0x3b9]),
  (0x1fa7, [0x1f67, 0x3b9]), (0x1fa8, [0x1f60, 0x3b9]), (0x1fa9, [0x1f61, 0x3b9]),
  (0x1faa, [0x1f62, 0x3b9]), (0x1fab, [0x1f63, 0x3b9]), (0x1fac, [0x1f64, 0x3b9]),
  (0x1fad, [0x1f65, 0x3b9]), (0x1fae, [0x1f66, 0x3b9]), (0x1faf, [0x1f67, 0x3b9]),
  (0x1fb2, [0x1f70, 0x3b9]), (0x1fb3, [0x3b1, 0x3b9]), (0x1fb4, [0x3ac, 0x3b9]),
  (0x1fb7, [0x1fb6, 0x3b9]), (0x1fbc, [0x3b1, 0x3b9]), (0x1fbd, [0x20, 0x313]),
  (0x1fbf, [0x20, 0x313]), (0x1fc0, [0x20, 0x342]), (0x1fc1, [0x20, 0x308, 0x342]),
  (0x1fc2, [0x1f74, 0x3b9]), (0x1fc3, [0x3b7, 0x3b9]), (0x1fc4, [0x3ae, 0x3b9]),
  (0x1fc7, [0x1fc6, 0x3b9]), (0x1fcc, [0x3b7, 0x3b9]), (0x1fcd, [0x20, 0x313, 0x300]),
  (0x1fce, [0x20, 0x313, 0x301]), (0x1fcf, [0x20, 0x313, 0x342]), (0x1fdd, [0x20, 0x314, 0x300]),
  (0x1fde, [0x20, 0x314, 0x301]), (0x1fdf, [0x20, 0x314, 0x342]), (0x1fed, [0x20, 0x308, 0x300]),
  (0x1fee, [0x20, 0x308, 0x301]), (0x1ff2, [0x1f7c, 0x3b9]), (0x1ff3, [0x3c9, 0x3b9]),
  (0x1ff4, [0x3ce, 0x3b9]), (0x1ff7, [0x1ff6, 0x3b9]), (0x1ffc, [0x3c9, 0x3b9]),
  (0x1ffd, [0x20, 0x301]), (0x1ffe, [0x20, 0x314]), (0x2017, [0x20, 0x333]),
  (0x2033, [0x2032, 0x2032]), (0x2034, [0x2032, 0x2032, 0x2032]), (0x2036, [0x2035, 0x2035]),
  (0x2037, [0x2035, 0x2035, 0x2035]), (0x203c, [0x21, 0x21]), (0x203e, [0x20, 0x305]),
  (0x2047, [0x3f, 0x3f]), (0x2048, [0x3f, 0x21]), (0x2049, [0x21, 0x3f]),
  (0x2057, [0x2032, 0x2032, 0x2032, 0x2032]), (0x20a8, [0x72, 0x73]),
  (0x2100, [0x61, 0x2f, 0x63]), (0x2101, [0x61, 0x2f, 0x73]), (0x2103, [0xb0, 0x63]),
  (0x2105, [0x63, 0x2f, 0x6f]), (0x2106, [0x63, 0x2f, 0x75]), (0x2109, [0xb0, 0x66]),
  (0x2116, [0x6e, 0x6f]), (0x2120, [0x73, 0x6d]), (0x2121, [0x74, 0x65, 0x6c]),
  (0x2122, [0x74, 0x6d]), (0x213b, [0x66, 0x61, 0x78]), (0x2150, [0x31, 0x2044, 0x37]),
  (0x2151, [0x31, 0x2044, 0x39]), (0x2152, [0x31, 0x2044, 0x31, 0x30]),
  (0x2153, [0x31, 0x2044, 0x33]), (0x2154, [0x32, 0x2044, 0x33]), (0x2155, [0x31, 0x2044, 0x35]),
  (0x2156, [0x32, 0x2044, 0x35]), (0x2157, [0x33, 0x2044, 0x35]), (0x2158, [0x34, 0x2044, 0x35]),
  (0x2159, [0x31, 0x2044, 0x36]), (0x215a, [0x35, 0x2044, 0x36]), (0x215b, [0x31, 0x2044, 0x38]),
  (0x215c, [0x33, 0x2044, 0x38]), (0x215d, [0x35, 0x2044, 0x38]), (0x215e, [0x37, 0x2044, 0x38]),
  (0x215f, [0x31, 0x2044]), (0x2161, [0x69, 0x69]), (0x2162, [0x69, 0x69, 0x69]),
  (0x2163, [0x69, 0x76]), (0x2165, [0x76, 0x69]), (0x2166, [0x76, 0x69, 0x69]),
  (0x2167, [0x76, 0x69, 0x69, 0x69]), (0x2168, [0x69, 0x78]), (0x216a, [0x78, 0x69]),
  (0x216b, [0x78, 0x69, 0x69]), (0x2171, [0x69, 0x69]), (0x2172, [0x69, 0x69, 0x69]),
  (0x2173, [0x69, 0x76]), (0x2175, [0x76, 0x69]), (0x2176, [0x76, 0x69, 0x69]),
  (0x2177, [0x76, 0x69, 0x69, 0x69]), (0x2178, [0x69, 0x78]), (0x217a, [0x78, 0x69]),
  (0x217b, [0x78, 0x69, 0x69]), (0x2189, [0x30, 0x2044, 0x33]), (0xfb00, [0x66, 0x66]),
  (0xfb01, [0x66, 0x69]), (0xfb02, [0x66, 0x6c]), (0xfb03, [0x66, 0x66, 0x69]),
  (0xfb04, [0x66, 0x66, 0x6c]), (0xfb05, [0x73, 0x74]), (0xfb06, [0x73, 0x74]),
  (0xfb13, [0x574, 0x576]), (0xfb14, [0x574, 0x565]), (0xfb15, [0x574, 0x56b]),
  (0xfb16, [0x57e, 0x576]), (0xfb17, [0x574, 0x56d])]

def ignored : List (Nat × Nat) := [
  (0xad, 0xad), (0x34f, 0x34f), (0x115f, 0x1160), (0x17b4, 0x17b5), (0x180b, 0x180f),
  (0x200b, 0x200b), (0x2060, 0x2064), (0x206a, 0x206f), (0x3164, 0x3164), (0xfe00, 0xfe0f),
  (0xfeff, 0xfeff), (0xffa0, 0xffa0), (0x1bca0, 0x1bca3), (0x1d173, 0x1d17a), (0xe0100, 0xe01ef)]

/-- Characters that no host name has. -/
def refused : List (Nat × Nat) := [
  (0x80, 0x9f), (0x600, 0x605), (0x61c, 0x61c), (0x6dd, 0x6dd), (0x70f, 0x70f), (0x890, 0x891),
  (0x8e2, 0x8e2), (0x1680, 0x1680), (0x200e, 0x200f), (0x2024, 0x2026), (0x2028, 0x202e),
  (0x2066, 0x2069), (0x2488, 0x249b), (0x2ff0, 0x2ffb), (0x33c2, 0x33c2), (0x33c7, 0x33c7),
  (0x33d8, 0x33d8), (0xe000, 0xf8ff), (0xfdd0, 0xfdef), (0xfe12, 0xfe12), (0xfe19, 0xfe19),
  (0xfe30, 0xfe30), (0xfe52, 0xfe52), (0xfff9, 0xffff), (0x110bd, 0x110bd), (0x110cd, 0x110cd),
  (0x13430, 0x13438), (0x1f100, 0x1f100), (0x1fffe, 0x1ffff), (0x2fffe, 0x2ffff),
  (0x3fffe, 0x3ffff), (0x4fffe, 0x4ffff), (0x5fffe, 0x5ffff), (0x6fffe, 0x6ffff),
  (0x7fffe, 0x7ffff), (0x8fffe, 0x8ffff), (0x9fffe, 0x9ffff), (0xafffe, 0xaffff),
  (0xbfffe, 0xbffff), (0xcfffe, 0xcffff), (0xdfffe, 0xe00ff), (0xe01f0, 0x10ffff)]

end SessionBoard.Url.Mapping
