/-!
# Forms of single characters

Characters that a domain name reads as another one, by Unicode 17: capital letters,
wide and narrow forms, letters in styles of their own, and forms that a letter takes
by its place in a word. Characters that are composed or replaced anyway are not
listed.
-/

namespace GraphBatch.Url.Domain

/-- A run of code points: the first, the last, and a code point for the first. -/
abbrev Run := Nat × Nat × Nat

/-- Runs of which every second code point is read as the one after it. -/
def alternatingRuns : List (Nat × Nat) := [
  (0x100, 0x12e), (0x134, 0x136), (0x139, 0x13d), (0x141, 0x147), (0x14a, 0x176), (0x179, 0x17d),
  (0x182, 0x184), (0x1a0, 0x1a4), (0x1b3, 0x1b5), (0x1cd, 0x1db), (0x1de, 0x1ee), (0x1f8, 0x21e),
  (0x222, 0x232), (0x246, 0x24e), (0x370, 0x372), (0x3d8, 0x3ee), (0x460, 0x480), (0x48a, 0x4be),
  (0x4c1, 0x4cd), (0x4d0, 0x52e), (0x1e00, 0x1e94), (0x1ea0, 0x1efe), (0x2c67, 0x2c6b),
  (0x2c80, 0x2ce2), (0x2ceb, 0x2ced), (0xa640, 0xa66c), (0xa680, 0xa69a), (0xa722, 0xa72e),
  (0xa732, 0xa76e), (0xa779, 0xa77b), (0xa77e, 0xa786), (0xa790, 0xa792), (0xa796, 0xa7a8),
  (0xa7b4, 0xa7c2), (0xa7c7, 0xa7c9), (0xa7cc, 0xa7da)]

/-- Runs that are read as one and the same code point. -/
def constantRuns : List Run := [
  (0x2000, 0x200a, 0x20), (0x210c, 0x210e, 0x68), (0x2110, 0x2111, 0x69), (0x2112, 0x2113, 0x6c),
  (0x211c, 0x211d, 0x72), (0x212f, 0x2130, 0x65), (0x213d, 0x213e, 0x3b3), (0x2145, 0x2146, 0x64),
  (0xfb50, 0xfb51, 0x671), (0xfb52, 0xfb55, 0x67b), (0xfb56, 0xfb59, 0x67e),
  (0xfb5a, 0xfb5d, 0x680), (0xfb5e, 0xfb61, 0x67a), (0xfb62, 0xfb65, 0x67f),
  (0xfb66, 0xfb69, 0x679), (0xfb6a, 0xfb6d, 0x6a4), (0xfb6e, 0xfb71, 0x6a6),
  (0xfb72, 0xfb75, 0x684), (0xfb76, 0xfb79, 0x683), (0xfb7a, 0xfb7d, 0x686),
  (0xfb7e, 0xfb81, 0x687), (0xfb82, 0xfb83, 0x68d), (0xfb84, 0xfb85, 0x68c),
  (0xfb86, 0xfb87, 0x68e), (0xfb88, 0xfb89, 0x688), (0xfb8a, 0xfb8b, 0x698),
  (0xfb8c, 0xfb8d, 0x691), (0xfb8e, 0xfb91, 0x6a9), (0xfb92, 0xfb95, 0x6af),
  (0xfb96, 0xfb99, 0x6b3), (0xfb9a, 0xfb9d, 0x6b1), (0xfb9e, 0xfb9f, 0x6ba),
  (0xfba0, 0xfba3, 0x6bb), (0xfba4, 0xfba5, 0x6c0), (0xfba6, 0xfba9, 0x6c1),
  (0xfbaa, 0xfbad, 0x6be), (0xfbae, 0xfbaf, 0x6d2), (0xfbb0, 0xfbb1, 0x6d3),
  (0xfbd3, 0xfbd6, 0x6ad), (0xfbd7, 0xfbd8, 0x6c7), (0xfbd9, 0xfbda, 0x6c6),
  (0xfbdb, 0xfbdc, 0x6c8), (0xfbde, 0xfbdf, 0x6cb), (0xfbe0, 0xfbe1, 0x6c5),
  (0xfbe2, 0xfbe3, 0x6c9), (0xfbe4, 0xfbe7, 0x6d0), (0xfbe8, 0xfbe9, 0x649),
  (0xfbfc, 0xfbff, 0x6cc), (0xfe33, 0xfe34, 0x5f), (0xfe4d, 0xfe4f, 0x5f), (0xfe8a, 0xfe8c, 0x626),
  (0xfe8d, 0xfe8e, 0x627), (0xfe8f, 0xfe92, 0x628), (0xfe93, 0xfe94, 0x629),
  (0xfe95, 0xfe98, 0x62a), (0xfe99, 0xfe9c, 0x62b), (0xfe9d, 0xfea0, 0x62c),
  (0xfea1, 0xfea4, 0x62d), (0xfea5, 0xfea8, 0x62e), (0xfea9, 0xfeaa, 0x62f),
  (0xfeab, 0xfeac, 0x630), (0xfead, 0xfeae, 0x631), (0xfeaf, 0xfeb0, 0x632),
  (0xfeb1, 0xfeb4, 0x633), (0xfeb5, 0xfeb8, 0x634), (0xfeb9, 0xfebc, 0x635),
  (0xfebd, 0xfec0, 0x636), (0xfec1, 0xfec4, 0x637), (0xfec5, 0xfec8, 0x638),
  (0xfec9, 0xfecc, 0x639), (0xfecd, 0xfed0, 0x63a), (0xfed1, 0xfed4, 0x641),
  (0xfed5, 0xfed8, 0x642), (0xfed9, 0xfedc, 0x643), (0xfedd, 0xfee0, 0x644),
  (0xfee1, 0xfee4, 0x645), (0xfee5, 0xfee8, 0x646), (0xfee9, 0xfeec, 0x647),
  (0xfeed, 0xfeee, 0x648), (0xfeef, 0xfef0, 0x649), (0xfef1, 0xfef4, 0x64a),
  (0x1d6d3, 0x1d6d4, 0x3c3), (0x1d70d, 0x1d70e, 0x3c3), (0x1d747, 0x1d748, 0x3c3),
  (0x1d781, 0x1d782, 0x3c3), (0x1d7bb, 0x1d7bc, 0x3c3), (0x1d7ca, 0x1d7cb, 0x3dd)]

def shiftedRuns : List Run := [
  (0xb2, 0xb3, 0x32), (0xc0, 0xd6, 0xe0), (0xd8, 0xde, 0xf8), (0x189, 0x18a, 0x256),
  (0x1b1, 0x1b2, 0x28a), (0x388, 0x38a, 0x3ad), (0x38e, 0x38f, 0x3cd), (0x391, 0x3a1, 0x3b1),
  (0x3a3, 0x3ab, 0x3c3), (0x3fd, 0x3ff, 0x37b), (0x400, 0x40f, 0x450), (0x410, 0x42f, 0x430),
  (0x531, 0x556, 0x561), (0x10a0, 0x10c5, 0x2d00), (0x13f8, 0x13fd, 0x13f0),
  (0x1c83, 0x1c84, 0x441), (0x1c90, 0x1cba, 0x10d0), (0x1cbd, 0x1cbf, 0x10fd),
  (0x1d30, 0x1d31, 0x64), (0x1d33, 0x1d3a, 0x67), (0x1d40, 0x1d41, 0x74), (0x1d44, 0x1d45, 0x250),
  (0x1d48, 0x1d49, 0x64), (0x1d4b, 0x1d4c, 0x25b), (0x1d54, 0x1d55, 0x1d16), (0x1d57, 0x1d58, 0x74),
  (0x1d5d, 0x1d5f, 0x3b2), (0x1d60, 0x1d61, 0x3c6), (0x1d64, 0x1d65, 0x75), (0x1d66, 0x1d67, 0x3b2),
  (0x1d69, 0x1d6a, 0x3c6), (0x1da4, 0x1da6, 0x268), (0x1dae, 0x1db1, 0x272),
  (0x1db3, 0x1db4, 0x282), (0x1db6, 0x1db7, 0x289), (0x1db9, 0x1dba, 0x28b),
  (0x1dbc, 0x1dbe, 0x290), (0x1f08, 0x1f0f, 0x1f00), (0x1f18, 0x1f1d, 0x1f10),
  (0x1f28, 0x1f2f, 0x1f20), (0x1f38, 0x1f3f, 0x1f30), (0x1f48, 0x1f4d, 0x1f40),
  (0x1f68, 0x1f6f, 0x1f60), (0x1fb8, 0x1fb9, 0x1fb0), (0x1fd8, 0x1fd9, 0x1fd0),
  (0x1fe8, 0x1fe9, 0x1fe0), (0x2074, 0x2079, 0x34), (0x207d, 0x207e, 0x28), (0x2080, 0x2089, 0x30),
  (0x208d, 0x208e, 0x28), (0x2096, 0x2099, 0x6b), (0x209b, 0x209c, 0x73), (0x210a, 0x210b, 0x67),
  (0x2119, 0x211b, 0x70), (0x212c, 0x212d, 0x62), (0x2135, 0x2138, 0x5d0), (0x2148, 0x2149, 0x69),
  (0x216d, 0x216e, 0x63), (0x217d, 0x217e, 0x63), (0x2460, 0x2468, 0x31), (0x24b6, 0x24cf, 0x61),
  (0x24d0, 0x24e9, 0x61), (0x2c00, 0x2c2f, 0x2c30), (0x2c7e, 0x2c7f, 0x23f),
  (0x3039, 0x303a, 0x5344), (0x3131, 0x3132, 0x1100), (0x3135, 0x3136, 0x11ac),
  (0x3137, 0x3139, 0x1103), (0x313a, 0x313f, 0x11b0), (0x3141, 0x3143, 0x1106),
  (0x3145, 0x314e, 0x1109), (0x314f, 0x3163, 0x1161), (0x3165, 0x3166, 0x1114),
  (0x3167, 0x3168, 0x11c7), (0x3171, 0x3172, 0x111d), (0x3174, 0x3175, 0x1122),
  (0x3178, 0x317c, 0x112b), (0x3182, 0x3183, 0x11f1), (0x3184, 0x3186, 0x1157),
  (0x3187, 0x3188, 0x1184), (0x318a, 0x318b, 0x1191), (0x3261, 0x3262, 0x1102),
  (0x3263, 0x3265, 0x1105), (0x3267, 0x3268, 0x110b), (0x3269, 0x326d, 0x110e),
  (0x32d4, 0x32d5, 0x30aa), (0x32e4, 0x32e9, 0x30ca), (0x32ee, 0x32f2, 0x30de),
  (0x32f5, 0x32fa, 0x30e8), (0x32fb, 0x32fe, 0x30ef), (0xab70, 0xabbf, 0x13a0),
  (0xfb22, 0xfb23, 0x5d3), (0xfb24, 0xfb26, 0x5db), (0xfe13, 0xfe14, 0x3a),
  (0xfe17, 0xfe18, 0x3016), (0xfe35, 0xfe36, 0x28), (0xfe39, 0xfe3a, 0x3014),
  (0xfe3b, 0xfe3c, 0x3010), (0xfe3d, 0xfe3e, 0x300a), (0xfe3f, 0xfe40, 0x3008),
  (0xfe41, 0xfe44, 0x300c), (0xfe59, 0xfe5a, 0x28), (0xfe5d, 0xfe5e, 0x3014),
  (0xfe61, 0xfe62, 0x2a), (0xfe69, 0xfe6a, 0x24), (0xfe80, 0xfe81, 0x621), (0xfe82, 0xfe83, 0x622),
  (0xfe84, 0xfe85, 0x623), (0xfe86, 0xfe87, 0x624), (0xfe88, 0xfe89, 0x625), (0xff01, 0xff20, 0x21),
  (0xff21, 0xff3a, 0x61), (0xff3b, 0xff5e, 0x5b), (0xff5f, 0xff60, 0x2985),
  (0xff62, 0xff63, 0x300c), (0xff75, 0xff76, 0x30aa), (0xff85, 0xff8a, 0x30ca),
  (0xff8f, 0xff93, 0x30de), (0xff96, 0xff9b, 0x30e8), (0xff9e, 0xff9f, 0x3099),
  (0xffa1, 0xffa2, 0x1100), (0xffa5, 0xffa6, 0x11ac), (0xffa7, 0xffa9, 0x1103),
  (0xffaa, 0xffaf, 0x11b0), (0xffb1, 0xffb3, 0x1106), (0xffb5, 0xffbe, 0x1109),
  (0xffc2, 0xffc7, 0x1161), (0xffca, 0xffcf, 0x1167), (0xffd2, 0xffd7, 0x116d),
  (0xffda, 0xffdc, 0x1173), (0xffe0, 0xffe1, 0xa2), (0xffe9, 0xffec, 0x2190),
  (0x10400, 0x10427, 0x10428), (0x104b0, 0x104d3, 0x104d8), (0x10570, 0x1057a, 0x10597),
  (0x1057c, 0x1058a, 0x105a3), (0x1058c, 0x10592, 0x105b3), (0x10594, 0x10595, 0x105bb),
  (0x10781, 0x10782, 0x2d0), (0x1078b, 0x1078c, 0x256), (0x10799, 0x1079a, 0x2aa),
  (0x107a3, 0x107a4, 0x276), (0x107a8, 0x107a9, 0x27d), (0x107b3, 0x107b4, 0x2a1),
  (0x107b6, 0x107b8, 0x1c0), (0x10c80, 0x10cb2, 0x10cc0), (0x10d50, 0x10d65, 0x10d70),
  (0x118a0, 0x118bf, 0x118c0), (0x16e40, 0x16e5f, 0x16e60), (0x16ea0, 0x16eb8, 0x16ebb),
  (0x1ccd6, 0x1ccef, 0x61), (0x1ccf0, 0x1ccf9, 0x30), (0x1d400, 0x1d419, 0x61),
  (0x1d41a, 0x1d433, 0x61), (0x1d434, 0x1d44d, 0x61), (0x1d44e, 0x1d454, 0x61),
  (0x1d456, 0x1d467, 0x69), (0x1d468, 0x1d481, 0x61), (0x1d482, 0x1d49b, 0x61),
  (0x1d49e, 0x1d49f, 0x63), (0x1d4a5, 0x1d4a6, 0x6a), (0x1d4a9, 0x1d4ac, 0x6e),
  (0x1d4ae, 0x1d4b5, 0x73), (0x1d4b6, 0x1d4b9, 0x61), (0x1d4bd, 0x1d4c3, 0x68),
  (0x1d4c5, 0x1d4cf, 0x70), (0x1d4d0, 0x1d4e9, 0x61), (0x1d4ea, 0x1d503, 0x61),
  (0x1d504, 0x1d505, 0x61), (0x1d507, 0x1d50a, 0x64), (0x1d50d, 0x1d514, 0x6a),
  (0x1d516, 0x1d51c, 0x73), (0x1d51e, 0x1d537, 0x61), (0x1d538, 0x1d539, 0x61),
  (0x1d53b, 0x1d53e, 0x64), (0x1d540, 0x1d544, 0x69), (0x1d54a, 0x1d550, 0x73),
  (0x1d552, 0x1d56b, 0x61), (0x1d56c, 0x1d585, 0x61), (0x1d586, 0x1d59f, 0x61),
  (0x1d5a0, 0x1d5b9, 0x61), (0x1d5ba, 0x1d5d3, 0x61), (0x1d5d4, 0x1d5ed, 0x61),
  (0x1d5ee, 0x1d607, 0x61), (0x1d608, 0x1d621, 0x61), (0x1d622, 0x1d63b, 0x61),
  (0x1d63c, 0x1d655, 0x61), (0x1d656, 0x1d66f, 0x61), (0x1d670, 0x1d689, 0x61),
  (0x1d68a, 0x1d6a3, 0x61), (0x1d6a8, 0x1d6b8, 0x3b1), (0x1d6ba, 0x1d6c0, 0x3c3),
  (0x1d6c2, 0x1d6d2, 0x3b1), (0x1d6d5, 0x1d6da, 0x3c4), (0x1d6e2, 0x1d6f2, 0x3b1),
  (0x1d6f4, 0x1d6fa, 0x3c3), (0x1d6fc, 0x1d70c, 0x3b1), (0x1d70f, 0x1d714, 0x3c4),
  (0x1d71c, 0x1d72c, 0x3b1), (0x1d72e, 0x1d734, 0x3c3), (0x1d736, 0x1d746, 0x3b1),
  (0x1d749, 0x1d74e, 0x3c4), (0x1d756, 0x1d766, 0x3b1), (0x1d768, 0x1d76e, 0x3c3),
  (0x1d770, 0x1d780, 0x3b1), (0x1d783, 0x1d788, 0x3c4), (0x1d790, 0x1d7a0, 0x3b1),
  (0x1d7a2, 0x1d7a8, 0x3c3), (0x1d7aa, 0x1d7ba, 0x3b1), (0x1d7bd, 0x1d7c2, 0x3c4),
  (0x1d7ce, 0x1d7d7, 0x30), (0x1d7d8, 0x1d7e1, 0x30), (0x1d7e2, 0x1d7eb, 0x30),
  (0x1d7ec, 0x1d7f5, 0x30), (0x1d7f6, 0x1d7ff, 0x30), (0x1e030, 0x1e038, 0x430),
  (0x1e039, 0x1e03b, 0x43a), (0x1e03c, 0x1e046, 0x43e), (0x1e048, 0x1e049, 0x44d),
  (0x1e051, 0x1e059, 0x430), (0x1e05a, 0x1e05b, 0x43a), (0x1e05c, 0x1e05d, 0x43e),
  (0x1e05f, 0x1e064, 0x443), (0x1e065, 0x1e066, 0x44a), (0x1e900, 0x1e921, 0x1e922),
  (0x1ee00, 0x1ee01, 0x627), (0x1ee0a, 0x1ee0d, 0x643), (0x1ee15, 0x1ee16, 0x62a),
  (0x1ee2a, 0x1ee2d, 0x643), (0x1ee35, 0x1ee36, 0x62a), (0x1ee6c, 0x1ee6d, 0x645),
  (0x1ee75, 0x1ee76, 0x62a), (0x1ee80, 0x1ee81, 0x627), (0x1ee84, 0x1ee85, 0x647),
  (0x1ee8b, 0x1ee8d, 0x644), (0x1ee95, 0x1ee96, 0x62a), (0x1eeab, 0x1eead, 0x644),
  (0x1eeb5, 0x1eeb6, 0x62a), (0x1f130, 0x1f149, 0x61), (0x1fbf0, 0x1fbf9, 0x30)]

def firstSingleForms : List (Nat × Nat) := [
  (0xa0, 0x20), (0xaa, 0x61), (0xb5, 0x3bc), (0xb9, 0x31), (0xba, 0x6f), (0x178, 0xff),
  (0x17f, 0x73), (0x181, 0x253), (0x186, 0x254), (0x187, 0x188), (0x18b, 0x18c), (0x18e, 0x1dd),
  (0x18f, 0x259), (0x190, 0x25b), (0x191, 0x192), (0x193, 0x260), (0x194, 0x263), (0x196, 0x269),
  (0x197, 0x268), (0x198, 0x199), (0x19c, 0x26f), (0x19d, 0x272), (0x19f, 0x275), (0x1a6, 0x280),
  (0x1a7, 0x1a8), (0x1a9, 0x283), (0x1ac, 0x1ad), (0x1ae, 0x288), (0x1af, 0x1b0), (0x1b7, 0x292),
  (0x1b8, 0x1b9), (0x1bc, 0x1bd), (0x1f4, 0x1f5), (0x1f6, 0x195), (0x1f7, 0x1bf), (0x220, 0x19e),
  (0x23a, 0x2c65), (0x23b, 0x23c), (0x23d, 0x19a), (0x23e, 0x2c66), (0x241, 0x242), (0x243, 0x180),
  (0x244, 0x289), (0x245, 0x28c), (0x2b0, 0x68), (0x2b1, 0x266), (0x2b2, 0x6a), (0x2b3, 0x72),
  (0x2b4, 0x279), (0x2b5, 0x27b), (0x2b6, 0x281), (0x2b7, 0x77), (0x2b8, 0x79), (0x2e0, 0x263),
  (0x2e1, 0x6c), (0x2e2, 0x73), (0x2e3, 0x78), (0x2e4, 0x295), (0x345, 0x3b9), (0x376, 0x377),
  (0x37f, 0x3f3), (0x386, 0x3ac), (0x38c, 0x3cc), (0x3cf, 0x3d7), (0x3d0, 0x3b2), (0x3d1, 0x3b8),
  (0x3d2, 0x3c5), (0x3d3, 0x3cd), (0x3d4, 0x3cb), (0x3d5, 0x3c6), (0x3d6, 0x3c0), (0x3f0, 0x3ba),
  (0x3f1, 0x3c1), (0x3f2, 0x3c3), (0x3f4, 0x3b8), (0x3f5, 0x3b5), (0x3f7, 0x3f8), (0x3f9, 0x3c3),
  (0x3fa, 0x3fb), (0x4c0, 0x4cf), (0xf0c, 0xf0b), (0x10c7, 0x2d27), (0x10cd, 0x2d2d),
  (0x10fc, 0x10dc), (0x1c80, 0x432), (0x1c81, 0x434), (0x1c82, 0x43e), (0x1c85, 0x442),
  (0x1c86, 0x44a), (0x1c87, 0x463), (0x1c88, 0xa64b), (0x1c89, 0x1c8a), (0x1d2c, 0x61),
  (0x1d2d, 0xe6), (0x1d2e, 0x62), (0x1d32, 0x1dd), (0x1d3c, 0x6f), (0x1d3d, 0x223), (0x1d3e, 0x70),
  (0x1d3f, 0x72), (0x1d42, 0x77), (0x1d43, 0x61), (0x1d46, 0x1d02), (0x1d47, 0x62), (0x1d4a, 0x259),
  (0x1d4d, 0x67), (0x1d4f, 0x6b), (0x1d50, 0x6d), (0x1d51, 0x14b), (0x1d52, 0x6f), (0x1d53, 0x254),
  (0x1d56, 0x70), (0x1d59, 0x1d1d), (0x1d5a, 0x26f), (0x1d5b, 0x76), (0x1d5c, 0x1d25),
  (0x1d62, 0x69), (0x1d63, 0x72), (0x1d68, 0x3c1), (0x1d78, 0x43d), (0x1d9b, 0x252), (0x1d9c, 0x63),
  (0x1d9d, 0x255), (0x1d9e, 0xf0), (0x1d9f, 0x25c), (0x1da0, 0x66), (0x1da1, 0x25f),
  (0x1da2, 0x261), (0x1da3, 0x265), (0x1da7, 0x1d7b), (0x1da8, 0x29d), (0x1da9, 0x26d),
  (0x1daa, 0x1d85), (0x1dab, 0x29f), (0x1dac, 0x271), (0x1dad, 0x270), (0x1db2, 0x278),
  (0x1db5, 0x1ab), (0x1db8, 0x1d1c), (0x1dbb, 0x7a), (0x1dbf, 0x3b8), (0x1e9b, 0x1e61),
  (0x1e9e, 0xdf), (0x1f59, 0x1f51), (0x1f5b, 0x1f53), (0x1f5d, 0x1f55), (0x1f5f, 0x1f57),
  (0x1fba, 0x1f70), (0x1fbb, 0x3ac), (0x1fc8, 0x1f72), (0x1fc9, 0x3ad), (0x1fca, 0x1f74),
  (0x1fcb, 0x3ae), (0x1fda, 0x1f76), (0x1fdb, 0x3af), (0x1fea, 0x1f7a), (0x1feb, 0x3cd),
  (0x1fec, 0x1fe5), (0x1ff8, 0x1f78), (0x1ff9, 0x3cc), (0x1ffa, 0x1f7c), (0x1ffb, 0x3ce),
  (0x2011, 0x2010), (0x202f, 0x20), (0x205f, 0x20), (0x2070, 0x30), (0x2071, 0x69), (0x207a, 0x2b),
  (0x207b, 0x2212), (0x207c, 0x3d), (0x207f, 0x6e), (0x208a, 0x2b), (0x208b, 0x2212),
  (0x208c, 0x3d), (0x2090, 0x61), (0x2091, 0x65), (0x2092, 0x6f), (0x2093, 0x78), (0x2094, 0x259),
  (0x2095, 0x68), (0x209a, 0x70), (0x2102, 0x63), (0x2107, 0x25b), (0x210f, 0x127), (0x2115, 0x6e),
  (0x2124, 0x7a), (0x2126, 0x3c9), (0x2128, 0x7a), (0x212a, 0x6b), (0x212b, 0xe5), (0x2131, 0x66),
  (0x2132, 0x214e), (0x2133, 0x6d), (0x2134, 0x6f), (0x2139, 0x69), (0x213c, 0x3c0),
  (0x213f, 0x3c0), (0x2140, 0x2211), (0x2147, 0x65), (0x2160, 0x69), (0x2164, 0x76), (0x2169, 0x78),
  (0x216c, 0x6c), (0x216f, 0x6d), (0x2170, 0x69), (0x2174, 0x76), (0x2179, 0x78), (0x217c, 0x6c),
  (0x217f, 0x6d), (0x2183, 0x2184), (0x24ea, 0x30), (0x2c60, 0x2c61), (0x2c62, 0x26b),
  (0x2c63, 0x1d7d), (0x2c64, 0x27d), (0x2c6d, 0x251), (0x2c6e, 0x271), (0x2c6f, 0x250),
  (0x2c70, 0x252), (0x2c72, 0x2c73), (0x2c75, 0x2c76), (0x2c7c, 0x6a), (0x2c7d, 0x76),
  (0x2cf2, 0x2cf3), (0x2d6f, 0x2d61), (0x2e9f, 0x6bcd), (0x2ef3, 0x9f9f), (0x2f00, 0x4e00),
  (0x2f01, 0x4e28), (0x2f02, 0x4e36), (0x2f03, 0x4e3f), (0x2f04, 0x4e59), (0x2f05, 0x4e85),
  (0x2f06, 0x4e8c), (0x2f07, 0x4ea0), (0x2f08, 0x4eba), (0x2f09, 0x513f), (0x2f0a, 0x5165),
  (0x2f0b, 0x516b), (0x2f0c, 0x5182), (0x2f0d, 0x5196), (0x2f0e, 0x51ab), (0x2f0f, 0x51e0),
  (0x2f10, 0x51f5), (0x2f11, 0x5200), (0x2f12, 0x529b), (0x2f13, 0x52f9), (0x2f14, 0x5315),
  (0x2f15, 0x531a), (0x2f16, 0x5338), (0x2f17, 0x5341), (0x2f18, 0x535c), (0x2f19, 0x5369),
  (0x2f1a, 0x5382), (0x2f1b, 0x53b6), (0x2f1c, 0x53c8), (0x2f1d, 0x53e3), (0x2f1e, 0x56d7),
  (0x2f1f, 0x571f), (0x2f20, 0x58eb), (0x2f21, 0x5902), (0x2f22, 0x590a), (0x2f23, 0x5915),
  (0x2f24, 0x5927), (0x2f25, 0x5973), (0x2f26, 0x5b50), (0x2f27, 0x5b80), (0x2f28, 0x5bf8),
  (0x2f29, 0x5c0f), (0x2f2a, 0x5c22), (0x2f2b, 0x5c38), (0x2f2c, 0x5c6e), (0x2f2d, 0x5c71),
  (0x2f2e, 0x5ddb), (0x2f2f, 0x5de5), (0x2f30, 0x5df1), (0x2f31, 0x5dfe), (0x2f32, 0x5e72),
  (0x2f33, 0x5e7a), (0x2f34, 0x5e7f), (0x2f35, 0x5ef4), (0x2f36, 0x5efe), (0x2f37, 0x5f0b),
  (0x2f38, 0x5f13), (0x2f39, 0x5f50), (0x2f3a, 0x5f61), (0x2f3b, 0x5f73), (0x2f3c, 0x5fc3),
  (0x2f3d, 0x6208), (0x2f3e, 0x6236), (0x2f3f, 0x624b), (0x2f40, 0x652f), (0x2f41, 0x6534),
  (0x2f42, 0x6587), (0x2f43, 0x6597), (0x2f44, 0x65a4), (0x2f45, 0x65b9), (0x2f46, 0x65e0),
  (0x2f47, 0x65e5), (0x2f48, 0x66f0), (0x2f49, 0x6708), (0x2f4a, 0x6728), (0x2f4b, 0x6b20),
  (0x2f4c, 0x6b62), (0x2f4d, 0x6b79), (0x2f4e, 0x6bb3), (0x2f4f, 0x6bcb), (0x2f50, 0x6bd4),
  (0x2f51, 0x6bdb), (0x2f52, 0x6c0f), (0x2f53, 0x6c14), (0x2f54, 0x6c34), (0x2f55, 0x706b),
  (0x2f56, 0x722a), (0x2f57, 0x7236), (0x2f58, 0x723b), (0x2f59, 0x723f), (0x2f5a, 0x7247),
  (0x2f5b, 0x7259), (0x2f5c, 0x725b), (0x2f5d, 0x72ac), (0x2f5e, 0x7384), (0x2f5f, 0x7389),
  (0x2f60, 0x74dc), (0x2f61, 0x74e6), (0x2f62, 0x7518), (0x2f63, 0x751f), (0x2f64, 0x7528),
  (0x2f65, 0x7530), (0x2f66, 0x758b)]

def secondSingleForms : List (Nat × Nat) := [
  (0x2f67, 0x7592), (0x2f68, 0x7676), (0x2f69, 0x767d), (0x2f6a, 0x76ae), (0x2f6b, 0x76bf),
  (0x2f6c, 0x76ee), (0x2f6d, 0x77db), (0x2f6e, 0x77e2), (0x2f6f, 0x77f3), (0x2f70, 0x793a),
  (0x2f71, 0x79b8), (0x2f72, 0x79be), (0x2f73, 0x7a74), (0x2f74, 0x7acb), (0x2f75, 0x7af9),
  (0x2f76, 0x7c73), (0x2f77, 0x7cf8), (0x2f78, 0x7f36), (0x2f79, 0x7f51), (0x2f7a, 0x7f8a),
  (0x2f7b, 0x7fbd), (0x2f7c, 0x8001), (0x2f7d, 0x800c), (0x2f7e, 0x8012), (0x2f7f, 0x8033),
  (0x2f80, 0x807f), (0x2f81, 0x8089), (0x2f82, 0x81e3), (0x2f83, 0x81ea), (0x2f84, 0x81f3),
  (0x2f85, 0x81fc), (0x2f86, 0x820c), (0x2f87, 0x821b), (0x2f88, 0x821f), (0x2f89, 0x826e),
  (0x2f8a, 0x8272), (0x2f8b, 0x8278), (0x2f8c, 0x864d), (0x2f8d, 0x866b), (0x2f8e, 0x8840),
  (0x2f8f, 0x884c), (0x2f90, 0x8863), (0x2f91, 0x897e), (0x2f92, 0x898b), (0x2f93, 0x89d2),
  (0x2f94, 0x8a00), (0x2f95, 0x8c37), (0x2f96, 0x8c46), (0x2f97, 0x8c55), (0x2f98, 0x8c78),
  (0x2f99, 0x8c9d), (0x2f9a, 0x8d64), (0x2f9b, 0x8d70), (0x2f9c, 0x8db3), (0x2f9d, 0x8eab),
  (0x2f9e, 0x8eca), (0x2f9f, 0x8f9b), (0x2fa0, 0x8fb0), (0x2fa1, 0x8fb5), (0x2fa2, 0x9091),
  (0x2fa3, 0x9149), (0x2fa4, 0x91c6), (0x2fa5, 0x91cc), (0x2fa6, 0x91d1), (0x2fa7, 0x9577),
  (0x2fa8, 0x9580), (0x2fa9, 0x961c), (0x2faa, 0x96b6), (0x2fab, 0x96b9), (0x2fac, 0x96e8),
  (0x2fad, 0x9751), (0x2fae, 0x975e), (0x2faf, 0x9762), (0x2fb0, 0x9769), (0x2fb1, 0x97cb),
  (0x2fb2, 0x97ed), (0x2fb3, 0x97f3), (0x2fb4, 0x9801), (0x2fb5, 0x98a8), (0x2fb6, 0x98db),
  (0x2fb7, 0x98df), (0x2fb8, 0x9996), (0x2fb9, 0x9999), (0x2fba, 0x99ac), (0x2fbb, 0x9aa8),
  (0x2fbc, 0x9ad8), (0x2fbd, 0x9adf), (0x2fbe, 0x9b25), (0x2fbf, 0x9b2f), (0x2fc0, 0x9b32),
  (0x2fc1, 0x9b3c), (0x2fc2, 0x9b5a), (0x2fc3, 0x9ce5), (0x2fc4, 0x9e75), (0x2fc5, 0x9e7f),
  (0x2fc6, 0x9ea5), (0x2fc7, 0x9ebb), (0x2fc8, 0x9ec3), (0x2fc9, 0x9ecd), (0x2fca, 0x9ed1),
  (0x2fcb, 0x9ef9), (0x2fcc, 0x9efd), (0x2fcd, 0x9f0e), (0x2fce, 0x9f13), (0x2fcf, 0x9f20),
  (0x2fd0, 0x9f3b), (0x2fd1, 0x9f4a), (0x2fd2, 0x9f52), (0x2fd3, 0x9f8d), (0x2fd4, 0x9f9c),
  (0x2fd5, 0x9fa0), (0x3000, 0x20), (0x3002, 0x2e), (0x3036, 0x3012), (0x3038, 0x5341),
  (0x3133, 0x11aa), (0x3134, 0x1102), (0x3140, 0x111a), (0x3144, 0x1121), (0x3169, 0x11cc),
  (0x316a, 0x11ce), (0x316b, 0x11d3), (0x316c, 0x11d7), (0x316d, 0x11d9), (0x316e, 0x111c),
  (0x316f, 0x11dd), (0x3170, 0x11df), (0x3173, 0x1120), (0x3176, 0x1127), (0x3177, 0x1129),
  (0x317d, 0x1132), (0x317e, 0x1136), (0x317f, 0x1140), (0x3180, 0x1147), (0x3181, 0x114c),
  (0x3189, 0x1188), (0x318c, 0x1194), (0x318d, 0x119e), (0x318e, 0x11a1), (0x3192, 0x4e00),
  (0x3193, 0x4e8c), (0x3194, 0x4e09), (0x3195, 0x56db), (0x3196, 0x4e0a), (0x3197, 0x4e2d),
  (0x3198, 0x4e0b), (0x3199, 0x7532), (0x319a, 0x4e59), (0x319b, 0x4e19), (0x319c, 0x4e01),
  (0x319d, 0x5929), (0x319e, 0x5730), (0x319f, 0x4eba), (0x3244, 0x554f), (0x3245, 0x5e7c),
  (0x3246, 0x6587), (0x3247, 0x7b8f), (0x3260, 0x1100), (0x3266, 0x1109), (0x326e, 0xac00),
  (0x326f, 0xb098), (0x3270, 0xb2e4), (0x3271, 0xb77c), (0x3272, 0xb9c8), (0x3273, 0xbc14),
  (0x3274, 0xc0ac), (0x3275, 0xc544), (0x3276, 0xc790), (0x3277, 0xcc28), (0x3278, 0xce74),
  (0x3279, 0xd0c0), (0x327a, 0xd30c), (0x327b, 0xd558), (0x327e, 0xc6b0), (0x3280, 0x4e00),
  (0x3281, 0x4e8c), (0x3282, 0x4e09), (0x3283, 0x56db), (0x3284, 0x4e94), (0x3285, 0x516d),
  (0x3286, 0x4e03), (0x3287, 0x516b), (0x3288, 0x4e5d), (0x3289, 0x5341), (0x328a, 0x6708),
  (0x328b, 0x706b), (0x328c, 0x6c34), (0x328d, 0x6728), (0x328e, 0x91d1), (0x328f, 0x571f),
  (0x3290, 0x65e5), (0x3291, 0x682a), (0x3292, 0x6709), (0x3293, 0x793e), (0x3294, 0x540d),
  (0x3295, 0x7279), (0x3296, 0x8ca1), (0x3297, 0x795d), (0x3298, 0x52b4), (0x3299, 0x79d8),
  (0x329a, 0x7537), (0x329b, 0x5973), (0x329c, 0x9069), (0x329d, 0x512a), (0x329e, 0x5370),
  (0x329f, 0x6ce8), (0x32a0, 0x9805), (0x32a1, 0x4f11), (0x32a2, 0x5199), (0x32a3, 0x6b63),
  (0x32a4, 0x4e0a), (0x32a5, 0x4e2d), (0x32a6, 0x4e0b), (0x32a7, 0x5de6), (0x32a8, 0x53f3),
  (0x32a9, 0x533b), (0x32aa, 0x5b97), (0x32ab, 0x5b66), (0x32ac, 0x76e3), (0x32ad, 0x4f01),
  (0x32ae, 0x8cc7), (0x32af, 0x5354), (0x32b0, 0x591c), (0x32d0, 0x30a2), (0x32d1, 0x30a4),
  (0x32d2, 0x30a6), (0x32d3, 0x30a8), (0x32d6, 0x30ad), (0x32d7, 0x30af), (0x32d8, 0x30b1),
  (0x32d9, 0x30b3), (0x32da, 0x30b5), (0x32db, 0x30b7), (0x32dc, 0x30b9), (0x32dd, 0x30bb),
  (0x32de, 0x30bd), (0x32df, 0x30bf), (0x32e0, 0x30c1), (0x32e1, 0x30c4), (0x32e2, 0x30c6),
  (0x32e3, 0x30c8), (0x32ea, 0x30d2), (0x32eb, 0x30d5), (0x32ec, 0x30d8), (0x32ed, 0x30db),
  (0x32f3, 0x30e4), (0x32f4, 0x30e6), (0xa69c, 0x44a), (0xa69d, 0x44c), (0xa770, 0xa76f),
  (0xa77d, 0x1d79), (0xa78b, 0xa78c), (0xa78d, 0x265), (0xa7aa, 0x266), (0xa7ab, 0x25c),
  (0xa7ac, 0x261), (0xa7ad, 0x26c), (0xa7ae, 0x26a), (0xa7b0, 0x29e), (0xa7b1, 0x287),
  (0xa7b2, 0x29d), (0xa7b3, 0xab53), (0xa7c4, 0xa794), (0xa7c5, 0x282), (0xa7c6, 0x1d8e),
  (0xa7cb, 0x264), (0xa7dc, 0x19b), (0xa7f1, 0x73), (0xa7f2, 0x63), (0xa7f3, 0x66), (0xa7f4, 0x71),
  (0xa7f5, 0xa7f6), (0xa7f8, 0x127), (0xa7f9, 0x153), (0xab5c, 0xa727), (0xab5d, 0xab37),
  (0xab5e, 0x26b), (0xab5f, 0xab52), (0xab69, 0x28d), (0xfb20, 0x5e2), (0xfb21, 0x5d0),
  (0xfb27, 0x5e8), (0xfb28, 0x5ea), (0xfb29, 0x2b), (0xfe10, 0x2c), (0xfe11, 0x3001),
  (0xfe15, 0x21), (0xfe16, 0x3f), (0xfe31, 0x2014), (0xfe32, 0x2013), (0xfe37, 0x7b),
  (0xfe38, 0x7d), (0xfe47, 0x5b), (0xfe48, 0x5d), (0xfe50, 0x2c), (0xfe51, 0x3001), (0xfe54, 0x3b),
  (0xfe55, 0x3a), (0xfe56, 0x3f), (0xfe57, 0x21), (0xfe58, 0x2014), (0xfe5b, 0x7b), (0xfe5c, 0x7d),
  (0xfe5f, 0x23), (0xfe60, 0x26), (0xfe63, 0x2d), (0xfe64, 0x3c), (0xfe65, 0x3e), (0xfe66, 0x3d),
  (0xfe68, 0x5c), (0xfe6b, 0x40), (0xff61, 0x2e), (0xff64, 0x3001), (0xff65, 0x30fb),
  (0xff66, 0x30f2), (0xff67, 0x30a1), (0xff68, 0x30a3), (0xff69, 0x30a5), (0xff6a, 0x30a7),
  (0xff6b, 0x30a9), (0xff6c, 0x30e3), (0xff6d, 0x30e5), (0xff6e, 0x30e7), (0xff6f, 0x30c3),
  (0xff70, 0x30fc), (0xff71, 0x30a2), (0xff72, 0x30a4), (0xff73, 0x30a6), (0xff74, 0x30a8),
  (0xff77, 0x30ad)]

def thirdSingleForms : List (Nat × Nat) := [
  (0xff78, 0x30af), (0xff79, 0x30b1), (0xff7a, 0x30b3), (0xff7b, 0x30b5), (0xff7c, 0x30b7),
  (0xff7d, 0x30b9), (0xff7e, 0x30bb), (0xff7f, 0x30bd), (0xff80, 0x30bf), (0xff81, 0x30c1),
  (0xff82, 0x30c4), (0xff83, 0x30c6), (0xff84, 0x30c8), (0xff8b, 0x30d2), (0xff8c, 0x30d5),
  (0xff8d, 0x30d8), (0xff8e, 0x30db), (0xff94, 0x30e4), (0xff95, 0x30e6), (0xff9c, 0x30ef),
  (0xff9d, 0x30f3), (0xffa3, 0x11aa), (0xffa4, 0x1102), (0xffb0, 0x111a), (0xffb4, 0x1121),
  (0xffe2, 0xac), (0xffe4, 0xa6), (0xffe5, 0xa5), (0xffe6, 0x20a9), (0xffe8, 0x2502),
  (0xffed, 0x25a0), (0xffee, 0x25cb), (0x10783, 0xe6), (0x10784, 0x299), (0x10785, 0x253),
  (0x10787, 0x2a3), (0x10788, 0xab66), (0x10789, 0x2a5), (0x1078a, 0x2a4), (0x1078d, 0x1d91),
  (0x1078e, 0x258), (0x1078f, 0x25e), (0x10790, 0x2a9), (0x10791, 0x264), (0x10792, 0x262),
  (0x10793, 0x260), (0x10794, 0x29b), (0x10795, 0x127), (0x10796, 0x29c), (0x10797, 0x267),
  (0x10798, 0x284), (0x1079b, 0x26c), (0x1079c, 0x1df04), (0x1079d, 0xa78e), (0x1079e, 0x26e),
  (0x1079f, 0x1df05), (0x107a0, 0x28e), (0x107a1, 0x1df06), (0x107a2, 0xf8), (0x107a5, 0x71),
  (0x107a6, 0x27a), (0x107a7, 0x1df08), (0x107aa, 0x280), (0x107ab, 0x2a8), (0x107ac, 0x2a6),
  (0x107ad, 0xab67), (0x107ae, 0x2a7), (0x107af, 0x288), (0x107b0, 0x2c71), (0x107b2, 0x28f),
  (0x107b5, 0x298), (0x107b9, 0x1df0a), (0x107ba, 0x1df1e), (0x1d49c, 0x61), (0x1d4a2, 0x67),
  (0x1d4bb, 0x66), (0x1d546, 0x6f), (0x1d6a4, 0x131), (0x1d6a5, 0x237), (0x1d6b9, 0x3b8),
  (0x1d6c1, 0x2207), (0x1d6db, 0x2202), (0x1d6dc, 0x3b5), (0x1d6dd, 0x3b8), (0x1d6de, 0x3ba),
  (0x1d6df, 0x3c6), (0x1d6e0, 0x3c1), (0x1d6e1, 0x3c0), (0x1d6f3, 0x3b8), (0x1d6fb, 0x2207),
  (0x1d715, 0x2202), (0x1d716, 0x3b5), (0x1d717, 0x3b8), (0x1d718, 0x3ba), (0x1d719, 0x3c6),
  (0x1d71a, 0x3c1), (0x1d71b, 0x3c0), (0x1d72d, 0x3b8), (0x1d735, 0x2207), (0x1d74f, 0x2202),
  (0x1d750, 0x3b5), (0x1d751, 0x3b8), (0x1d752, 0x3ba), (0x1d753, 0x3c6), (0x1d754, 0x3c1),
  (0x1d755, 0x3c0), (0x1d767, 0x3b8), (0x1d76f, 0x2207), (0x1d789, 0x2202), (0x1d78a, 0x3b5),
  (0x1d78b, 0x3b8), (0x1d78c, 0x3ba), (0x1d78d, 0x3c6), (0x1d78e, 0x3c1), (0x1d78f, 0x3c0),
  (0x1d7a1, 0x3b8), (0x1d7a9, 0x2207), (0x1d7c3, 0x2202), (0x1d7c4, 0x3b5), (0x1d7c5, 0x3b8),
  (0x1d7c6, 0x3ba), (0x1d7c7, 0x3c6), (0x1d7c8, 0x3c1), (0x1d7c9, 0x3c0), (0x1e047, 0x44b),
  (0x1e04a, 0xa689), (0x1e04b, 0x4d9), (0x1e04c, 0x456), (0x1e04d, 0x458), (0x1e04e, 0x4e9),
  (0x1e04f, 0x4af), (0x1e050, 0x4cf), (0x1e05e, 0x441), (0x1e067, 0x491), (0x1e068, 0x456),
  (0x1e069, 0x455), (0x1e06a, 0x45f), (0x1e06b, 0x4ab), (0x1e06c, 0xa651), (0x1e06d, 0x4b1),
  (0x1ee02, 0x62c), (0x1ee03, 0x62f), (0x1ee05, 0x648), (0x1ee06, 0x632), (0x1ee07, 0x62d),
  (0x1ee08, 0x637), (0x1ee09, 0x64a), (0x1ee0e, 0x633), (0x1ee0f, 0x639), (0x1ee10, 0x641),
  (0x1ee11, 0x635), (0x1ee12, 0x642), (0x1ee13, 0x631), (0x1ee14, 0x634), (0x1ee17, 0x62e),
  (0x1ee18, 0x630), (0x1ee19, 0x636), (0x1ee1a, 0x638), (0x1ee1b, 0x63a), (0x1ee1c, 0x66e),
  (0x1ee1d, 0x6ba), (0x1ee1e, 0x6a1), (0x1ee1f, 0x66f), (0x1ee21, 0x628), (0x1ee22, 0x62c),
  (0x1ee24, 0x647), (0x1ee27, 0x62d), (0x1ee29, 0x64a), (0x1ee2e, 0x633), (0x1ee2f, 0x639),
  (0x1ee30, 0x641), (0x1ee31, 0x635), (0x1ee32, 0x642), (0x1ee34, 0x634), (0x1ee37, 0x62e),
  (0x1ee39, 0x636), (0x1ee3b, 0x63a), (0x1ee42, 0x62c), (0x1ee47, 0x62d), (0x1ee49, 0x64a),
  (0x1ee4b, 0x644), (0x1ee4d, 0x646), (0x1ee4e, 0x633), (0x1ee4f, 0x639), (0x1ee51, 0x635),
  (0x1ee52, 0x642), (0x1ee54, 0x634), (0x1ee57, 0x62e), (0x1ee59, 0x636), (0x1ee5b, 0x63a),
  (0x1ee5d, 0x6ba), (0x1ee5f, 0x66f), (0x1ee61, 0x628), (0x1ee62, 0x62c), (0x1ee64, 0x647),
  (0x1ee67, 0x62d), (0x1ee68, 0x637), (0x1ee69, 0x64a), (0x1ee6a, 0x643), (0x1ee6e, 0x633),
  (0x1ee6f, 0x639), (0x1ee70, 0x641), (0x1ee71, 0x635), (0x1ee72, 0x642), (0x1ee74, 0x634),
  (0x1ee77, 0x62e), (0x1ee79, 0x636), (0x1ee7a, 0x638), (0x1ee7b, 0x63a), (0x1ee7c, 0x66e),
  (0x1ee7e, 0x6a1), (0x1ee82, 0x62c), (0x1ee83, 0x62f), (0x1ee86, 0x632), (0x1ee87, 0x62d),
  (0x1ee88, 0x637), (0x1ee89, 0x64a), (0x1ee8e, 0x633), (0x1ee8f, 0x639), (0x1ee90, 0x641),
  (0x1ee91, 0x635), (0x1ee92, 0x642), (0x1ee93, 0x631), (0x1ee94, 0x634), (0x1ee97, 0x62e),
  (0x1ee98, 0x630), (0x1ee99, 0x636), (0x1ee9a, 0x638), (0x1ee9b, 0x63a), (0x1eea1, 0x628),
  (0x1eea2, 0x62c), (0x1eea3, 0x62f), (0x1eea5, 0x648), (0x1eea6, 0x632), (0x1eea7, 0x62d),
  (0x1eea8, 0x637), (0x1eea9, 0x64a), (0x1eeae, 0x633), (0x1eeaf, 0x639), (0x1eeb0, 0x641),
  (0x1eeb1, 0x635), (0x1eeb2, 0x642), (0x1eeb3, 0x631), (0x1eeb4, 0x634), (0x1eeb7, 0x62e),
  (0x1eeb8, 0x630), (0x1eeb9, 0x636), (0x1eeba, 0x638), (0x1eebb, 0x63a), (0x1f12b, 0x63),
  (0x1f12c, 0x72), (0x1f202, 0x30b5), (0x1f210, 0x624b), (0x1f211, 0x5b57), (0x1f212, 0x53cc),
  (0x1f213, 0x30c7), (0x1f214, 0x4e8c), (0x1f215, 0x591a), (0x1f216, 0x89e3), (0x1f217, 0x5929),
  (0x1f218, 0x4ea4), (0x1f219, 0x6620), (0x1f21a, 0x7121), (0x1f21b, 0x6599), (0x1f21c, 0x524d),
  (0x1f21d, 0x5f8c), (0x1f21e, 0x518d), (0x1f21f, 0x65b0), (0x1f220, 0x521d), (0x1f221, 0x7d42),
  (0x1f222, 0x751f), (0x1f223, 0x8ca9), (0x1f224, 0x58f0), (0x1f225, 0x5439), (0x1f226, 0x6f14),
  (0x1f227, 0x6295), (0x1f228, 0x6355), (0x1f229, 0x4e00), (0x1f22a, 0x4e09), (0x1f22b, 0x904a),
  (0x1f22c, 0x5de6), (0x1f22d, 0x4e2d), (0x1f22e, 0x53f3), (0x1f22f, 0x6307), (0x1f230, 0x8d70),
  (0x1f231, 0x6253), (0x1f232, 0x7981), (0x1f233, 0x7a7a), (0x1f234, 0x5408), (0x1f235, 0x6e80),
  (0x1f236, 0x6709), (0x1f237, 0x6708), (0x1f238, 0x7533), (0x1f239, 0x5272), (0x1f23a, 0x55b6),
  (0x1f23b, 0x914d), (0x1f250, 0x5f97), (0x1f251, 0x53ef)]

def singleForms : List (List (Nat × Nat)) :=
  [firstSingleForms, secondSingleForms, thirdSingleForms]

/-- The code point that a run gives for one of its own. -/
def ofRun? (code : Nat) : Option Nat :=
  match shiftedRuns.find? fun (first, last, _) => first ≤ code && code ≤ last with
  | some (first, _, form) => some (form + (code - first))
  | none => (constantRuns.find? fun (first, last, _) => first ≤ code && code ≤ last).map (·.2.2)

/-- Whether every second code point of a run is read as the next, this one too. -/
def alternates (code : Nat) : Bool :=
  alternatingRuns.any fun (first, last) =>
    first ≤ code && code ≤ last && (code - first) % 2 = 0

def singleForm? (code : Nat) : Option Nat :=
  if alternates code then some (code + 1)
  else (ofRun? code).orElse fun _ =>
    (singleForms.findSome? fun forms => forms.find? (·.1 = code)).map (·.2)

end GraphBatch.Url.Domain
