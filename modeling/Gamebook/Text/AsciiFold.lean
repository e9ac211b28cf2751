namespace Gamebook
namespace Text

-- Runs of code points whose compatibility forms are consecutive ASCII characters: the first and
-- the last code point, and the code of the first one's form.
def asciiRuns : List (Nat × Nat × Nat) := [
  (0x1d33, 0x1d3a, 0x47), (0x2074, 0x2079, 0x34), (0x2080, 0x2089, 0x30),
  (0x2096, 0x2099, 0x6b), (0x2119, 0x211b, 0x50), (0x212b, 0x212d, 0x41),
  (0x2460, 0x2468, 0x31), (0x24b6, 0x24cf, 0x41), (0x24d0, 0x24e9, 0x61),
  (0x32c0, 0x32c8, 0x31), (0x3358, 0x3361, 0x30), (0x33e0, 0x33e8, 0x31),
  (0xff01, 0xff5e, 0x21), (0x1d400, 0x1d419, 0x41), (0x1d41a, 0x1d433, 0x61),
  (0x1d434, 0x1d44d, 0x41), (0x1d44e, 0x1d454, 0x61), (0x1d456, 0x1d467, 0x69),
  (0x1d468, 0x1d481, 0x41), (0x1d482, 0x1d49b, 0x61), (0x1d4a9, 0x1d4ac, 0x4e),
  (0x1d4ae, 0x1d4b5, 0x53), (0x1d4b6, 0x1d4b9, 0x61), (0x1d4bd, 0x1d4c3, 0x68),
  (0x1d4c5, 0x1d4cf, 0x70), (0x1d4d0, 0x1d4e9, 0x41), (0x1d4ea, 0x1d503, 0x61),
  (0x1d507, 0x1d50a, 0x44), (0x1d50d, 0x1d514, 0x4a), (0x1d516, 0x1d51c, 0x53),
  (0x1d51e, 0x1d537, 0x61), (0x1d53b, 0x1d53e, 0x44), (0x1d540, 0x1d544, 0x49),
  (0x1d54a, 0x1d550, 0x53), (0x1d552, 0x1d56b, 0x61), (0x1d56c, 0x1d585, 0x41),
  (0x1d586, 0x1d59f, 0x61), (0x1d5a0, 0x1d5b9, 0x41), (0x1d5ba, 0x1d5d3, 0x61),
  (0x1d5d4, 0x1d5ed, 0x41), (0x1d5ee, 0x1d607, 0x61), (0x1d608, 0x1d621, 0x41),
  (0x1d622, 0x1d63b, 0x61), (0x1d63c, 0x1d655, 0x41), (0x1d656, 0x1d66f, 0x61),
  (0x1d670, 0x1d689, 0x41), (0x1d68a, 0x1d6a3, 0x61), (0x1d7ce, 0x1d7d7, 0x30),
  (0x1d7d8, 0x1d7e1, 0x30), (0x1d7e2, 0x1d7eb, 0x30), (0x1d7ec, 0x1d7f5, 0x30),
  (0x1d7f6, 0x1d7ff, 0x30), (0x1f130, 0x1f149, 0x41), (0x1fbf0, 0x1fbf9, 0x30)
]

-- All other code points whose compatibility decomposition (Unicode 14) has ASCII characters,
-- grouped by these.
def asciiForms : List (String × List Nat) := [
  (" ", [
    0xa0, 0xa8, 0xaf, 0xb4, 0xb8, 0x2d8, 0x2d9, 0x2da, 0x2db, 0x2dc, 0x2dd, 0x37a, 0x384, 0x385,
    0x1fbd, 0x1fbf, 0x1fc0, 0x1fc1, 0x1fcd, 0x1fce, 0x1fcf, 0x1fdd, 0x1fde, 0x1fdf, 0x1fed,
    0x1fee, 0x1ffd, 0x1ffe, 0x2000, 0x2001, 0x2002, 0x2003, 0x2004, 0x2005, 0x2006, 0x2007,
    0x2008, 0x2009, 0x200a, 0x2017, 0x202f, 0x203e, 0x205f, 0x3000, 0x309b, 0x309c, 0xfc5e,
    0xfc5f, 0xfc60, 0xfc61, 0xfc62, 0xfc63, 0xfdfb, 0xfe49, 0xfe4a, 0xfe4b, 0xfe4c, 0xfe70,
    0xfe72, 0xfe74, 0xfe76, 0xfe78, 0xfe7a, 0xfe7c, 0xfe7e, 0xffe3]),
  ("!", [0xfe15, 0xfe57]),
  ("#", [0xfe5f]),
  ("$", [0xfe69]),
  ("%", [0xfe6a]),
  ("&", [0xfe60]),
  ("(", [0x207d, 0x208d, 0xfe35, 0xfe59]),
  (")", [0x207e, 0x208e, 0xfe36, 0xfe5a]),
  ("*", [0xfe61]),
  ("+", [0x207a, 0x208a, 0xfb29, 0xfe62]),
  (",", [0xfe10, 0xfe50]),
  ("-", [0xfe63]),
  (".", [0x2024, 0xfe52]),
  ("0", [0x2070, 0x24ea]),
  ("1", [0xb9, 0x215f]),
  ("2", [0xb2]),
  ("3", [0xb3]),
  (":", [0xfe13, 0xfe55]),
  (";", [0x37e, 0xfe14, 0xfe54]),
  ("<", [0x226e, 0xfe64]),
  ("=", [0x207c, 0x208c, 0x2260, 0xfe66]),
  (">", [0x226f, 0xfe65]),
  ("?", [0xfe16, 0xfe56]),
  ("@", [0xfe6b]),
  ("A", [
    0xc0, 0xc1, 0xc2, 0xc3, 0xc4, 0xc5, 0x100, 0x102, 0x104, 0x1cd, 0x1de, 0x1e0, 0x1fa, 0x200,
    0x202, 0x226, 0x1d2c, 0x1e00, 0x1ea0, 0x1ea2, 0x1ea4, 0x1ea6, 0x1ea8, 0x1eaa, 0x1eac,
    0x1eae, 0x1eb0, 0x1eb2, 0x1eb4, 0x1eb6, 0x3382, 0x1d49c, 0x1d504, 0x1d538]),
  ("B", [0x1d2e, 0x1e02, 0x1e04, 0x1e06, 0x1d505, 0x1d539]),
  ("C", [
    0xc7, 0x106, 0x108, 0x10a, 0x10c, 0x1e08, 0x2102, 0x2103, 0x216d, 0xa7f2, 0x1d49e, 0x1f12b]),
  ("D", [0x10e, 0x1d30, 0x1e0a, 0x1e0c, 0x1e0e, 0x1e10, 0x1e12, 0x2145, 0x216e, 0x1d49f]),
  ("E", [
    0xc8, 0xc9, 0xca, 0xcb, 0x112, 0x114, 0x116, 0x118, 0x11a, 0x204, 0x206, 0x228, 0x1d31,
    0x1e14, 0x1e16, 0x1e18, 0x1e1a, 0x1e1c, 0x1eb8, 0x1eba, 0x1ebc, 0x1ebe, 0x1ec0, 0x1ec2,
    0x1ec4, 0x1ec6, 0x2130]),
  ("F", [0x1e1e, 0x2109, 0x2131, 0x338c, 0xa7f3]),
  ("G", [0x11c, 0x11e, 0x120, 0x122, 0x1e6, 0x1f4, 0x1e20, 0x1d4a2]),
  ("H", [0x124, 0x21e, 0x1e22, 0x1e24, 0x1e26, 0x1e28, 0x1e2a, 0x210b, 0x210c, 0x210d]),
  ("I", [
    0xcc, 0xcd, 0xce, 0xcf, 0x128, 0x12a, 0x12c, 0x12e, 0x130, 0x1cf, 0x208, 0x20a, 0x1e2c,
    0x1e2e, 0x1ec8, 0x1eca, 0x2110, 0x2111, 0x2160]),
  ("J", [0x134, 0x1d4a5]),
  ("K", [0x136, 0x1e8, 0x1e30, 0x1e32, 0x1e34, 0x212a, 0x1d4a6]),
  ("L", [0x139, 0x13b, 0x13d, 0x13f, 0x1e36, 0x1e38, 0x1e3a, 0x1e3c, 0x2112, 0x216c]),
  ("M", [0x1e3e, 0x1e40, 0x1e42, 0x2133, 0x216f, 0x33c1]),
  ("N", [0xd1, 0x143, 0x145, 0x147, 0x1f8, 0x1e44, 0x1e46, 0x1e48, 0x1e4a, 0x2115]),
  ("O", [
    0xd2, 0xd3, 0xd4, 0xd5, 0xd6, 0x14c, 0x14e, 0x150, 0x1a0, 0x1d1, 0x1ea, 0x1ec, 0x20c, 0x20e,
    0x22a, 0x22c, 0x22e, 0x230, 0x1d3c, 0x1e4c, 0x1e4e, 0x1e50, 0x1e52, 0x1ecc, 0x1ece, 0x1ed0,
    0x1ed2, 0x1ed4, 0x1ed6, 0x1ed8, 0x1eda, 0x1edc, 0x1ede, 0x1ee0, 0x1ee2, 0x1d546]),
  ("P", [0x1d3e, 0x1e54, 0x1e56]),
  ("Q", [0xa7f4]),
  ("R", [
    0x154, 0x156, 0x158, 0x210, 0x212, 0x1d3f, 0x1e58, 0x1e5a, 0x1e5c, 0x1e5e, 0x211c, 0x211d,
    0x1f12c]),
  ("S", [0x15a, 0x15c, 0x15e, 0x160, 0x218, 0x1e60, 0x1e62, 0x1e64, 0x1e66, 0x1e68, 0x1f12a]),
  ("T", [0x162, 0x164, 0x21a, 0x1d40, 0x1e6a, 0x1e6c, 0x1e6e, 0x1e70]),
  ("U", [
    0xd9, 0xda, 0xdb, 0xdc, 0x168, 0x16a, 0x16c, 0x16e, 0x170, 0x172, 0x1af, 0x1d3, 0x1d5,
    0x1d7, 0x1d9, 0x1db, 0x214, 0x216, 0x1d41, 0x1e72, 0x1e74, 0x1e76, 0x1e78, 0x1e7a, 0x1ee4,
    0x1ee6, 0x1ee8, 0x1eea, 0x1eec, 0x1eee, 0x1ef0]),
  ("V", [0x1e7c, 0x1e7e, 0x2164, 0x2c7d, 0x33b6]),
  ("W", [0x174, 0x1d42, 0x1e80, 0x1e82, 0x1e84, 0x1e86, 0x1e88, 0x33bc]),
  ("X", [0x1e8a, 0x1e8c, 0x2169]),
  ("Y", [0xdd, 0x176, 0x178, 0x232, 0x1e8e, 0x1ef2, 0x1ef4, 0x1ef6, 0x1ef8]),
  ("Z", [0x179, 0x17b, 0x17d, 0x1e90, 0x1e92, 0x1e94, 0x2124, 0x2128]),
  ("[", [0xfe47]),
  ("\\", [0xfe68]),
  ("]", [0xfe48]),
  ("_", [0xfe33, 0xfe34, 0xfe4d, 0xfe4e, 0xfe4f]),
  ("\x60", [0x1fef]),
  ("a", [
    0xaa, 0xe0, 0xe1, 0xe2, 0xe3, 0xe4, 0xe5, 0x101, 0x103, 0x105, 0x1ce, 0x1df, 0x1e1, 0x1fb,
    0x201, 0x203, 0x227, 0x1d43, 0x1e01, 0x1e9a, 0x1ea1, 0x1ea3, 0x1ea5, 0x1ea7, 0x1ea9, 0x1eab,
    0x1ead, 0x1eaf, 0x1eb1, 0x1eb3, 0x1eb5, 0x1eb7, 0x2090]),
  ("b", [0x1d47, 0x1e03, 0x1e05, 0x1e07]),
  ("c", [0xe7, 0x107, 0x109, 0x10b, 0x10d, 0x1d9c, 0x1e09, 0x217d]),
  ("d", [0x10f, 0x1d48, 0x1e0b, 0x1e0d, 0x1e0f, 0x1e11, 0x1e13, 0x2146, 0x217e]),
  ("e", [
    0xe8, 0xe9, 0xea, 0xeb, 0x113, 0x115, 0x117, 0x119, 0x11b, 0x205, 0x207, 0x229, 0x1d49,
    0x1e15, 0x1e17, 0x1e19, 0x1e1b, 0x1e1d, 0x1eb9, 0x1ebb, 0x1ebd, 0x1ebf, 0x1ec1, 0x1ec3,
    0x1ec5, 0x1ec7, 0x2091, 0x212f, 0x2147]),
  ("f", [0x1da0, 0x1e1f, 0x1d4bb]),
  ("g", [0x11d, 0x11f, 0x121, 0x123, 0x1e7, 0x1f5, 0x1d4d, 0x1e21, 0x210a, 0x338d]),
  ("h", [0x125, 0x21f, 0x2b0, 0x1e23, 0x1e25, 0x1e27, 0x1e29, 0x1e2b, 0x1e96, 0x2095, 0x210e]),
  ("i", [
    0xec, 0xed, 0xee, 0xef, 0x129, 0x12b, 0x12d, 0x12f, 0x1d0, 0x209, 0x20b, 0x1d62, 0x1e2d,
    0x1e2f, 0x1ec9, 0x1ecb, 0x2071, 0x2139, 0x2148, 0x2170]),
  ("j", [0x135, 0x1f0, 0x2b2, 0x2149, 0x2c7c]),
  ("k", [0x137, 0x1e9, 0x1d4f, 0x1e31, 0x1e33, 0x1e35, 0x33c0]),
  ("l", [
    0x13a, 0x13c, 0x13e, 0x140, 0x2e1, 0x1e37, 0x1e39, 0x1e3b, 0x1e3d, 0x2113, 0x217c, 0x3395]),
  ("m", [0x1d50, 0x1e3f, 0x1e41, 0x1e43, 0x217f, 0x339b]),
  ("n", [0xf1, 0x144, 0x146, 0x148, 0x149, 0x1f9, 0x1e45, 0x1e47, 0x1e49, 0x1e4b, 0x207f]),
  ("o", [
    0xba, 0xf2, 0xf3, 0xf4, 0xf5, 0xf6, 0x14d, 0x14f, 0x151, 0x1a1, 0x1d2, 0x1eb, 0x1ed, 0x20d,
    0x20f, 0x22b, 0x22d, 0x22f, 0x231, 0x1d52, 0x1e4d, 0x1e4f, 0x1e51, 0x1e53, 0x1ecd, 0x1ecf,
    0x1ed1, 0x1ed3, 0x1ed5, 0x1ed7, 0x1ed9, 0x1edb, 0x1edd, 0x1edf, 0x1ee1, 0x1ee3, 0x2092,
    0x2134]),
  ("p", [0x1d56, 0x1e55, 0x1e57, 0x209a]),
  ("q", [0x107a5]),
  ("r", [0x155, 0x157, 0x159, 0x211, 0x213, 0x2b3, 0x1d63, 0x1e59, 0x1e5b, 0x1e5d, 0x1e5f]),
  ("s", [
    0x15b, 0x15d, 0x15f, 0x161, 0x17f, 0x219, 0x2e2, 0x1e61, 0x1e63, 0x1e65, 0x1e67, 0x1e69,
    0x1e9b, 0x209b, 0x33b2]),
  ("t", [0x163, 0x165, 0x21b, 0x1d57, 0x1e6b, 0x1e6d, 0x1e6f, 0x1e71, 0x1e97, 0x209c]),
  ("u", [
    0xf9, 0xfa, 0xfb, 0xfc, 0x169, 0x16b, 0x16d, 0x16f, 0x171, 0x173, 0x1b0, 0x1d4, 0x1d6,
    0x1d8, 0x1da, 0x1dc, 0x215, 0x217, 0x1d58, 0x1d64, 0x1e73, 0x1e75, 0x1e77, 0x1e79, 0x1e7b,
    0x1ee5, 0x1ee7, 0x1ee9, 0x1eeb, 0x1eed, 0x1eef, 0x1ef1]),
  ("v", [0x1d5b, 0x1d65, 0x1e7d, 0x1e7f, 0x2174]),
  ("w", [0x175, 0x2b7, 0x1e81, 0x1e83, 0x1e85, 0x1e87, 0x1e89, 0x1e98]),
  ("x", [0x2e3, 0x1e8b, 0x1e8d, 0x2093, 0x2179]),
  ("y", [0xfd, 0xff, 0x177, 0x233, 0x2b8, 0x1e8f, 0x1e99, 0x1ef3, 0x1ef5, 0x1ef7, 0x1ef9]),
  ("z", [0x17a, 0x17c, 0x17e, 0x1dbb, 0x1e91, 0x1e93, 0x1e95]),
  ("\x7b", [0xfe37, 0xfe5b]),
  ("\x7d", [0xfe38, 0xfe5c]),
  ("!!", [0x203c]),
  ("!?", [0x2049]),
  ("()", [
    0x3200, 0x3201, 0x3202, 0x3203, 0x3204, 0x3205, 0x3206, 0x3207, 0x3208, 0x3209, 0x320a,
    0x320b, 0x320c, 0x320d, 0x320e, 0x320f, 0x3210, 0x3211, 0x3212, 0x3213, 0x3214, 0x3215,
    0x3216, 0x3217, 0x3218, 0x3219, 0x321a, 0x321b, 0x321c, 0x321d, 0x321e, 0x3220, 0x3221,
    0x3222, 0x3223, 0x3224, 0x3225, 0x3226, 0x3227, 0x3228, 0x3229, 0x322a, 0x322b, 0x322c,
    0x322d, 0x322e, 0x322f, 0x3230, 0x3231, 0x3232, 0x3233, 0x3234, 0x3235, 0x3236, 0x3237,
    0x3238, 0x3239, 0x323a, 0x323b, 0x323c, 0x323d, 0x323e, 0x323f, 0x3240, 0x3241, 0x3242,
    0x3243]),
  ("..", [0x2025, 0xfe30]),
  ("0,", [0x1f101]),
  ("0.", [0x1f100]),
  ("03", [0x2189]),
  ("1,", [0x1f102]),
  ("1.", [0x2488]),
  ("10", [0x2469, 0x32c9, 0x3362, 0x33e9]),
  ("11", [0x246a, 0x32ca, 0x3363, 0x33ea]),
  ("12", [0xbd, 0x246b, 0x32cb, 0x3364, 0x33eb]),
  ("13", [0x2153, 0x246c, 0x3365, 0x33ec]),
  ("14", [0xbc, 0x246d, 0x3366, 0x33ed]),
  ("15", [0x2155, 0x246e, 0x3367, 0x33ee]),
  ("16", [0x2159, 0x246f, 0x3368, 0x33ef]),
  ("17", [0x2150, 0x2470, 0x3369, 0x33f0]),
  ("18", [0x215b, 0x2471, 0x336a, 0x33f1]),
  ("19", [0x2151, 0x2472, 0x336b, 0x33f2]),
  ("2,", [0x1f103]),
  ("2.", [0x2489]),
  ("20", [0x2473, 0x336c, 0x33f3]),
  ("21", [0x3251, 0x336d, 0x33f4]),
  ("22", [0x3252, 0x336e, 0x33f5]),
  ("23", [0x2154, 0x3253, 0x336f, 0x33f6]),
  ("24", [0x3254, 0x3370, 0x33f7]),
  ("25", [0x2156, 0x3255, 0x33f8]),
  ("26", [0x3256, 0x33f9]),
  ("27", [0x3257, 0x33fa]),
  ("28", [0x3258, 0x33fb]),
  ("29", [0x3259, 0x33fc]),
  ("3,", [0x1f104]),
  ("3.", [0x248a]),
  ("30", [0x325a, 0x33fd]),
  ("31", [0x325b, 0x33fe]),
  ("32", [0x325c]),
  ("33", [0x325d]),
  ("34", [0xbe, 0x325e]),
  ("35", [0x2157, 0x325f]),
  ("36", [0x32b1]),
  ("37", [0x32b2]),
  ("38", [0x215c, 0x32b3]),
  ("39", [0x32b4]),
  ("4,", [0x1f105]),
  ("4.", [0x248b]),
  ("40", [0x32b5]),
  ("41", [0x32b6]),
  ("42", [0x32b7]),
  ("43", [0x32b8]),
  ("44", [0x32b9]),
  ("45", [0x2158, 0x32ba]),
  ("46", [0x32bb]),
  ("47", [0x32bc]),
  ("48", [0x32bd]),
  ("49", [0x32be]),
  ("5,", [0x1f106]),
  ("5.", [0x248c]),
  ("50", [0x32bf]),
  ("56", [0x215a]),
  ("58", [0x215d]),
  ("6,", [0x1f107]),
  ("6.", [0x248d]),
  ("7,", [0x1f108]),
  ("7.", [0x248e]),
  ("78", [0x215e]),
  ("8,", [0x1f109]),
  ("8.", [0x248f]),
  ("9,", [0x1f10a]),
  ("9.", [0x2490]),
  ("==", [0x2a75]),
  ("?!", [0x2048]),
  ("??", [0x2047]),
  ("AU", [0x3373]),
  ("Am", [0x33df]),
  ("Bq", [0x33c3]),
  ("CD", [0x1f12d]),
  ("DJ", [0x1f190]),
  ("DZ", [0x1c4, 0x1f1]),
  ("Dz", [0x1c5, 0x1f2]),
  ("GB", [0x3387]),
  ("Gy", [0x33c9]),
  ("HP", [0x33cb]),
  ("HV", [0x1f14a]),
  ("Hg", [0x32cc]),
  ("Hz", [0x3390]),
  ("II", [0x2161]),
  ("IJ", [0x132]),
  ("IU", [0x337a]),
  ("IV", [0x2163]),
  ("IX", [0x2168]),
  ("KB", [0x3385]),
  ("KK", [0x33cd]),
  ("KM", [0x33ce]),
  ("LJ", [0x1c7]),
  ("Lj", [0x1c8]),
  ("MB", [0x3386]),
  ("MC", [0x1f16a]),
  ("MD", [0x1f16b]),
  ("MR", [0x1f16c]),
  ("MV", [0x33b9, 0x1f14b]),
  ("MW", [0x33bf]),
  ("NJ", [0x1ca]),
  ("Nj", [0x1cb]),
  ("No", [0x2116]),
  ("PH", [0x33d7]),
  ("PR", [0x33da]),
  ("Pa", [0x33a9]),
  ("Rs", [0x20a8]),
  ("SD", [0x1f14c]),
  ("SM", [0x2120]),
  ("SS", [0x1f14d]),
  ("Sv", [0x33dc]),
  ("TM", [0x2122]),
  ("VI", [0x2165]),
  ("Vm", [0x33de]),
  ("WC", [0x1f14f]),
  ("WZ", [0x1f12e]),
  ("Wb", [0x33dd]),
  ("XI", [0x216a]),
  ("cc", [0x33c4]),
  ("cd", [0x33c5]),
  ("cm", [0x339d]),
  ("dB", [0x33c8]),
  ("da", [0x3372]),
  ("dl", [0x3397]),
  ("dm", [0x3377]),
  ("dz", [0x1c6, 0x1f3]),
  ("eV", [0x32ce]),
  ("ff", [0xfb00]),
  ("fi", [0xfb01]),
  ("fl", [0xfb02]),
  ("fm", [0x3399]),
  ("ha", [0x33ca]),
  ("ii", [0x2171]),
  ("ij", [0x133]),
  ("in", [0x33cc]),
  ("iv", [0x2173]),
  ("ix", [0x2178]),
  ("kA", [0x3384]),
  ("kV", [0x33b8]),
  ("kW", [0x33be]),
  ("kg", [0x338f]),
  ("kl", [0x3398]),
  ("km", [0x339e]),
  ("kt", [0x33cf]),
  ("lj", [0x1c9]),
  ("lm", [0x33d0]),
  ("ln", [0x33d1]),
  ("lx", [0x33d3]),
  ("m2", [0x33a1]),
  ("m3", [0x33a5]),
  ("mA", [0x3383]),
  ("mV", [0x33b7]),
  ("mW", [0x33bd]),
  ("mb", [0x33d4]),
  ("mg", [0x338e]),
  ("ml", [0x3396]),
  ("mm", [0x339c]),
  ("ms", [0x33a7, 0x33b3]),
  ("nA", [0x3381]),
  ("nF", [0x338b]),
  ("nV", [0x33b5]),
  ("nW", [0x33bb]),
  ("nj", [0x1cc]),
  ("nm", [0x339a]),
  ("ns", [0x33b1]),
  ("oV", [0x3375]),
  ("pA", [0x3380]),
  ("pF", [0x338a]),
  ("pV", [0x33b4]),
  ("pW", [0x33ba]),
  ("pc", [0x3376]),
  ("ps", [0x33b0]),
  ("sr", [0x33db]),
  ("st", [0xfb05, 0xfb06]),
  ("vi", [0x2175]),
  ("xi", [0x217a]),
  ("   ", [0xfdfa]),
  ("(1)", [0x2474]),
  ("(2)", [0x2475]),
  ("(3)", [0x2476]),
  ("(4)", [0x2477]),
  ("(5)", [0x2478]),
  ("(6)", [0x2479]),
  ("(7)", [0x247a]),
  ("(8)", [0x247b]),
  ("(9)", [0x247c]),
  ("(A)", [0x1f110]),
  ("(B)", [0x1f111]),
  ("(C)", [0x1f112]),
  ("(D)", [0x1f113]),
  ("(E)", [0x1f114]),
  ("(F)", [0x1f115]),
  ("(G)", [0x1f116]),
  ("(H)", [0x1f117]),
  ("(I)", [0x1f118]),
  ("(J)", [0x1f119]),
  ("(K)", [0x1f11a]),
  ("(L)", [0x1f11b]),
  ("(M)", [0x1f11c]),
  ("(N)", [0x1f11d]),
  ("(O)", [0x1f11e]),
  ("(P)", [0x1f11f]),
  ("(Q)", [0x1f120]),
  ("(R)", [0x1f121]),
  ("(S)", [0x1f122]),
  ("(T)", [0x1f123]),
  ("(U)", [0x1f124]),
  ("(V)", [0x1f125]),
  ("(W)", [0x1f126]),
  ("(X)", [0x1f127]),
  ("(Y)", [0x1f128]),
  ("(Z)", [0x1f129]),
  ("(a)", [0x249c]),
  ("(b)", [0x249d]),
  ("(c)", [0x249e]),
  ("(d)", [0x249f]),
  ("(e)", [0x24a0]),
  ("(f)", [0x24a1]),
  ("(g)", [0x24a2]),
  ("(h)", [0x24a3]),
  ("(i)", [0x24a4]),
  ("(j)", [0x24a5]),
  ("(k)", [0x24a6]),
  ("(l)", [0x24a7]),
  ("(m)", [0x24a8]),
  ("(n)", [0x24a9]),
  ("(o)", [0x24aa]),
  ("(p)", [0x24ab]),
  ("(q)", [0x24ac]),
  ("(r)", [0x24ad]),
  ("(s)", [0x24ae]),
  ("(t)", [0x24af]),
  ("(u)", [0x24b0]),
  ("(v)", [0x24b1]),
  ("(w)", [0x24b2]),
  ("(x)", [0x24b3]),
  ("(y)", [0x24b4]),
  ("(z)", [0x24b5]),
  ("...", [0x2026, 0xfe19]),
  ("10.", [0x2491]),
  ("11.", [0x2492]),
  ("110", [0x2152]),
  ("12.", [0x2493]),
  ("13.", [0x2494]),
  ("14.", [0x2495]),
  ("15.", [0x2496]),
  ("16.", [0x2497]),
  ("17.", [0x2498]),
  ("18.", [0x2499]),
  ("19.", [0x249a]),
  ("20.", [0x249b]),
  ("::=", [0x2a74]),
  ("===", [0x2a76]),
  ("Ckg", [0x33c6]),
  ("Co.", [0x33c7]),
  ("FAX", [0x213b]),
  ("GHz", [0x3393]),
  ("GPa", [0x33ac]),
  ("III", [0x2162]),
  ("LTD", [0x32cf]),
  ("MHz", [0x3392]),
  ("MPa", [0x33ab]),
  ("PPM", [0x33d9]),
  ("PPV", [0x1f14e]),
  ("PTE", [0x3250]),
  ("TEL", [0x2121]),
  ("THz", [0x3394]),
  ("VII", [0x2166]),
  ("XII", [0x216b]),
  ("a/c", [0x2100]),
  ("a/s", [0x2101]),
  ("bar", [0x3374]),
  ("c/o", [0x2105]),
  ("c/u", [0x2106]),
  ("cal", [0x3388]),
  ("cm2", [0x33a0]),
  ("cm3", [0x33a4]),
  ("dm2", [0x3378]),
  ("dm3", [0x3379]),
  ("erg", [0x32cd]),
  ("ffi", [0xfb03]),
  ("ffl", [0xfb04]),
  ("gal", [0x33ff]),
  ("hPa", [0x3371]),
  ("iii", [0x2172]),
  ("kHz", [0x3391]),
  ("kPa", [0x33aa]),
  ("km2", [0x33a2]),
  ("km3", [0x33a6]),
  ("log", [0x33d2]),
  ("mil", [0x33d5]),
  ("mm2", [0x339f]),
  ("mm3", [0x33a3]),
  ("mol", [0x33d6]),
  ("ms2", [0x33a8]),
  ("rad", [0x33ad]),
  ("vii", [0x2176]),
  ("xii", [0x217b]),
  ("(10)", [0x247d]),
  ("(11)", [0x247e]),
  ("(12)", [0x247f]),
  ("(13)", [0x2480]),
  ("(14)", [0x2481]),
  ("(15)", [0x2482]),
  ("(16)", [0x2483]),
  ("(17)", [0x2484]),
  ("(18)", [0x2485]),
  ("(19)", [0x2486]),
  ("(20)", [0x2487]),
  ("VIII", [0x2167]),
  ("a.m.", [0x33c2]),
  ("kcal", [0x3389]),
  ("p.m.", [0x33d8]),
  ("rads", [0x33ae]),
  ("viii", [0x2177]),
  ("rads2", [0x33af])
]

-- What remains of a character when it is decomposed for compatibility and all that is not ASCII
-- is dropped. Accents are dropped; ligatures and enclosed letters are taken apart.
def asciiFoldChar (c : Char) : List Char :=
  let n := c.toNat
  if n < 128 then [c]
  else match asciiRuns.find? fun r => r.1 ≤ n && n ≤ r.2.1 with
    | some r => [Char.ofNat (r.2.2 + (n - r.1))]
    | none   => match asciiForms.find? (·.2.contains n) with
      | some f => f.1.toList
      | none   => []

-- Reordering of combining marks cannot be seen here, since no combining mark is ASCII.
def asciiFold (s : String) : String :=
  String.ofList (s.toList.flatMap asciiFoldChar)

end Text
end Gamebook
