import Paymaster.Text.Ranges

/-
  The characters of host names: which of them are forms of others, are left out, or are refused,
  and which ones a joiner may stand beside.
-/

namespace Paymaster.HostName

/-- Characters that are another form of one of ASCII: the first and the last of a run, and what
the first is a form of. The others of the run follow in the order of ASCII. -/
def asciiForms : List (Nat × Nat × Char) :=
  [(0xa0, 0xa0, ' '), (0xaa, 0xaa, 'a'), (0xb2, 0xb3, '2'), (0xb9, 0xb9, '1'), (0xba, 0xba, 'o'),
    (0x17f, 0x17f, 's'), (0x2b0, 0x2b0, 'h'), (0x2b2, 0x2b2, 'j'), (0x2b3, 0x2b3, 'r'),
    (0x2b7, 0x2b7, 'w'), (0x2b8, 0x2b8, 'y'), (0x2e1, 0x2e1, 'l'), (0x2e2, 0x2e2, 's'),
    (0x2e3, 0x2e3, 'x'), (0x37e, 0x37e, ';'), (0x1d2c, 0x1d2c, 'a'), (0x1d2e, 0x1d2e, 'b'),
    (0x1d30, 0x1d31, 'd'), (0x1d33, 0x1d3a, 'g'), (0x1d3c, 0x1d3c, 'o'), (0x1d3e, 0x1d3e, 'p'),
    (0x1d3f, 0x1d3f, 'r'), (0x1d40, 0x1d41, 't'), (0x1d42, 0x1d42, 'w'), (0x1d43, 0x1d43, 'a'),
    (0x1d47, 0x1d47, 'b'), (0x1d48, 0x1d49, 'd'), (0x1d4d, 0x1d4d, 'g'), (0x1d4f, 0x1d4f, 'k'),
    (0x1d50, 0x1d50, 'm'), (0x1d52, 0x1d52, 'o'), (0x1d56, 0x1d56, 'p'), (0x1d57, 0x1d58, 't'),
    (0x1d5b, 0x1d5b, 'v'), (0x1d62, 0x1d62, 'i'), (0x1d63, 0x1d63, 'r'), (0x1d64, 0x1d65, 'u'),
    (0x1d9c, 0x1d9c, 'c'), (0x1da0, 0x1da0, 'f'), (0x1dbb, 0x1dbb, 'z'), (0x1fef, 0x1fef, '\x60'),
    (0x2000, 0x2000, ' '), (0x2001, 0x2001, ' '), (0x2002, 0x2002, ' '), (0x2003, 0x2003, ' '),
    (0x2004, 0x2004, ' '), (0x2005, 0x2005, ' '), (0x2006, 0x2006, ' '), (0x2007, 0x2007, ' '),
    (0x2008, 0x2008, ' '), (0x2009, 0x2009, ' '), (0x200a, 0x200a, ' '), (0x202f, 0x202f, ' '),
    (0x205f, 0x205f, ' '), (0x2070, 0x2070, '0'), (0x2071, 0x2071, 'i'), (0x2074, 0x2079, '4'),
    (0x207a, 0x207a, '+'), (0x207c, 0x207c, '='), (0x207d, 0x207e, '('), (0x207f, 0x207f, 'n'),
    (0x2080, 0x2089, '0'), (0x208a, 0x208a, '+'), (0x208c, 0x208c, '='), (0x208d, 0x208e, '('),
    (0x2090, 0x2090, 'a'), (0x2091, 0x2091, 'e'), (0x2092, 0x2092, 'o'), (0x2093, 0x2093, 'x'),
    (0x2095, 0x2095, 'h'), (0x2096, 0x2099, 'k'), (0x209a, 0x209a, 'p'), (0x209b, 0x209c, 's'),
    (0x2102, 0x2102, 'c'), (0x210a, 0x210b, 'g'), (0x210c, 0x210c, 'h'), (0x210d, 0x210d, 'h'),
    (0x210e, 0x210e, 'h'), (0x2110, 0x2110, 'i'), (0x2111, 0x2111, 'i'), (0x2112, 0x2112, 'l'),
    (0x2113, 0x2113, 'l'), (0x2115, 0x2115, 'n'), (0x2119, 0x211b, 'p'), (0x211c, 0x211c, 'r'),
    (0x211d, 0x211d, 'r'), (0x2124, 0x2124, 'z'), (0x2128, 0x2128, 'z'), (0x212a, 0x212a, 'k'),
    (0x212c, 0x212d, 'b'), (0x212f, 0x212f, 'e'), (0x2130, 0x2131, 'e'), (0x2133, 0x2133, 'm'),
    (0x2134, 0x2134, 'o'), (0x2139, 0x2139, 'i'), (0x2145, 0x2145, 'd'), (0x2146, 0x2147, 'd'),
    (0x2148, 0x2149, 'i'), (0x2160, 0x2160, 'i'), (0x2164, 0x2164, 'v'), (0x2169, 0x2169, 'x'),
    (0x216c, 0x216c, 'l'), (0x216d, 0x216e, 'c'), (0x216f, 0x216f, 'm'), (0x2170, 0x2170, 'i'),
    (0x2174, 0x2174, 'v'), (0x2179, 0x2179, 'x'), (0x217c, 0x217c, 'l'), (0x217d, 0x217e, 'c'),
    (0x217f, 0x217f, 'm'), (0x2460, 0x2468, '1'), (0x24b6, 0x24cf, 'a'), (0x24d0, 0x24e9, 'a'),
    (0x24ea, 0x24ea, '0'), (0x2c7c, 0x2c7c, 'j'), (0x2c7d, 0x2c7d, 'v'), (0x3000, 0x3000, ' '),
    (0x3002, 0x3002, '.'), (0xa7f1, 0xa7f1, 's'), (0xa7f2, 0xa7f2, 'c'), (0xa7f3, 0xa7f3, 'f'),
    (0xa7f4, 0xa7f4, 'q'), (0xfb29, 0xfb29, '+'), (0xfe10, 0xfe10, ','), (0xfe13, 0xfe14, ':'),
    (0xfe15, 0xfe15, '!'), (0xfe16, 0xfe16, '?'), (0xfe33, 0xfe33, '_'), (0xfe34, 0xfe34, '_'),
    (0xfe35, 0xfe36, '('), (0xfe37, 0xfe37, '\x7b'), (0xfe38, 0xfe38, '\x7d'),
    (0xfe47, 0xfe47, '['), (0xfe48, 0xfe48, ']'), (0xfe4d, 0xfe4d, '_'), (0xfe4e, 0xfe4e, '_'),
    (0xfe4f, 0xfe4f, '_'), (0xfe50, 0xfe50, ','), (0xfe54, 0xfe54, ';'), (0xfe55, 0xfe55, ':'),
    (0xfe56, 0xfe56, '?'), (0xfe57, 0xfe57, '!'), (0xfe59, 0xfe5a, '('), (0xfe5b, 0xfe5b, '\x7b'),
    (0xfe5c, 0xfe5c, '\x7d'), (0xfe5f, 0xfe5f, '#'), (0xfe60, 0xfe60, '&'), (0xfe61, 0xfe62, '*'),
    (0xfe63, 0xfe63, '-'), (0xfe64, 0xfe64, '<'), (0xfe65, 0xfe65, '>'), (0xfe66, 0xfe66, '='),
    (0xfe68, 0xfe68, '\\'), (0xfe69, 0xfe6a, '$'), (0xfe6b, 0xfe6b, '@'), (0xff01, 0xff20, '!'),
    (0xff21, 0xff3a, 'a'), (0xff3b, 0xff5e, '['), (0xff61, 0xff61, '.'), (0x107a5, 0x107a5, 'q'),
    (0x1ccd6, 0x1ccef, 'a'), (0x1ccf0, 0x1ccf9, '0'), (0x1d400, 0x1d419, 'a'),
    (0x1d41a, 0x1d433, 'a'), (0x1d434, 0x1d44d, 'a'), (0x1d44e, 0x1d454, 'a'),
    (0x1d456, 0x1d467, 'i'), (0x1d468, 0x1d481, 'a'), (0x1d482, 0x1d49b, 'a'),
    (0x1d49c, 0x1d49c, 'a'), (0x1d49e, 0x1d49f, 'c'), (0x1d4a2, 0x1d4a2, 'g'),
    (0x1d4a5, 0x1d4a6, 'j'), (0x1d4a9, 0x1d4ac, 'n'), (0x1d4ae, 0x1d4b5, 's'),
    (0x1d4b6, 0x1d4b9, 'a'), (0x1d4bb, 0x1d4bb, 'f'), (0x1d4bd, 0x1d4c3, 'h'),
    (0x1d4c5, 0x1d4cf, 'p'), (0x1d4d0, 0x1d4e9, 'a'), (0x1d4ea, 0x1d503, 'a'),
    (0x1d504, 0x1d505, 'a'), (0x1d507, 0x1d50a, 'd'), (0x1d50d, 0x1d514, 'j'),
    (0x1d516, 0x1d51c, 's'), (0x1d51e, 0x1d537, 'a'), (0x1d538, 0x1d539, 'a'),
    (0x1d53b, 0x1d53e, 'd'), (0x1d540, 0x1d544, 'i'), (0x1d546, 0x1d546, 'o'),
    (0x1d54a, 0x1d550, 's'), (0x1d552, 0x1d56b, 'a'), (0x1d56c, 0x1d585, 'a'),
    (0x1d586, 0x1d59f, 'a'), (0x1d5a0, 0x1d5b9, 'a'), (0x1d5ba, 0x1d5d3, 'a'),
    (0x1d5d4, 0x1d5ed, 'a'), (0x1d5ee, 0x1d607, 'a'), (0x1d608, 0x1d621, 'a'),
    (0x1d622, 0x1d63b, 'a'), (0x1d63c, 0x1d655, 'a'), (0x1d656, 0x1d66f, 'a'),
    (0x1d670, 0x1d689, 'a'), (0x1d68a, 0x1d6a3, 'a'), (0x1d7ce, 0x1d7d7, '0'),
    (0x1d7d8, 0x1d7e1, '0'), (0x1d7e2, 0x1d7eb, '0'), (0x1d7ec, 0x1d7f5, '0'),
    (0x1d7f6, 0x1d7ff, '0'), (0x1f12b, 0x1f12b, 'c'), (0x1f12c, 0x1f12c, 'r'),
    (0x1f130, 0x1f149, 'a'), (0x1fbf0, 0x1fbf9, '0')]

/-- Encircled numbers from ten on, in runs, with the number of the first. -/
def numberForms : List (Nat × Nat × Nat) :=
  [(0x2469, 0x2473, 10), (0x3251, 0x325f, 21), (0x32b1, 0x32bf, 36)]

/-- Characters that are left out. -/
def ignoredRanges : Text.Ranges :=
  [(0xad, 0xad), (0x34f, 0x34f), (0x115f, 0x1160), (0x17b4, 0x17b5), (0x180b, 0x180f),
    (0x200b, 0x200b), (0x2060, 0x2064), (0x206a, 0x206f), (0x3164, 0x3164), (0xfe00, 0xfe0f),
    (0xfeff, 0xfeff), (0xffa0, 0xffa0), (0x1bca0, 0x1bca3), (0x1d173, 0x1d17a), (0xe0100, 0xe01ef)]

/-- Characters that can be seen and that no name has: forms of several characters of which a name
may not have one, and forms with a full stop. -/
def refusedRanges : Text.Ranges :=
  [(0xa8, 0xa8), (0xaf, 0xaf), (0xb4, 0xb4), (0xb8, 0xb8), (0x2d8, 0x2dd), (0x37a, 0x37a),
    (0x384, 0x385), (0x1fbd, 0x1fbd), (0x1fbf, 0x1fc1), (0x1fcd, 0x1fcf), (0x1fdd, 0x1fdf),
    (0x1fed, 0x1fee), (0x1ffd, 0x1ffe), (0x2017, 0x2017), (0x2024, 0x2026), (0x203e, 0x203e),
    (0x2047, 0x2049), (0x2100, 0x2101), (0x2105, 0x2106), (0x2488, 0x249b), (0x2a74, 0x2a74),
    (0x2ff0, 0x2fff), (0x309b, 0x309c), (0x31ef, 0x31ef), (0x33c2, 0x33c2), (0x33c7, 0x33c7),
    (0x33d8, 0x33d8), (0xfc5e, 0xfc63), (0xfdfa, 0xfdfb), (0xfe12, 0xfe12), (0xfe19, 0xfe19),
    (0xfe30, 0xfe30), (0xfe49, 0xfe4c), (0xfe52, 0xfe52), (0xfe70, 0xfe70), (0xfe72, 0xfe72),
    (0xfe74, 0xfe74), (0xfe76, 0xfe76), (0xfe78, 0xfe78), (0xfe7a, 0xfe7a), (0xfe7c, 0xfe7c),
    (0xfe7e, 0xfe7e), (0xffe3, 0xffe3), (0xfffc, 0xfffd), (0x1f100, 0x1f100)]

/-- Characters with another form, such as capital letters. -/
def formedRanges : Text.Ranges :=
  [(0xa0, 0xa0), (0xa8, 0xa8), (0xaa, 0xaa), (0xaf, 0xaf), (0xb2, 0xb5), (0xb8, 0xba),
    (0xbc, 0xbe), (0xc0, 0xd6), (0xd8, 0xde), (0x133, 0x134), (0x136, 0x136), (0x140, 0x141),
    (0x187, 0x187), (0x189, 0x18b), (0x18e, 0x191), (0x193, 0x194), (0x196, 0x198), (0x19c, 0x19d),
    (0x19f, 0x1a0), (0x1a7, 0x1a7), (0x1a9, 0x1a9), (0x1ac, 0x1ac), (0x1ae, 0x1af), (0x1b1, 0x1b3),
    (0x1b5, 0x1b5), (0x1b7, 0x1b8), (0x1bc, 0x1bc), (0x1c4, 0x1cd), (0x1f1, 0x1f4), (0x1f6, 0x1f8),
    (0x23a, 0x23b), (0x23d, 0x23e), (0x241, 0x241), (0x243, 0x246), (0x2b0, 0x2b8), (0x2d8, 0x2dd),
    (0x2e0, 0x2e4), (0x340, 0x341), (0x343, 0x345), (0x37e, 0x38f), (0x391, 0x3ab), (0x3cf, 0x3d6),
    (0x3f1, 0x3f2), (0x3f4, 0x3f5), (0x3f7, 0x3f7), (0x3f9, 0x3fa), (0x3fd, 0x42f), (0x531, 0x556),
    (0x587, 0x587), (0x675, 0x678), (0x958, 0x95f), (0x9dc, 0x9df), (0xa33, 0xa33), (0xa36, 0xa36),
    (0xa59, 0xa5b), (0xa5e, 0xa5e), (0xb5c, 0xb5d), (0xe33, 0xe33), (0xeb3, 0xeb3), (0xedc, 0xedd),
    (0xf0c, 0xf0c), (0xf43, 0xf43), (0xf4d, 0xf4d), (0xf52, 0xf52), (0xf57, 0xf57), (0xf5c, 0xf5c),
    (0xf69, 0xf69), (0xf73, 0xf73), (0xf75, 0xf79), (0xf81, 0xf81), (0xf93, 0xf93), (0xf9d, 0xf9d),
    (0xfa2, 0xfa2), (0xfa7, 0xfa7), (0xfac, 0xfac), (0xfb9, 0xfb9), (0x10a0, 0x10cd),
    (0x10fc, 0x10fc), (0x13f8, 0x13fd), (0x1c80, 0x1c89), (0x1c90, 0x1cbf), (0x1d2c, 0x1d2e),
    (0x1d30, 0x1d3a), (0x1d3c, 0x1d4d), (0x1d4f, 0x1d6a), (0x1d78, 0x1d78), (0x1d9b, 0x1dbf),
    (0x1e9a, 0x1e9b), (0x1f08, 0x1f0f), (0x1f18, 0x1f1d), (0x1f28, 0x1f2f), (0x1f38, 0x1f3f),
    (0x1f48, 0x1f4d), (0x1f59, 0x1f5f), (0x1f68, 0x1f6f), (0x1f80, 0x1faf), (0x1fb2, 0x1fb4),
    (0x1fb7, 0x1fc4), (0x1fc7, 0x1fcf), (0x1fd3, 0x1fd3), (0x1fd8, 0x1fdf), (0x1fe3, 0x1fe3),
    (0x1fe8, 0x1ff4), (0x1ff7, 0x200a), (0x2011, 0x2011), (0x2017, 0x2017), (0x202f, 0x202f),
    (0x2033, 0x2034), (0x2036, 0x2037), (0x203c, 0x203c), (0x203e, 0x203e), (0x2047, 0x2049),
    (0x2057, 0x2057), (0x205f, 0x209c), (0x20a8, 0x20a8), (0x2100, 0x2103), (0x2105, 0x2107),
    (0x2109, 0x2113), (0x2115, 0x2116), (0x2119, 0x211d), (0x2120, 0x2122), (0x212b, 0x212d),
    (0x212f, 0x2139), (0x213b, 0x2140), (0x2145, 0x2149), (0x2150, 0x217f), (0x2183, 0x2183),
    (0x2189, 0x2189), (0x222c, 0x222d), (0x222f, 0x2230), (0x2329, 0x232a), (0x2460, 0x24ea),
    (0x2a0c, 0x2a0c), (0x2a74, 0x2a76), (0x2adc, 0x2adc), (0x2c00, 0x2c2f), (0x2c60, 0x2c60),
    (0x2c62, 0x2c64), (0x2c6e, 0x2c70), (0x2c72, 0x2c72), (0x2c75, 0x2c75), (0x2c7c, 0x2c80),
    (0x2ceb, 0x2ceb), (0x2ced, 0x2ced), (0x2cf2, 0x2cf2), (0x2d6f, 0x2d6f), (0x2e9f, 0x2e9f),
    (0x2ef3, 0x3000), (0x3002, 0x3002), (0x3036, 0x3036), (0x3038, 0x303a), (0x309b, 0x309c),
    (0x309f, 0x309f), (0x30ff, 0x30ff), (0x3131, 0x318e), (0x3192, 0x319f), (0x3200, 0x3247),
    (0x3250, 0x327e), (0x3280, 0x33ff), (0xa69d, 0xa69d), (0xa78b, 0xa78b), (0xa78d, 0xa78d),
    (0xa790, 0xa790), (0xa792, 0xa792), (0xa7ab, 0xa7ae), (0xa7b0, 0xa7b4), (0xa7c5, 0xa7c7),
    (0xa7c9, 0xa7c9), (0xa7cb, 0xa7cc), (0xa7f1, 0xa7f5), (0xa7f8, 0xa7f9), (0xab5c, 0xab5f),
    (0xab69, 0xab69), (0xab70, 0xabbf), (0xf900, 0xfa0d), (0xfa10, 0xfa10), (0xfa12, 0xfa12),
    (0xfa15, 0xfa1e), (0xfa20, 0xfa20), (0xfa22, 0xfa22), (0xfa25, 0xfa26), (0xfa2a, 0xfb1d),
    (0xfb1f, 0xfbb1), (0xfbd3, 0xfd3d), (0xfd50, 0xfd8f), (0xfd92, 0xfdc7), (0xfdf0, 0xfdfc),
    (0xfe10, 0xfe18), (0xfe31, 0xfe44), (0xfe47, 0xfe72), (0xfe74, 0xffee), (0x10400, 0x10427),
    (0x104b0, 0x104d3), (0x10570, 0x10595), (0x10781, 0x107ba), (0x10c80, 0x10cb2),
    (0x10d50, 0x10d65), (0x118a0, 0x118bf), (0x16e40, 0x16e5f), (0x16ea0, 0x16eb8),
    (0x1ccd6, 0x1ccf9), (0x1d15e, 0x1d164), (0x1d1bb, 0x1d1c0), (0x1d400, 0x1d7ff),
    (0x1e030, 0x1e06d), (0x1e900, 0x1e921), (0x1ee00, 0x1eebb), (0x1f101, 0x1f10a),
    (0x1f110, 0x1f12e), (0x1f130, 0x1f14f), (0x1f16a, 0x1f16c), (0x1f190, 0x1f190),
    (0x1f200, 0x1f251), (0x1fbf0, 0x1fbf9), (0x2f800, 0x2fa1d)]

/-- More of them, with steps. -/
def formedSteps : List (Nat × Nat × Nat) :=
  [(0x100, 0x132, 2), (0x139, 0x13f, 2), (0x143, 0x149, 2), (0x14a, 0x178, 2), (0x179, 0x181, 2),
    (0x182, 0x186, 2), (0x1a2, 0x1a6, 2), (0x1cf, 0x1db, 2), (0x1de, 0x1ee, 2), (0x1fa, 0x232, 2),
    (0x248, 0x24e, 2), (0x370, 0x37a, 2), (0x3d8, 0x3f0, 2), (0x460, 0x480, 2), (0x48a, 0x4c0, 2),
    (0x4c1, 0x4cd, 2), (0x4d0, 0x52e, 2), (0x1e00, 0x1e94, 2), (0x1e9e, 0x1efe, 2),
    (0x1f71, 0x1f7d, 2), (0x2124, 0x212a, 2), (0x2c67, 0x2c6d, 2), (0x2c82, 0x2ce2, 2),
    (0xa640, 0xa66c, 2), (0xa680, 0xa69c, 2), (0xa722, 0xa72e, 2), (0xa732, 0xa770, 2),
    (0xa779, 0xa77d, 2), (0xa77e, 0xa786, 2), (0xa796, 0xa7aa, 2), (0xa7b6, 0xa7c4, 2),
    (0xa7ce, 0xa7dc, 2)]

/-- Marks of a dropped vowel. -/
def viramaRanges : Text.Ranges :=
  [(0x94d, 0x94d), (0x9cd, 0x9cd), (0xa4d, 0xa4d), (0xacd, 0xacd), (0xb4d, 0xb4d), (0xbcd, 0xbcd),
    (0xc4d, 0xc4d), (0xccd, 0xccd), (0xd3b, 0xd3c), (0xd4d, 0xd4d), (0xdca, 0xdca), (0xe3a, 0xe3a),
    (0xeba, 0xeba), (0xf84, 0xf84), (0x1039, 0x103a), (0x1714, 0x1715), (0x1734, 0x1734),
    (0x17d2, 0x17d2), (0x1a60, 0x1a60), (0x1b44, 0x1b44), (0x1baa, 0x1bab), (0x1bf2, 0x1bf3),
    (0x2d7f, 0x2d7f), (0xa806, 0xa806), (0xa82c, 0xa82c), (0xa8c4, 0xa8c4), (0xa953, 0xa953),
    (0xa9c0, 0xa9c0), (0xaaf6, 0xaaf6), (0xabed, 0xabed), (0x10a3f, 0x10a3f), (0x11046, 0x11046),
    (0x11070, 0x11070), (0x1107f, 0x1107f), (0x110b9, 0x110b9), (0x11133, 0x11134),
    (0x111c0, 0x111c0), (0x11235, 0x11235), (0x112ea, 0x112ea), (0x1134d, 0x1134d),
    (0x11442, 0x11442), (0x114c2, 0x114c2), (0x115bf, 0x115bf), (0x1163f, 0x1163f),
    (0x116b6, 0x116b6), (0x1172b, 0x1172b), (0x11839, 0x11839), (0x1193d, 0x1193e),
    (0x119e0, 0x119e0), (0x11a34, 0x11a34), (0x11a47, 0x11a47), (0x11a99, 0x11a99),
    (0x11c3f, 0x11c3f), (0x11d44, 0x11d45), (0x11d97, 0x11d97)]

/-- Arabic letters that join what follows them. -/
def joinsNextRanges : Text.Ranges :=
  [(0x620, 0x620), (0x626, 0x626), (0x628, 0x628), (0x62a, 0x62e), (0x633, 0x63f), (0x641, 0x647),
    (0x649, 0x64a), (0x66e, 0x66f), (0x678, 0x687), (0x69a, 0x6bf), (0x6c1, 0x6c2), (0x6cc, 0x6cc),
    (0x6ce, 0x6ce), (0x6d0, 0x6d1), (0x6fa, 0x6fc), (0x6ff, 0x6ff)]

/-- Arabic letters that join what is before them. -/
def joinsPreviousRanges : Text.Ranges :=
  [(0x620, 0x620), (0x622, 0x63f), (0x641, 0x64a), (0x66e, 0x673), (0x675, 0x6d3), (0x6d5, 0x6d5),
    (0x6ee, 0x6ef), (0x6fa, 0x6fc), (0x6ff, 0x6ff)]

example : ignoredRanges.areApart ∧ refusedRanges.areApart ∧ viramaRanges.areApart := by
  decide +kernel

end Paymaster.HostName
