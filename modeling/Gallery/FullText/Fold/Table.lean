import Gallery.Text.CodeSet

namespace Gallery
namespace FullText
namespace Fold

/-!
# Tables of index tokens

Index tokens are made of the letters, numbers and private characters of an old
version of the character database.  Each has one folded form, without case and
without the diacritics of Latin letters.
-/

/-- The characters of which tokens are made. -/
def tokenChars : Text.CodeSet where
  edges := [
    0x30, 0x3A, 0x41, 0x5B, 0x61, 0x7B, 0xAA, 0xAB, 0xB2, 0xB4, 0xB5, 0xB6, 0xB9, 0xBB, 0xBC,
    0xBF, 0xC0, 0xD7, 0xD8, 0xF7, 0xF8, 0x2C2, 0x2C6, 0x2D2, 0x2E0, 0x2E5, 0x2EC, 0x2ED, 0x2EE,
    0x2EF, 0x370, 0x375, 0x376, 0x37E, 0x37F, 0x384, 0x386, 0x387, 0x388, 0x3F6, 0x3F7, 0x482,
    0x48A, 0x55A, 0x560, 0x589, 0x58B, 0x58F, 0x590, 0x591, 0x5C8, 0x5F3, 0x5F5, 0x600, 0x605,
    0x606, 0x61C, 0x61E, 0x620, 0x64B, 0x660, 0x66A, 0x66E, 0x670, 0x671, 0x6D4, 0x6D5, 0x6D6,
    0x6E5, 0x6E7, 0x6EE, 0x6FD, 0x6FF, 0x700, 0x70E, 0x70F, 0x710, 0x711, 0x712, 0x730, 0x74B,
    0x7A6, 0x7B1, 0x7EB, 0x7F4, 0x7F6, 0x7FA, 0x816, 0x81A, 0x81B, 0x824, 0x825, 0x828, 0x829,
    0x82E, 0x830, 0x83F, 0x859, 0x85C, 0x85E, 0x85F, 0x8E4, 0x8FF, 0x900, 0x904, 0x93A, 0x93D,
    0x93E, 0x950, 0x951, 0x958, 0x962, 0x966, 0x970, 0x971, 0x981, 0x984, 0x9BC, 0x9BD, 0x9BE,
    0x9C5, 0x9C7, 0x9C9, 0x9CB, 0x9CE, 0x9D7, 0x9D8, 0x9E2, 0x9E4, 0x9F2, 0x9F4, 0x9FA, 0x9FC,
    0xA01, 0xA04, 0xA3C, 0xA3D, 0xA3E, 0xA43, 0xA47, 0xA49, 0xA4B, 0xA4E, 0xA51, 0xA52, 0xA70,
    0xA72, 0xA75, 0xA76, 0xA81, 0xA84, 0xABC, 0xABD, 0xABE, 0xAC6, 0xAC7, 0xACA, 0xACB, 0xACE,
    0xAE2, 0xAE4, 0xAF0, 0xAF2, 0xB01, 0xB04, 0xB3C, 0xB3D, 0xB3E, 0xB45, 0xB47, 0xB49, 0xB4B,
    0xB4E, 0xB56, 0xB58, 0xB62, 0xB64, 0xB70, 0xB71, 0xB82, 0xB83, 0xBBE, 0xBC3, 0xBC6, 0xBC9,
    0xBCA, 0xBCE, 0xBD7, 0xBD8, 0xBF3, 0xBFB, 0xC01, 0xC04, 0xC3E, 0xC45, 0xC46, 0xC49, 0xC4A,
    0xC4E, 0xC55, 0xC57, 0xC62, 0xC64, 0xC7F, 0xC80, 0xC82, 0xC84, 0xCBC, 0xCBD, 0xCBE, 0xCC5,
    0xCC6, 0xCC9, 0xCCA, 0xCCE, 0xCD5, 0xCD7, 0xCE2, 0xCE4, 0xD02, 0xD04, 0xD3E, 0xD45, 0xD46,
    0xD49, 0xD4A, 0xD4E, 0xD57, 0xD58, 0xD62, 0xD64, 0xD79, 0xD7A, 0xD82, 0xD84, 0xDCA, 0xDCB,
    0xDCF, 0xDD5, 0xDD6, 0xDD7, 0xDD8, 0xDE0, 0xDF2, 0xDF5, 0xE31, 0xE32, 0xE34, 0xE3B, 0xE3F,
    0xE40, 0xE47, 0xE50, 0xE5A, 0xE5C, 0xEB1, 0xEB2, 0xEB4, 0xEBA, 0xEBB, 0xEBD, 0xEC8, 0xECE,
    0xF01, 0xF20, 0xF34, 0xF40, 0xF71, 0xF88, 0xF8D, 0xF98, 0xF99, 0xFBD, 0xFBE, 0xFCD, 0xFCE,
    0xFDB, 0x102B, 0x103F, 0x104A, 0x1050, 0x1056, 0x105A, 0x105E, 0x1061, 0x1062, 0x1065, 0x1067,
    0x106E, 0x1071, 0x1075, 0x1082, 0x108E, 0x108F, 0x1090, 0x109A, 0x10A0, 0x10FB, 0x10FC,
    0x135D, 0x1369, 0x1390, 0x139A, 0x1400, 0x1401, 0x166D, 0x166F, 0x1680, 0x1681, 0x169B,
    0x169D, 0x16EB, 0x16EE, 0x1712, 0x1715, 0x1732, 0x1737, 0x1752, 0x1754, 0x1772, 0x1774,
    0x17B4, 0x17D7, 0x17D8, 0x17DC, 0x17DD, 0x17DE, 0x1800, 0x180F, 0x18A9, 0x18AA, 0x1920,
    0x192C, 0x1930, 0x193C, 0x1940, 0x1941, 0x1944, 0x1946, 0x19B0, 0x19C1, 0x19C8, 0x19CA,
    0x19DE, 0x1A00, 0x1A17, 0x1A1C, 0x1A1E, 0x1A20, 0x1A55, 0x1A5F, 0x1A60, 0x1A7D, 0x1A7F,
    0x1A80, 0x1AA0, 0x1AA7, 0x1AA8, 0x1AAE, 0x1B00, 0x1B05, 0x1B34, 0x1B45, 0x1B5A, 0x1B7D,
    0x1B80, 0x1B83, 0x1BA1, 0x1BAE, 0x1BE6, 0x1BF4, 0x1BFC, 0x1C00, 0x1C24, 0x1C38, 0x1C3B,
    0x1C40, 0x1C7E, 0x1C80, 0x1CC0, 0x1CC8, 0x1CD0, 0x1CE9, 0x1CED, 0x1CEE, 0x1CF2, 0x1CF5,
    0x1DC0, 0x1DE7, 0x1DFC, 0x1E00, 0x1FBD, 0x1FBE, 0x1FBF, 0x1FC2, 0x1FCD, 0x1FD0, 0x1FDD,
    0x1FE0, 0x1FED, 0x1FF0, 0x1FFD, 0x1FFF, 0x2000, 0x2065, 0x206A, 0x2070, 0x207A, 0x207F,
    0x208A, 0x208F, 0x20A0, 0x20BA, 0x20D0, 0x20F1, 0x2100, 0x2102, 0x2103, 0x2107, 0x2108,
    0x210A, 0x2114, 0x2115, 0x2116, 0x2119, 0x211E, 0x2124, 0x2125, 0x2126, 0x2127, 0x2128,
    0x2129, 0x212A, 0x212E, 0x212F, 0x213A, 0x213C, 0x2140, 0x2145, 0x214A, 0x214E, 0x214F,
    0x2150, 0x2190, 0x23F4, 0x2400, 0x2427, 0x2440, 0x244B, 0x249C, 0x24EA, 0x2500, 0x2700,
    0x2701, 0x2776, 0x2794, 0x2B4D, 0x2B50, 0x2B5A, 0x2CE5, 0x2CEB, 0x2CEF, 0x2CF2, 0x2CF9,
    0x2CFD, 0x2CFE, 0x2D00, 0x2D70, 0x2D71, 0x2D7F, 0x2D80, 0x2DE0, 0x2E2F, 0x2E30, 0x2E3C,
    0x2E80, 0x2E9A, 0x2E9B, 0x2EF4, 0x2F00, 0x2FD6, 0x2FF0, 0x2FFC, 0x3000, 0x3005, 0x3008,
    0x3021, 0x302A, 0x3031, 0x3036, 0x3038, 0x303D, 0x3040, 0x3099, 0x309D, 0x30A0, 0x30A1,
    0x30FB, 0x30FC, 0x3190, 0x3192, 0x3196, 0x31A0, 0x31C0, 0x31E4, 0x3200, 0x321F, 0x322A,
    0x3248, 0x3250, 0x3251, 0x3260, 0x3280, 0x328A, 0x32B1, 0x32C0, 0x32FF, 0x3300, 0x3400,
    0x4DC0, 0x4E00, 0xA490, 0xA4C7, 0xA4FE, 0xA500, 0xA60D, 0xA610, 0xA66F, 0xA67F, 0xA69F,
    0xA6A0, 0xA6F0, 0xA6F8, 0xA700, 0xA717, 0xA720, 0xA722, 0xA789, 0xA78B, 0xA802, 0xA803,
    0xA806, 0xA807, 0xA80B, 0xA80C, 0xA823, 0xA82C, 0xA836, 0xA83A, 0xA874, 0xA878, 0xA880,
    0xA882, 0xA8B4, 0xA8C5, 0xA8CE, 0xA8D0, 0xA8E0, 0xA8F2, 0xA8F8, 0xA8FB, 0xA926, 0xA930,
    0xA947, 0xA954, 0xA95F, 0xA960, 0xA980, 0xA984, 0xA9B3, 0xA9CE, 0xA9DE, 0xA9E0, 0xAA29,
    0xAA37, 0xAA43, 0xAA44, 0xAA4C, 0xAA4E, 0xAA5C, 0xAA60, 0xAA77, 0xAA7A, 0xAA7B, 0xAA7C,
    0xAAB0, 0xAAB1, 0xAAB2, 0xAAB5, 0xAAB7, 0xAAB9, 0xAABE, 0xAAC0, 0xAAC1, 0xAAC2, 0xAADE,
    0xAAE0, 0xAAEB, 0xAAF2, 0xAAF5, 0xAAF7, 0xABE3, 0xABEE, 0xD800, 0xE000, 0xFB1E, 0xFB1F,
    0xFB29, 0xFB2A, 0xFBB2, 0xFBC2, 0xFD3E, 0xFD40, 0xFDFC, 0xFDFE, 0xFE00, 0xFE1A, 0xFE20,
    0xFE27, 0xFE30, 0xFE53, 0xFE54, 0xFE67, 0xFE68, 0xFE6C, 0xFEFF, 0xFF00, 0xFF01, 0xFF10,
    0xFF1A, 0xFF21, 0xFF3B, 0xFF41, 0xFF5B, 0xFF66, 0xFFE0, 0xFFE7, 0xFFE8, 0xFFEF, 0xFFF9,
    0x10000, 0x10100, 0x10103, 0x10137, 0x10140, 0x10179, 0x1018A, 0x10190, 0x1019C, 0x101D0,
    0x101FE, 0x1039F, 0x103A0, 0x103D0, 0x103D1, 0x10857, 0x10858, 0x1091F, 0x10920, 0x1093F,
    0x10940, 0x10A01, 0x10A04, 0x10A05, 0x10A07, 0x10A0C, 0x10A10, 0x10A38, 0x10A3B, 0x10A3F,
    0x10A40, 0x10A50, 0x10A59, 0x10A7F, 0x10A80, 0x10B39, 0x10B40, 0x11000, 0x11003, 0x11038,
    0x1104E, 0x11080, 0x11083, 0x110B0, 0x110C2, 0x11100, 0x11103, 0x11127, 0x11135, 0x11140,
    0x11144, 0x11180, 0x11183, 0x111B3, 0x111C1, 0x111C5, 0x111C9, 0x116AB, 0x116B8, 0x12470,
    0x12474, 0x16F51, 0x16F7F, 0x16F8F, 0x16F93, 0x1D000, 0x1D0F6, 0x1D100, 0x1D127, 0x1D129,
    0x1D1DE, 0x1D200, 0x1D246, 0x1D300, 0x1D357, 0x1D6C1, 0x1D6C2, 0x1D6DB, 0x1D6DC, 0x1D6FB,
    0x1D6FC, 0x1D715, 0x1D716, 0x1D735, 0x1D736, 0x1D74F, 0x1D750, 0x1D76F, 0x1D770, 0x1D789,
    0x1D78A, 0x1D7A9, 0x1D7AA, 0x1D7C3, 0x1D7C4, 0x1EEF0, 0x1EEF2, 0x1F000, 0x1F02C, 0x1F030,
    0x1F094, 0x1F0A0, 0x1F0AF, 0x1F0B1, 0x1F0BF, 0x1F0C1, 0x1F0D0, 0x1F0D1, 0x1F0E0, 0x1F110,
    0x1F12F, 0x1F130, 0x1F16C, 0x1F170, 0x1F19B, 0x1F1E6, 0x1F203, 0x1F210, 0x1F23B, 0x1F240,
    0x1F249, 0x1F250, 0x1F252, 0x1F300, 0x1F321, 0x1F330, 0x1F336, 0x1F337, 0x1F37D, 0x1F380,
    0x1F394, 0x1F3A0, 0x1F3C5, 0x1F3C6, 0x1F3CB, 0x1F3E0, 0x1F3F1, 0x1F400, 0x1F43F, 0x1F440,
    0x1F441, 0x1F442, 0x1F4F8, 0x1F4F9, 0x1F4FD, 0x1F500, 0x1F53E, 0x1F540, 0x1F544, 0x1F550,
    0x1F568, 0x1F5FB, 0x1F641, 0x1F645, 0x1F650, 0x1F680, 0x1F6C6, 0x1F700, 0x1F774, 0xE0001,
    0xE0002, 0xE0020, 0xE0080, 0xE0100, 0xE01F0]

/-- The combining marks that a token may hold and that its folded form lacks. -/
def silentMarks : Text.CodeSet where
  edges := [
    0x300, 0x305, 0x306, 0x30D, 0x30F, 0x310, 0x311, 0x312, 0x31B, 0x31C, 0x323, 0x329, 0x32D,
    0x32F, 0x330, 0x332]

/-- Characters `first`, `first + step`, …, `last`.  The folded form of the first
is `image`, and those of the others follow at the same distance; a step of zero
stands for neighbours that all fold to `image`. -/
structure Run where
  first : Nat
  last : Nat
  step : Nat
  image : Nat
deriving DecidableEq, Repr

/-- The characters whose folded form is another character. -/
def runs : List Run := [
  ⟨0x41, 0x5A, 1, 0x61⟩,
  ⟨0xB5, 0xB5, 1, 0x3BC⟩,
  ⟨0xC0, 0xC5, 0, 0x61⟩,
  ⟨0xC6, 0xC6, 1, 0xE6⟩,
  ⟨0xC7, 0xC9, 2, 0x63⟩,
  ⟨0xC8, 0xC8, 1, 0x65⟩,
  ⟨0xCA, 0xCB, 0, 0x65⟩,
  ⟨0xCC, 0xCF, 0, 0x69⟩,
  ⟨0xD0, 0xD0, 1, 0xF0⟩,
  ⟨0xD1, 0xD2, 1, 0x6E⟩,
  ⟨0xD3, 0xD6, 0, 0x6F⟩,
  ⟨0xD8, 0xD8, 1, 0xF8⟩,
  ⟨0xD9, 0xDC, 0, 0x75⟩,
  ⟨0xDD, 0xDD, 1, 0x79⟩,
  ⟨0xDE, 0xDE, 1, 0xFE⟩,
  ⟨0xE0, 0xE5, 0, 0x61⟩,
  ⟨0xE7, 0xE9, 2, 0x63⟩,
  ⟨0xE8, 0xE8, 1, 0x65⟩,
  ⟨0xEA, 0xEB, 0, 0x65⟩,
  ⟨0xEC, 0xEF, 0, 0x69⟩,
  ⟨0xF1, 0xF2, 1, 0x6E⟩,
  ⟨0xF3, 0xF6, 0, 0x6F⟩,
  ⟨0xF9, 0xFC, 0, 0x75⟩,
  ⟨0xFD, 0xFD, 1, 0x79⟩,
  ⟨0xFF, 0xFF, 1, 0x79⟩,
  ⟨0x100, 0x105, 0, 0x61⟩,
  ⟨0x106, 0x10D, 0, 0x63⟩,
  ⟨0x10E, 0x10F, 0, 0x64⟩,
  ⟨0x110, 0x110, 1, 0x111⟩,
  ⟨0x112, 0x11B, 0, 0x65⟩,
  ⟨0x11C, 0x123, 0, 0x67⟩,
  ⟨0x124, 0x125, 0, 0x68⟩,
  ⟨0x126, 0x126, 1, 0x127⟩,
  ⟨0x128, 0x130, 0, 0x69⟩,
  ⟨0x132, 0x132, 1, 0x133⟩,
  ⟨0x134, 0x135, 0, 0x6A⟩,
  ⟨0x136, 0x137, 0, 0x6B⟩,
  ⟨0x139, 0x13E, 0, 0x6C⟩,
  ⟨0x13F, 0x141, 2, 0x140⟩,
  ⟨0x143, 0x148, 0, 0x6E⟩,
  ⟨0x14A, 0x14A, 1, 0x14B⟩,
  ⟨0x14C, 0x151, 0, 0x6F⟩,
  ⟨0x152, 0x152, 1, 0x153⟩,
  ⟨0x154, 0x159, 0, 0x72⟩,
  ⟨0x15A, 0x161, 0, 0x73⟩,
  ⟨0x162, 0x165, 0, 0x74⟩,
  ⟨0x166, 0x166, 1, 0x167⟩,
  ⟨0x168, 0x173, 0, 0x75⟩,
  ⟨0x174, 0x176, 2, 0x77⟩,
  ⟨0x175, 0x177, 2, 0x77⟩,
  ⟨0x178, 0x179, 1, 0x79⟩,
  ⟨0x17A, 0x17E, 0, 0x7A⟩,
  ⟨0x17F, 0x17F, 1, 0x73⟩,
  ⟨0x181, 0x181, 1, 0x253⟩,
  ⟨0x182, 0x184, 2, 0x183⟩,
  ⟨0x186, 0x186, 1, 0x254⟩,
  ⟨0x187, 0x187, 1, 0x188⟩,
  ⟨0x189, 0x18A, 1, 0x256⟩,
  ⟨0x18B, 0x18B, 1, 0x18C⟩,
  ⟨0x18E, 0x18E, 1, 0x1DD⟩,
  ⟨0x18F, 0x18F, 1, 0x259⟩,
  ⟨0x190, 0x190, 1, 0x25B⟩,
  ⟨0x191, 0x191, 1, 0x192⟩,
  ⟨0x193, 0x193, 1, 0x260⟩,
  ⟨0x194, 0x194, 1, 0x263⟩,
  ⟨0x196, 0x196, 1, 0x269⟩,
  ⟨0x197, 0x197, 1, 0x268⟩,
  ⟨0x198, 0x198, 1, 0x199⟩,
  ⟨0x19C, 0x19C, 1, 0x26F⟩,
  ⟨0x19D, 0x19D, 1, 0x272⟩,
  ⟨0x19F, 0x19F, 1, 0x275⟩,
  ⟨0x1A0, 0x1A1, 0, 0x6F⟩,
  ⟨0x1A2, 0x1A4, 2, 0x1A3⟩,
  ⟨0x1A6, 0x1A6, 1, 0x280⟩,
  ⟨0x1A7, 0x1A7, 1, 0x1A8⟩,
  ⟨0x1A9, 0x1A9, 1, 0x283⟩,
  ⟨0x1AC, 0x1AC, 1, 0x1AD⟩,
  ⟨0x1AE, 0x1AE, 1, 0x288⟩,
  ⟨0x1AF, 0x1B0, 0, 0x75⟩,
  ⟨0x1B1, 0x1B2, 1, 0x28A⟩,
  ⟨0x1B3, 0x1B5, 2, 0x1B4⟩,
  ⟨0x1B7, 0x1B7, 1, 0x292⟩,
  ⟨0x1B8, 0x1B8, 1, 0x1B9⟩,
  ⟨0x1BC, 0x1BC, 1, 0x1BD⟩,
  ⟨0x1C4, 0x1C5, 0, 0x1C6⟩,
  ⟨0x1C7, 0x1C8, 0, 0x1C9⟩,
  ⟨0x1CA, 0x1CB, 0, 0x1CC⟩,
  ⟨0x1CD, 0x1CE, 0, 0x61⟩,
  ⟨0x1CF, 0x1D0, 0, 0x69⟩,
  ⟨0x1D1, 0x1D2, 0, 0x6F⟩,
  ⟨0x1D3, 0x1D4, 0, 0x75⟩,
  ⟨0x1D5, 0x1DB, 2, 0x1D6⟩,
  ⟨0x1DE, 0x1E4, 2, 0x1DF⟩,
  ⟨0x1E6, 0x1E7, 0, 0x67⟩,
  ⟨0x1E8, 0x1E9, 0, 0x6B⟩,
  ⟨0x1EA, 0x1EB, 0, 0x6F⟩,
  ⟨0x1EC, 0x1EE, 2, 0x1ED⟩,
  ⟨0x1F0, 0x1F0, 1, 0x6A⟩,
  ⟨0x1F1, 0x1F2, 0, 0x1F3⟩,
  ⟨0x1F4, 0x1F5, 0, 0x67⟩,
  ⟨0x1F6, 0x1F6, 1, 0x195⟩,
  ⟨0x1F7, 0x1F7, 1, 0x1BF⟩,
  ⟨0x1F8, 0x1F9, 0, 0x6E⟩,
  ⟨0x1FA, 0x1FE, 2, 0x1FB⟩,
  ⟨0x200, 0x203, 0, 0x61⟩,
  ⟨0x204, 0x207, 0, 0x65⟩,
  ⟨0x208, 0x20B, 0, 0x69⟩,
  ⟨0x20C, 0x20F, 0, 0x6F⟩,
  ⟨0x210, 0x213, 0, 0x72⟩,
  ⟨0x214, 0x217, 0, 0x75⟩,
  ⟨0x218, 0x219, 0, 0x73⟩,
  ⟨0x21A, 0x21B, 0, 0x74⟩,
  ⟨0x21C, 0x21C, 1, 0x21D⟩,
  ⟨0x21E, 0x21F, 0, 0x68⟩,
  ⟨0x220, 0x220, 1, 0x19E⟩,
  ⟨0x222, 0x224, 2, 0x223⟩,
  ⟨0x226, 0x227, 0, 0x61⟩,
  ⟨0x228, 0x229, 0, 0x65⟩,
  ⟨0x22A, 0x22C, 2, 0x22B⟩,
  ⟨0x22E, 0x22F, 0, 0x6F⟩,
  ⟨0x230, 0x230, 1, 0x231⟩,
  ⟨0x232, 0x233, 0, 0x79⟩,
  ⟨0x23A, 0x23A, 1, 0x2C65⟩,
  ⟨0x23B, 0x23B, 1, 0x23C⟩,
  ⟨0x23D, 0x23D, 1, 0x19A⟩,
  ⟨0x23E, 0x23E, 1, 0x2C66⟩,
  ⟨0x241, 0x241, 1, 0x242⟩,
  ⟨0x243, 0x243, 1, 0x180⟩,
  ⟨0x244, 0x244, 1, 0x289⟩,
  ⟨0x245, 0x245, 1, 0x28C⟩,
  ⟨0x246, 0x24E, 2, 0x247⟩,
  ⟨0x370, 0x372, 2, 0x371⟩,
  ⟨0x376, 0x376, 1, 0x377⟩,
  ⟨0x386, 0x386, 1, 0x3AC⟩,
  ⟨0x388, 0x38A, 1, 0x3AD⟩,
  ⟨0x38C, 0x38C, 1, 0x3CC⟩,
  ⟨0x38E, 0x38F, 1, 0x3CD⟩,
  ⟨0x391, 0x3A1, 1, 0x3B1⟩,
  ⟨0x3A3, 0x3AB, 1, 0x3C3⟩,
  ⟨0x3C2, 0x3C2, 1, 0x3C3⟩,
  ⟨0x3CF, 0x3CF, 1, 0x3D7⟩,
  ⟨0x3D0, 0x3D0, 1, 0x3B2⟩,
  ⟨0x3D1, 0x3D1, 1, 0x3B8⟩,
  ⟨0x3D5, 0x3D5, 1, 0x3C6⟩,
  ⟨0x3D6, 0x3D6, 1, 0x3C0⟩,
  ⟨0x3D8, 0x3EE, 2, 0x3D9⟩,
  ⟨0x3F0, 0x3F0, 1, 0x3BA⟩,
  ⟨0x3F1, 0x3F1, 1, 0x3C1⟩,
  ⟨0x3F4, 0x3F4, 1, 0x3B8⟩,
  ⟨0x3F5, 0x3F5, 1, 0x3B5⟩,
  ⟨0x3F7, 0x3F7, 1, 0x3F8⟩,
  ⟨0x3F9, 0x3F9, 1, 0x3F2⟩,
  ⟨0x3FA, 0x3FA, 1, 0x3FB⟩,
  ⟨0x3FD, 0x3FF, 1, 0x37B⟩,
  ⟨0x400, 0x40F, 1, 0x450⟩,
  ⟨0x410, 0x42F, 1, 0x430⟩,
  ⟨0x460, 0x480, 2, 0x461⟩,
  ⟨0x48A, 0x4BE, 2, 0x48B⟩,
  ⟨0x4C0, 0x4C0, 1, 0x4CF⟩,
  ⟨0x4C1, 0x4CD, 2, 0x4C2⟩,
  ⟨0x4D0, 0x526, 2, 0x4D1⟩,
  ⟨0x531, 0x556, 1, 0x561⟩,
  ⟨0x10A0, 0x10C5, 1, 0x2D00⟩,
  ⟨0x10C7, 0x10C7, 1, 0x2D27⟩,
  ⟨0x10CD, 0x10CD, 1, 0x2D2D⟩,
  ⟨0x1E00, 0x1E01, 0, 0x61⟩,
  ⟨0x1E02, 0x1E07, 0, 0x62⟩,
  ⟨0x1E08, 0x1E08, 1, 0x1E09⟩,
  ⟨0x1E0A, 0x1E13, 0, 0x64⟩,
  ⟨0x1E14, 0x1E16, 2, 0x1E15⟩,
  ⟨0x1E18, 0x1E1B, 0, 0x65⟩,
  ⟨0x1E1C, 0x1E1C, 1, 0x1E1D⟩,
  ⟨0x1E1E, 0x1E1F, 0, 0x66⟩,
  ⟨0x1E20, 0x1E21, 0, 0x67⟩,
  ⟨0x1E22, 0x1E2B, 0, 0x68⟩,
  ⟨0x1E2C, 0x1E2D, 0, 0x69⟩,
  ⟨0x1E2E, 0x1E2E, 1, 0x1E2F⟩,
  ⟨0x1E30, 0x1E35, 0, 0x6B⟩,
  ⟨0x1E36, 0x1E37, 0, 0x6C⟩,
  ⟨0x1E38, 0x1E38, 1, 0x1E39⟩,
  ⟨0x1E3A, 0x1E3D, 0, 0x6C⟩,
  ⟨0x1E3E, 0x1E43, 0, 0x6D⟩,
  ⟨0x1E44, 0x1E4B, 0, 0x6E⟩,
  ⟨0x1E4C, 0x1E52, 2, 0x1E4D⟩,
  ⟨0x1E54, 0x1E57, 0, 0x70⟩,
  ⟨0x1E58, 0x1E5B, 0, 0x72⟩,
  ⟨0x1E5C, 0x1E5C, 1, 0x1E5D⟩,
  ⟨0x1E5E, 0x1E5F, 0, 0x72⟩,
  ⟨0x1E60, 0x1E63, 0, 0x73⟩,
  ⟨0x1E64, 0x1E68, 2, 0x1E65⟩,
  ⟨0x1E6A, 0x1E71, 0, 0x74⟩,
  ⟨0x1E72, 0x1E77, 0, 0x75⟩,
  ⟨0x1E78, 0x1E7A, 2, 0x1E79⟩,
  ⟨0x1E7C, 0x1E7F, 0, 0x76⟩,
  ⟨0x1E80, 0x1E89, 0, 0x77⟩,
  ⟨0x1E8A, 0x1E8D, 0, 0x78⟩,
  ⟨0x1E8E, 0x1E8F, 0, 0x79⟩,
  ⟨0x1E90, 0x1E95, 0, 0x7A⟩,
  ⟨0x1E96, 0x1E96, 1, 0x68⟩,
  ⟨0x1E97, 0x1E97, 1, 0x74⟩,
  ⟨0x1E98, 0x1E98, 1, 0x77⟩,
  ⟨0x1E99, 0x1E99, 1, 0x79⟩,
  ⟨0x1E9B, 0x1E9B, 1, 0x73⟩,
  ⟨0x1E9E, 0x1E9E, 1, 0xDF⟩,
  ⟨0x1EA0, 0x1EA3, 0, 0x61⟩,
  ⟨0x1EA4, 0x1EB6, 2, 0x1EA5⟩,
  ⟨0x1EB8, 0x1EBD, 0, 0x65⟩,
  ⟨0x1EBE, 0x1EC6, 2, 0x1EBF⟩,
  ⟨0x1EC8, 0x1ECB, 0, 0x69⟩,
  ⟨0x1ECC, 0x1ECF, 0, 0x6F⟩,
  ⟨0x1ED0, 0x1EE2, 2, 0x1ED1⟩,
  ⟨0x1EE4, 0x1EE7, 0, 0x75⟩,
  ⟨0x1EE8, 0x1EF0, 2, 0x1EE9⟩,
  ⟨0x1EF2, 0x1EF9, 0, 0x79⟩,
  ⟨0x1EFA, 0x1EFE, 2, 0x1EFB⟩,
  ⟨0x1F08, 0x1F0F, 1, 0x1F00⟩,
  ⟨0x1F18, 0x1F1D, 1, 0x1F10⟩,
  ⟨0x1F28, 0x1F2F, 1, 0x1F20⟩,
  ⟨0x1F38, 0x1F3F, 1, 0x1F30⟩,
  ⟨0x1F48, 0x1F4D, 1, 0x1F40⟩,
  ⟨0x1F59, 0x1F5F, 2, 0x1F51⟩,
  ⟨0x1F68, 0x1F6F, 1, 0x1F60⟩,
  ⟨0x1F88, 0x1F8F, 1, 0x1F80⟩,
  ⟨0x1F98, 0x1F9F, 1, 0x1F90⟩,
  ⟨0x1FA8, 0x1FAF, 1, 0x1FA0⟩,
  ⟨0x1FB8, 0x1FB9, 1, 0x1FB0⟩,
  ⟨0x1FBA, 0x1FBB, 1, 0x1F70⟩,
  ⟨0x1FBC, 0x1FBC, 1, 0x1FB3⟩,
  ⟨0x1FBE, 0x1FBE, 1, 0x3B9⟩,
  ⟨0x1FC8, 0x1FCB, 1, 0x1F72⟩,
  ⟨0x1FCC, 0x1FCC, 1, 0x1FC3⟩,
  ⟨0x1FD8, 0x1FD9, 1, 0x1FD0⟩,
  ⟨0x1FDA, 0x1FDB, 1, 0x1F76⟩,
  ⟨0x1FE8, 0x1FE9, 1, 0x1FE0⟩,
  ⟨0x1FEA, 0x1FEB, 1, 0x1F7A⟩,
  ⟨0x1FEC, 0x1FEC, 1, 0x1FE5⟩,
  ⟨0x1FF8, 0x1FF9, 1, 0x1F78⟩,
  ⟨0x1FFA, 0x1FFB, 1, 0x1F7C⟩,
  ⟨0x1FFC, 0x1FFC, 1, 0x1FF3⟩,
  ⟨0x2126, 0x2126, 1, 0x3C9⟩,
  ⟨0x212A, 0x212A, 1, 0x6B⟩,
  ⟨0x212B, 0x212B, 1, 0x61⟩,
  ⟨0x2132, 0x2132, 1, 0x214E⟩,
  ⟨0x2160, 0x216F, 1, 0x2170⟩,
  ⟨0x2183, 0x2183, 1, 0x2184⟩,
  ⟨0x2C00, 0x2C2E, 1, 0x2C30⟩,
  ⟨0x2C60, 0x2C60, 1, 0x2C61⟩,
  ⟨0x2C62, 0x2C62, 1, 0x26B⟩,
  ⟨0x2C63, 0x2C63, 1, 0x1D7D⟩,
  ⟨0x2C64, 0x2C64, 1, 0x27D⟩,
  ⟨0x2C67, 0x2C6B, 2, 0x2C68⟩,
  ⟨0x2C6D, 0x2C6D, 1, 0x251⟩,
  ⟨0x2C6E, 0x2C6E, 1, 0x271⟩,
  ⟨0x2C6F, 0x2C6F, 1, 0x250⟩,
  ⟨0x2C70, 0x2C70, 1, 0x252⟩,
  ⟨0x2C72, 0x2C72, 1, 0x2C73⟩,
  ⟨0x2C75, 0x2C75, 1, 0x2C76⟩,
  ⟨0x2C7E, 0x2C7F, 1, 0x23F⟩,
  ⟨0x2C80, 0x2CE2, 2, 0x2C81⟩,
  ⟨0x2CEB, 0x2CED, 2, 0x2CEC⟩,
  ⟨0x2CF2, 0x2CF2, 1, 0x2CF3⟩,
  ⟨0xA640, 0xA66C, 2, 0xA641⟩,
  ⟨0xA680, 0xA696, 2, 0xA681⟩,
  ⟨0xA722, 0xA72E, 2, 0xA723⟩,
  ⟨0xA732, 0xA76E, 2, 0xA733⟩,
  ⟨0xA779, 0xA77B, 2, 0xA77A⟩,
  ⟨0xA77D, 0xA77D, 1, 0x1D79⟩,
  ⟨0xA77E, 0xA786, 2, 0xA77F⟩,
  ⟨0xA78B, 0xA78B, 1, 0xA78C⟩,
  ⟨0xA78D, 0xA78D, 1, 0x265⟩,
  ⟨0xA790, 0xA792, 2, 0xA791⟩,
  ⟨0xA7A0, 0xA7A8, 2, 0xA7A1⟩,
  ⟨0xA7AA, 0xA7AA, 1, 0x266⟩,
  ⟨0xFF21, 0xFF3A, 1, 0xFF41⟩,
  ⟨0x10400, 0x10427, 1, 0x10428⟩]

end Fold
end FullText
end Gallery
