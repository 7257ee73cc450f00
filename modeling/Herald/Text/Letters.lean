import Herald.Text.Unseen
/-!
Letters and digits of all scripts, vowel marks included: the visible characters that are neither
punctuation nor symbols nor other marks.
-/

set_option autoImplicit false
set_option maxRecDepth 4000

namespace Herald.Text

/-- Those others above the ASCII characters; hidden ones may lie among them. -/
def symbolRanges : List (Nat × Nat) := [
  (0xA1, 0xA9), (0xAB, 0xB1), (0xB4, 0xB4), (0xB6, 0xB8), (0xBB, 0xBB), (0xBF, 0xBF), (0xD7, 0xD7),
  (0xF7, 0xF7), (0x2C2, 0x2C5), (0x2D2, 0x2DF), (0x2E5, 0x2EB), (0x2ED, 0x2ED), (0x2EF, 0x344),
  (0x346, 0x362), (0x375, 0x375), (0x37E, 0x37E), (0x384, 0x385), (0x387, 0x387), (0x3F6, 0x3F6),
  (0x482, 0x489), (0x55A, 0x55F), (0x589, 0x5AF), (0x5BE, 0x5BE), (0x5C0, 0x5C0), (0x5C3, 0x5C3),
  (0x5C6, 0x5C6), (0x5F3, 0x60F), (0x61B, 0x61F), (0x658, 0x658), (0x66A, 0x66D), (0x6D4, 0x6D4),
  (0x6DE, 0x6E0), (0x6E9, 0x6EC), (0x6FD, 0x6FE), (0x700, 0x70D), (0x740, 0x74A), (0x7EB, 0x7F3),
  (0x7F6, 0x7F9), (0x7FD, 0x7FF), (0x818, 0x819), (0x82D, 0x83E), (0x859, 0x85E), (0x888, 0x888),
  (0x898, 0x89F), (0x8CA, 0x8D3), (0x8E0, 0x8E1), (0x8EA, 0x8EF), (0x93C, 0x93C), (0x94D, 0x94D),
  (0x951, 0x954), (0x964, 0x965), (0x970, 0x970), (0x9BC, 0x9BC), (0x9CD, 0x9CD), (0x9F2, 0x9F3),
  (0x9FA, 0x9FB), (0x9FD, 0x9FE), (0xA3C, 0xA3C), (0xA4D, 0xA4D), (0xA76, 0xA76), (0xABC, 0xABC),
  (0xACD, 0xACD), (0xAF0, 0xAF1), (0xAFD, 0xAFF), (0xB3C, 0xB3C), (0xB4D, 0xB55), (0xB70, 0xB70),
  (0xBCD, 0xBCD), (0xBF3, 0xBFA), (0xC3C, 0xC3C), (0xC4D, 0xC4D), (0xC77, 0xC77), (0xC7F, 0xC7F),
  (0xC84, 0xC84), (0xCBC, 0xCBC), (0xCCD, 0xCCD), (0xD3B, 0xD3C), (0xD4D, 0xD4D), (0xD4F, 0xD4F),
  (0xD79, 0xD79), (0xDCA, 0xDCA), (0xDF4, 0xDF4), (0xE3F, 0xE3F), (0xE47, 0xE4C), (0xE4E, 0xE4F),
  (0xE5A, 0xE5B), (0xEBA, 0xEBA), (0xEC8, 0xECC), (0xECE, 0xECE), (0xF01, 0xF1F), (0xF34, 0xF3F),
  (0xF84, 0xF87), (0xFBE, 0xFDA), (0x1037, 0x1037), (0x1039, 0x103A), (0x104A, 0x104F),
  (0x109E, 0x109F), (0x10FB, 0x10FB), (0x135D, 0x1368), (0x1390, 0x1399), (0x1400, 0x1400),
  (0x166D, 0x166E), (0x169B, 0x169C), (0x16EB, 0x16ED), (0x1714, 0x1715), (0x1734, 0x1736),
  (0x17B4, 0x17B5), (0x17C9, 0x17D6), (0x17D8, 0x17DB), (0x17DD, 0x17DD), (0x1800, 0x180F),
  (0x1939, 0x1945), (0x19DE, 0x19FF), (0x1A1E, 0x1A1F), (0x1A60, 0x1A60), (0x1A75, 0x1A7F),
  (0x1AA0, 0x1AA6), (0x1AA8, 0x1ABE), (0x1AC1, 0x1ACB), (0x1ACF, 0x1AEB), (0x1B34, 0x1B34),
  (0x1B44, 0x1B44), (0x1B4E, 0x1B4F), (0x1B5A, 0x1B7F), (0x1BAA, 0x1BAB), (0x1BE6, 0x1BE6),
  (0x1BF2, 0x1BFF), (0x1C37, 0x1C3F), (0x1C7E, 0x1C7F), (0x1CC0, 0x1CE8), (0x1CED, 0x1CED),
  (0x1CF4, 0x1CF4), (0x1CF7, 0x1CF9), (0x1DC0, 0x1DD2), (0x1DF5, 0x1DFF), (0x1FBD, 0x1FBD),
  (0x1FBF, 0x1FC1), (0x1FCD, 0x1FCF), (0x1FDD, 0x1FDF), (0x1FED, 0x1FEF), (0x1FFD, 0x205E),
  (0x207A, 0x207E), (0x208A, 0x208E), (0x20A0, 0x2101), (0x2103, 0x2106), (0x2108, 0x2109),
  (0x2114, 0x2114), (0x2116, 0x2118), (0x211E, 0x2123), (0x2125, 0x2125), (0x2127, 0x2127),
  (0x2129, 0x2129), (0x212E, 0x212E), (0x213A, 0x213B), (0x2140, 0x2144), (0x214A, 0x214D),
  (0x214F, 0x214F), (0x218A, 0x244A), (0x249C, 0x24B5), (0x2500, 0x2775), (0x2794, 0x2BFF),
  (0x2CE5, 0x2CEA), (0x2CEF, 0x2CF1), (0x2CF9, 0x2CFC), (0x2CFE, 0x2CFF), (0x2D70, 0x2D7F),
  (0x2E00, 0x2E2E), (0x2E30, 0x3004), (0x3008, 0x3020), (0x302A, 0x3030), (0x3036, 0x3037),
  (0x303D, 0x303F), (0x3099, 0x309C), (0x30A0, 0x30A0), (0x30FB, 0x30FB), (0x3190, 0x3191),
  (0x3196, 0x319F), (0x31C0, 0x31EF), (0x3200, 0x321E), (0x322A, 0x3247), (0x3250, 0x3250),
  (0x3260, 0x327F), (0x328A, 0x32B0), (0x32C0, 0x33FF), (0x4DC0, 0x4DFF), (0xA490, 0xA4C6),
  (0xA4FE, 0xA4FF), (0xA60D, 0xA60F), (0xA66F, 0xA673), (0xA67C, 0xA67E), (0xA6F0, 0xA716),
  (0xA720, 0xA721), (0xA789, 0xA78A), (0xA806, 0xA806), (0xA828, 0xA82C), (0xA836, 0xA839),
  (0xA874, 0xA877), (0xA8C4, 0xA8C4), (0xA8CE, 0xA8CF), (0xA8E0, 0xA8F1), (0xA8F8, 0xA8FA),
  (0xA8FC, 0xA8FC), (0xA92B, 0xA92F), (0xA953, 0xA95F), (0xA9B3, 0xA9B3), (0xA9C0, 0xA9CD),
  (0xA9DE, 0xA9DF), (0xAA5C, 0xAA5F), (0xAA77, 0xAA79), (0xAABF, 0xAABF), (0xAAC1, 0xAAC1),
  (0xAADE, 0xAADF), (0xAAF0, 0xAAF1), (0xAAF6, 0xAAF6), (0xAB5B, 0xAB5B), (0xAB6A, 0xAB6B),
  (0xABEB, 0xABED), (0xFB29, 0xFB29), (0xFBB2, 0xFBD2), (0xFD3E, 0xFD4F), (0xFD90, 0xFD91),
  (0xFDC8, 0xFDCF), (0xFDFC, 0xFE6B), (0xFF01, 0xFF0F), (0xFF1A, 0xFF20), (0xFF3B, 0xFF40),
  (0xFF5B, 0xFF65), (0xFFE0, 0xFFFD), (0x10100, 0x10102), (0x10137, 0x1013F), (0x10179, 0x10189),
  (0x1018C, 0x101FD), (0x102E0, 0x102E0), (0x1039F, 0x1039F), (0x103D0, 0x103D0),
  (0x1056F, 0x1056F), (0x10857, 0x10857), (0x10877, 0x10878), (0x1091F, 0x1091F),
  (0x1093F, 0x1093F), (0x10A38, 0x10A3F), (0x10A50, 0x10A58), (0x10A7F, 0x10A7F),
  (0x10AC8, 0x10AC8), (0x10AE5, 0x10AE6), (0x10AF0, 0x10AF6), (0x10B39, 0x10B3F),
  (0x10B99, 0x10B9C), (0x10D6A, 0x10D6E), (0x10D8E, 0x10D8F), (0x10EAD, 0x10EAD),
  (0x10ED0, 0x10ED8), (0x10EFD, 0x10EFF), (0x10F46, 0x10F50), (0x10F55, 0x10F59),
  (0x10F82, 0x10F89), (0x11046, 0x1104D), (0x11070, 0x11070), (0x1107F, 0x1107F),
  (0x110B9, 0x110C1), (0x11133, 0x11134), (0x11140, 0x11143), (0x11173, 0x11175),
  (0x111C0, 0x111C0), (0x111C5, 0x111CD), (0x111DB, 0x111DB), (0x111DD, 0x111DF),
  (0x11235, 0x11236), (0x11238, 0x1123D), (0x112A9, 0x112A9), (0x112E9, 0x112EA),
  (0x1133B, 0x1133C), (0x1134D, 0x1134D), (0x11366, 0x11374), (0x113CE, 0x113D0),
  (0x113D2, 0x113D2), (0x113D4, 0x113E2), (0x11442, 0x11442), (0x11446, 0x11446),
  (0x1144B, 0x1144F), (0x1145A, 0x1145E), (0x114C2, 0x114C3), (0x114C6, 0x114C6),
  (0x115BF, 0x115D7), (0x1163F, 0x1163F), (0x11641, 0x11643), (0x11660, 0x1166C),
  (0x116B6, 0x116B7), (0x116B9, 0x116B9), (0x1172B, 0x1172B), (0x1173C, 0x1173F),
  (0x11839, 0x1183B), (0x1193D, 0x1193E), (0x11943, 0x11946), (0x119E0, 0x119E0),
  (0x119E2, 0x119E2), (0x11A33, 0x11A34), (0x11A3F, 0x11A47), (0x11A98, 0x11A9C),
  (0x11A9E, 0x11AA2), (0x11B00, 0x11B09), (0x11BE1, 0x11BE1), (0x11C3F, 0x11C3F),
  (0x11C41, 0x11C45), (0x11C70, 0x11C71), (0x11D42, 0x11D42), (0x11D44, 0x11D45),
  (0x11D97, 0x11D97), (0x11EF7, 0x11EF8), (0x11F41, 0x11F4F), (0x11F5A, 0x11F5A),
  (0x11FD5, 0x11FFF), (0x12470, 0x12474), (0x12FF1, 0x12FF2), (0x13440, 0x13440),
  (0x13447, 0x13455), (0x1612F, 0x1612F), (0x16A6E, 0x16A6F), (0x16AF0, 0x16AF5),
  (0x16B30, 0x16B3F), (0x16B44, 0x16B45), (0x16D6D, 0x16D6F), (0x16E97, 0x16E9A),
  (0x16FE2, 0x16FE2), (0x16FE4, 0x16FE4), (0x1BC9C, 0x1BC9D), (0x1BC9F, 0x1CCEF),
  (0x1CCFA, 0x1D245), (0x1D300, 0x1D356), (0x1D6C1, 0x1D6C1), (0x1D6DB, 0x1D6DB),
  (0x1D6FB, 0x1D6FB), (0x1D715, 0x1D715), (0x1D735, 0x1D735), (0x1D74F, 0x1D74F),
  (0x1D76F, 0x1D76F), (0x1D789, 0x1D789), (0x1D7A9, 0x1D7A9), (0x1D7C3, 0x1D7C3),
  (0x1D800, 0x1DAAF), (0x1E130, 0x1E136), (0x1E14F, 0x1E14F), (0x1E2AE, 0x1E2AE),
  (0x1E2EC, 0x1E2EF), (0x1E2FF, 0x1E2FF), (0x1E4EC, 0x1E4EF), (0x1E5EE, 0x1E5EF),
  (0x1E5FF, 0x1E5FF), (0x1E8D0, 0x1E8D6), (0x1E944, 0x1E946), (0x1E948, 0x1E94A),
  (0x1E95E, 0x1E95F), (0x1ECAC, 0x1ECAC), (0x1ECB0, 0x1ECB0), (0x1ED2E, 0x1ED2E),
  (0x1EEF0, 0x1F0F5), (0x1F10D, 0x1F12F), (0x1F14A, 0x1F14F), (0x1F16A, 0x1F16F),
  (0x1F18A, 0x1FBEF), (0x1FBFA, 0x1FBFA), (0xE0100, 0xE01EF)]

def isLetterOrDigit (c : Char) : Bool :=
  if c.toNat < 0x80 then c.isAlphanum else !isHidden c && !inRanges symbolRanges c

end Herald.Text
