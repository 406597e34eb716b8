import ApiProxy.Unicode.Visible

/-! The properties of characters that decide which labels a host name may have: which characters are admitted
at all, which are marks, in which direction they are written, and how letters join their neighbours. The data
are those of the Unicode character database and of Unicode Technical Standard 46, version 17, for the
characters that an admitted name can hold. -/

namespace ApiProxy.Url.Domain

open Unicode

/-- Formless characters that are admitted, or are mapped to others. -/
def formlessAdmittedRuns : List Run := [
  ⟨0x0, 0x1F, 1⟩, ⟨0x7F, 0x7F, 1⟩, ⟨0xA0, 0xA0, 1⟩, ⟨0xAD, 0xAD, 1⟩, ⟨0x180E, 0x180E, 1⟩, ⟨0x2000, 0x200D, 1⟩,
  ⟨0x202F, 0x202F, 1⟩, ⟨0x205F, 0x2064, 1⟩, ⟨0x206A, 0x206F, 1⟩, ⟨0x3000, 0x3000, 1⟩, ⟨0xFEFF, 0xFEFF, 1⟩,
  ⟨0x1BCA0, 0x1BCA3, 1⟩, ⟨0x1D173, 0x1D17A, 1⟩]

/-- Visible characters that are refused. -/
def visibleRefusedRuns : List Run := [
  ⟨0x2024, 0x2026, 1⟩, ⟨0x2488, 0x249B, 1⟩, ⟨0x2FF0, 0x2FFF, 1⟩, ⟨0x31EF, 0x31EF, 1⟩, ⟨0x33C2, 0x33C2, 1⟩,
  ⟨0x33C7, 0x33C7, 1⟩, ⟨0x33D8, 0x33D8, 1⟩, ⟨0xFE12, 0xFE12, 1⟩, ⟨0xFE19, 0xFE19, 1⟩, ⟨0xFE30, 0xFE30, 1⟩,
  ⟨0xFE52, 0xFE52, 1⟩, ⟨0xFFFC, 0xFFFD, 1⟩, ⟨0x1F100, 0x1F100, 1⟩]

def isAdmitted (c : Char) : Bool :=
  (!covers formlessRuns c || covers formlessAdmittedRuns c) && !covers visibleRefusedRuns c

/-- Characters that extend the one before them and yet take room of their own. -/
def spacingExtenderRuns : List Run := [
  ⟨0x9BE, 0x9BE, 1⟩, ⟨0x9D7, 0x9D7, 1⟩, ⟨0xB3E, 0xB3E, 1⟩, ⟨0xB57, 0xB57, 1⟩, ⟨0xBBE, 0xBBE, 1⟩,
  ⟨0xBD7, 0xBD7, 1⟩, ⟨0xCBF, 0xCC0, 1⟩, ⟨0xCC2, 0xCC2, 1⟩, ⟨0xCC6, 0xCCB, 1⟩, ⟨0xCD5, 0xCD6, 1⟩,
  ⟨0xD3E, 0xD3E, 1⟩, ⟨0xD57, 0xD57, 1⟩, ⟨0xDCF, 0xDCF, 1⟩, ⟨0xDDF, 0xDDF, 1⟩, ⟨0x1715, 0x1715, 1⟩,
  ⟨0x1734, 0x1734, 1⟩, ⟨0x1B35, 0x1B35, 1⟩, ⟨0x1B3B, 0x1B3B, 1⟩, ⟨0x1B3D, 0x1B3D, 1⟩, ⟨0x1B43, 0x1B44, 1⟩,
  ⟨0x1BAA, 0x1BAA, 1⟩, ⟨0x1BF2, 0x1BF3, 1⟩, ⟨0x200C, 0x200C, 1⟩, ⟨0x302E, 0x302F, 1⟩, ⟨0xA953, 0xA953, 1⟩,
  ⟨0xA9C0, 0xA9C0, 1⟩, ⟨0x111C0, 0x111C0, 1⟩, ⟨0x11235, 0x11235, 1⟩, ⟨0x1133E, 0x1133E, 1⟩,
  ⟨0x1134D, 0x1134D, 1⟩, ⟨0x11357, 0x11357, 1⟩, ⟨0x113B8, 0x113B8, 1⟩, ⟨0x113C2, 0x113C9, 1⟩,
  ⟨0x113CF, 0x113CF, 1⟩, ⟨0x114B0, 0x114B0, 1⟩, ⟨0x114BD, 0x114BD, 1⟩, ⟨0x115AF, 0x115AF, 1⟩,
  ⟨0x116B6, 0x116B6, 1⟩, ⟨0x11930, 0x11930, 1⟩, ⟨0x1193D, 0x1193D, 1⟩, ⟨0x11A07, 0x11A08, 1⟩,
  ⟨0x11C3F, 0x11C3F, 1⟩, ⟨0x11F41, 0x11F41, 1⟩, ⟨0x16FF0, 0x16FF1, 1⟩, ⟨0x1D165, 0x1D166, 1⟩,
  ⟨0x1D16D, 0x1D172, 1⟩]

/-- Marks that do not extend the character before them. -/
def spacingMarkRuns : List Run := [
  ⟨0x903, 0x903, 1⟩, ⟨0x93B, 0x93B, 1⟩, ⟨0x93E, 0x94F, 1⟩, ⟨0x982, 0x983, 1⟩, ⟨0x9BF, 0x9CC, 1⟩,
  ⟨0xA03, 0xA03, 1⟩, ⟨0xA3E, 0xA40, 1⟩, ⟨0xA83, 0xA83, 1⟩, ⟨0xABE, 0xACC, 1⟩, ⟨0xB02, 0xB03, 1⟩,
  ⟨0xB40, 0xB4C, 1⟩, ⟨0xBBF, 0xBCC, 1⟩, ⟨0xC01, 0xC03, 1⟩, ⟨0xC41, 0xC44, 1⟩, ⟨0xC82, 0xC83, 1⟩,
  ⟨0xCBE, 0xCC4, 1⟩, ⟨0xCF3, 0xD03, 1⟩, ⟨0xD3F, 0xD4C, 1⟩, ⟨0xD82, 0xD83, 1⟩, ⟨0xDD0, 0xDDE, 1⟩,
  ⟨0xDF2, 0xDF3, 1⟩, ⟨0xF3E, 0xF3F, 1⟩, ⟨0xF7F, 0xF7F, 1⟩, ⟨0x102B, 0x103C, 1⟩, ⟨0x1056, 0x1057, 1⟩,
  ⟨0x1062, 0x1064, 1⟩, ⟨0x1067, 0x106D, 1⟩, ⟨0x1083, 0x108C, 1⟩, ⟨0x108F, 0x108F, 1⟩, ⟨0x109A, 0x109C, 1⟩,
  ⟨0x17B6, 0x17C8, 1⟩, ⟨0x1923, 0x1938, 1⟩, ⟨0x1A19, 0x1A1A, 1⟩, ⟨0x1A55, 0x1A72, 1⟩, ⟨0x1B04, 0x1B04, 1⟩,
  ⟨0x1B3E, 0x1B41, 1⟩, ⟨0x1B82, 0x1B82, 1⟩, ⟨0x1BA1, 0x1BA7, 1⟩, ⟨0x1BE7, 0x1BEE, 1⟩, ⟨0x1C24, 0x1C35, 1⟩,
  ⟨0x1CE1, 0x1CE1, 1⟩, ⟨0x1CF7, 0x1CF7, 1⟩, ⟨0xA823, 0xA827, 1⟩, ⟨0xA880, 0xA881, 1⟩, ⟨0xA8B4, 0xA8C3, 1⟩,
  ⟨0xA952, 0xA952, 1⟩, ⟨0xA983, 0xA983, 1⟩, ⟨0xA9B4, 0xA9BF, 1⟩, ⟨0xAA2F, 0xAA34, 1⟩, ⟨0xAA4D, 0xAA4D, 1⟩,
  ⟨0xAA7B, 0xAA7D, 1⟩, ⟨0xAAEB, 0xAAEF, 1⟩, ⟨0xAAF5, 0xAAF5, 1⟩, ⟨0xABE3, 0xABEA, 1⟩, ⟨0xABEC, 0xABEC, 1⟩,
  ⟨0x11000, 0x11002, 1⟩, ⟨0x11082, 0x11082, 1⟩, ⟨0x110B0, 0x110B8, 1⟩, ⟨0x1112C, 0x1112C, 1⟩,
  ⟨0x11145, 0x11146, 1⟩, ⟨0x11182, 0x11182, 1⟩, ⟨0x111B3, 0x111BF, 1⟩, ⟨0x111CE, 0x111CE, 1⟩,
  ⟨0x1122C, 0x11233, 1⟩, ⟨0x112E0, 0x112E2, 1⟩, ⟨0x11302, 0x11303, 1⟩, ⟨0x1133F, 0x1134C, 1⟩,
  ⟨0x11362, 0x11363, 1⟩, ⟨0x113B9, 0x113CD, 1⟩, ⟨0x11435, 0x11445, 1⟩, ⟨0x114B1, 0x114C1, 1⟩,
  ⟨0x115B0, 0x115BE, 1⟩, ⟨0x11630, 0x1163E, 1⟩, ⟨0x116AC, 0x116AF, 1⟩, ⟨0x1171E, 0x11726, 1⟩,
  ⟨0x1182C, 0x11838, 1⟩, ⟨0x11931, 0x11938, 1⟩, ⟨0x11940, 0x11940, 1⟩, ⟨0x11942, 0x11942, 1⟩,
  ⟨0x119D1, 0x119DF, 1⟩, ⟨0x119E4, 0x119E4, 1⟩, ⟨0x11A39, 0x11A39, 1⟩, ⟨0x11A57, 0x11A58, 1⟩,
  ⟨0x11A97, 0x11A97, 1⟩, ⟨0x11B61, 0x11B67, 1⟩, ⟨0x11C2F, 0x11C3E, 1⟩, ⟨0x11CA9, 0x11CB4, 1⟩,
  ⟨0x11D8A, 0x11D96, 1⟩, ⟨0x11EF5, 0x11EF6, 1⟩, ⟨0x11F03, 0x11F03, 1⟩, ⟨0x11F34, 0x11F3F, 1⟩,
  ⟨0x1612A, 0x1612C, 1⟩, ⟨0x16F51, 0x16F87, 1⟩]

def nonJoiner : Char := '\u200C'

def joiner : Char := '\u200D'

def isMark (c : Char) : Bool := (covers extendingRuns c && c ≠ nonJoiner) || covers spacingMarkRuns c

def isNonspacing (c : Char) : Bool := covers extendingRuns c && !covers spacingExtenderRuns c

def rightToLeftRuns : List Run := [
  ⟨0x5BE, 0x5BE, 1⟩, ⟨0x5C0, 0x5C0, 1⟩, ⟨0x5C3, 0x5C3, 1⟩, ⟨0x5C6, 0x5C6, 1⟩, ⟨0x5D0, 0x5F4, 1⟩,
  ⟨0x608, 0x608, 1⟩, ⟨0x60B, 0x60B, 1⟩, ⟨0x60D, 0x60D, 1⟩, ⟨0x61B, 0x64A, 1⟩, ⟨0x66D, 0x66F, 1⟩,
  ⟨0x671, 0x6D5, 1⟩, ⟨0x6E5, 0x6E6, 1⟩, ⟨0x6EE, 0x6EF, 1⟩, ⟨0x6FA, 0x710, 1⟩, ⟨0x712, 0x72F, 1⟩,
  ⟨0x74D, 0x7A5, 1⟩, ⟨0x7B1, 0x7EA, 1⟩, ⟨0x7F4, 0x7F5, 1⟩, ⟨0x7FA, 0x7FA, 1⟩, ⟨0x7FE, 0x815, 1⟩,
  ⟨0x81A, 0x81A, 1⟩, ⟨0x824, 0x824, 1⟩, ⟨0x828, 0x828, 1⟩, ⟨0x830, 0x858, 1⟩, ⟨0x85E, 0x88F, 1⟩,
  ⟨0x8A0, 0x8C9, 1⟩, ⟨0xFBB2, 0xFBD2, 1⟩, ⟨0xFD90, 0xFDCE, 1⟩, ⟨0xFE73, 0xFE73, 1⟩, ⟨0x10800, 0x1091B, 1⟩,
  ⟨0x10920, 0x10A00, 1⟩, ⟨0x10A10, 0x10A35, 1⟩, ⟨0x10A40, 0x10AE4, 1⟩, ⟨0x10AEB, 0x10B35, 1⟩,
  ⟨0x10B40, 0x10D23, 1⟩, ⟨0x10D40, 0x10D4F, 1⟩, ⟨0x10D6E, 0x10D8F, 1⟩, ⟨0x10E80, 0x10EA9, 1⟩,
  ⟨0x10EAD, 0x10ED8, 1⟩, ⟨0x10F00, 0x10F45, 1⟩, ⟨0x10F51, 0x10F81, 1⟩, ⟨0x10F86, 0x10FF6, 1⟩,
  ⟨0x1E800, 0x1E8CF, 1⟩, ⟨0x1E922, 0x1E943, 1⟩, ⟨0x1E94B, 0x1ED3D, 1⟩]

def arabicNumberRuns : List Run := [
  ⟨0x660, 0x669, 1⟩, ⟨0x66B, 0x66C, 1⟩, ⟨0x10D30, 0x10D39, 1⟩, ⟨0x10E60, 0x10E7E, 1⟩]

def europeanNumberRuns : List Run := [
  ⟨0x30, 0x39, 1⟩, ⟨0x6F0, 0x6F9, 1⟩, ⟨0x102E1, 0x102FB, 1⟩]

/-- Separators, terminators and other characters without a direction. -/
def neutralRuns : List Run := [
  ⟨0x0, 0x8, 1⟩, ⟨0xE, 0x1B, 1⟩, ⟨0x21, 0x2F, 1⟩, ⟨0x3A, 0x60, 1⟩, ⟨0x7B, 0xD7, 1⟩, ⟨0xF7, 0xF7, 1⟩,
  ⟨0x2B9, 0x2BA, 1⟩, ⟨0x2C2, 0x2CF, 1⟩, ⟨0x2D2, 0x2ED, 1⟩, ⟨0x2EF, 0x2FF, 1⟩, ⟨0x375, 0x375, 1⟩,
  ⟨0x3F6, 0x3F6, 1⟩, ⟨0x58A, 0x58F, 1⟩, ⟨0x606, 0x607, 1⟩, ⟨0x609, 0x60A, 1⟩, ⟨0x60C, 0x60C, 1⟩,
  ⟨0x60E, 0x60F, 1⟩, ⟨0x66A, 0x66A, 1⟩, ⟨0x6DE, 0x6DE, 1⟩, ⟨0x6E9, 0x6E9, 1⟩, ⟨0x7F6, 0x7F9, 1⟩,
  ⟨0x9F2, 0x9F3, 1⟩, ⟨0x9FB, 0x9FB, 1⟩, ⟨0xAF1, 0xAF1, 1⟩, ⟨0xBF3, 0xBFA, 1⟩, ⟨0xC78, 0xC7E, 1⟩,
  ⟨0xE3F, 0xE3F, 1⟩, ⟨0xF3A, 0xF3D, 1⟩, ⟨0x1390, 0x1399, 1⟩, ⟨0x1400, 0x1400, 1⟩, ⟨0x169B, 0x169C, 1⟩,
  ⟨0x17DB, 0x17DB, 1⟩, ⟨0x17F0, 0x180A, 1⟩, ⟨0x1940, 0x1945, 1⟩, ⟨0x19DE, 0x19FF, 1⟩, ⟨0x1B4E, 0x1B4F, 1⟩,
  ⟨0x1B7F, 0x1B7F, 1⟩, ⟨0x200C, 0x20C1, 1⟩, ⟨0x2104, 0x214D, 1⟩, ⟨0x218A, 0x2335, 1⟩, ⟨0x237B, 0x2394, 1⟩,
  ⟨0x2396, 0x26AB, 1⟩, ⟨0x26AD, 0x27FF, 1⟩, ⟨0x2900, 0x2BFF, 1⟩, ⟨0x2CE5, 0x2CEA, 1⟩, ⟨0x2CF9, 0x2CFF, 1⟩,
  ⟨0x2E00, 0x3004, 1⟩, ⟨0x3008, 0x3020, 1⟩, ⟨0x3030, 0x3030, 1⟩, ⟨0x3037, 0x3037, 1⟩, ⟨0x303D, 0x303F, 1⟩,
  ⟨0x30A0, 0x30A0, 1⟩, ⟨0x30FB, 0x30FB, 1⟩, ⟨0x31C0, 0x31E5, 1⟩, ⟨0x4DC0, 0x4DFF, 1⟩, ⟨0xA490, 0xA4C6, 1⟩,
  ⟨0xA60D, 0xA60F, 1⟩, ⟨0xA673, 0xA673, 1⟩, ⟨0xA67E, 0xA67F, 1⟩, ⟨0xA700, 0xA721, 1⟩, ⟨0xA788, 0xA788, 1⟩,
  ⟨0xA828, 0xA82B, 1⟩, ⟨0xA838, 0xA839, 1⟩, ⟨0xA874, 0xA877, 1⟩, ⟨0xAB6A, 0xAB6B, 1⟩, ⟨0xFD3E, 0xFD4F, 1⟩,
  ⟨0xFDCF, 0xFDFF, 1⟩, ⟨0xFE45, 0xFE46, 1⟩, ⟨0x10101, 0x10101, 1⟩, ⟨0x10140, 0x1018C, 1⟩, ⟨0x10190, 0x101A0, 1⟩,
  ⟨0x1091F, 0x1091F, 1⟩, ⟨0x10B39, 0x10B3F, 1⟩, ⟨0x11052, 0x11065, 1⟩, ⟨0x113D4, 0x113D8, 1⟩,
  ⟨0x11660, 0x1166C, 1⟩, ⟨0x11BE1, 0x11BE1, 1⟩, ⟨0x11FD5, 0x11FF1, 1⟩, ⟨0x16D6D, 0x16D6F, 1⟩,
  ⟨0x16FE2, 0x16FE2, 1⟩, ⟨0x1CC00, 0x1CEF0, 1⟩, ⟨0x1D1E9, 0x1D241, 1⟩, ⟨0x1D245, 0x1D245, 1⟩,
  ⟨0x1D300, 0x1D356, 1⟩, ⟨0x1E2FF, 0x1E2FF, 1⟩, ⟨0x1E5FF, 0x1E5FF, 1⟩, ⟨0x1EEF0, 0x1F12F, 1⟩,
  ⟨0x1F16D, 0x1F16F, 1⟩, ⟨0x1F1AD, 0x1F1AD, 1⟩, ⟨0x1F260, 0x1FBFA, 1⟩]

inductive Direction where
  | leftToRight
  | rightToLeft
  | arabicNumber
  | europeanNumber
  | neutral
  | nonspacing
deriving DecidableEq, Repr

def direction (c : Char) : Direction :=
  if isNonspacing c then .nonspacing
  else if covers europeanNumberRuns c then .europeanNumber
  else if covers neutralRuns c then .neutral
  else if covers rightToLeftRuns c then .rightToLeft
  else if covers arabicNumberRuns c then .arabicNumber
  else .leftToRight

/-- Letters that join on both sides. -/
def dualJoiningRuns : List Run := [
  ⟨0x620, 0x620, 1⟩, ⟨0x626, 0x626, 1⟩, ⟨0x628, 0x628, 1⟩, ⟨0x62A, 0x62E, 1⟩, ⟨0x633, 0x63F, 1⟩,
  ⟨0x641, 0x647, 1⟩, ⟨0x649, 0x64A, 1⟩, ⟨0x66E, 0x66F, 1⟩, ⟨0x679, 0x687, 1⟩, ⟨0x69A, 0x6BF, 1⟩,
  ⟨0x6C1, 0x6C2, 1⟩, ⟨0x6CC, 0x6CC, 1⟩, ⟨0x6CE, 0x6CE, 1⟩, ⟨0x6D0, 0x6D1, 1⟩, ⟨0x6FA, 0x6FC, 1⟩,
  ⟨0x6FF, 0x6FF, 1⟩, ⟨0x712, 0x714, 1⟩, ⟨0x71A, 0x71D, 1⟩, ⟨0x71F, 0x727, 1⟩, ⟨0x729, 0x729, 1⟩,
  ⟨0x72B, 0x72B, 1⟩, ⟨0x72D, 0x72E, 1⟩, ⟨0x74E, 0x758, 1⟩, ⟨0x75C, 0x76A, 1⟩, ⟨0x76D, 0x770, 1⟩,
  ⟨0x772, 0x772, 1⟩, ⟨0x775, 0x777, 1⟩, ⟨0x77A, 0x77F, 1⟩, ⟨0x7CA, 0x7EA, 1⟩, ⟨0x841, 0x845, 1⟩,
  ⟨0x848, 0x848, 1⟩, ⟨0x84A, 0x853, 1⟩, ⟨0x855, 0x855, 1⟩, ⟨0x860, 0x860, 1⟩, ⟨0x862, 0x865, 1⟩,
  ⟨0x868, 0x868, 1⟩, ⟨0x886, 0x886, 1⟩, ⟨0x889, 0x88D, 1⟩, ⟨0x88F, 0x88F, 1⟩, ⟨0x8A0, 0x8A9, 1⟩,
  ⟨0x8AF, 0x8B0, 1⟩, ⟨0x8B3, 0x8B8, 1⟩, ⟨0x8BA, 0x8C8, 1⟩, ⟨0x1807, 0x1807, 1⟩, ⟨0x1820, 0x1878, 1⟩,
  ⟨0x1887, 0x18A8, 1⟩, ⟨0x18AA, 0x18AA, 1⟩, ⟨0xA840, 0xA871, 1⟩, ⟨0x10AC0, 0x10AC4, 1⟩, ⟨0x10AD3, 0x10AD6, 1⟩,
  ⟨0x10AD8, 0x10ADC, 1⟩, ⟨0x10ADE, 0x10AE0, 1⟩, ⟨0x10AEB, 0x10AEE, 1⟩, ⟨0x10B80, 0x10B80, 1⟩,
  ⟨0x10B82, 0x10B82, 1⟩, ⟨0x10B86, 0x10B88, 1⟩, ⟨0x10B8A, 0x10B8B, 1⟩, ⟨0x10B8D, 0x10B8D, 1⟩,
  ⟨0x10B90, 0x10B90, 1⟩, ⟨0x10BAD, 0x10BAE, 1⟩, ⟨0x10D01, 0x10D21, 1⟩, ⟨0x10D23, 0x10D23, 1⟩,
  ⟨0x10EC3, 0x10EC4, 1⟩, ⟨0x10EC6, 0x10EC7, 1⟩, ⟨0x10F30, 0x10F32, 1⟩, ⟨0x10F34, 0x10F44, 1⟩,
  ⟨0x10F51, 0x10F53, 1⟩, ⟨0x10F70, 0x10F73, 1⟩, ⟨0x10F76, 0x10F81, 1⟩, ⟨0x10FB0, 0x10FB0, 1⟩,
  ⟨0x10FB2, 0x10FB3, 1⟩, ⟨0x10FB8, 0x10FB8, 1⟩, ⟨0x10FBB, 0x10FBC, 1⟩, ⟨0x10FBE, 0x10FBF, 1⟩,
  ⟨0x10FC1, 0x10FC1, 1⟩, ⟨0x10FC4, 0x10FC4, 1⟩, ⟨0x10FCA, 0x10FCA, 1⟩, ⟨0x1E922, 0x1E943, 1⟩]

/-- Letters that join the one after them alone. -/
def leftJoiningRuns : List Run := [
  ⟨0xA872, 0xA872, 1⟩, ⟨0x10ACD, 0x10ACD, 1⟩, ⟨0x10AD7, 0x10AD7, 1⟩, ⟨0x10D00, 0x10D00, 1⟩,
  ⟨0x10FCB, 0x10FCB, 1⟩]

/-- Letters that join the one before them alone. -/
def rightJoiningRuns : List Run := [
  ⟨0x622, 0x625, 1⟩, ⟨0x627, 0x627, 1⟩, ⟨0x629, 0x629, 1⟩, ⟨0x62F, 0x632, 1⟩, ⟨0x648, 0x648, 1⟩,
  ⟨0x671, 0x673, 1⟩, ⟨0x688, 0x699, 1⟩, ⟨0x6C0, 0x6C0, 1⟩, ⟨0x6C3, 0x6CB, 1⟩, ⟨0x6CD, 0x6CD, 1⟩,
  ⟨0x6CF, 0x6CF, 1⟩, ⟨0x6D2, 0x6D3, 1⟩, ⟨0x6D5, 0x6D5, 1⟩, ⟨0x6EE, 0x6EF, 1⟩, ⟨0x710, 0x710, 1⟩,
  ⟨0x715, 0x719, 1⟩, ⟨0x71E, 0x71E, 1⟩, ⟨0x728, 0x728, 1⟩, ⟨0x72A, 0x72A, 1⟩, ⟨0x72C, 0x72C, 1⟩,
  ⟨0x72F, 0x72F, 1⟩, ⟨0x74D, 0x74D, 1⟩, ⟨0x759, 0x75B, 1⟩, ⟨0x76B, 0x76C, 1⟩, ⟨0x771, 0x771, 1⟩,
  ⟨0x773, 0x774, 1⟩, ⟨0x778, 0x779, 1⟩, ⟨0x840, 0x840, 1⟩, ⟨0x846, 0x847, 1⟩, ⟨0x849, 0x849, 1⟩,
  ⟨0x854, 0x854, 1⟩, ⟨0x856, 0x858, 1⟩, ⟨0x867, 0x867, 1⟩, ⟨0x869, 0x882, 1⟩, ⟨0x88E, 0x88E, 1⟩,
  ⟨0x8AA, 0x8AC, 1⟩, ⟨0x8AE, 0x8AE, 1⟩, ⟨0x8B1, 0x8B2, 1⟩, ⟨0x8B9, 0x8B9, 1⟩, ⟨0x10AC5, 0x10AC5, 1⟩,
  ⟨0x10AC7, 0x10AC7, 1⟩, ⟨0x10AC9, 0x10ACA, 1⟩, ⟨0x10ACE, 0x10AD2, 1⟩, ⟨0x10ADD, 0x10ADD, 1⟩,
  ⟨0x10AE1, 0x10AE1, 1⟩, ⟨0x10AE4, 0x10AE4, 1⟩, ⟨0x10AEF, 0x10AEF, 1⟩, ⟨0x10B81, 0x10B81, 1⟩,
  ⟨0x10B83, 0x10B85, 1⟩, ⟨0x10B89, 0x10B89, 1⟩, ⟨0x10B8C, 0x10B8C, 1⟩, ⟨0x10B8E, 0x10B8F, 1⟩,
  ⟨0x10B91, 0x10B91, 1⟩, ⟨0x10BA9, 0x10BAC, 1⟩, ⟨0x10D22, 0x10D22, 1⟩, ⟨0x10EC2, 0x10EC2, 1⟩,
  ⟨0x10F33, 0x10F33, 1⟩, ⟨0x10F54, 0x10F54, 1⟩, ⟨0x10F74, 0x10F75, 1⟩, ⟨0x10FB4, 0x10FB6, 1⟩,
  ⟨0x10FB9, 0x10FBA, 1⟩, ⟨0x10FBD, 0x10FBD, 1⟩, ⟨0x10FC2, 0x10FC3, 1⟩, ⟨0x10FC9, 0x10FC9, 1⟩]

def joinsNext (c : Char) : Bool := covers dualJoiningRuns c || covers leftJoiningRuns c

def joinsPrevious (c : Char) : Bool := covers dualJoiningRuns c || covers rightJoiningRuns c

/-- Spacing characters through which letters join all the same. -/
def transparentRuns : List Run := [
  ⟨0xCBF, 0xCBF, 1⟩, ⟨0xCC6, 0xCC6, 1⟩, ⟨0x11A07, 0x11A08, 1⟩, ⟨0x11C3F, 0x11C3F, 1⟩, ⟨0x1E94B, 0x1E94B, 1⟩]

def isTransparent (c : Char) : Bool := isNonspacing c || covers transparentRuns c

end ApiProxy.Url.Domain
