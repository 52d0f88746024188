import Upkeep.Unicode.Mark
/-!
Writing direction.

The tables have the characters that are valid in host names. Every other character is written from
left to right.
-/

namespace Upkeep.Unicode

/-- How a character takes part in the direction of its text. -/
inductive Direction where
  | leftToRight
  | rightToLeft
  | arabicNumber
  | europeanNumber
  /-- The character goes with the ones around it. -/
  | neutral
  /-- The character separates texts. -/
  | separator
  | mark
deriving DecidableEq, Repr

/-- The letters that are written from right to left. -/
def rightToLeftLetters : CharSet := .ofText
  "05BE 05C0 05C3 05C6 05D0-05EA 05EF-05F4 0608 060B 060D 061B 061D-064A 066D-066F 0671-0674
  0679-06D5 06E5-06E6 06EE-06EF 06FA-070D 0710 0712-072F 074D-07A5 07B1 07C0-07EA 07F4-07F5 07FA
  07FE-0815 081A 0824 0828 0830-083E 0840-0858 085E 0860-086A 0870-088F 08A0-08C9 FBB2-FBC2 FE73
  10800-10805 10808 1080A-10835 10837-10838 1083C 1083F-10855 10857-1089E 108A7-108AF 108E0-108F2
  108F4-108F5 108FB-1091B 10920-10939 1093F-10959 10980-109B7 109BC-109CF 109D2-10A00 10A10-10A13
  10A15-10A17 10A19-10A35 10A40-10A48 10A50-10A58 10A60-10A9F 10AC0-10AE4 10AEB-10AF6 10B00-10B35
  10B40-10B55 10B58-10B72 10B78-10B91 10B99-10B9C 10BA9-10BAF 10C00-10C48 10CC0-10CF2 10CFA-10D23
  10D4A-10D4F 10D6F-10D85 10D8E-10D8F 10E80-10EA9 10EAD 10EB0-10EB1 10EC2-10EC7 10ED0 10F00-10F27
  10F30-10F45 10F51-10F59 10F70-10F81 10F86-10F89 10FB0-10FCB 10FE0-10FF6 1E800-1E8C4 1E8C7-1E8CF
  1E922-1E943 1E94B 1E950-1E959 1E95E-1E95F 1EC71-1ECB4 1ED01-1ED3D"

/-- The digits and marks of numbers in Arabic texts. -/
def arabicNumbers : CharSet := .ofText
  "0660-0669 066B-066C 10D30-10D39 10E60-10E7E"

/-- The digits of other numbers. -/
def europeanNumbers : CharSet := .ofText
  "0030-0039 06F0-06F9 102E1-102FB 10D40-10D49"

/-- The characters that go with the ones around them. -/
def neutrals : CharSet := .ofText
  "0000-0008 000E-001B 0021-002F 003A-0040 005B-0060 007B-007F 00A1-00A7 00A9 00AB-00AC 00AE
  00B0-00B1 00B6-00B7 00BB 00BF 00D7 00F7 02B9-02BA 02C2-02CF 02D2-02D7 02DE-02DF 02E5-02ED
  02EF-02FF 0375 03F6 058A 058D-058F 0606-0607 0609-060A 060C 060E-060F 066A 06DE 06E9 07F6-07F9
  09F2-09F3 09FB 0AF1 0BF3-0BFA 0C78-0C7E 0E3F 0F3A-0F3D 1390-1399 1400 169B-169C 17DB 17F0-17F9
  1800-180A 1940 1944-1945 19DE-19FF 200C-200D 2010 2012-2016 2018-2023 2027 2030-2032 2035
  2038-203B 203D 203F-2046 204A-2056 2058-205E 20A0-20A7 20A9-20C1 2104 2108 2114 2117-2118
  211E-211F 2123 2125 2127 2129 212E 213A 2141-2144 214A-214D 218A-218B 2190-222B 222E 2231-2328
  232B-2335 237B-2394 2396-2429 2440-244A 24EB-26AB 26AD-27FF 2900-2A0B 2A0D-2A73 2A77-2ADB
  2ADD-2B73 2B76-2BFF 2CE5-2CEA 2CF9-2CFF 2E00-2E5D 2E80-2E99 2E9B-2E9E 2EA0-2EF2 3001 3003-3004
  3008-3020 3030 3037 303D-303F 30A0 30FB 31C0-31E5 4DC0-4DFF A490-A4C6 A60D-A60F A673 A67E-A67F
  A700-A721 A788 A828-A82B A838-A839 A874-A877 AB6A-AB6B FBC3-FBD2 FD3E-FD4F FD90-FD91 FDC8-FDCF
  FDFD-FDFF FE45-FE46 10101 10140-1018C 10190-1019C 101A0 1091F 10B39-10B3F 10D6E 10ED1-10ED8
  11052-11065 11660-1166C 11FD5-11FF1 16FE2 1CC00-1CCD5 1CCFA-1CCFC 1CD00-1CEB3 1CEBA-1CED0
  1CEE0-1CEF0 1D1E9-1D1EA 1D200-1D241 1D245 1D300-1D356 1E2FF 1EEF0-1EEF1 1F000-1F02B 1F030-1F093
  1F0A0-1F0AE 1F0B1-1F0BF 1F0C1-1F0CF 1F0D1-1F0F5 1F10B-1F10F 1F12F 1F16D-1F16F 1F1AD 1F260-1F265
  1F300-1F6D8 1F6DC-1F6EC 1F6F0-1F6FC 1F700-1F7D9 1F7E0-1F7EB 1F7F0 1F800-1F80B 1F810-1F847
  1F850-1F859 1F860-1F887 1F890-1F8AD 1F8B0-1F8BB 1F8C0-1F8C1 1F8D0-1F8D8 1F900-1FA57 1FA60-1FA6D
  1FA70-1FA7C 1FA80-1FA8A 1FA8E-1FAC6 1FAC8 1FACD-1FADC 1FADF-1FAEA 1FAEF-1FAF8 1FB00-1FB92
  1FB94-1FBEF 1FBFA"

/-- The characters that separate texts. -/
def separators : CharSet := .ofText
  "0009-000D 001C-0020"

/-- The marks that are written from left to right like letters. -/
def directedMarks : CharSet := .ofText
  "0CBF 0CC6 11A07-11A08 11C3F"

namespace Direction

/-- The direction of a character. -/
def ofChar (c : Char) : Direction :=
  if 'a' ≤ c ∧ c ≤ 'z' then .leftToRight
  else if neutrals.contains c then .neutral
  else if isNonspacing c && !directedMarks.contains c then .mark
  else if europeanNumbers.contains c then .europeanNumber
  else if rightToLeftLetters.contains c then .rightToLeft
  else if arabicNumbers.contains c then .arabicNumber
  else if separators.contains c then .separator
  else .leftToRight

/-- The character makes its text one with two directions. -/
def isMixing : Direction → Bool
  | .rightToLeft | .arabicNumber => true
  | _ => false

end Direction

/-- The first character that may be written from right to left. -/
def firstRightToLeft : Nat := 0x590

/-- A character of the text is written from right to left. -/
def hasRightToLeft (cs : List Char) : Bool :=
  cs.any fun c => firstRightToLeft ≤ c.toNat && (Direction.ofChar c).isMixing

/-- A text beside others of another direction keeps its own from the first character to the last,
and does not mix both kinds of numbers. -/
def keepsDirection (cs : List Char) : Bool :=
  let ds := cs.map Direction.ofChar
  let last := (ds.reverse.dropWhile (· == .mark)).head?
  match ds.head? with
  | none => true
  | some .leftToRight =>
    ds.all [.leftToRight, .europeanNumber, .neutral, .mark].contains &&
      last.all [.leftToRight, .europeanNumber].contains
  | some .rightToLeft =>
    ds.all [.rightToLeft, .arabicNumber, .europeanNumber, .neutral, .mark].contains &&
      last.all [.rightToLeft, .arabicNumber, .europeanNumber].contains &&
      !(ds.contains .arabicNumber && ds.contains .europeanNumber)
  | some _ => false

end Upkeep.Unicode
