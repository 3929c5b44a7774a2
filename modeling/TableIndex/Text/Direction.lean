import TableIndex.Text.Mark

/-!
# Writing direction

The property `Bidi_Class` of the characters that may stand in a domain name, as far as it matters there: the
kinds of separators and symbols are all neutral, and so is what the tables do not tell from them.
-/

namespace TableIndex.Text

/-- How a character is written. -/
inductive Direction where
  | left
  /-- From right to left, as Hebrew and Arabic are. -/
  | right
  | europeanNumber
  | arabicNumber
  /-- A mark, which follows the character it is on. -/
  | mark
  | neutral
deriving DecidableEq, Repr, Inhabited

/-- The letters that are written from right to left. -/
def rightTable : String := "
  05BE 05C0 05C3 05C6 05D0-05F4 0608 060B 060D 061B-064A 066D-066F 0671-06D5 06E5-06E6 06EE-06EF
  06FA-0710 0712-072F 074D-07A5 07B1-07EA 07F4-07F5 07FA 07FE-0815 081A 0824 0828 0830-0858 085E-088F
  08A0-08C9 FBB2-FBC2 FE73 10800-1091B 10920-10A00 10A10-10A35 10A40-10AE4 10AEB-10B35 10B40-10D23
  10D40-10D4F 10D6F-10D8F 10E80-10EA9 10EAD-10ED0 10F00-10F45 10F51-10F81 10F86-10FF6 1E800-1E8CF
  1E922-1E943 1E94B-1ED3D"

/-- The digits that are used all over the world. -/
def europeanTable : String := "
  0030-0039 06F0-06F9 102E1-102FB"

/-- The digits that are used in Arabic. -/
def arabicTable : String := "
  0660-0669 066B-066C 10D30-10D39 10E60-10E7E"

/-- Separators and symbols. -/
def neutralTable : String := "
  0000-002F 003A-0060 007B-00D7 00F7 02B9-02BA 02C2-02CF 02D2-02ED 02EF-02FF 0375 03F6 058A-058F
  0606-0607 0609-060A 060C 060E-060F 066A 06DE 06E9 07F6-07F9 09F2-09F3 09FB 0AF1 0BF3-0BFA 0C78-0C7E
  0E3F 0F3A-0F3D 1390-1399 1400 169B-169C 17DB 17F0-180A 1940-1945 19DE-19FF 200C-20C1 2104-214D
  218A-2335 237B-2394 2396-26AB 26AD-27FF 2900-2BFF 2CE5-2CEA 2CF9-2CFF 2E00-3004 3008-3020 3030 3037
  303D-303F 30A0 30FB 31C0-31E5 4DC0-4DFF A490-A4C6 A60D-A60F A673 A67E-A67F A700-A721 A788 A828-A82B
  A838-A839 A874-A877 AB6A-AB6B FBC3-FDFF FE45-FE46 10101 10140-1018C 10190-101A0 1091F 10B39-10B3F
  10D6E 10ED1-10ED8 11052-11065 11660-1166C 11FD5-11FF1 16FE2 1CC00-1CEF0 1D1E9-1D241 1D245
  1D300-1D356 1E2FF 1EEF0-1F12F 1F16D-1F16F 1F1AD 1F260-1FBFA"

/-- Marks that are written from left to right like letters. -/
def leftMarkTable : String := "
  0CBF 0CC6 11A07-11A08 11C3F"

/-- The ranges of the directions, the first one that holds a character being the one that counts. -/
def directionRanges : List (Direction × Ranges) :=
  [(.left, .ofTable leftMarkTable), (.mark, nonspacingRanges), (.right, .ofTable rightTable),
    (.europeanNumber, .ofTable europeanTable), (.arabicNumber, .ofTable arabicTable),
    (.neutral, .ofTable neutralTable)]

/-- The direction of a character; letters are written from left to right unless a table says otherwise. -/
def directionOf (c : Char) : Direction :=
  ((directionRanges.find? fun (_, r) => r.contains c).map (·.1)).getD .left

end TableIndex.Text
