import Polyquery.Url.Domain.Mark

/-!
# Directions

Some scripts are written from right to left.  A name with a character of such a
script must not be shown in a misleading order, so every label of it has a
direction, begins and ends with characters that have a place in that direction, and
holds no character of the other direction.
-/

namespace Polyquery.Url.Domain

/-- How a character behaves where directions meet. -/
inductive Direction where
  | leftToRight
  | rightToLeft
  | number
  /-- A number in the digits of a script that is written from right to left. -/
  | arabicNumber
  /-- A mark that goes with the character before it. -/
  | mark
  | neutral
deriving DecidableEq

/-- The characters of scripts that are written from right to left. -/
def rightToLeft : Text.Ranges := rangesOf "
  5BE-5F4 608 60B 60D 61B-64A 66D-6D5 6E5-6E6 6EE-6EF 6FA-7F5 7FA-8C9 FBB2-FBC2 FE73 10800-1091B
  10920-10B35 10B40-10D23 10D40-10D4F 10D6F-10D8F 10E80-10EC7 10F00-10FF6 1E800-1ED3D"

/-- The digits of these scripts. -/
def arabicDigits : Text.Ranges := rangesOf "
  660-669 66B-66C 10D30-10D39 10E60-10E7E"

/-- The other digits that keep their order. -/
def digits : Text.Ranges := rangesOf "
  6F0-6F9 102E1-102FB"

/-- The characters without a direction. -/
def neutral : Text.Ranges := rangesOf "
  A1-D7 F7 2B9-2BA 2C2-2CF 2D2-2ED 2EF-2FF 375 3F6 58A-58F 606-607 609-60A 60C 60E-60F 66A 6DE 6E9
  7F6-7F9 9F2-9F3 9FB AF1 BF3-BFA C78-C7E E3F F3A-F3D 1390-1399 1400 169B-169C 17DB 17F0-180A
  1940-1945 19DE-19FF 200C-214D 218A-2335 237B-2394 2396-26AB 26AD-27FF 2900-2BFF 2CE5-2CEA
  2CF9-2CFF 2E00-3004 3008-3020 3030 3037 303D-303F 30A0 30FB 31C0-31E5 4DC0-4DFF A490-A4C6
  A60D-A60F A673-A67F A700-A721 A788 A828-A82B A838-A839 A874-A877 AB6A-AB6B FBC3-FE46 10101
  10140-1018C 10190-101A0 1091F 10B39-10B3F 10D6E 10ED0-10ED8 11052-11065 11660-1166C 11FD5-11FF1
  16FE2 1CC00-1CEF0 1D1E9-1D245 1D300-1D356 1E2FF 1EEF0-1F12F 1F16D-1F16F 1F1AD 1F260-1FBFA"

/-- The marks that do not go with the character before them. -/
def directed : Text.Ranges := rangesOf "CBF CC6 11A07-11A08 11C3F"

/-- A character that goes with the one before it but is no mark without place. -/
def attached : Char := Char.ofNat 0x1171E

namespace Direction

/-- The direction of a character. -/
def ofChar (c : Char) : Direction :=
  if c.toNat < 0x80 then
    if c.isAlpha then leftToRight else if c.isDigit then number else neutral
  else if c = attached || (nonspacing.contains c && !directed.contains c) then mark
  else if Domain.rightToLeft.contains c then rightToLeft
  else if arabicDigits.contains c then arabicNumber
  else if digits.contains c then number
  else if Domain.neutral.contains c then neutral
  else leftToRight

/-- Whether a character makes the directions in a name matter. -/
def matters (c : Char) : Bool :=
  [rightToLeft, arabicNumber].contains (ofChar c)

/-- Whether a label keeps the rule for its direction, which its first character
gives.  Marks at the end count with the character before them. -/
def keepsRule (label : List Char) : Bool :=
  let all := label.map ofChar
  let last := (all.reverse.dropWhile (· = mark)).head?
  match all.head? with
  | none => true
  | some leftToRight =>
    last.any [leftToRight, number].contains &&
      all.all [leftToRight, number, mark, neutral].contains
  | some rightToLeft =>
    last.any [rightToLeft, number, arabicNumber].contains &&
      all.all [rightToLeft, number, arabicNumber, mark, neutral].contains &&
      !(all.contains number && all.contains arabicNumber)
  | some _ => false

end Direction

end Polyquery.Url.Domain
