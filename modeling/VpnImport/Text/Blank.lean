import VpnImport.Text.Basic

namespace VpnImport
namespace Text

/-- The code points with the Unicode property White_Space. -/
def blankRanges : List (Nat × Nat) :=
  [(0x09, 0x0D), (0x20, 0x20), (0x85, 0x85), (0xA0, 0xA0), (0x1680, 0x1680), (0x2000, 0x200A),
   (0x2028, 0x2029), (0x202F, 0x202F), (0x205F, 0x205F), (0x3000, 0x3000)]

/-- Whether a character is white space. -/
def isBlank (c : Char) : Bool :=
  inRanges blankRanges c.toNat

/-- Whether a text holds nothing but white space. -/
def allBlank (t : Text) : Bool :=
  t.all isBlank

/-- The text without the white space at its start. -/
def trimStart (t : Text) : Text :=
  t.dropWhile isBlank

/-- The text without the white space at its end. -/
def trimEnd (t : Text) : Text :=
  (t.reverse.dropWhile isBlank).reverse

/-- The text without the white space at either end. -/
def trim (t : Text) : Text :=
  trimEnd (trimStart t)

/-- The maximal runs of characters that are not white space. -/
def words (t : Text) : List Text :=
  (t.splitOnP isBlank).filter fun w => !w.isEmpty

/-- The first word, empty when there is none. -/
def firstWord (t : Text) : Text :=
  (words t).headD []

/-- The text up to its first white space. -/
def upToBlank (t : Text) : Text :=
  t.takeWhile fun c => !isBlank c

end Text
end VpnImport
