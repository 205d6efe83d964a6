namespace VpnImport

/-- A text, as the list of its characters.  A line, a word and a value cut from
a text are texts again. -/
abbrev Text := List Char

namespace Text

/-- Whether a code point lies in one of the closed ranges of a table. -/
def inRanges (ranges : List (Nat × Nat)) (n : Nat) : Bool :=
  ranges.any fun r => r.1 ≤ n && n ≤ r.2

/-- The number of bytes the text takes in UTF-8. -/
def byteSize (t : Text) : Nat :=
  t.foldl (fun n c => n + c.utf8Size) 0

/-- Equality of letters without regard to ASCII case. -/
def sameLetter (a b : Char) : Bool :=
  a.toLower == b.toLower

/-- Equality of texts without regard to ASCII case. -/
def sameLetters (a b : Text) : Bool :=
  a.map Char.toLower == b.map Char.toLower

/-- What follows `head` at the start of `t`, characters being compared by
`same`. -/
def after? (same : Char → Char → Bool) : Text → Text → Option Text
  | [], t => some t
  | _ :: _, [] => none
  | h :: head, c :: t => if same h c then after? same head t else none

/-- Whether `needle` occurs somewhere in the text. -/
def occurs (needle : Text) : Text → Bool
  | [] => needle.isEmpty
  | c :: t => needle.isPrefixOf (c :: t) || occurs needle t

/-- A space or a tab, the characters that may indent a line. -/
def isPad (c : Char) : Bool :=
  c == ' ' || c == '\t'

/-- The text without the spaces and tabs at its start. -/
def skipPads (t : Text) : Text :=
  t.dropWhile isPad

end Text
end VpnImport
