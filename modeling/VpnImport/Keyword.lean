import VpnImport.Text.Blank
import VpnImport.Text.Line
import VpnImport.Text.Lower
import VpnImport.Protocol

/-!
Keyword tables.  A text scores one for each keyword of a table that some of its
lines start with, however many lines do.
-/

namespace VpnImport

/-- How a keyword stands on its line. -/
inductive KeywordMode where
  /-- Followed by white space or by the end of the line. -/
  | directive
  /-- Followed by an equals sign, with white space before it or not. -/
  | assignment
deriving DecidableEq, Repr

/-- A table of keywords that are typical of one dialect.  A table that ignores
case lists its keywords in lower case. -/
structure KeywordSet where
  protocol : Protocol
  keywords : List String
  mode : KeywordMode
  caseSensitive : Bool

namespace KeywordSet

/-- The text in the form in which the keywords are looked up. -/
def prepare (s : KeywordSet) (t : Text) : Text :=
  if s.caseSensitive then t else t.lower

/-- Whether a line starts with the keyword, white space before it apart. -/
def lineHas (mode : KeywordMode) (keyword : Text) (line : Text) : Bool :=
  match keyword.isPrefixOf? (Text.trimStart line) with
  | none => false
  | some rest =>
    match mode with
    | .directive => rest.head?.all Text.isBlank
    | .assignment => (Text.trimStart rest).head? == some '='

/-- Whether some line of a prepared text has the keyword. -/
def contains (s : KeywordSet) (t : Text) (keyword : String) : Bool :=
  (Text.lines t).any (lineHas s.mode keyword.toList)

/-- The keywords of the table that a prepared text has, in the order of the
table. -/
def found (s : KeywordSet) (t : Text) : List String :=
  let lines := Text.lines t
  s.keywords.filter fun k => lines.any (lineHas s.mode k.toList)

/-- The number of keywords found. -/
def hits (s : KeywordSet) (t : Text) : Nat :=
  (s.found t).length

end KeywordSet
end VpnImport
