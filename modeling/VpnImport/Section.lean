import VpnImport.Text.Blank
import VpnImport.Text.Line

/-!
Sections of a text.  A section is headed by a line that starts with a bracket
and goes on to the next such line, or to the end of the text.
-/

namespace VpnImport
namespace Section

/-- Whether a line is the given header, white space around it apart. -/
def isHeader (header line : Text) : Bool :=
  Text.trim line == header

/-- Whether a line starts a section, its first character being a bracket. -/
def opens (line : Text) : Bool :=
  (Text.trim line).head? == some '['

/-- The text of the first section with the given header: what follows the header
line, up to the next line that starts a section. -/
def body? (t header : Text) : Option Text :=
  match (Text.endedLines t).dropWhile (fun l => !isHeader header l) with
  | [] => none
  | _ :: rest => some (rest.takeWhile fun l => !opens l).flatten

/-- The number of sections with the given header. -/
def count (t header : Text) : Nat :=
  (Text.lines t).countP (isHeader header)

end Section
end VpnImport
