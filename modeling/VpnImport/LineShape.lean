import VpnImport.Text.Blank
import VpnImport.Text.WordTable

namespace VpnImport
namespace LineShape

/- Shapes of single lines.  Spaces and tabs may stand before the first word. -/

/-- What follows `word` at the start of a line, whether or not the word ends
there. -/
def afterWord? (word line : Text) : Option Text :=
  word.isPrefixOf? (Text.skipPads line)

/-- Whether spaces or tabs stand between `word` and something on the same line
that is not white space. -/
def hasArgument (word line : Text) : Bool :=
  match afterWord? word line with
  | none => false
  | some rest =>
    rest.head?.any Text.isPad && (Text.skipPads rest).head?.any fun c => !Text.isBlank c

/-- Whether a line starts with the whole word. -/
def isCommand (word line : Text) : Bool :=
  match afterWord? word line with
  | none => false
  | some rest => rest.head?.all Text.isBlank

/-- Whether a text starts with `word`, no word going on behind it. -/
def startsWithWord (word t : Text) : Bool :=
  match word.isPrefixOf? t with
  | none => false
  | some rest => Text.wordEnds rest

end LineShape
end VpnImport
