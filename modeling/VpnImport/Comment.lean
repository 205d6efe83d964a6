import VpnImport.Text.Blank
import VpnImport.Text.Line

/-!
Comment lines, and the first of them that can serve as the name of a profile.
-/

namespace VpnImport
namespace Comment

/-- A comment starts with a number sign or a semicolon. -/
def isMark (c : Char) : Bool :=
  c == '#' || c == ';'

/-- What a line says behind its comment marks, if it is a comment. -/
def content? (line : Text) : Option Text :=
  let line := Text.trim line
  if line.head?.any isMark then some (Text.trim (line.dropWhile isMark)) else none

/-- The number of characters up to which a comment may serve as a name. -/
def maxNameLength : Nat := 50

/-- Whether a comment may serve as a name. -/
def usable (content : Text) : Bool :=
  !content.isEmpty && content.length ≤ maxNameLength

/-- The first comment of a text that may serve as a name. -/
def firstUsable? (t : Text) : Option Text :=
  ((Text.lines t).filterMap content?).find? usable

end Comment
end VpnImport
