import VpnImport.Text.Basic

/-!
Plain text.  To a target that shows no colours a log is written without the control
sequences of terminals and without control characters other than white space, so
that no text it quotes can steer the terminal on which it is read later.
-/

namespace VpnImport
namespace Log

/-- Where the reading of a control sequence stands. -/
inductive Control where
  /-- Outside any sequence. -/
  | outside
  /-- Behind an escape character. -/
  | escape
  /-- Behind an escape character and the marks that may follow it. -/
  | escapeMark
  /-- In a sequence that ends with its first letter. -/
  | sequence
  /-- At the start of a device control string. -/
  | device
  /-- Among the parameters of a device control string. -/
  | deviceParameter
  /-- Among the marks behind the parameters of a device control string. -/
  | deviceMark
  /-- In the body of a string. -/
  | body
  /-- In an operating system command, a string that a bell ends. -/
  | command
deriving DecidableEq, Repr

namespace Control

/- The characters of a sequence fall into classes by their code points: marks,
parameters, and the letters that end it. -/

def isMark (c : Char) : Bool := ' ' ≤ c && c ≤ '/'

def isParameter (c : Char) : Bool := '0' ≤ c && c ≤ '?'

def isFinal (c : Char) : Bool := '@' ≤ c && c ≤ '~'

/-- Whether a character belongs to ASCII. -/
def isAscii (c : Char) : Bool := c.toNat < 0x80

/-- Whether the encoding of a character has the byte that stands for the end of
a string. -/
def endsString (c : Char) : Bool :=
  (String.utf8EncodeChar c).contains 0x9C

/-- Where the reading stands behind the character after an escape character. -/
def ofEscape (c : Char) : Control :=
  if isMark c then .escapeMark
  else if c == '[' then .sequence
  else if c == ']' then .command
  else if c == 'P' then .device
  else if c == 'X' || c == '^' || c == '_' then .body
  else if isParameter c || isFinal c then .outside
  else .escape

/-- Where the reading stands behind a character that is not one of those which
are looked for everywhere. -/
def advance (c : Char) : Control → Control
  | outside => outside
  | escape => ofEscape c
  | escapeMark => if isParameter c || isFinal c then outside else escapeMark
  | sequence => if isFinal c then outside else sequence
  | device =>
    if isMark c then deviceMark
    else if isParameter c then deviceParameter
    else if isFinal c then body
    else device
  | deviceParameter =>
    if isMark c then deviceMark
    else if '<' ≤ c && c ≤ '~' then body
    else deviceParameter
  | deviceMark => if isParameter c || isFinal c then body else deviceMark
  | body => if endsString c then outside else body
  | command => if c == '\x07' then outside else command

/-- Where the reading stands behind a character.  An escape character starts a
sequence and two control characters cancel one, wherever they stand. -/
def next (s : Control) (c : Char) : Control :=
  if c == '\x1b' then .escape
  else if c == '\x18' || c == '\x1a' then .outside
  else s.advance c

/-- Whether white space counts inside a sequence.  In a string it is content. -/
def showsSpace : Control → Bool
  | outside => true
  | escape => true
  | escapeMark => true
  | sequence => true
  | _ => false

/-- Whether a character is written. -/
def shows (s : Control) (c : Char) : Bool :=
  if c == '\t' || c == '\n' || c == '\x0c' || c == '\r' then s.showsSpace
  else s == .outside && c.toNat ≥ 0x20 && c != '\x7f'

end Control

/-- The state of writing plain text: where the reading stands, whether the last
character was written, and what has been written, last character first. -/
structure Writing where
  control : Control
  shown : Bool
  written : Text
deriving DecidableEq, Repr

namespace Writing

def start : Writing := ⟨.outside, false, []⟩

/-- Takes one character.  Behind a character that was written, a sequence that is
still open rests: text is written as outside any sequence, up to the next
character that is not, and there the sequence goes on.  A character beyond ASCII
ends it. -/
def step (w : Writing) (c : Char) : Writing :=
  let seen := if w.shown then .outside else w.control
  if seen.shows c then
    ⟨if Control.isAscii c then w.control else .outside, true, c :: w.written⟩
  else ⟨w.control.next c, false, w.written⟩

end Writing

/-- The text without control sequences and control characters, which is what comes
to a target that shows no colours.  A terminal that does is given the text itself. -/
def plain (t : Text) : Text :=
  (t.foldl Writing.step .start).written.reverse

end Log
end VpnImport
