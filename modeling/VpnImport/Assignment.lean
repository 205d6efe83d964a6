import VpnImport.Text.Blank
import VpnImport.Text.Line

namespace VpnImport
namespace Assignment

/- A line assigns to a key when it consists of the key, an equals sign and the
value.  Spaces and tabs may stand before the key and before the equals sign. -/

/-- What stands to the right of the equals sign, if the line assigns to `key`. -/
def valueOf? (same : Char → Char → Bool) (key line : Text) : Option Text :=
  match Text.after? same key (Text.skipPads line) with
  | none => none
  | some rest =>
    match Text.skipPads rest with
    | '=' :: value => some value
    | _ => none

/-- What stands to the right of the equals sign on the first line that assigns
to `key`. -/
def firstValue? (same : Char → Char → Bool) (key t : Text) : Option Text :=
  (Text.lines t).findSome? (valueOf? same key)

/-- The text up to the closing quote, both quotes included, if it starts with
the quote and the quote is closed. -/
def quoted? (quote : Char) : Text → Option Text
  | [] => none
  | c :: inner =>
    if c == quote && inner.contains quote then
      some (quote :: (inner.takeWhile (· != quote) ++ [quote]))
    else none

/-- The first value of a line that may go on: a closed quotation, or else the
first word. -/
def firstToken (t : Text) : Text :=
  match quoted? '"' t with
  | some q => q
  | none =>
    match quoted? '\'' t with
    | some q => q
    | none => Text.firstWord t

/-- Whether a text starts and ends with the quote, at two different places. -/
def wrapped (quote : Char) (t : Text) : Bool :=
  2 ≤ t.length && t.head? == some quote && t.getLast? == some quote

/-- The text without the quotes around it, if it starts and ends with the same
quote. -/
def trimQuotes (t : Text) : Text :=
  if wrapped '"' t || wrapped '\'' t then t.tail.dropLast else t

/-- The value that the first assignment to `key` gives, up to white space unless
it is quoted.  Keys are compared without regard to ASCII case.  Empty when there
is no such assignment. -/
def tokenValue (t key : Text) : Text :=
  match firstValue? Text.sameLetter key t with
  | none => []
  | some rest => trimQuotes (firstToken (Text.trim rest))

/-- The value that the first assignment to `key` gives, up to the end of its
line.  Keys are compared exactly.  Empty when there is no such assignment. -/
def lineValue (t key : Text) : Text :=
  match firstValue? (· == ·) key t with
  | none => []
  | some rest => trimQuotes (Text.trim rest)

end Assignment
end VpnImport
