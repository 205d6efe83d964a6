import VpnImport.Text.Basic

namespace VpnImport
namespace Text

/- A line feed ends a line.  A carriage return before it belongs to the ending;
a carriage return anywhere else is an ordinary character of the line. -/

/-- The line without one carriage return at its end. -/
def dropReturn (row : Text) : Text :=
  if row.getLast? = some '\r' then row.dropLast else row

/-- What follows the last line feed, unless that is empty. -/
def openRow (t : Text) : List Text :=
  (t.splitOn '\n').getLast?.toList.filter fun row => !row.isEmpty

/-- The lines of a text without their endings.  The ending of the last line is
optional, and a text that ends in a line feed has no empty line after it. -/
def lines (t : Text) : List Text :=
  (t.splitOn '\n').dropLast.map dropReturn ++ openRow t

/-- The lines of a text with their endings, so that joining them gives the text
back. -/
def endedLines (t : Text) : List Text :=
  (t.splitOn '\n').dropLast.map (· ++ ['\n']) ++ openRow t

end Text
end VpnImport
