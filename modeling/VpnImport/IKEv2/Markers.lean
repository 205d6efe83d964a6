import VpnImport.LineShape
import VpnImport.Text.Line
import VpnImport.Assignment
import VpnImport.Keyword

namespace VpnImport
namespace IKEv2

/-- The parameters that are typical of the dialect. -/
def keywordSet : KeywordSet where
  protocol := .ikev2
  keywords :=
    ["keyexchange", "left", "right", "leftid", "rightid", "leftauth", "rightauth", "leftcert",
     "rightcert", "leftsubnet", "rightsubnet", "leftsourceip", "ike", "esp", "auto", "rekey",
     "dpdaction", "authby", "eap_identity", "fragmentation"]
  mode := .assignment
  caseSensitive := false

/-- The value that a line assigns to the key exchange, without the spaces and
tabs before it. -/
def keyExchange? (line : Text) : Option Text :=
  (Assignment.valueOf? (· == ·) "keyexchange".toList line).map Text.skipPads

/-- Whether a value is the given word, followed by nothing but spaces, tabs and
carriage returns. -/
def isOnly (word value : Text) : Bool :=
  match word.isPrefixOf? value with
  | none => false
  | some rest => rest.all fun c => Text.isPad c || c == '\r'

/-- Whether a line declares version 2 of the key exchange. -/
def declaresVersion2 (line : Text) : Bool :=
  (keyExchange? line).any (LineShape.startsWithWord "ikev2".toList)

/-- Whether a line declares version 1 of the key exchange. -/
def declaresVersion1 (line : Text) : Bool :=
  (keyExchange? line).any fun v => isOnly "ikev1".toList v || isOnly "ike".toList v

/-- Whether a line starts the section of general settings. -/
def isConfigSetup (line : Text) : Bool :=
  match LineShape.afterWord? "config".toList line with
  | none => false
  | some rest =>
    rest.head?.any Text.isPad && LineShape.startsWithWord "setup".toList (Text.skipPads rest)

/- The tests below are made on text in lower case. -/

/-- The least structure of the dialect: a named connection. -/
def gate (t : Text) : Bool :=
  (Text.lines t).any (LineShape.hasArgument "conn".toList)

def hasVersion2 (t : Text) : Bool :=
  (Text.lines t).any declaresVersion2

def hasVersion1 (t : Text) : Bool :=
  (Text.lines t).any declaresVersion1

def hasConfigSetup (t : Text) : Bool :=
  (Text.lines t).any isConfigSetup

/-- The strong markers of the dialect: a named connection and a declared
version 2. -/
def hasMarkers (t : Text) : Bool :=
  gate t && hasVersion2 t

end IKEv2
end VpnImport
