import VpnImport.Section
import VpnImport.Keyword

namespace VpnImport
namespace WireGuard

/-- The parameters that are typical of the dialect. -/
def keywordSet : KeywordSet where
  protocol := .wireGuard
  keywords :=
    ["PrivateKey", "PublicKey", "PresharedKey", "Address", "DNS", "ListenPort", "MTU",
     "AllowedIPs", "Endpoint", "PersistentKeepalive", "Table", "PostUp", "PostDown", "SaveConfig"]
  mode := .assignment
  caseSensitive := true

def interfaceHeader : Text := "[Interface]".toList

def peerHeader : Text := "[Peer]".toList

/-- The structure and the strong markers of the dialect: an interface section
and a peer section. -/
def hasSections (t : Text) : Bool :=
  let lines := Text.lines t
  lines.any (Section.isHeader interfaceHeader) && lines.any (Section.isHeader peerHeader)

/-- Keys that stand in templates and are to be replaced. -/
def placeholderKeys : List String := ["CLIENT_PRIVATE_KEY_HERE", "SERVER_PUBLIC_KEY_HERE"]

def isPlaceholderKey (value : Text) : Bool :=
  placeholderKeys.any fun k => k.toList == Text.trim value

/-- Whether a character may stand in a key or in the name of a placeholder. -/
def isKeyChar (c : Char) : Bool :=
  c.isAlphanum || c == '+' || c == '/' || c == '=' || c == '_' || c == '-'

/-- Whether a value has the shape of a key.  A placeholder has it too. -/
def isKeyShaped (value : Text) : Bool :=
  !value.isEmpty && value.all isKeyChar

end WireGuard
end VpnImport
