import VpnImport.LineShape
import VpnImport.Text.Line
import VpnImport.Keyword

namespace VpnImport
namespace OpenVPN

/-- The directives that are typical of the dialect. -/
def keywordSet : KeywordSet where
  protocol := .openVPN
  keywords :=
    ["client", "dev", "proto", "remote", "resolv-retry", "nobind", "persist-key", "persist-tun",
     "remote-cert-tls", "cipher", "auth", "tls-auth", "tls-crypt", "tls-client", "key-direction",
     "verb", "comp-lzo", "auth-user-pass", "ns-cert-type", "mute-replay-warnings"]
  mode := .directive
  caseSensitive := false

/-- The tags that open an inline block and are telling wherever they stand. -/
def markerTags : List String := ["<ca>", "<cert>", "<key>", "<tls-crypt>", "<tls-auth>"]

/-- The commands that set the side on which the program runs. -/
def modeCommands : List String := ["client", "server", "tls-client", "tls-server"]

/-- Fragments which, all together, are taken for the dialect in a text that also
looks like WireGuard. -/
def fragments : List String := ["remote ", "client", "cipher "]

/- The tests below are made on text in lower case. -/

def hasRemote (t : Text) : Bool :=
  (Text.lines t).any (LineShape.hasArgument "remote".toList)

def hasMode (t : Text) : Bool :=
  (Text.lines t).any fun l => modeCommands.any fun w => LineShape.isCommand w.toList l

def hasCipher (t : Text) : Bool :=
  (Text.lines t).any (LineShape.hasArgument "cipher".toList)

def hasInlineBlock (t : Text) : Bool :=
  markerTags.any fun tag => Text.occurs tag.toList t

/-- The least structure of the dialect: a remote and a mode. -/
def gate (t : Text) : Bool :=
  hasRemote t && hasMode t

/-- The strong markers of the dialect: a remote with a mode or a cipher, or an
inline block. -/
def hasMarkers (t : Text) : Bool :=
  (hasRemote t && (hasMode t || hasCipher t)) || hasInlineBlock t

/-- Whether all the fragments occur, be it in comments. -/
def hasFragments (t : Text) : Bool :=
  fragments.all fun f => Text.occurs f.toList t

end OpenVPN
end VpnImport
