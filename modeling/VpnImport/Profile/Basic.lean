import VpnImport.Protocol
import VpnImport.Profile.Details
import VpnImport.Text.Blank

namespace VpnImport

/-- How the two ends of a connection convince each other. -/
inductive AuthMethod where
  | certificate
  | preSharedKey
  | eap
  | usernamePassword
  | keyPair
  | keyPairWithPreSharedKey
deriving DecidableEq, Repr

namespace AuthMethod

def all : List AuthMethod :=
  [certificate, preSharedKey, eap, usernamePassword, keyPair, keyPairWithPreSharedKey]

def label : AuthMethod → String
  | certificate => "Certificate"
  | preSharedKey => "PSK"
  | eap => "EAP"
  | usernamePassword => "Username/Password"
  | keyPair => "Public/Private Key"
  | keyPairWithPreSharedKey => "Public/Private Key + Pre-shared Key"

end AuthMethod

/-- A connection in the form all dialects share.  No configuration text fills
`password`. -/
structure Profile where
  name : String
  server : String
  protocol : String
  kind : Protocol
  port : UInt16
  username : String
  password : String
  authMethod : AuthMethod
  encryption : String
  compression : Bool
  details : Details
deriving DecidableEq

namespace Profile

/-- A profile with the label, the port and the encryption its kind starts from. -/
def start (kind : Protocol) (server : String) (authMethod : AuthMethod) : Profile where
  name := ""
  server := server
  protocol := kind.label
  kind := kind
  port := kind.defaultPort
  username := ""
  password := ""
  authMethod := authMethod
  encryption := kind.defaultEncryption
  compression := false
  details := .empty

/-- Records a field that belongs to the protocol alone. -/
def record (p : Profile) (key value : String) : Profile :=
  { p with details := p.details.insert key value }

/-- Records several fields, from first to last. -/
def recordAll (p : Profile) (fields : List (String × String)) : Profile :=
  fields.foldl (fun p f => p.record f.1 f.2) p

def detail? (p : Profile) (key : String) : Option String :=
  p.details.get? key

/-- Whether a tunnel can be set up from the profile: it names a server, a port
and a known kind. -/
def hasPayload (p : Profile) : Bool :=
  !Text.allBlank p.server.toList && p.port != 0 && p.kind.isKnown

end Profile
end VpnImport
