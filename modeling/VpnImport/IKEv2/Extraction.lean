import VpnImport.Assignment
import VpnImport.Comment
import VpnImport.Endpoint
import VpnImport.Fault
import VpnImport.Profile.Basic
import VpnImport.Text.Lower
import VpnImport.Text.WordTable

/-!
The profile of an IKEv2 file.  Every parameter is looked up in the whole text,
the first line that gives it being the one that counts.
-/

namespace VpnImport
namespace IKEv2

def defaultPort : UInt16 := 500

/-- The value of a parameter, empty when the text does not give it. -/
def value (t : Text) (key : String) : Text :=
  Assignment.tokenValue t key.toList

/-- The parameters that may name the server, the first that is given being
taken. -/
def serverKeys : List String := ["right", "rightid", "server"]

/-- The parameters that are recorded as they stand, each with the key under
which it is recorded. -/
def recordedKeys : List (String × String) :=
  [("keyexchange", "keyexchange"), ("ike", "ike"), ("esp", "esp"), ("left", "left"),
   ("leftid", "leftid"), ("rightid", "rightid"), ("leftsubnet", "leftsubnet"),
   ("rightsubnet", "rightsubnet"), ("leftsourceip", "leftsourceip"), ("auto", "auto"),
   ("dpdaction", "dpdaction"), ("charondebug", "charon_debug"), ("fragmentation", "fragmentation")]

/-- The name of the connection whose section a line starts. -/
def sectionName? (line : Text) : Option Text :=
  match Text.after? Text.sameLetter "conn".toList (Text.skipPads line) with
  | none => none
  | some rest =>
    let name := Text.upToBlank (Text.skipPads rest)
    if rest.head?.any Text.isPad && !name.isEmpty then some name else none

/-- The section that holds defaults for all connections. -/
def isDefault (name : Text) : Bool :=
  Text.sameLetters name "%default".toList

/-- The name of the first connection that is not the section of defaults. -/
def connectionName? (t : Text) : Option Text :=
  ((Text.lines t).filterMap sectionName?).find? fun name => !isDefault name

/-- The first port that follows a colon, a colon being followed by it when the
whole run of decimal digits behind the colon is a port. -/
def portAfterColon? : Text → Option UInt16
  | [] => none
  | c :: t =>
    match if c == ':' then parsePort? (t.takeWhile Text.isDecimal) else none with
    | some port => some port
    | none => portAfterColon? t

/-- The port of its own parameter, or else the first that follows a colon. -/
def resolvePort (t : Text) : UInt16 :=
  match parsePort? (value t "port") with
  | some port => port
  | none => (portAfterColon? t).getD defaultPort

/-- The authentication, as the parameters of both sides and the older parameter
for both together state it. -/
def authMethod (t : Text) : AuthMethod :=
  let sides := [(value t "leftauth").lower, (value t "rightauth").lower]
  let both := (value t "authby").lower
  if sides.contains "psk".toList || both == "secret".toList || both == "psk".toList then
    .preSharedKey
  else if sides.any (Text.occurs "cert".toList) then .certificate
  else if sides.any fun s => s == "eap".toList || "eap-".toList.isPrefixOf s then .eap
  else .preSharedKey

/-- The label of the encryption that a proposal asks for. -/
def encryptionLabel (proposal : Text) : String :=
  let p := proposal.lower
  if Text.occurs "aes128".toList p then "AES-128"
  else if Text.occurs "aes256".toList p then "AES-256"
  else if Text.occurs "3des".toList p then "3DES"
  else "AES-256"

/-- The name of a profile: the connection, a comment, or the server. -/
def profileName (t server : Text) : Text :=
  (connectionName? t <|> Comment.firstUsable? t).getD ("IKEv2 - ".toList ++ server)

/-- The fields that belong to the protocol alone. -/
def details (t : Text) : List (String × String) :=
  ((connectionName? t).map fun name => ("conn_name", String.ofList name)).toList
  ++ recordedKeys.filterMap fun k =>
      let v := value t k.1
      if v.isEmpty then none else some (k.2, String.ofList v)

/-- The profile of a connection to the server. -/
def profile (t server : Text) : Profile :=
  { Profile.start .ikev2 (String.ofList server) (authMethod t) with
    name := String.ofList (profileName t server)
    port := resolvePort t
    username := String.ofList (value t "eap_identity")
    encryption := encryptionLabel (value t "ike")
    compression := Text.sameLetters (value t "compress") "yes".toList }.recordAll (details t)

/-- Extracts the profile from a text that is known to be in the dialect. -/
def extract (t : Text) : Except ExtractError Profile :=
  match (serverKeys.map (value t)).find? fun v => !v.isEmpty with
  | none => .error (.missingField "server address (right, rightid or server)" "conn section")
  | some server => .ok (profile t server)

end IKEv2
end VpnImport
