import VpnImport.Assignment
import VpnImport.Comment
import VpnImport.Endpoint
import VpnImport.Fault
import VpnImport.Profile.Basic
import VpnImport.WireGuard.Markers

/-!
The profile of a WireGuard file.  Parameters are looked up in the first
interface section and in the first peer section, and nowhere else.
-/

namespace VpnImport
namespace WireGuard

def defaultPort : UInt16 := 51820

/-- The two sections from which a profile is drawn. -/
structure Sections where
  interface : Text
  peer : Text

/-- What the value of a parameter must be. -/
inductive Check where
  | anything
  | port
  | number
deriving DecidableEq, Repr

/-- Whether a value is what it must be. -/
def Check.accepts (value : Text) : Check → Bool
  | anything => true
  | port => (parsePort? value).isSome
  | number => (Text.toWord16? value).isSome

/-- A parameter that may be left out. -/
structure Parameter where
  source : Sections → Text
  key : String
  /-- The key under which the profile records it. -/
  field : String
  default : String
  check : Check

/-- The parameters that may be left out, in the order in which they are read. -/
def parameters : List Parameter :=
  [⟨Sections.interface, "Address", "address", "10.0.0.2/32", .anything⟩,
   ⟨Sections.interface, "DNS", "dns", "1.1.1.1", .anything⟩,
   ⟨Sections.interface, "ListenPort", "listen_port", "51820", .port⟩,
   ⟨Sections.interface, "MTU", "mtu", "1420", .number⟩,
   ⟨Sections.peer, "AllowedIPs", "allowed_ips", "0.0.0.0/0, ::/0", .anything⟩,
   ⟨Sections.peer, "PersistentKeepalive", "persistent_keepalive", "25", .number⟩]

/-- The sections of a text. -/
def sections (t : Text) : Except ExtractError Sections :=
  match Section.body? t interfaceHeader with
  | none => .error (.missingField "[Interface] section" "configuration")
  | some interface =>
    match Section.body? t peerHeader with
    | none => .error (.missingField "[Peer] section" "configuration")
    | some peer => .ok ⟨interface, peer⟩

/-- The server and the port of the peer. -/
def endpoint (peer : Text) : Except ExtractError (Text × UInt16) :=
  let written := Assignment.lineValue peer "Endpoint".toList
  if written.isEmpty then .error (.missingField "Endpoint" "[Peer]")
  else Endpoint.extract written defaultPort

/-- A key that must be given and must not be a placeholder. -/
def requiredKey (body : Text) (field part : String) : Except ExtractError Text :=
  let key := Assignment.lineValue body field.toList
  if key.isEmpty then .error (.missingField field part)
  else if isPlaceholderKey key then .error (.placeholderKey field (String.ofList key))
  else .ok key

/-- The field of a parameter: what the text gives, or its default. -/
def Parameter.read (p : Parameter) (s : Sections) : Except ExtractError (String × String) :=
  let value := Assignment.lineValue (p.source s) p.key.toList
  if value.isEmpty then .ok (p.field, p.default)
  else if p.check.accepts value then .ok (p.field, String.ofList value)
  else .error (.invalidValue p.key (String.ofList value))

/-- The name of a profile: a comment, or the server. -/
def profileName (t server : Text) : Text :=
  (Comment.firstUsable? t).getD ("WireGuard - ".toList ++ server)

/-- Extracts the profile from a text that is known to be in the dialect.  The
private key and the pre-shared key are looked at but not kept. -/
def extract (t : Text) : Except ExtractError Profile := do
  let s ← sections t
  let (server, port) ← endpoint s.peer
  let _ ← requiredKey s.interface "PrivateKey" "[Interface]"
  let publicKey ← requiredKey s.peer "PublicKey" "[Peer]"
  let shared := !(Assignment.lineValue s.peer "PresharedKey".toList).isEmpty
  let fields ← parameters.mapM (·.read s)
  let authMethod := if shared then AuthMethod.keyPairWithPreSharedKey else .keyPair
  let profile :=
    { Profile.start .wireGuard (String.ofList server) authMethod with
      name := String.ofList (profileName t server)
      port := port }
  return profile.recordAll <| fields ++
    [("peer_public_key", String.ofList publicKey),
     ("has_preshared_key", if shared then "true" else "false"),
     ("peer_count", toString (Section.count t peerHeader))]

end WireGuard
end VpnImport
