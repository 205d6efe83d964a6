import VpnImport.OpenVPN.Settings
import VpnImport.Endpoint
import VpnImport.Fault
import VpnImport.Profile.Basic

/-!
The profile of an OpenVPN file.  The first remote is the server, and what it
does not state itself is taken from the other directives or from the defaults.
-/

namespace VpnImport
namespace OpenVPN

def defaultPort : UInt16 := 1194

def defaultTransport : Text := "udp".toList

def defaultCipher : Text := "AES-256-CBC".toList

/-- The port that is stated for the first remote: by the remote itself, or else
by a directive of its own. -/
def statedPort? (s : Settings) (remote : Remote) : Option Text :=
  remote.port <|> s.port

def resolvePort (s : Settings) (remote : Remote) : Except ExtractError UInt16 :=
  match statedPort? s remote with
  | none => .ok defaultPort
  | some stated =>
    match parsePort? stated with
    | some port => .ok port
    | none => .error (.invalidValue "port" (String.ofList stated))

def transport (s : Settings) (remote : Remote) : Text :=
  (remote.transport <|> s.proto).getD defaultTransport

/-- The label of a profile, by its transport. -/
def label (transport : Text) : String :=
  if "tcp".toList.isPrefixOf transport then "OpenVPN (TCP)" else "OpenVPN (UDP)"

/-- The first of the data ciphers, unless it is empty. -/
def firstDataCipher? (s : Settings) : Option Text :=
  (s.dataCiphers.map fun list => list.takeWhile (· != ':')).filter fun cipher => !cipher.isEmpty

def encryption (s : Settings) : Text :=
  (s.cipher <|> firstDataCipher? s).getD defaultCipher

def profileName (s : Settings) (remote : Remote) : Text :=
  s.profileName.getD ("OpenVPN - ".toList ++ remote.host)

/-- How a further remote is listed. -/
def fallback (remote : Remote) : String :=
  match remote.port with
  | some port => String.ofList remote.host ++ ":" ++ String.ofList port
  | none => String.ofList remote.host

/-- A field that is recorded when a text gives it. -/
def given (key : String) (value : Option Text) : List (String × String) :=
  (value.map fun v => (key, String.ofList v)).toList

/-- A field that is recorded when it holds. -/
def flag (key : String) (holds : Bool) : List (String × String) :=
  if holds then [(key, "true")] else []

/-- The fields that belong to the protocol alone. -/
def details (s : Settings) (remote : Remote) : List (String × String) :=
  [("transport", String.ofList (transport s remote)),
   ("auth_digest", String.ofList (s.auth.getD "SHA1".toList)),
   ("device", String.ofList (s.dev.getD "tun".toList)),
   ("tls_mode", (s.tlsMode.map TlsMode.name).getD "none"),
   ("remote_count", toString s.remotes.size)]
  ++ (match s.remotes.toList.tail with
      | [] => []
      | rest => [("fallback_remotes", ",".intercalate (rest.map fallback))])
  ++ (match s.inlineBlocks with
      | [] => []
      | tags => [("inline_blocks", ",".intercalate (tags.map InlineTag.name))])
  ++ given "data_ciphers" s.dataCiphers
  ++ given "remote_cert_tls" s.remoteCertTls
  ++ given "key_direction" s.keyDirection
  ++ given "verb" s.verb
  ++ flag "tls_client" s.tlsClient
  ++ flag "persist_key" s.persistKey
  ++ flag "persist_tun" s.persistTun

/-- The profile of a file, reached through its first remote. -/
def profile (s : Settings) (remote : Remote) (port : UInt16) : Profile :=
  let authMethod := if s.authUserPass then AuthMethod.usernamePassword else .certificate
  { Profile.start .openVPN (String.ofList remote.host) authMethod with
    name := String.ofList (profileName s remote)
    protocol := label (transport s remote)
    port := port
    encryption := String.ofList (encryption s)
    compression := s.compression }.recordAll (details s remote)

/-- Extracts the profile from a text that is known to be in the dialect. -/
def extract (t : Text) : Except ExtractError Profile :=
  let s := Settings.ofText t
  match s.remotes.toList with
  | [] => .error (.missingField "'remote' directive" "OpenVPN configuration")
  | remote :: _ => (resolvePort s remote).map (profile s remote)

end OpenVPN
end VpnImport
