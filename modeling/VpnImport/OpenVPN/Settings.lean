import VpnImport.OpenVPN.Line
import VpnImport.Text.Line

/-!
What an OpenVPN file sets.  The lines are read once, from first to last.  A
comment may name the profile, a directive sets a field, and an inline block hides
its lines up to the line that closes it.
-/

namespace VpnImport
namespace OpenVPN

/-- A server that a file names, with the port and the transport it may state. -/
structure Remote where
  host : Text
  port : Option Text
  transport : Option Text
deriving DecidableEq, Repr

/-- How the control channel is secured. -/
inductive TlsMode where
  | auth
  | crypt
deriving DecidableEq, Repr

def TlsMode.name : TlsMode → String
  | auth => "tls-auth"
  | crypt => "tls-crypt"

/-- What the lines of a file set. -/
structure Settings where
  profileName : Option Text
  /-- In the order in which the lines name them. -/
  remotes : Array Remote
  proto : Option Text
  port : Option Text
  cipher : Option Text
  dataCiphers : Option Text
  auth : Option Text
  dev : Option Text
  authUserPass : Bool
  compression : Bool
  tlsMode : Option TlsMode
  tlsClient : Bool
  persistKey : Bool
  persistTun : Bool
  remoteCertTls : Option Text
  keyDirection : Option Text
  verb : Option Text
  inlineBlocks : List InlineTag
deriving DecidableEq, Repr

namespace Settings

def empty : Settings where
  profileName := none
  remotes := #[]
  proto := none
  port := none
  cipher := none
  dataCiphers := none
  auth := none
  dev := none
  authUserPass := false
  compression := false
  tlsMode := none
  tlsClient := false
  persistKey := false
  persistTun := false
  remoteCertTls := none
  keyDirection := none
  verb := none
  inlineBlocks := []

/-- The word that announces the name of the profile in a comment. -/
def nameMark : Text := "profile:".toList

/-- The name that a comment gives to the profile. -/
def profileName? (content : Text) : Option Text :=
  match Text.after? Text.sameLetter nameMark content with
  | none => none
  | some rest =>
    let name := Text.trim rest
    if name.isEmpty then none else some name

/-- Takes the name a comment gives, unless there is one already. -/
def applyComment (s : Settings) (content : Text) : Settings :=
  { s with profileName := s.profileName <|> profileName? content }

/-- Notes an inline block, once for each tag. -/
def applyTag (s : Settings) (tag : InlineTag) : Settings :=
  { s with
    inlineBlocks := if tag ∈ s.inlineBlocks then s.inlineBlocks else s.inlineBlocks ++ [tag]
    tlsMode :=
      match tag with
      | .tlsAuth => some .auth
      | .tlsCrypt => some .crypt
      | _ => s.tlsMode }

/-- The server that the arguments of a remote name. -/
def remote? : List Text → Option Remote
  | [] => none
  | host :: rest => some ⟨host, rest.head?, rest.tail.head?.map Text.lower⟩

/-- Applies a directive.  A later scalar takes the place of an earlier one, even
when it has no argument; remotes add up. -/
def applyDirective (s : Settings) (args : List Text) : Directive → Settings
  | .remote =>
    match remote? args with
    | some remote => { s with remotes := s.remotes.push remote }
    | none => s
  | .proto => { s with proto := args.head?.map Text.lower }
  | .port => { s with port := args.head? }
  | .cipher => { s with cipher := args.head? }
  | .dataCiphers => { s with dataCiphers := args.head? }
  | .auth => { s with auth := args.head? }
  | .dev => { s with dev := args.head? }
  | .authUserPass => { s with authUserPass := true }
  | .compLzo =>
    { s with compression := !args.head?.any fun v => Text.sameLetters v "no".toList }
  | .compress =>
    { s with
      compression := args.head?.any fun v => !"stub".toList.isPrefixOf (Text.lower v) }
  | .tlsAuth => { s with tlsMode := some .auth }
  | .tlsCrypt => { s with tlsMode := some .crypt }
  | .tlsClient => { s with tlsClient := true }
  | .persistKey => { s with persistKey := true }
  | .persistTun => { s with persistTun := true }
  | .remoteCertTls => { s with remoteCertTls := args.head? }
  | .keyDirection => { s with keyDirection := args.head? }
  | .verb => { s with verb := args.head? }

end Settings

/-- The state of reading a file: what has been set, and the inline block that is
open. -/
structure Reading where
  settings : Settings
  block : Option InlineTag
deriving DecidableEq, Repr

namespace Reading

def start : Reading := ⟨.empty, none⟩

/-- Reads a line outside the inline blocks. -/
def readLine (r : Reading) : Line → Reading
  | .blank => r
  | .comment content => { r with settings := r.settings.applyComment content }
  | .opening tag => ⟨r.settings.applyTag tag, some tag⟩
  | .directive name args =>
    match Directive.named? name with
    | none => r
    | some d => { r with settings := r.settings.applyDirective args d }

/-- Reads one line.  Inside a block nothing counts but the line that closes it. -/
def step (r : Reading) (line : Text) : Reading :=
  match r.block with
  | some tag => if tag.closes (Text.trim line) then { r with block := none } else r
  | none => r.readLine (.ofText line)

/-- Reads lines from first to last. -/
def run (r : Reading) (lines : List Text) : Reading :=
  lines.foldl step r

end Reading

/-- What a text sets. -/
def Settings.ofText (t : Text) : Settings :=
  (Reading.start.run (Text.lines t)).settings

end OpenVPN
end VpnImport
