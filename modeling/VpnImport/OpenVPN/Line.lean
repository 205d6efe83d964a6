import VpnImport.Comment
import VpnImport.Text.Lower

/-!
The lines of an OpenVPN file, one by one: comments, directives with their
arguments, and the tags that open and close an inline block.
-/

namespace VpnImport
namespace OpenVPN

/-- The blocks of certificates and keys that may stand inside a file, each
between its opening and its closing tag. -/
inductive InlineTag where
  | ca
  | cert
  | key
  | tlsAuth
  | tlsCrypt
  | extraCerts
  | pkcs12
deriving DecidableEq, Repr

namespace InlineTag

def all : List InlineTag := [ca, cert, key, tlsAuth, tlsCrypt, extraCerts, pkcs12]

def name : InlineTag → String
  | ca => "ca"
  | cert => "cert"
  | key => "key"
  | tlsAuth => "tls-auth"
  | tlsCrypt => "tls-crypt"
  | extraCerts => "extra-certs"
  | pkcs12 => "pkcs12"

/-- The tag that a trimmed line opens.  Its name may be in any case. -/
def opened? (line : Text) : Option InlineTag :=
  match line with
  | '<' :: rest =>
    if rest.getLast? = some '>' then
      all.find? fun tag => tag.name.toList == Text.lower rest.dropLast
    else none
  | _ => none

/-- Whether a trimmed line closes the block of the tag, ASCII case ignored. -/
def closes (tag : InlineTag) (line : Text) : Bool :=
  Text.sameLetters line ("</".toList ++ tag.name.toList ++ ">".toList)

end InlineTag

/-- The directives that say something about a profile. -/
inductive Directive where
  | remote
  | proto
  | port
  | cipher
  | dataCiphers
  | auth
  | dev
  | authUserPass
  | compLzo
  | compress
  | tlsAuth
  | tlsCrypt
  | tlsClient
  | persistKey
  | persistTun
  | remoteCertTls
  | keyDirection
  | verb
deriving DecidableEq, Repr

namespace Directive

/-- The spellings of the directives.  The list of data ciphers has two. -/
def spellings : List (String × Directive) :=
  [("remote", remote), ("proto", proto), ("port", port), ("cipher", cipher),
   ("data-ciphers", dataCiphers), ("ncp-ciphers", dataCiphers), ("auth", auth), ("dev", dev),
   ("auth-user-pass", authUserPass), ("comp-lzo", compLzo), ("compress", compress),
   ("tls-auth", tlsAuth), ("tls-crypt", tlsCrypt), ("tls-client", tlsClient),
   ("persist-key", persistKey), ("persist-tun", persistTun), ("remote-cert-tls", remoteCertTls),
   ("key-direction", keyDirection), ("verb", verb)]

/-- The directive with the given name, in any case. -/
def named? (word : Text) : Option Directive :=
  (spellings.find? fun s => s.1.toList == Text.lower word).map (·.2)

end Directive

/-- A line that stands outside the inline blocks. -/
inductive Line where
  | blank
  | comment (content : Text)
  | opening (tag : InlineTag)
  /-- A directive of the given name and its arguments. -/
  | directive (name : Text) (args : List Text)
deriving DecidableEq, Repr

/-- Reads a line.  Of a directive, white space divides the name and the
arguments. -/
def Line.ofText (line : Text) : Line :=
  match Comment.content? line with
  | some content => .comment content
  | none =>
    match InlineTag.opened? (Text.trim line) with
    | some tag => .opening tag
    | none =>
      match Text.words line with
      | [] => .blank
      | name :: args => .directive name args

end OpenVPN
end VpnImport
