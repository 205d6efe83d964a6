namespace VpnImport

/-- The dialects of configuration text, in their fixed order.  A text that is
none of them has the kind `unknown`. -/
inductive Protocol where
  | openVPN
  | ikev2
  | wireGuard
  | unknown
deriving DecidableEq, Repr

namespace Protocol

/-- All kinds, in their fixed order. -/
def all : List Protocol := [openVPN, ikev2, wireGuard, unknown]

/-- The known kinds, in the order in which a text is examined for them.  The
section headers of WireGuard are the most telling and come first. -/
def known : List Protocol := [wireGuard, ikev2, openVPN]

def isKnown (p : Protocol) : Bool := p != unknown

/-- The place of a kind in the fixed order. -/
def rank : Protocol → Nat
  | openVPN => 0
  | ikev2 => 1
  | wireGuard => 2
  | unknown => 3

instance : Ord Protocol where
  compare p q := compare p.rank q.rank

def name : Protocol → String
  | openVPN => "OpenVPN"
  | ikev2 => "IKEv2"
  | wireGuard => "WireGuard"
  | unknown => "Unknown"

/-- The label of a profile that says nothing more about its transport. -/
def label : Protocol → String
  | openVPN => "OpenVPN"
  | ikev2 => "IKEv2/IPSec"
  | wireGuard => "WireGuard"
  | unknown => "Unknown"

def defaultPort? : Protocol → Option UInt16
  | openVPN => some 1194
  | ikev2 => some 500
  | wireGuard => some 51820
  | unknown => none

/-- The port a profile starts from, zero when the kind has none of its own. -/
def defaultPort (p : Protocol) : UInt16 := p.defaultPort?.getD 0

def defaultEncryption : Protocol → String
  | openVPN => "AES-256-CBC"
  | ikev2 => "AES-256"
  | wireGuard => "ChaCha20-Poly1305"
  | unknown => ""

/-- A list of kinds in brackets, as it is written in descriptions. -/
def listing (ps : List Protocol) : String :=
  "[" ++ ", ".intercalate (ps.map name) ++ "]"

end Protocol
end VpnImport
