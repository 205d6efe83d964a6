import VpnImport.OpenVPN.Extraction
import VpnImport.IKEv2.Extraction
import VpnImport.WireGuard.Extraction
import VpnImport.Log.Event

/-!
Extractors and the registry in which an importer finds them by kind.
-/

namespace VpnImport

/-- An extractor turns the text of one dialect into a profile.  A dialect has
its own extractor, and an application may bring others. -/
inductive Extractor where
  | openVPN
  | ikev2
  | wireGuard
  | custom (name : String) (protocol : Protocol) (run : Text → Except ExtractError Profile)

namespace Extractor

def name : Extractor → String
  | openVPN => "OpenVpnExtractor"
  | ikev2 => "Ikev2Extractor"
  | wireGuard => "WireGuardExtractor"
  | custom name _ _ => name

def protocol : Extractor → Protocol
  | openVPN => .openVPN
  | ikev2 => .ikev2
  | wireGuard => .wireGuard
  | custom _ protocol _ => protocol

def extract : Extractor → Text → Except ExtractError Profile
  | openVPN => OpenVPN.extract
  | ikev2 => IKEv2.extract
  | wireGuard => WireGuard.extract
  | custom _ _ run => run

/-- The extractor that comes with a dialect. -/
def builtin? : Protocol → Option Extractor
  | .openVPN => some openVPN
  | .ikev2 => some ikev2
  | .wireGuard => some wireGuard
  | .unknown => none

/-- What an extractor tells the log about a profile it has drawn up.  An
extractor of an application tells nothing. -/
def announce (profile : Profile) : Extractor → List Log.Event
  | custom _ _ _ => []
  | _ => [.extracted profile]

end Extractor

/-- The extractors in use, at most one for each kind. -/
structure Registry where
  get? : Protocol → Option Extractor

namespace Registry

def empty : Registry := ⟨fun _ => none⟩

/-- The registry with the entry of one kind set. -/
def set (r : Registry) (p : Protocol) (x : Option Extractor) : Registry :=
  ⟨fun q => if q = p then x else r.get? q⟩

/-- Puts an extractor in the place of the one registered for its protocol. -/
def register (r : Registry) (x : Extractor) : Registry :=
  r.set x.protocol (some x)

def unregister (r : Registry) (p : Protocol) : Registry :=
  r.set p none

/-- One change of a registry. -/
inductive Change where
  | register (x : Extractor)
  | unregister (p : Protocol)

/-- Makes a change. -/
def change (r : Registry) : Change → Registry
  | .register x => r.register x
  | .unregister p => r.unregister p

/-- Makes changes from first to last. -/
def changes (r : Registry) (cs : List Change) : Registry :=
  cs.foldl change r

/-- The registry of the extractors that come with the dialects. -/
def withDefaults : Registry :=
  ⟨Extractor.builtin?⟩

/-- The kinds that have an extractor, in their fixed order. -/
def protocols (r : Registry) : List Protocol :=
  Protocol.all.filter fun p => (r.get? p).isSome

def isEmpty (r : Registry) : Bool :=
  r.protocols.isEmpty

def describe (r : Registry) : String :=
  "ExtractorRegistry \x7b protocols: " ++ Protocol.listing r.protocols ++ " \x7d"

end Registry
end VpnImport
