import VpnImport.Log.Level
import VpnImport.Classification
import VpnImport.Fault
import VpnImport.Profile.Basic

/-!
The events of an import, and the level, the source and the message of each.
-/

namespace VpnImport
namespace Log

/-- The part of the library that an event comes from. -/
inductive Source where
  | detector (protocol : Protocol)
  | classifier
  | extractor (protocol : Protocol)
  | importer
deriving DecidableEq, Repr

/-- The last part of a path that belongs to one protocol. -/
def protocolPath : Protocol → String
  | .openVPN => "openvpn"
  | .ikev2 => "ikev2"
  | .wireGuard => "wireguard"
  | .unknown => "unknown"

/-- The path under which an event is written. -/
def Source.path : Source → String
  | detector p => "vpnconf_detector::probe::" ++ protocolPath p
  | classifier => "vpnconf_detector::core::classifier"
  | extractor p => "vpnconf_detector::extract::" ++ protocolPath p
  | importer => "vpnconf_detector::importer"

/-- What happens in the course of an import. -/
inductive Event where
  /-- A detector has passed the gate and found these keywords. -/
  | keywords (protocol : Protocol) (found : List String)
  | examined (detector : String) (outcome : Outcome)
  | noDetector
  | manyDetectors (matched : List Protocol)
  /-- An extractor of the library has drawn up a profile. -/
  | extracted (profile : Profile)
  | emptyContent
  | contentTooLarge (size limit : Nat)
  | unidentified
  | ambiguous (matched : List Protocol)
  | noExtractor (protocol : Protocol)
  | rejected (extractor : String) (reason : ExtractError)
  | unusable (extractor : String)
  | imported (profile : Profile)

namespace Event

def level : Event → Level
  | keywords _ _ => .trace
  | examined _ _ => .trace
  | noDetector => .debug
  | manyDetectors _ => .debug
  | extracted _ => .debug
  | emptyContent => .debug
  | contentTooLarge _ _ => .warn
  | unidentified => .info
  | ambiguous _ => .info
  | noExtractor _ => .warn
  | rejected _ _ => .info
  | unusable _ => .warn
  | imported _ => .info

def source : Event → Source
  | keywords p _ => .detector p
  | examined _ _ => .classifier
  | noDetector => .classifier
  | manyDetectors _ => .classifier
  | extracted p => .extractor p.kind
  | _ => .importer

/-- Keywords in quotes and brackets. -/
def quotedList (words : List String) : String :=
  "[" ++ ", ".intercalate (words.map fun w => "\"" ++ w ++ "\"") ++ "]"

/-- What a detector calls the words it looks for. -/
def keywordsTitle : Protocol → String
  | .wireGuard => "WireGuard keys: "
  | p => p.name ++ " keywords: "

/-- What is told about a profile that has been drawn up. -/
def extractedFacts (p : Profile) : String :=
  "server=" ++ p.server ++ " port=" ++ toString p.port.toNat
    ++ (match p.kind with
        | .openVPN =>
          " transport=" ++ (p.detail? "transport").getD "" ++ " auth=" ++ p.authMethod.label
        | .ikev2 => " auth=" ++ p.authMethod.label ++ " encryption=" ++ p.encryption
        | _ => " auth=" ++ p.authMethod.label)

def message : Event → String
  | keywords p found => keywordsTitle p ++ quotedList found
  | examined detector o =>
    "🔍 DETECT: " ++ detector ++ ": matched=" ++ (if o.matched then "true" else "false")
      ++ " score=" ++ toString o.score ++ " verdict=" ++ o.verdict.describe
  | noDetector => "no detector matched the configuration"
  | manyDetectors ps => "ambiguous configuration rejected, matched: " ++ Protocol.listing ps
  | extracted p => "📦 EXTRACT: " ++ p.kind.name ++ " profile: " ++ extractedFacts p
  | emptyContent => "import rejected: empty content"
  | contentTooLarge size limit =>
    "import rejected: " ++ toString size ++ " bytes exceeds limit of " ++ toString limit ++ " bytes"
  | unidentified => "protocol identification failed: no dialect matched"
  | ambiguous ps =>
    "protocol identification failed: ambiguous match " ++ Protocol.listing ps
  | noExtractor p => "no extractor registered for " ++ p.name
  | rejected extractor reason =>
    extractor ++ " rejected the configuration: " ++ reason.message
  | unusable extractor => extractor ++ " returned an empty profile"
  | imported p =>
    "imported " ++ p.kind.name ++ " profile '" ++ p.name ++ "' (" ++ p.server ++ ":"
      ++ toString p.port.toNat ++ ")"

/-- The events of one examination. -/
def ofExamination (e : Examination) : List Event :=
  (e.keywords.map (keywords e.outcome.kind)).toList ++ [examined e.detector e.outcome]

/-- The event of a classification that identifies no dialect. -/
def ofReport (r : Report) : List Event :=
  match r.status with
  | .identified => []
  | .noMatch => [noDetector]
  | .ambiguous => [manyDetectors r.matchedProtocols]

/-- The events of classifying a text. -/
def ofClassification (t : Text) : List Event :=
  (Classification.examinations t).flatMap ofExamination ++ ofReport (Classification.report t)

end Event

/-- The events that pass a filter that is set to `limit`. -/
def record (limit : Level) (events : List Event) : List Event :=
  events.filter fun e => e.level.passes limit

end Log
end VpnImport
