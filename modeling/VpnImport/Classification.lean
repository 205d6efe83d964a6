import VpnImport.OpenVPN.Detector
import VpnImport.IKEv2.Detector
import VpnImport.WireGuard.Detector

/-!
Classification.  All detectors examine the text, and it has a kind only if
exactly one of them matches.
-/

namespace VpnImport

inductive Status where
  /-- Exactly one detector matches. -/
  | identified
  | noMatch
  /-- More than one detector matches. -/
  | ambiguous
deriving DecidableEq, Repr

/-- What the detectors together say about a text.  The kind is unknown unless
exactly one of them matches. -/
structure Report where
  kind : Protocol
  status : Status
  outcomes : List Outcome
deriving DecidableEq, Repr

namespace Report

/-- The kinds whose detectors match. -/
def matchedProtocols (r : Report) : List Protocol :=
  (r.outcomes.filter (·.matched)).map (·.kind)

/-- The first outcome for a kind. -/
def outcome? (r : Report) (kind : Protocol) : Option Outcome :=
  r.outcomes.find? (·.kind == kind)

def isIdentified (r : Report) : Bool :=
  r.status == .identified

/-- Sums up outcomes.  No dialect is preferred: a text that several detectors
match is of no kind. -/
def ofOutcomes (outcomes : List Outcome) : Report :=
  match (outcomes.filter (·.matched)).map (·.kind) with
  | [] => ⟨.unknown, .noMatch, outcomes⟩
  | [kind] => ⟨kind, .identified, outcomes⟩
  | _ => ⟨.unknown, .ambiguous, outcomes⟩

end Report

namespace Classification

/-- The detectors, in the order in which they run. -/
def detectors : List Detector :=
  [WireGuard.detector, IKEv2.detector, OpenVPN.detector]

/-- Runs every detector on the text. -/
def examinations (t : Text) : List Examination :=
  detectors.map (·.examine t)

def report (t : Text) : Report :=
  .ofOutcomes ((examinations t).map (·.outcome))

end Classification

/-- The kind of a text. -/
def classify (t : Text) : Protocol :=
  (Classification.report t).kind

end VpnImport
