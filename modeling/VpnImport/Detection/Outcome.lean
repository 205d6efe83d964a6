import VpnImport.Protocol

namespace VpnImport

/-- What a detector says about a text. -/
inductive Verdict where
  | matched
  /-- The least structure of the dialect is missing. -/
  | gateMissing
  /-- The text has the strong markers of another dialect. -/
  | excluded (other : Protocol)
  /-- The structure is there, but too little else. -/
  | belowThreshold
  /-- The text asks for a version of the dialect that is not supported. -/
  | incompatible
deriving DecidableEq, Repr

def Verdict.describe : Verdict → String
  | matched => "Matched"
  | gateMissing => "GateMissing"
  | excluded other => "Excluded(" ++ other.name ++ ")"
  | belowThreshold => "BelowThreshold"
  | incompatible => "Incompatible"

/-- The result of one detector.  The score is the number of keywords found. -/
structure Outcome where
  kind : Protocol
  matched : Bool
  score : Nat
  verdict : Verdict
deriving DecidableEq, Repr

/-- The outcome that goes with a verdict. -/
def Outcome.ofVerdict (kind : Protocol) (score : Nat) (verdict : Verdict) : Outcome :=
  ⟨kind, verdict == .matched, score, verdict⟩

/-- A detector's result, together with the keywords it found once the text had
passed the gate. -/
structure Examination where
  detector : String
  keywords : Option (List String)
  outcome : Outcome
deriving DecidableEq, Repr

end VpnImport
