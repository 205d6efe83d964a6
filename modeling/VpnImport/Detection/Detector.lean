import VpnImport.Detection.Foreign
import VpnImport.Detection.Outcome

/-!
Detectors.  What the dialects have in common is stated here once: the order of
the gate, the markers and the judgement, and how the score is counted.
-/

namespace VpnImport

/-- A detector of one dialect.  A text has to pass the gate, must not be marked
as another dialect, and is then judged by its score. -/
structure Detector where
  name : String
  protocol : Protocol
  gate : Text → Bool
  keywordSet : KeywordSet
  /-- What a text scores for passing the gate, before its keywords count. -/
  gateScore : Nat
  /-- The verdict on a text that has passed the gate and the markers. -/
  judge : Text → Nat → Verdict

namespace Detector

/-- The verdict on a text that has passed the gate. -/
def verdict (d : Detector) (t : Text) (score : Nat) : Verdict :=
  match Detection.foreign? t d.protocol with
  | some other => .excluded other
  | none => d.judge t score

def examine (d : Detector) (t : Text) : Examination :=
  if d.gate t then
    let found := d.keywordSet.found (d.keywordSet.prepare t)
    let score := d.gateScore + found.length
    ⟨d.name, some found, .ofVerdict d.protocol score (d.verdict t score)⟩
  else ⟨d.name, none, .ofVerdict d.protocol 0 .gateMissing⟩

def outcome (d : Detector) (t : Text) : Outcome :=
  (d.examine t).outcome

/-- Whether the text is in the dialect of the detector. -/
def detects (d : Detector) (t : Text) : Bool :=
  (d.outcome t).matched

end Detector
end VpnImport
