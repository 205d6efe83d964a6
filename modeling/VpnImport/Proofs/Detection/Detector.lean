import VpnImport.Classification

/-!
# What a detector decides

`detects_iff` takes a match apart into the gate, the markers of the other
dialects and the judgement.  `not_detects_of_marked` is the exclusion: a text
that bears the markers of one dialect is matched by no other detector.
-/

namespace VpnImport

theorem Classification.mem_detectors_iff {d : Detector} :
    d ∈ detectors ↔ d = WireGuard.detector ∨ d = IKEv2.detector ∨ d = OpenVPN.detector := by
  simp [detectors]

namespace Detection

theorem mem_known {p : Protocol} (h : p ≠ .unknown) : p ∈ Protocol.known := by
  cases p
  case unknown => exact absurd rfl h
  all_goals decide

/-- No dialect is foreign to a text that bears the markers of none but its
own. -/
theorem foreign?_eq_none_iff {t : Text} {own : Protocol} :
    foreign? t own = none ↔ ∀ p, p ≠ own → marked t own p = false := by
  rw [foreign?, List.find?_eq_none]
  constructor
  · intro h p hp
    by_cases hu : p = .unknown
    · rw [hu]
      rfl
    · have hnot := h p (mem_known hu)
      rw [Bool.and_eq_true, bne_iff_ne, not_and, Bool.not_eq_true] at hnot
      exact hnot hp
  · intro h p _
    rw [Bool.and_eq_true, bne_iff_ne, not_and, Bool.not_eq_true]
    exact h p

end Detection

namespace Detector
variable (d : Detector) (t : Text)

/-- What a text scores that has passed the gate. -/
def score : Nat :=
  d.gateScore + (d.keywordSet.found (d.keywordSet.prepare t)).length

theorem outcome_kind : (d.outcome t).kind = d.protocol := by
  unfold outcome examine
  split <;> rfl

variable {d t}

/-- The ways to an outcome: the gate is missing, another dialect is marked, or the
text is judged. -/
inductive Reaches (d : Detector) (t : Text) : Outcome → Prop where
  | gateMissing (hgate : d.gate t = false) :
      Reaches d t (.ofVerdict d.protocol 0 .gateMissing)
  | excluded (hgate : d.gate t = true) (other : Protocol)
      (hforeign : Detection.foreign? t d.protocol = some other) :
      Reaches d t (.ofVerdict d.protocol (d.score t) (.excluded other))
  | judged (hgate : d.gate t = true) (hforeign : Detection.foreign? t d.protocol = none) :
      Reaches d t (.ofVerdict d.protocol (d.score t) (d.judge t (d.score t)))

variable (d t) in
theorem reaches_outcome : d.Reaches t (d.outcome t) := by
  unfold outcome examine
  split
  · rename_i hgate
    show d.Reaches t (.ofVerdict d.protocol (d.score t) (d.verdict t (d.score t)))
    unfold verdict
    split
    · rename_i other hforeign
      exact .excluded hgate other hforeign
    · rename_i hforeign
      exact .judged hgate hforeign
  · rename_i hgate
    exact .gateMissing (Bool.eq_false_iff.mpr hgate)

theorem verdict_eq_matched_iff {score : Nat} :
    d.verdict t score = .matched ↔
      Detection.foreign? t d.protocol = none ∧ d.judge t score = .matched := by
  unfold verdict
  split
  · rename_i other h
    rw [h]
    simp
  · rename_i h
    rw [h]
    simp

/-- A text is matched when it passes the gate, bears no foreign markers and is
judged to match. -/
theorem detects_iff :
    d.detects t = true ↔
      d.gate t = true ∧ Detection.foreign? t d.protocol = none ∧
        d.judge t (d.score t) = .matched := by
  unfold detects outcome examine
  by_cases hgate : d.gate t = true
  · rw [if_pos hgate]
    show (d.verdict t (d.score t) == Verdict.matched) = true ↔ _
    rw [beq_iff_eq, verdict_eq_matched_iff]
    simp [hgate]
  · rw [if_neg hgate]
    simp [hgate, Outcome.ofVerdict]

/-- What is reported of a text that the detector matches. -/
theorem examine_of_detects (h : d.detects t = true) :
    d.examine t = ⟨d.name, some (d.keywordSet.found (d.keywordSet.prepare t)),
      ⟨d.protocol, true, d.score t, .matched⟩⟩ := by
  obtain ⟨hgate, hforeign, hjudge⟩ := detects_iff.mp h
  have hverdict : d.verdict t (d.score t) = .matched :=
    verdict_eq_matched_iff.mpr ⟨hforeign, hjudge⟩
  rw [score] at hverdict
  rw [examine, if_pos hgate]
  show Examination.mk _ _ (.ofVerdict _ _ (d.verdict t (d.gateScore + _))) = _
  rw [hverdict]
  rfl

theorem gate_of_detects (h : d.detects t = true) : d.gate t = true :=
  (detects_iff.mp h).1

theorem not_detects_of_marked {p : Protocol} (hp : p ≠ d.protocol)
    (h : Detection.marked t d.protocol p = true) : d.detects t = false := by
  rw [← Bool.not_eq_true]
  intro hd
  have hnone := Detection.foreign?_eq_none_iff.mp (detects_iff.mp hd).2.1 p hp
  rw [h] at hnone
  contradiction

theorem verdict_congr {t' : Text} {score : Nat}
    (hforeign : Detection.foreign? t d.protocol = Detection.foreign? t' d.protocol)
    (hjudge : d.judge t score = d.judge t' score) : d.verdict t score = d.verdict t' score := by
  rw [verdict, verdict, hforeign, hjudge]

/-- Two texts that pass the gate alike, have the same keywords and are judged
alike are reported alike. -/
theorem examine_congr {t' : Text} (hgate : d.gate t = d.gate t')
    (hfound : d.keywordSet.found (d.keywordSet.prepare t) =
      d.keywordSet.found (d.keywordSet.prepare t'))
    (hverdict : ∀ score, d.verdict t score = d.verdict t' score) : d.examine t = d.examine t' := by
  rw [examine, examine, hgate, hfound]
  dsimp only
  rw [hverdict]

end Detector
end VpnImport
