import Mathlib.Data.List.Nodup
import VpnImport.Proofs.Detection.Detector
import VpnImport.Proofs.Detection.Markers
import VpnImport.Proofs.Text.Lower

/-!
# A text is of one dialect at most

The exclusion lists are not symmetric, but for each two dialects one of the two
detectors excludes the other: a WireGuard text has the sections that both others
exclude, and an OpenVPN text has the remote and the mode that IKEv2 excludes.
So no two detectors match one text, and a report is never ambiguous.
-/

namespace VpnImport
namespace Classification

/-- A text that passes the gate of WireGuard bears its markers for every
detector. -/
theorem marked_wireGuard {t : Text} (own : Protocol) (h : WireGuard.detector.gate t = true) :
    Detection.marked t own .wireGuard = true := h

/-- A text that passes the gate of OpenVPN bears its markers for every
detector. -/
theorem marked_openVPN {t : Text} (own : Protocol) (h : OpenVPN.detector.gate t = true) :
    Detection.marked t own .openVPN = true := by
  have hgate : OpenVPN.hasRemote t.lower = true ∧ OpenVPN.hasMode t.lower = true := by
    rw [← Bool.and_eq_true]
    exact h
  show (OpenVPN.hasMarkers t.lower || _) = true
  rw [OpenVPN.hasMarkers, hgate.1, hgate.2]
  rfl

section Exclusion
variable {t : Text}

theorem not_detects_of_wireGuard (h : WireGuard.detector.detects t = true) :
    IKEv2.detector.detects t = false ∧ OpenVPN.detector.detects t = false := by
  have hgate := Detector.gate_of_detects h
  exact ⟨Detector.not_detects_of_marked (by decide) (marked_wireGuard .ikev2 hgate),
    Detector.not_detects_of_marked (by decide) (marked_wireGuard .openVPN hgate)⟩

theorem not_detects_of_openVPN (h : OpenVPN.detector.detects t = true) :
    WireGuard.detector.detects t = false ∧ IKEv2.detector.detects t = false := by
  have hgate := Detector.gate_of_detects h
  exact ⟨Detector.not_detects_of_marked (by decide) (marked_openVPN .wireGuard hgate),
    Detector.not_detects_of_marked (by decide) (marked_openVPN .ikev2 hgate)⟩

theorem not_detects_of_ikev2 (h : IKEv2.detector.detects t = true) :
    WireGuard.detector.detects t = false ∧ OpenVPN.detector.detects t = false := by
  constructor
  · rw [← Bool.not_eq_true]
    intro hw
    rw [(not_detects_of_wireGuard hw).1] at h
    contradiction
  · rw [← Bool.not_eq_true]
    intro ho
    rw [(not_detects_of_openVPN ho).2] at h
    contradiction

end Exclusion

/-- A detector that matches is the only one. -/
theorem filter_of_detects {t : Text} {d : Detector} (hd : d ∈ detectors)
    (h : d.detects t = true) : detectors.filter (·.detects t) = [d] := by
  rcases mem_detectors_iff.mp hd with rfl | rfl | rfl
  · obtain ⟨hi, ho⟩ := not_detects_of_wireGuard h
    simp [detectors, h, hi, ho]
  · obtain ⟨hw, ho⟩ := not_detects_of_ikev2 h
    simp [detectors, h, hw, ho]
  · obtain ⟨hw, hi⟩ := not_detects_of_openVPN h
    simp [detectors, h, hw, hi]

theorem eq_of_detects {t : Text} {d e : Detector} (hd : d ∈ detectors) (he : e ∈ detectors)
    (h : d.detects t = true) (h' : e.detects t = true) : e = d := by
  have hmem : e ∈ detectors.filter (·.detects t) := List.mem_filter.mpr ⟨he, h'⟩
  rw [filter_of_detects hd h, List.mem_singleton] at hmem
  exact hmem

/-! ## The report -/

/-- The outcomes of all detectors. -/
def outcomes (t : Text) : List Outcome :=
  (examinations t).map (·.outcome)

/-- The kinds that a list of detectors matches, read off their outcomes. -/
theorem matched_kinds (ds : List Detector) (t : Text) :
    (((ds.map (·.examine t)).map (·.outcome)).filter (·.matched)).map (·.kind) =
      (ds.filter (·.detects t)).map (·.protocol) := by
  induction ds with
  | nil => rfl
  | cons d ds ih =>
    have hkind := Detector.outcome_kind d t
    rw [List.map_cons, List.map_cons, List.filter_cons, List.filter_cons]
    by_cases h : d.detects t = true
    · rw [if_pos h, if_pos (show (d.examine t).outcome.matched = true from h), List.map_cons,
        List.map_cons, ih]
      exact congrArg (· :: _) hkind
    · rw [if_neg h, if_neg (show ¬ (d.examine t).outcome.matched = true from h), ih]

theorem report_of_detects {t : Text} {d : Detector} (hd : d ∈ detectors)
    (h : d.detects t = true) :
    report t = ⟨d.protocol, .identified, outcomes t⟩ ∧
      (report t).matchedProtocols = [d.protocol] := by
  have hkinds := matched_kinds detectors t
  rw [filter_of_detects hd h] at hkinds
  have hreport : report t = ⟨d.protocol, .identified, outcomes t⟩ := by
    unfold report Report.ofOutcomes
    rw [examinations, hkinds]
    rfl
  refine ⟨hreport, ?_⟩
  rw [hreport]
  exact hkinds

theorem report_of_not_detects {t : Text} (h : ∀ d ∈ detectors, d.detects t = false) :
    report t = ⟨.unknown, .noMatch, outcomes t⟩ ∧ (report t).matchedProtocols = [] := by
  have hfilter : detectors.filter (·.detects t) = [] := by
    rw [List.filter_eq_nil_iff]
    intro d hd
    rw [h d hd]
    exact Bool.false_ne_true
  have hkinds := matched_kinds detectors t
  rw [hfilter] at hkinds
  have hreport : report t = ⟨.unknown, .noMatch, outcomes t⟩ := by
    unfold report Report.ofOutcomes
    rw [examinations, hkinds]
    rfl
  refine ⟨hreport, ?_⟩
  rw [hreport]
  exact hkinds

/-- The detectors stand for the known dialects, one for each. -/
theorem exists_detector {k : Protocol} (h : k.isKnown = true) :
    ∃ d ∈ detectors, d.protocol = k := by
  cases k
  case openVPN => exact ⟨OpenVPN.detector, by simp [detectors], rfl⟩
  case ikev2 => exact ⟨IKEv2.detector, by simp [detectors], rfl⟩
  case wireGuard => exact ⟨WireGuard.detector, by simp [detectors], rfl⟩
  case unknown => contradiction

theorem isKnown_protocol {d : Detector} (hd : d ∈ detectors) : d.protocol.isKnown = true := by
  rcases mem_detectors_iff.mp hd with rfl | rfl | rfl <;> rfl

theorem eq_of_protocol_eq {d e : Detector} (hd : d ∈ detectors) (he : e ∈ detectors)
    (h : e.protocol = d.protocol) : e = d := by
  have hnodup : (detectors.map (·.protocol)).Nodup := by decide
  exact List.inj_on_of_nodup_map hnodup he hd h

/-- Either one detector matches, or none does. -/
theorem detects_cases (t : Text) :
    (∃ d ∈ detectors, d.detects t = true) ∨ ∀ d ∈ detectors, d.detects t = false := by
  by_cases h : ∃ d ∈ detectors, d.detects t = true
  · exact .inl h
  · refine .inr fun d hd => ?_
    rw [← Bool.not_eq_true]
    exact fun hdet => h ⟨d, hd, hdet⟩

theorem kind_eq_iff {t : Text} {d : Detector} (hd : d ∈ detectors) :
    (report t).kind = d.protocol ↔ d.detects t = true := by
  constructor
  · intro hkind
    rcases detects_cases t with ⟨e, he, hdet⟩ | hnone
    · rw [(report_of_detects he hdet).1] at hkind
      exact eq_of_protocol_eq hd he hkind ▸ hdet
    · rw [(report_of_not_detects hnone).1] at hkind
      have hknown := isKnown_protocol hd
      rw [← hkind] at hknown
      contradiction
  · intro hdet
    rw [(report_of_detects hd hdet).1]

theorem kind_eq_unknown_iff {t : Text} :
    (report t).kind = .unknown ↔ ∀ d ∈ detectors, d.detects t = false := by
  constructor
  · intro hkind d hd
    rw [← Bool.not_eq_true]
    intro hdet
    have hknown := isKnown_protocol hd
    rw [← (kind_eq_iff hd).mpr hdet, hkind] at hknown
    contradiction
  · intro hnone
    rw [(report_of_not_detects hnone).1]

/-- The gate of every detector asks for a line that is not blank. -/
theorem not_allBlank_of_known {t : Text} (h : (report t).kind ≠ .unknown) :
    Text.allBlank t = false := by
  rcases detects_cases t with ⟨d, hd, hdet⟩ | hnone
  · have hgate := Detector.gate_of_detects hdet
    rcases mem_detectors_iff.mp hd with rfl | rfl | rfl
    · exact WireGuard.not_allBlank_of_hasSections hgate
    · exact Text.not_allBlank_of_lower
        (Text.not_allBlank_of_any_lines (fun _ => LineShape.not_allBlank_of_hasArgument) hgate)
    · have hremote : OpenVPN.hasRemote t.lower = true := (Bool.and_eq_true_iff.mp hgate).1
      exact Text.not_allBlank_of_lower
        (Text.not_allBlank_of_any_lines (fun _ => LineShape.not_allBlank_of_hasArgument) hremote)
  · exact absurd (kind_eq_unknown_iff.mpr hnone) h

/-- The status follows from the kind. -/
theorem status_eq (t : Text) :
    (report t).status = if (report t).kind = .unknown then .noMatch else .identified := by
  rcases detects_cases t with ⟨d, hd, hdet⟩ | hnone
  · have hne : d.protocol ≠ .unknown := fun h => by
      have hknown := isKnown_protocol hd
      rw [h] at hknown
      contradiction
    rw [(report_of_detects hd hdet).1, if_neg hne]
  · rw [(report_of_not_detects hnone).1]
    rfl

theorem matchedProtocols_eq (t : Text) :
    (report t).matchedProtocols =
      if (report t).kind = .unknown then [] else [(report t).kind] := by
  rcases detects_cases t with ⟨d, hd, hdet⟩ | hnone
  · have hkind := (kind_eq_iff hd).mpr hdet
    have hne : (report t).kind ≠ .unknown := fun h => by
      have hnone := kind_eq_unknown_iff.mp h d hd
      rw [hdet] at hnone
      contradiction
    rw [(report_of_detects hd hdet).2, if_neg hne, hkind]
  · rw [(report_of_not_detects hnone).2, if_pos (kind_eq_unknown_iff.mpr hnone)]

/-- At most one detector matches a text.  The report names its dialect, or none
if no detector matches, and is never ambiguous. -/
theorem report_single (t : Text) :
    (∀ d ∈ detectors, ∀ e ∈ detectors, d.detects t = true → e.detects t = true → d = e) ∧
    (report t).status ≠ .ambiguous ∧
    (∀ k : Protocol, k.isKnown = true →
      ((report t).kind = k ∧ (report t).status = .identified ↔
        ∀ d ∈ detectors, d.detects t = true ↔ d.protocol = k)) ∧
    ((report t).kind = .unknown ∧ (report t).status = .noMatch ↔
      ∀ d ∈ detectors, d.detects t = false) ∧
    (report t).matchedProtocols =
      if (report t).kind = .unknown then [] else [(report t).kind] := by
  refine ⟨fun d hd e he h h' => ?_, ?_, fun k hk => ?_, ?_, matchedProtocols_eq t⟩
  · exact eq_of_detects he hd h' h
  · rw [status_eq]
    split <;> decide
  · obtain ⟨d, hd, rfl⟩ := exists_detector hk
    have hstatus : (report t).kind = d.protocol → (report t).status = .identified := fun h => by
      rw [(report_of_detects hd ((kind_eq_iff hd).mp h)).1]
    constructor
    · intro h e he
      obtain ⟨hkind, -⟩ := h
      have hdet := (kind_eq_iff hd).mp hkind
      exact ⟨fun h => congrArg Detector.protocol (eq_of_detects hd he hdet h),
        fun h => eq_of_protocol_eq hd he h ▸ hdet⟩
    · intro h
      have hkind := (kind_eq_iff hd).mpr ((h d hd).mpr rfl)
      exact ⟨hkind, hstatus hkind⟩
  · constructor
    · exact fun h => kind_eq_unknown_iff.mp h.1
    · intro hnone
      rw [(report_of_not_detects hnone).1]
      exact ⟨rfl, rfl⟩

end Classification
end VpnImport
