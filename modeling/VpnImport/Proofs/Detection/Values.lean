import VpnImport.Log.Event
import VpnImport.Proofs.Classification.Single
import VpnImport.Proofs.Detection.Markers
import VpnImport.Proofs.UpToEquals

/-!
# Detectors do not see values

The gates and the keywords of all detectors are settled by what stands before the
equals signs.  What is behind them enters a detector through its markers and its
judgement only, and on a text that is classified as WireGuard both are known: its
own detector matches, and the others find its sections.
-/

namespace VpnImport

namespace AlikeUpToEquals
variable {t t' : Text} (h : AlikeUpToEquals t t')
include h

theorem gate_ikev2 : IKEv2.detector.gate t = IKEv2.detector.gate t' :=
  h.lower.any_lines (LineShape.hasArgument_equals (by decide))

theorem gate_openVPN : OpenVPN.detector.gate t = OpenVPN.detector.gate t' := by
  have hremote : OpenVPN.hasRemote t.lower = OpenVPN.hasRemote t'.lower :=
    h.lower.any_lines (LineShape.hasArgument_equals (by decide))
  have hmode : OpenVPN.hasMode t.lower = OpenVPN.hasMode t'.lower :=
    h.lower.any_lines OpenVPN.isMode_equals
  show (OpenVPN.hasRemote t.lower && OpenVPN.hasMode t.lower) = _
  rw [hremote, hmode]
  rfl

end AlikeUpToEquals

/-- The sections of WireGuard are the first marker that any other detector
finds. -/
theorem Detection.foreign?_of_hasSections {t : Text} {own : Protocol} (hown : own ≠ .wireGuard)
    (h : WireGuard.hasSections t = true) : foreign? t own = some .wireGuard := by
  have hmarked : (Protocol.wireGuard != own && marked t own .wireGuard) = true := by
    rw [Bool.and_eq_true, bne_iff_ne]
    exact ⟨Ne.symm hown, h⟩
  exact List.find?_cons_of_pos hmarked

namespace Classification
variable {t t' : Text} (h : AlikeUpToEquals t t') (hkind : classify t = .wireGuard)
  (hkind' : classify t' = .wireGuard)

theorem detects_wireGuard_iff :
    WireGuard.detector.detects t = true ↔ classify t = .wireGuard :=
  (kind_eq_iff (d := WireGuard.detector) (by simp [detectors])).symm

include h hkind hkind'

theorem examine_wireGuard_eq : WireGuard.detector.examine t = WireGuard.detector.examine t' := by
  have hfound : WireGuard.keywordSet.found (WireGuard.keywordSet.prepare t) =
      WireGuard.keywordSet.found (WireGuard.keywordSet.prepare t') :=
    h.found_prepare (by decide)
  rw [Detector.examine_of_detects (detects_wireGuard_iff.mpr hkind),
    Detector.examine_of_detects (detects_wireGuard_iff.mpr hkind'), Detector.score, Detector.score]
  rw [show WireGuard.detector.keywordSet = WireGuard.keywordSet from rfl, hfound]

theorem examine_foreign_eq {d : Detector} (hd : d.protocol ≠ .wireGuard)
    (hgate : d.gate t = d.gate t') (hkeywords : ∀ k ∈ d.keywordSet.keywords, '=' ∉ k.toList) :
    d.examine t = d.examine t' := by
  have hforeign := Detection.foreign?_of_hasSections hd
    (Detector.gate_of_detects (detects_wireGuard_iff.mpr hkind))
  have hforeign' := Detection.foreign?_of_hasSections hd
    (Detector.gate_of_detects (detects_wireGuard_iff.mpr hkind'))
  -- The sections exclude both texts before their other markers are looked at.
  refine Detector.examine_congr hgate (h.found_prepare hkeywords) fun score => ?_
  rw [Detector.verdict, Detector.verdict, hforeign, hforeign']

/-- All detectors report the same of two WireGuard texts that agree up to equals
signs. -/
theorem examinations_eq : examinations t = examinations t' := by
  have hwireGuard := examine_wireGuard_eq h hkind hkind'
  have hikev2 : IKEv2.detector.examine t = IKEv2.detector.examine t' :=
    examine_foreign_eq h hkind hkind' (by decide) h.gate_ikev2 (by decide)
  have hopenVPN : OpenVPN.detector.examine t = OpenVPN.detector.examine t' :=
    examine_foreign_eq h hkind hkind' (by decide) h.gate_openVPN (by decide)
  rw [examinations, examinations, detectors, List.map_cons, List.map_cons, List.map_cons,
    List.map_cons, List.map_cons, List.map_cons, hwireGuard, hikev2, hopenVPN]
  rfl

theorem report_eq : report t = report t' := by
  rw [report, report, examinations_eq h hkind hkind']

theorem ofClassification_eq :
    Log.Event.ofClassification t = Log.Event.ofClassification t' := by
  rw [Log.Event.ofClassification, Log.Event.ofClassification, examinations_eq h hkind hkind',
    report_eq h hkind hkind']

end Classification
end VpnImport
