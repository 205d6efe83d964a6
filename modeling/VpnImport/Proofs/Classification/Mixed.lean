import VpnImport.Proofs.Detection.Markers
import VpnImport.Proofs.Importer.Run

/-!
# Mixed texts

A text with the strong markers of two dialects is of neither: whichever dialect
a detector stands for, one of the two is foreign to it.  Adding lines keeps the
markers (`mixed_extends`), so no lines make such a text classifiable.
-/

namespace VpnImport
namespace Classification

/-- Whether a text has the strong markers of a dialect.  The sections of
WireGuard make the fragments of OpenVPN markers too. -/
def strong (t : Text) : Protocol → Bool
  | .wireGuard => WireGuard.hasSections t
  | .ikev2 => IKEv2.hasMarkers t.lower
  | .openVPN =>
    OpenVPN.hasMarkers t.lower || (WireGuard.hasSections t && OpenVPN.hasFragments t.lower)
  | .unknown => false

/-- A text with the strong markers of at least two dialects. -/
def Mixed (t : Text) : Prop :=
  ∃ p q, p ≠ q ∧ strong t p = true ∧ strong t q = true

theorem strong_mono {t s : Text} (h : Text.Extends t s) {p : Protocol}
    (ht : strong t p = true) : strong s p = true := by
  cases p with
  | wireGuard => exact WireGuard.hasSections_mono h ht
  | ikev2 => exact IKEv2.hasMarkers_mono h.lower ht
  | openVPN =>
    rw [strong, Bool.or_eq_true, Bool.and_eq_true] at ht ⊢
    rcases ht with hm | ⟨hs, hf⟩
    · exact .inl (OpenVPN.hasMarkers_mono h.lower hm)
    · exact .inr ⟨WireGuard.hasSections_mono h hs, OpenVPN.hasFragments_mono h.lower hf⟩
  | unknown => contradiction

theorem mixed_extends {t s : Text} (h : Text.Extends t s) (ht : Mixed t) : Mixed s := by
  obtain ⟨p, q, hpq, hp, hq⟩ := ht
  exact ⟨p, q, hpq, strong_mono h hp, strong_mono h hq⟩

/-- The strong markers of a dialect are foreign to every other, or those of
WireGuard beside them are. -/
theorem exists_marked_of_strong {t : Text} {own p : Protocol} (hp : p ≠ own)
    (h : strong t p = true) : ∃ q, q ≠ own ∧ Detection.marked t own q = true := by
  cases p with
  | wireGuard => exact ⟨.wireGuard, hp, h⟩
  | ikev2 => exact ⟨.ikev2, hp, h⟩
  | openVPN =>
    rw [strong, Bool.or_eq_true, Bool.and_eq_true] at h
    rcases h with hm | ⟨hs, hf⟩
    · refine ⟨.openVPN, hp, ?_⟩
      rw [Detection.marked, hm, Bool.true_or]
    · by_cases how : own = .wireGuard
      · refine ⟨.openVPN, hp, ?_⟩
        rw [Detection.marked, how, hf]
        exact Bool.or_true _
      · exact ⟨.wireGuard, Ne.symm how, hs⟩
  | unknown => contradiction

theorem not_detects_of_mixed {t : Text} (h : Mixed t) (d : Detector) : d.detects t = false := by
  obtain ⟨p, q, hpq, hp, hq⟩ := h
  -- At most one of the two dialects is the detector's own.
  by_cases hown : p = d.protocol
  · obtain ⟨r, hr, hmarked⟩ := exists_marked_of_strong (fun e => hpq (hown.trans e.symm)) hq
    exact Detector.not_detects_of_marked hr hmarked
  · obtain ⟨r, hr, hmarked⟩ := exists_marked_of_strong hown hp
    exact Detector.not_detects_of_marked hr hmarked

theorem not_allBlank_of_strong {t : Text} {p : Protocol} (h : strong t p = true) :
    Text.allBlank t = false := by
  cases p with
  | wireGuard => exact WireGuard.not_allBlank_of_hasSections h
  | ikev2 => exact Text.not_allBlank_of_lower (IKEv2.not_allBlank_of_hasMarkers h)
  | openVPN =>
    rw [strong, Bool.or_eq_true, Bool.and_eq_true] at h
    rcases h with hm | ⟨hs, -⟩
    · exact Text.not_allBlank_of_lower (OpenVPN.not_allBlank_of_hasMarkers hm)
    · exact WireGuard.not_allBlank_of_hasSections hs
  | unknown => contradiction

/-- A mixed text is of no dialect, whatever lines are put before and behind it.
The default importer finds nothing in it, or finds it too large. -/
theorem mixed_rejected {t s : Text} (ht : Mixed t) (h : Text.Extends t s) :
    classify s = .unknown ∧
      (importText s = .error .unidentified ∨
        importText s =
          .error (.contentTooLarge (Text.byteSize s) defaultMaxContentSize)) := by
  have hs : Mixed s := mixed_extends h ht
  have hkind : classify s = .unknown :=
    kind_eq_unknown_iff.mpr fun d _ => not_detects_of_mixed hs d
  have hblank : Text.allBlank s = false := by
    obtain ⟨p, q, -, hp, -⟩ := hs
    exact not_allBlank_of_strong hp
  refine ⟨hkind, ?_⟩
  have himport := Importer.importText_of_unknown (m := Importer.default) hblank hkind
  show Importer.default.importText s = _ ∨ Importer.default.importText s = _
  cases hsize : Importer.default.exceeded? (Text.byteSize s) with
  | none =>
    rw [hsize] at himport
    exact .inl himport
  | some limit =>
    have hlimit : defaultMaxContentSize = limit :=
      Option.some.inj (Importer.exceeded?_eq_some_iff.mp hsize).1
    rw [hsize, ← hlimit] at himport
    exact .inr himport

theorem mixed_rejected_commented_fragments :
    let t : Text := "# remote client cipher \n[Interface]\n[Peer]\r\n".toList
    let s : Text := "conn a".toList ++ '\n' :: (t ++ '\n' :: "PrivateKey = a".toList)
    Mixed t ∧ Text.Extends t s ∧ classify s = .unknown ∧
      (importText s = .error .unidentified ∨
        importText s =
          .error (.contentTooLarge (Text.byteSize s) defaultMaxContentSize)) := by
  intro t s
  have ht : Mixed t := ⟨.wireGuard, .openVPN, by decide, by decide +kernel, by decide +kernel⟩
  have h : Text.Extends t s := .before _ (.after _ .refl)
  exact ⟨ht, h, mixed_rejected ht h⟩

end Classification
end VpnImport
