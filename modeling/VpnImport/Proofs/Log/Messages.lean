import VpnImport.Importer
import VpnImport.Proofs.IKEv2.Texts
import VpnImport.Proofs.OpenVPN.Texts
import VpnImport.Proofs.WireGuard.Texts

/-!
# The messages of an import

The events of a classification name keywords, detectors and kinds, which are texts
of the library.  Only the events behind it quote a profile or an error.  So no
message has a control character that stands on no line of the text.
-/

namespace VpnImport

/-- No text of a built-in extraction has a control character that no line has. -/
theorem Extractor.yields_extract {t : Text} {d : Char} (h : Text.Foreign t d) {x : Extractor}
    {kind : Protocol} (hx : builtin? kind = some x) :
    Yields (ExtractError.Without d) (Profile.Without d) (x.extract t) := by
  cases kind with
  | openVPN =>
    cases hx
    exact OpenVPN.yields_extract h
  | ikev2 =>
    cases hx
    exact IKEv2.yields_extract h
  | wireGuard =>
    cases hx
    exact WireGuard.yields_extract h
  | unknown => contradiction

namespace Log.Event

/-! ## Texts of the library -/

theorem isPrintable_name (p : Protocol) : Text.isPrintable p.name.toList = true := by
  cases p <;> decide

theorem isPrintable_label (a : AuthMethod) : Text.isPrintable a.label.toList = true := by
  cases a <;> decide

theorem isPrintable_keywordsTitle (p : Protocol) :
    Text.isPrintable (keywordsTitle p).toList = true := by
  cases p <;> decide

theorem isPrintable_describe (v : Verdict) : Text.isPrintable v.describe.toList = true := by
  cases v with
  | excluded other => cases other <;> decide
  | matched | gateMissing | belowThreshold | incompatible => decide

theorem isPrintable_detector : ∀ x ∈ Classification.detectors,
    Text.isPrintable x.name.toList = true ∧
      ∀ k ∈ x.keywordSet.keywords, Text.isPrintable k.toList = true := by
  simp only [Classification.detectors, List.forall_mem_cons]
  decide

theorem isPrintable_extractor {x : Extractor} {kind : Protocol}
    (hx : Extractor.builtin? kind = some x) : Text.isPrintable x.name.toList = true := by
  cases kind <;> cases hx <;> decide

section Foreign
variable {t : Text} {d : Char} (h : Text.Foreign t d)
include h

theorem not_mem_listing (ps : List Protocol) : d ∉ (Protocol.listing ps).toList := by
  unfold Protocol.listing
  rw [not_mem_toList_append, not_mem_toList_append]
  refine ⟨⟨h.not_mem_of_isPrintable rfl, ?_⟩, h.not_mem_of_isPrintable rfl⟩
  refine not_mem_toList_intercalate (h.not_mem_of_isPrintable rfl) ?_
  rw [List.forall_mem_map]
  exact fun p _ => h.not_mem_of_isPrintable (isPrintable_name p)

/-! ## Before the delivery -/

theorem not_mem_contentTooLarge (size limit : Nat) :
    d ∉ (contentTooLarge size limit).message.toList := by
  unfold message
  simp only [not_mem_toList_append, and_assoc]
  exact ⟨h.not_mem_of_isPrintable rfl, h.not_mem_toString size, h.not_mem_of_isPrintable rfl,
    h.not_mem_toString limit, h.not_mem_of_isPrintable rfl⟩

theorem not_mem_ambiguous (ps : List Protocol) : d ∉ (ambiguous ps).message.toList := by
  unfold message
  rw [not_mem_toList_append]
  exact ⟨h.not_mem_of_isPrintable rfl, not_mem_listing h ps⟩

theorem not_mem_noExtractor (p : Protocol) : d ∉ (noExtractor p).message.toList := by
  unfold message
  rw [not_mem_toList_append]
  exact ⟨h.not_mem_of_isPrintable rfl, h.not_mem_of_isPrintable (isPrintable_name p)⟩

theorem not_mem_keywords (p : Protocol) {found : List String}
    (hfound : ∀ k ∈ found, d ∉ k.toList) : d ∉ (keywords p found).message.toList := by
  unfold message quotedList
  simp only [not_mem_toList_append, and_assoc]
  refine ⟨h.not_mem_of_isPrintable (isPrintable_keywordsTitle p),
    h.not_mem_of_isPrintable rfl, ?_, h.not_mem_of_isPrintable rfl⟩
  refine not_mem_toList_intercalate (h.not_mem_of_isPrintable rfl) ?_
  rw [List.forall_mem_map]
  intro k hk
  rw [not_mem_toList_append, not_mem_toList_append]
  exact ⟨⟨h.not_mem_of_isPrintable rfl, hfound k hk⟩, h.not_mem_of_isPrintable rfl⟩

theorem not_mem_examined {detector : String} (hdetector : d ∉ detector.toList) (o : Outcome) :
    d ∉ (examined detector o).message.toList := by
  have hmatched : d ∉ (if o.matched = true then "true" else "false").toList := by
    split <;> exact h.not_mem_of_isPrintable rfl
  unfold message
  simp only [not_mem_toList_append, and_assoc]
  exact ⟨h.not_mem_of_isPrintable rfl, hdetector, h.not_mem_of_isPrintable rfl, hmatched,
    h.not_mem_of_isPrintable rfl, h.not_mem_toString o.score, h.not_mem_of_isPrintable rfl,
    h.not_mem_of_isPrintable (isPrintable_describe o.verdict)⟩

theorem not_mem_ofExamination {x : Detector} (hx : x ∈ Classification.detectors) (u : Text) :
    ∀ e ∈ ofExamination (x.examine u), d ∉ e.message.toList := by
  obtain ⟨hname, hkeywords⟩ := isPrintable_detector x hx
  have hdetector : d ∉ x.name.toList := h.not_mem_of_isPrintable hname
  unfold Detector.examine
  split
  · refine List.forall_mem_cons.mpr ⟨not_mem_keywords h _ fun k hk => ?_, ?_⟩
    · exact h.not_mem_of_isPrintable (hkeywords k (List.mem_filter.mp hk).1)
    · exact List.forall_mem_singleton.mpr (not_mem_examined h hdetector _)
  · exact List.forall_mem_singleton.mpr (not_mem_examined h hdetector _)

theorem not_mem_ofReport (r : Report) : ∀ e ∈ ofReport r, d ∉ e.message.toList := by
  unfold ofReport
  split
  · exact fun e he => absurd he List.not_mem_nil
  · exact List.forall_mem_singleton.mpr (h.not_mem_of_isPrintable rfl)
  · refine List.forall_mem_singleton.mpr ?_
    unfold message
    rw [not_mem_toList_append]
    exact ⟨h.not_mem_of_isPrintable rfl, not_mem_listing h _⟩

theorem not_mem_ofClassification (u : Text) :
    ∀ e ∈ ofClassification u, d ∉ e.message.toList := by
  rw [ofClassification, List.forall_mem_append, List.forall_mem_flatMap,
    Classification.examinations, List.forall_mem_map]
  exact ⟨fun x hx => not_mem_ofExamination h hx u, not_mem_ofReport h _⟩

/-! ## Delivery -/

theorem not_mem_extracted {p : Profile} (hp : p.Without d) :
    d ∉ (extracted p).message.toList := by
  obtain ⟨⟨-, hserver, -, -, -, hencryption⟩, hdetails⟩ := Profile.without_iff.mp hp
  have hauth : d ∉ p.authMethod.label.toList :=
    h.not_mem_of_isPrintable (isPrintable_label p.authMethod)
  have htransport : d ∉ ((p.detail? "transport").getD "").toList :=
    getD_of_forall_mem (p := fun s => d ∉ s.toList)
      (fun s hs => (hdetails _ (Details.mem_of_lookup hs)).2) List.not_mem_nil
  unfold message extractedFacts
  simp only [not_mem_toList_append, and_assoc]
  refine ⟨h.not_mem_of_isPrintable rfl, h.not_mem_of_isPrintable (isPrintable_name p.kind),
    h.not_mem_of_isPrintable rfl, h.not_mem_of_isPrintable rfl, hserver,
    h.not_mem_of_isPrintable rfl, h.not_mem_toString p.port.toNat, ?_⟩
  cases p.kind with
  | openVPN =>
    simp only [not_mem_toList_append, and_assoc]
    exact ⟨h.not_mem_of_isPrintable rfl, htransport, h.not_mem_of_isPrintable rfl, hauth⟩
  | ikev2 =>
    simp only [not_mem_toList_append, and_assoc]
    exact ⟨h.not_mem_of_isPrintable rfl, hauth, h.not_mem_of_isPrintable rfl, hencryption⟩
  | wireGuard | unknown =>
    rw [not_mem_toList_append]
    exact ⟨h.not_mem_of_isPrintable rfl, hauth⟩

theorem not_mem_imported {p : Profile} (hp : p.Without d) :
    d ∉ (imported p).message.toList := by
  obtain ⟨⟨hname, hserver, -⟩, -⟩ := Profile.without_iff.mp hp
  unfold message
  simp only [not_mem_toList_append, and_assoc]
  exact ⟨h.not_mem_of_isPrintable rfl, h.not_mem_of_isPrintable (isPrintable_name p.kind),
    h.not_mem_of_isPrintable rfl, hname, h.not_mem_of_isPrintable rfl, hserver,
    h.not_mem_of_isPrintable rfl, h.not_mem_toString p.port.toNat, h.not_mem_of_isPrintable rfl⟩

theorem not_mem_rejected {extractor : String} (hextractor : d ∉ extractor.toList)
    {e : ExtractError} (he : e.Without d) : d ∉ (rejected extractor e).message.toList := by
  unfold message
  rw [not_mem_toList_append, not_mem_toList_append]
  exact ⟨⟨hextractor, h.not_mem_of_isPrintable rfl⟩, h.not_mem_message he⟩

theorem not_mem_unusable {extractor : String} (hextractor : d ∉ extractor.toList) :
    d ∉ (unusable extractor).message.toList := by
  unfold message
  rw [not_mem_toList_append]
  exact ⟨hextractor, h.not_mem_of_isPrintable rfl⟩

end Foreign
end Log.Event

namespace Importer
open Log.Event

theorem forall_mem_stop {P : Log.Event → Prop} {events : List Log.Event} {last : Log.Event}
    (hevents : ∀ e ∈ events, P e) (hlast : P last) (result : Except ImportError Profile) :
    ∀ e ∈ (Run.stop events last result).events, P e :=
  List.forall_mem_append.mpr ⟨hevents, List.forall_mem_singleton.mpr hlast⟩

variable {t : Text} {d : Char} (h : Text.Foreign t d)
include h

theorem not_mem_deliver {x : Extractor} {kind : Protocol}
    (hx : Extractor.builtin? kind = some x) {events : List Log.Event}
    (hevents : ∀ e ∈ events, d ∉ e.message.toList) :
    ∀ e ∈ (deliver kind x t events).events, d ∉ e.message.toList := by
  have hname : d ∉ x.name.toList := h.not_mem_of_isPrintable (isPrintable_extractor hx)
  have hyields := Extractor.yields_extract h hx
  unfold deliver
  cases hresult : x.extract t with
  | error e =>
    rw [hresult] at hyields
    exact forall_mem_stop hevents (not_mem_rejected h hname hyields) _
  | ok p =>
    rw [hresult] at hyields
    have hannounce : ∀ e ∈ x.announce p, d ∉ e.message.toList := by
      cases x with
      | openVPN | ikev2 | wireGuard =>
        exact List.forall_mem_singleton.mpr (not_mem_extracted h hyields)
      | custom => exact fun e he => absurd he List.not_mem_nil
    have hall := List.forall_mem_append.mpr ⟨hevents, hannounce⟩
    have hadopted : ({ p with kind := kind } : Profile).Without d := hyields
    dsimp only
    split
    · exact forall_mem_stop hall (not_mem_imported h hadopted) _
    · exact forall_mem_stop hall (not_mem_unusable h hname) _

theorem not_mem_dispatch {r : Report} {events : List Log.Event}
    (hevents : ∀ e ∈ events, d ∉ e.message.toList) :
    ∀ e ∈ (default.dispatch t r events).events, d ∉ e.message.toList := by
  unfold dispatch
  split
  · exact forall_mem_stop hevents (h.not_mem_of_isPrintable rfl) _
  · exact forall_mem_stop hevents (not_mem_ambiguous h _) _
  · split
    · exact forall_mem_stop hevents (not_mem_noExtractor h _) _
    · rename_i x hget
      exact not_mem_deliver h hget hevents

/-- No event of an import tells a control character that no line of the text has. -/
theorem not_mem_events : ∀ e ∈ default.events t, d ∉ e.message.toList := by
  have hnone : ∀ e ∈ ([] : List Log.Event), d ∉ e.message.toList :=
    fun e he => absurd he List.not_mem_nil
  unfold events run
  split
  · exact forall_mem_stop hnone (h.not_mem_of_isPrintable rfl) _
  · split
    · exact forall_mem_stop hnone (not_mem_contentTooLarge h _ _) _
    · exact not_mem_dispatch h (not_mem_ofClassification h t)

end Importer
end VpnImport
