import VpnImport.Proofs.Builder
import VpnImport.Proofs.Importer.Run

/-!
# Importers that have been set up

An importer that was built answers to a text by the first condition that fails, and
otherwise by what the extractor for its kind draws up.  Where that is the extractor
that comes with the dialect, it answers as an importer with all of them and without
a limit does: switching other dialects off does not change how a text is read.
-/

namespace VpnImport
namespace Importer
variable {m : Importer} {t : Text}

theorem mem_supportedProtocols {p : Protocol} :
    p ∈ m.supportedProtocols ↔ ∃ x, m.extractors.get? p = some x :=
  Registry.mem_protocols

/-! ## How an importer answers -/

theorem importText_eq_emptyContent_iff :
    m.importText t = .error .emptyContent ↔ Text.allBlank t = true := by
  constructor
  · intro h
    cases fails_of_importText h with
    | empty hblank => exact hblank
  · intro hblank
    rw [importText, run, if_pos hblank]
    rfl

theorem importText_eq_contentTooLarge_iff (hblank : Text.allBlank t = false) {size limit : Nat} :
    m.importText t = .error (.contentTooLarge size limit) ↔
      size = Text.byteSize t ∧ m.maxContentSize = some limit ∧ limit < size := by
  constructor
  · intro h
    cases fails_of_importText h with
    | tooLarge _ hlimit hsize => exact ⟨rfl, hlimit, hsize⟩
  · rintro ⟨rfl, hlimit, hsize⟩
    rw [importText, run, hblank, if_neg Bool.false_ne_true,
      exceeded?_eq_some_iff.mpr ⟨hlimit, hsize⟩]
    rfl

section Weighed
variable (hblank : Text.allBlank t = false) (hsize : ∀ limit ∈ m.maxContentSize,
  Text.byteSize t ≤ limit)
include hblank hsize

theorem importText_eq_unidentified_iff :
    m.importText t = .error .unidentified ↔ classify t = .unknown := by
  constructor
  · intro h
    cases fails_of_importText h with
    | unidentified hkind => exact hkind
  · intro hkind
    rw [importText_of_unknown hblank hkind, exceeded?_eq_none_iff.mpr hsize]

section Known
variable (hkind : classify t ≠ .unknown)
include hkind

theorem importText_eq_unsupported_iff {p : Protocol} :
    m.importText t = .error (.unsupported p) ↔
      p = classify t ∧ classify t ∉ m.supportedProtocols := by
  rw [mem_supportedProtocols]
  constructor
  · intro h
    cases fails_of_importText h with
    | unsupported _ hget => exact ⟨rfl, by simp [hget]⟩
  · rintro ⟨rfl, hget⟩
    rw [importText_of_known hblank (exceeded?_eq_none_iff.mpr hsize) hkind,
      Option.eq_none_iff_forall_ne_some.mpr fun x hx => hget ⟨x, hx⟩]

theorem importText_eq_adopt {x : Extractor} (hget : m.extractors.get? (classify t) = some x) :
    m.importText t = adopt (classify t) (x.extract t) := by
  rw [importText_of_known hblank (exceeded?_eq_none_iff.mpr hsize) hkind, hget]
  exact result_deliver _ x t _

end Known
end Weighed

/-- The extractor that comes with a dialect makes of a text what it makes of it in
an importer that has all of them and no limit. -/
theorem importText_of_builtin (hblank : Text.allBlank t = false)
    (hsize : ∀ limit ∈ m.maxContentSize, Text.byteSize t ≤ limit)
    (hkind : classify t ≠ .unknown)
    (hget : m.extractors.get? (classify t) = Extractor.builtin? (classify t)) :
    m.importText t = (⟨none, .withDefaults⟩ : Importer).importText t := by
  rw [importText_of_known hblank (exceeded?_eq_none_iff.mpr hsize) hkind, hget,
    importText_of_known hblank rfl hkind]
  rfl

/-- The answers of an importer, each given when the conditions before it hold. -/
structure Answers (m : Importer) (t : Text) : Prop where
  empty : m.importText t = .error .emptyContent ↔ Text.allBlank t = true
  tooLarge (hblank : Text.allBlank t = false) (size limit : Nat) :
    m.importText t = .error (.contentTooLarge size limit) ↔
      size = Text.byteSize t ∧ m.maxContentSize = some limit ∧ limit < size
  unidentified (hblank : Text.allBlank t = false)
      (hsize : ∀ limit ∈ m.maxContentSize, Text.byteSize t ≤ limit) :
    m.importText t = .error .unidentified ↔ classify t = .unknown
  unsupported (hblank : Text.allBlank t = false)
      (hsize : ∀ limit ∈ m.maxContentSize, Text.byteSize t ≤ limit)
      (hkind : classify t ≠ .unknown) (p : Protocol) :
    m.importText t = .error (.unsupported p) ↔
      p = classify t ∧ classify t ∉ m.supportedProtocols
  builtin (hblank : Text.allBlank t = false)
      (hsize : ∀ limit ∈ m.maxContentSize, Text.byteSize t ≤ limit)
      (hkind : classify t ≠ .unknown)
      (hget : m.extractors.get? (classify t) = Extractor.builtin? (classify t)) :
    m.importText t = (⟨none, .withDefaults⟩ : Importer).importText t
  other (hblank : Text.allBlank t = false)
      (hsize : ∀ limit ∈ m.maxContentSize, Text.byteSize t ≤ limit)
      (hkind : classify t ≠ .unknown) (x : Extractor)
      (hget : m.extractors.get? (classify t) = some x) :
    m.importText t = adopt (classify t) (x.extract t)

theorem answers (m : Importer) (t : Text) : Answers m t where
  empty := importText_eq_emptyContent_iff
  tooLarge hblank _ _ := importText_eq_contentTooLarge_iff hblank
  unidentified := importText_eq_unidentified_iff
  unsupported hblank hsize hkind _ := importText_eq_unsupported_iff hblank hsize hkind
  builtin := importText_of_builtin
  other hblank hsize hkind _ := importText_eq_adopt hblank hsize hkind

end Importer

/-! ## What is built -/

namespace Builder

/-- What the steps of a set-up say of the importer that is built. -/
structure Built (ss : List Step) (m : Importer) : Prop where
  limit : m.maxContentSize = lastLimit ss
  sorted : m.supportedProtocols.Pairwise fun p q => p.rank < q.rank
  supported : ∀ p, p ∈ m.supportedProtocols ↔
    switchedOn ss p = true ∨ ∃ x ∈ added ss, x.protocol = p
  entry : ∀ p, m.extractors.get? p = extractor? ss p
  /-- The dialects that are switched on may be gone through in any order. -/
  order : ∀ ps : List Protocol, (∀ p, p ∈ ps ↔ switchedOn ss p = true) →
    (added ss).foldl Registry.register
      ((ps.filterMap Extractor.builtin?).foldl Registry.register .empty) = m.extractors

theorem built {ss : List Step} {m : Importer} (h : (start.steps ss).build = .ok m) :
    Built ss m := by
  obtain ⟨-, rfl⟩ := build_eq_ok_iff.mp h
  exact
    { limit := maxContentSize_steps ss
      sorted := Registry.pairwise_protocols _
      supported := fun p => by
        rw [Importer.mem_supportedProtocols, ← isSome_extractor?_iff, ← get?_registry_steps]
      entry := get?_registry_steps ss
      order := fun ps hps => by
        rw [← custom_steps]
        refine registry_of_order fun p => ?_
        rw [hps, enabled_steps] }

theorem build_all : (start.steps [.enableAll, .unlimited]).build = .ok ⟨none, .withDefaults⟩ := by
  refine build_eq_ok_iff.mpr ⟨by decide, congrArg (Importer.mk none) ?_⟩
  refine Registry.ext_get? fun p => ?_
  rw [get?_registry_steps]
  cases p <;> rfl

/-- An importer is built when some dialect is switched on or some extractor added,
the limit is not zero and every added extractor is for a known kind.  It has the
extractors that the steps leave switched on and over them the added ones, and it
answers to every text by them and by the limit.  The importer to which it is
compared is itself one that is built. -/
theorem build_contract (ss : List Step) :
    ((∃ m, (start.steps ss).build = .ok m) ↔
      ((∃ p, switchedOn ss p = true) ∨ added ss ≠ []) ∧ lastLimit ss ≠ some 0 ∧
        ∀ x ∈ added ss, x.protocol ≠ .unknown) ∧
    (∀ m, (start.steps ss).build = .ok m → Built ss m ∧ ∀ t, Importer.Answers m t) ∧
    (start.steps [.enableAll, .unlimited]).build = .ok ⟨none, .withDefaults⟩ := by
  refine ⟨?_, fun m h => ⟨built h, Importer.answers m⟩, build_all⟩
  have henabled : (start.steps ss).enabledProtocols ≠ [] ↔ ∃ p, switchedOn ss p = true := by
    rw [ne_eq, List.eq_nil_iff_forall_not_mem, not_forall_not]
    simp only [mem_enabledProtocols, enabled_steps]
  rw [← henabled, ← maxContentSize_steps, ← custom_steps, ← fault?_eq_none_iff]
  constructor
  · rintro ⟨m, h⟩
    exact (build_eq_ok_iff.mp h).1
  · exact fun h => ⟨_, build_eq_ok_iff.mpr ⟨h, rfl⟩⟩

/-- An added extractor stays when its dialect is switched off. -/
example :
    let x : Extractor := .custom "Other" .ikev2 fun _ => .error (.missingField "a" "b")
    (start.steps [.enableAll, .add x, .disable .ikev2, .disable .openVPN, .maxSize 9]).build.map
      (fun m => (m.supportedProtocols, (m.extractors.get? .ikev2).map (·.name))) =
      .ok ([.ikev2, .wireGuard], some "Other") := by
  decide

end Builder
end VpnImport
