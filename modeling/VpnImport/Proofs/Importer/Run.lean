import VpnImport.Importer
import VpnImport.Proofs.Classification.Single

/-!
# The course of an import

What an import comes to, condition by condition: `importText_of_unknown` for a
text of no dialect and `importText_eq_ok_iff` for success.  `Ends` lists the ends of
a run with the events that lead to each.
-/

namespace VpnImport
namespace Importer
variable {m : Importer} {t : Text}

theorem exceeded?_eq_none_iff {size : Nat} :
    m.exceeded? size = none ↔ ∀ limit ∈ m.maxContentSize, size ≤ limit := by
  rw [exceeded?, Option.filter_eq_none_iff]
  constructor
  · intro h limit hlimit
    have hnot := h limit hlimit
    rw [decide_eq_true_eq] at hnot
    omega
  · intro h limit hlimit
    have hle := h limit hlimit
    rw [decide_eq_true_eq]
    omega

theorem exceeded?_eq_some_iff {size limit : Nat} :
    m.exceeded? size = some limit ↔ m.maxContentSize = some limit ∧ limit < size := by
  rw [exceeded?, Option.filter_eq_some_iff, decide_eq_true_eq]

/-- An import goes past the size and the emptiness of a text to its kind. -/
theorem run_eq_dispatch (hblank : Text.allBlank t = false)
    (hsize : m.exceeded? (Text.byteSize t) = none) :
    m.run t = m.dispatch t (Classification.report t) (Log.Event.ofClassification t) := by
  rw [run, hblank, if_neg Bool.false_ne_true, hsize]

/-- Behind the classification a text enters an import through what the extractor
makes of it. -/
theorem dispatch_congr {t' : Text} {report : Report} {x : Extractor}
    (hget : m.extractors.get? report.kind = some x) (h : x.extract t = x.extract t')
    (events : List Log.Event) : m.dispatch t report events = m.dispatch t' report events := by
  rw [dispatch, dispatch, hget]
  dsimp only
  rw [deliver, deliver, h]

theorem importText_of_unknown (hblank : Text.allBlank t = false) (hkind : classify t = .unknown) :
    m.importText t =
      match m.exceeded? (Text.byteSize t) with
      | some limit => .error (.contentTooLarge (Text.byteSize t) limit)
      | none => .error .unidentified := by
  have hstatus : (Classification.report t).status = .noMatch := by
    rw [Classification.status_eq]
    exact if_pos hkind
  cases hsize : m.exceeded? (Text.byteSize t) with
  | some limit =>
    rw [importText, run, hblank, if_neg Bool.false_ne_true, hsize]
    rfl
  | none =>
    rw [importText, run_eq_dispatch hblank hsize, dispatch, hstatus]
    rfl

/-- Without a kind a text is refused for its size or for the want of one. -/
theorem importText_eq_of_unknown {t' : Text}
    (hblank : Text.allBlank t = Text.allBlank t') (hsize : Text.byteSize t = Text.byteSize t')
    (hkind : classify t = .unknown) (hkind' : classify t' = .unknown) :
    m.importText t = m.importText t' := by
  by_cases hempty : Text.allBlank t = true
  · rw [importText, importText, run, run, ← hblank, if_pos hempty, if_pos hempty]
  · rw [importText_of_unknown (Bool.not_eq_true _ ▸ hempty) hkind,
      importText_of_unknown (hblank ▸ Bool.not_eq_true _ ▸ hempty) hkind', hsize]

theorem deliver_eq_ok_iff {kind : Protocol} {x : Extractor} {events : List Log.Event}
    {p : Profile} :
    (deliver kind x t events).result = .ok p ↔
      ∃ q, x.extract t = .ok q ∧ q.hasPayload = true ∧ p = { q with kind := kind } := by
  unfold deliver
  cases hextract : x.extract t with
  | error e => simp [Run.stop]
  | ok q =>
    dsimp only
    by_cases hpayload : q.hasPayload = true
    · rw [if_pos hpayload]
      constructor
      · intro h
        exact ⟨q, rfl, hpayload, (Except.ok.inj h).symm⟩
      · intro h
        obtain ⟨q', hq, -, rfl⟩ := h
        cases hq
        rfl
    · rw [if_neg hpayload]
      constructor
      · intro h
        contradiction
      · intro h
        obtain ⟨q', hq, hpayload', -⟩ := h
        cases hq
        exact absurd hpayload' hpayload

/-- Of a text of a known kind, an import is what the extractor of the kind makes
of it. -/
theorem importText_of_known (hblank : Text.allBlank t = false)
    (hsize : m.exceeded? (Text.byteSize t) = none) (hkind : classify t ≠ .unknown) :
    m.importText t =
      match m.extractors.get? (classify t) with
      | none => .error (.unsupported (classify t))
      | some x => (deliver (classify t) x t (Log.Event.ofClassification t)).result := by
  rw [importText, run_eq_dispatch hblank hsize, dispatch, Classification.status_eq]
  rw [show (Classification.report t).kind = classify t from rfl, if_neg hkind]
  dsimp only
  cases m.extractors.get? (classify t) <;> rfl

/-- What an import makes of an extraction from a text of the given kind. -/
def adopt (kind : Protocol) : Except ExtractError Profile → Except ImportError Profile
  | .error e => .error (.parsingFailed kind e.message)
  | .ok p =>
    if p.hasPayload then .ok { p with kind := kind } else .error (.missingProfileData kind)

theorem result_deliver (kind : Protocol) (x : Extractor) (t : Text) (events : List Log.Event) :
    (deliver kind x t events).result = adopt kind (x.extract t) := by
  unfold deliver adopt
  cases x.extract t with
  | error e => rfl
  | ok p =>
    dsimp only
    split <;> rfl

/-- Two texts of one kind that the extractor of the kind cannot tell apart are
imported alike. -/
theorem importText_congr {t' : Text} (hkind : classify t = classify t')
    (hknown : classify t' ≠ .unknown) (hsize : m.exceeded? (Text.byteSize t) = none)
    (hsize' : m.exceeded? (Text.byteSize t') = none)
    (h : ∀ x, m.extractors.get? (classify t') = some x → x.extract t = x.extract t') :
    m.importText t = m.importText t' := by
  have hknown' : classify t ≠ .unknown := hkind ▸ hknown
  rw [importText_of_known (Classification.not_allBlank_of_known hknown') hsize hknown',
    importText_of_known (Classification.not_allBlank_of_known hknown) hsize' hknown, hkind]
  cases hget : m.extractors.get? (classify t') with
  | none => rfl
  | some x =>
    dsimp only
    rw [result_deliver, result_deliver, h x hget]

/-- The same holds of two texts of one size, be they within the limit or not. -/
theorem importText_congr_of_size {t' : Text} (hkind : classify t = classify t')
    (hknown : classify t' ≠ .unknown) (hsize : Text.byteSize t = Text.byteSize t')
    (h : ∀ x, m.extractors.get? (classify t') = some x → x.extract t = x.extract t') :
    m.importText t = m.importText t' := by
  cases hlimit : m.exceeded? (Text.byteSize t) with
  | none => exact importText_congr hkind hknown hlimit (hsize ▸ hlimit) h
  | some limit =>
    have hlimit' : m.exceeded? (Text.byteSize t') = some limit := hsize ▸ hlimit
    rw [importText, importText, run, run,
      Classification.not_allBlank_of_known (show classify t ≠ .unknown from hkind ▸ hknown),
      Classification.not_allBlank_of_known hknown, if_neg Bool.false_ne_true,
      if_neg Bool.false_ne_true, hlimit, hlimit', hsize]

/-- An import succeeds when the text holds something, is within the limit and of
a known kind, and the extractor registered for the kind draws up a usable
profile. -/
theorem importText_eq_ok_iff {p : Profile} :
    m.importText t = .ok p ↔
      Text.allBlank t = false ∧ m.exceeded? (Text.byteSize t) = none ∧
        classify t ≠ .unknown ∧
        ∃ x q, m.extractors.get? (classify t) = some x ∧ x.extract t = .ok q ∧
          q.hasPayload = true ∧ p = { q with kind := classify t } := by
  by_cases hblank : Text.allBlank t = true
  · rw [importText, run, if_pos hblank, hblank]
    simp [Run.stop]
  · rw [Bool.not_eq_true] at hblank
    cases hsize : m.exceeded? (Text.byteSize t) with
    | some limit =>
      rw [importText, run, hblank, if_neg Bool.false_ne_true, hsize]
      simp [Run.stop]
    | none =>
      by_cases hkind : classify t = .unknown
      · rw [importText_of_unknown hblank hkind, hsize]
        simp [hkind]
      · rw [importText_of_known hblank hsize hkind]
        cases hget : m.extractors.get? (classify t) with
        | none => simp
        | some x =>
          dsimp only
          rw [deliver_eq_ok_iff]
          simp [hblank, hkind]

/-! ## Ends -/

/-- The ends that a run can come to, each with the events that lead to it. -/
inductive Ends (m : Importer) (t : Text) : Run → Prop where
  | empty (hblank : Text.allBlank t = true) :
      Ends m t (.stop [] .emptyContent (.error .emptyContent))
  | tooLarge (limit : Nat) (hsize : m.exceeded? (Text.byteSize t) = some limit) :
      Ends m t (.stop [] (.contentTooLarge (Text.byteSize t) limit)
        (.error (.contentTooLarge (Text.byteSize t) limit)))
  | unidentified (hkind : classify t = .unknown) :
      Ends m t (.stop (Log.Event.ofClassification t) .unidentified (.error .unidentified))
  | unsupported (hkind : classify t ≠ .unknown) (hget : m.extractors.get? (classify t) = none) :
      Ends m t (.stop (Log.Event.ofClassification t) (.noExtractor (classify t))
        (.error (.unsupported (classify t))))
  | rejected (x : Extractor) (fault : ExtractError) (hkind : classify t ≠ .unknown)
      (hget : m.extractors.get? (classify t) = some x) (hextract : x.extract t = .error fault) :
      Ends m t (.stop (Log.Event.ofClassification t) (.rejected x.name fault)
        (.error (.parsingFailed (classify t) fault.message)))
  | unusable (x : Extractor) (q : Profile) (hkind : classify t ≠ .unknown)
      (hget : m.extractors.get? (classify t) = some x) (hextract : x.extract t = .ok q)
      (hpayload : q.hasPayload = false) :
      Ends m t (.stop (Log.Event.ofClassification t ++ x.announce q) (.unusable x.name)
        (.error (.missingProfileData (classify t))))
  | imported (x : Extractor) (q : Profile) (hkind : classify t ≠ .unknown)
      (hget : m.extractors.get? (classify t) = some x) (hextract : x.extract t = .ok q)
      (hpayload : q.hasPayload = true) :
      Ends m t (.stop (Log.Event.ofClassification t ++ x.announce q)
        (.imported { q with kind := classify t }) (.ok { q with kind := classify t }))

theorem ends_deliver {x : Extractor} (hkind : classify t ≠ .unknown)
    (hget : m.extractors.get? (classify t) = some x) :
    Ends m t (deliver (classify t) x t (Log.Event.ofClassification t)) := by
  unfold deliver
  cases hextract : x.extract t with
  | error fault => exact .rejected x fault hkind hget hextract
  | ok q =>
    dsimp only
    split
    · rename_i hpayload
      exact .imported x q hkind hget hextract hpayload
    · rename_i hpayload
      exact .unusable x q hkind hget hextract (Bool.eq_false_iff.mpr hpayload)

theorem ends_run (m : Importer) (t : Text) : Ends m t (m.run t) := by
  by_cases hblank : Text.allBlank t = true
  · rw [run, if_pos hblank]
    exact .empty hblank
  · rw [Bool.not_eq_true] at hblank
    cases hsize : m.exceeded? (Text.byteSize t) with
    | some limit =>
      rw [run, hblank, if_neg Bool.false_ne_true, hsize]
      exact .tooLarge limit hsize
    | none =>
      rw [run_eq_dispatch hblank hsize, dispatch, Classification.status_eq]
      rw [show (Classification.report t).kind = classify t from rfl]
      by_cases hkind : classify t = .unknown
      · rw [if_pos hkind]
        exact .unidentified hkind
      · rw [if_neg hkind]
        dsimp only
        cases hget : m.extractors.get? (classify t) with
        | none => exact .unsupported hkind hget
        | some x => exact ends_deliver hkind hget

/-- How an import can fail: by the first of the conditions that does not hold. -/
inductive Fails (m : Importer) (t : Text) : ImportError → Prop where
  | empty (hblank : Text.allBlank t = true) : Fails m t .emptyContent
  | tooLarge (limit : Nat) (hlimit : m.maxContentSize = some limit)
      (hsize : limit < Text.byteSize t) : Fails m t (.contentTooLarge (Text.byteSize t) limit)
  | unidentified (hkind : classify t = .unknown) : Fails m t .unidentified
  | unsupported (hkind : classify t ≠ .unknown) (hget : m.extractors.get? (classify t) = none) :
      Fails m t (.unsupported (classify t))
  | rejected (x : Extractor) (fault : ExtractError) (hkind : classify t ≠ .unknown)
      (hget : m.extractors.get? (classify t) = some x) (hextract : x.extract t = .error fault) :
      Fails m t (.parsingFailed (classify t) fault.message)
  | unusable (x : Extractor) (q : Profile) (hkind : classify t ≠ .unknown)
      (hget : m.extractors.get? (classify t) = some x) (hextract : x.extract t = .ok q)
      (hpayload : q.hasPayload = false) : Fails m t (.missingProfileData (classify t))

theorem fails_of_importText {e : ImportError} (h : m.importText t = .error e) : Fails m t e := by
  have hends := ends_run m t
  rw [importText] at h
  generalize m.run t = r at h hends
  cases hends with
  | empty hblank =>
    cases h
    exact .empty hblank
  | tooLarge limit hsize =>
    cases h
    obtain ⟨hlimit, hlt⟩ := exceeded?_eq_some_iff.mp hsize
    exact .tooLarge limit hlimit hlt
  | unidentified hkind =>
    cases h
    exact .unidentified hkind
  | unsupported hkind hget =>
    cases h
    exact .unsupported hkind hget
  | rejected x fault hkind hget hextract =>
    cases h
    exact .rejected x fault hkind hget hextract
  | unusable x q hkind hget hextract hpayload =>
    cases h
    exact .unusable x q hkind hget hextract hpayload
  | imported => contradiction

end Importer
end VpnImport
