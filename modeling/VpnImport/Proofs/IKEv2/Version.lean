import VpnImport.Proofs.Detection.Lookup
import VpnImport.Proofs.Importer.Run

/-!
# Version 1 of the key exchange

The detector refuses a text that declares version 1 on a line with nothing else.
The extractor reads more into a line: it takes the quotes off a value and lets
further words stand behind it.  A text whose key exchange the extractor reads as
version 1 is therefore refused where the value stands alone on its line, and is
judged by its keywords where no line of the text has it alone.
-/

namespace VpnImport
namespace IKEv2

/-- A value is a word that stands alone: unquoted, nothing but spaces and tabs
before it, and nothing but these and carriage returns behind it. -/
def StandsAlone (word value : Text) : Prop :=
  ∃ pads w tail, value = pads ++ (w ++ tail) ∧ pads.all Text.isPad = true ∧
    Text.sameLetters w word = true ∧ (tail.all fun c => Text.isPad c || c == '\r') = true

/-- The test for a version sees a value that stands alone, in lower case. -/
theorem isOnly_of_standsAlone {c : Char} {s value : Text} (hword : Text.IsLowWord (c :: s))
    (hc : Text.isPad c = false) (h : StandsAlone (c :: s) value) :
    isOnly (c :: s) (Text.skipPads value.lower) = true := by
  obtain ⟨pads, w, tail, rfl, hpads, hw, htail⟩ := h
  have hblank : Text.allBlank tail = true := by
    refine Text.allBlank_iff.mpr fun x hx => ?_
    rcases Bool.or_eq_true_iff.mp (List.all_eq_true.mp htail x hx) with hpad | hreturn
    · exact Text.isBlank_of_isPad hpad
    · exact eq_of_beq hreturn ▸ by decide
  have hskip : Text.skipPads (pads ++ (c :: s ++ tail)) = c :: s ++ tail := by
    rw [Text.skipPads_pads_append hpads, List.cons_append, Text.skipPads_of_head hc]
  rw [Text.lower_blank_append (Text.allBlank_of_all_isPad hpads), Text.lower_append_blank hblank,
    hword.lower_eq_of_sameLetters hw, hskip, isOnly, Text.isPrefixOf?_eq_after?, Text.after?_append]
  exact htail

theorem hasVersion1_of_standsAlone {t rest : Text}
    (hrest : Assignment.firstValue? Text.sameLetter "keyexchange".toList t = some rest)
    (h : StandsAlone "ikev1".toList rest) : hasVersion1 t.lower = true := by
  obtain ⟨l, hl, hvalue⟩ := List.exists_of_findSome?_eq_some hrest
  have hkey : "keyexchange" ∈ keywordSet.keywords := by decide
  have hlower := Assignment.valueOf?_lower (ofNames.isKey _ hkey) (isLowWord _ hkey) hvalue
  rw [hasVersion1, Text.lines_lower, List.any_map, List.any_eq_true]
  refine ⟨l, hl, ?_⟩
  have honly : isOnly "ikev1".toList (Text.skipPads rest.lower) = true :=
    isOnly_of_standsAlone (by decide) (by decide) h
  rw [Function.comp, declaresVersion1, keyExchange?, hlower, Option.map_some, Option.any_some,
    honly, Bool.true_or]

theorem judge_eq_matched_iff {t : Text} {score : Nat} (h : hasVersion2 t.lower = false) :
    judge t score = .matched ↔
      hasVersion1 t.lower = false ∧
        (minKeywords ≤ score ∨ hasConfigSetup t.lower = true ∧ minKeywordsWithSetup ≤ score) := by
  rw [judge, h, if_neg Bool.false_ne_true]
  by_cases h1 : hasVersion1 t.lower = true
  · simp [h1]
  · rw [if_neg h1, Bool.eq_false_iff.mpr h1, and_iff_right rfl]
    split
    · rename_i hscore
      simpa using hscore
    · rename_i hscore
      simpa using hscore

theorem not_detects_of_standsAlone {t rest : Text} (hversion2 : hasVersion2 t.lower = false)
    (hrest : Assignment.firstValue? Text.sameLetter "keyexchange".toList t = some rest)
    (h : StandsAlone "ikev1".toList rest) : detector.detects t = false := by
  rw [← Bool.not_eq_true]
  intro hdetects
  obtain ⟨-, -, hjudge⟩ := Detector.detects_iff.mp hdetects
  have hversion1 := ((judge_eq_matched_iff hversion2).mp hjudge).1
  rw [hasVersion1_of_standsAlone hrest h] at hversion1
  contradiction

theorem detects_of_importText {m : Importer} {t : Text} {p : Profile}
    (h : m.importText t = .ok p) (hkind : p.kind = .ikev2) : detector.detects t = true := by
  obtain ⟨-, -, -, x, q, -, -, -, rfl⟩ := Importer.importText_eq_ok_iff.mp h
  exact (Classification.kind_eq_iff (d := detector) (by simp [Classification.detectors])).mp hkind

/-- A text that declares no version 2 is matched when no line declares version 1 by
itself and the keywords suffice.  Where the key exchange that the extractor reads is
version 1 and stands alone, the text is refused, and no importer makes an IKEv2
profile of it. -/
theorem version1_alone_refused {t : Text} (hversion2 : hasVersion2 t.lower = false) :
    (detector.detects t = true ↔
      gate t.lower = true ∧ Detection.foreign? t .ikev2 = none ∧ hasVersion1 t.lower = false ∧
        (minKeywords ≤ detector.score t ∨
          hasConfigSetup t.lower = true ∧ minKeywordsWithSetup ≤ detector.score t)) ∧
    ∀ rest, Assignment.firstValue? Text.sameLetter "keyexchange".toList t = some rest →
      StandsAlone "ikev1".toList rest →
        detector.detects t = false ∧
          ∀ (m : Importer) (p : Profile), m.importText t = .ok p → p.kind ≠ .ikev2 := by
  constructor
  · rw [Detector.detects_iff]
    exact and_congr_right fun _ => and_congr_right fun _ => judge_eq_matched_iff hversion2
  · intro rest hrest halone
    have hnot := not_detects_of_standsAlone hversion2 hrest halone
    refine ⟨hnot, fun m p himport hkind => ?_⟩
    rw [detects_of_importText himport hkind] at hnot
    contradiction

theorem version1_alone_refused_with_keywords :
    let t : Text := ("conn a\n  keyexchange = IKEv1 \r\n  left=%any\n" ++
      "  right=vpn.example.com\n  authby=secret\n").toList
    hasVersion2 t.lower = false ∧ 4 ≤ detector.score t ∧ detector.detects t = false ∧
      ∀ (m : Importer) (p : Profile), m.importText t = .ok p → p.kind ≠ .ikev2 := by
  intro t
  have hversion2 : hasVersion2 t.lower = false := by decide +kernel
  have hrest : Assignment.firstValue? Text.sameLetter "keyexchange".toList t =
      some " IKEv1 ".toList := by
    decide +kernel
  exact ⟨hversion2, by decide +kernel, (version1_alone_refused hversion2).2 _ hrest
    ⟨[' '], "IKEv1".toList, [' '], rfl, by decide, by decide, by decide⟩⟩

/-- A comment behind the value hides version 1 from the detector, not from the
extractor. -/
theorem version1_imported_before_comment :
    let t : Text := ("conn a\n  keyexchange=ikev1 # legacy\n  left=%any\n" ++
      "  right=vpn.example.com\n  authby=secret\n").toList
    Text.sameLetters (value t "keyexchange") "ikev1".toList = true ∧
      hasVersion2 t.lower = false ∧ detector.detects t = true ∧
      ∃ p, importText t = .ok p ∧ p.kind = .ikev2 ∧ p.detail? "keyexchange" = some "ikev1" := by
  intro t
  have himport : (importText t).toOption.any (fun p =>
      p.kind == .ikev2 && p.detail? "keyexchange" == some "ikev1") = true := by
    decide +kernel
  refine ⟨by decide +kernel, by decide +kernel, by decide +kernel, ?_⟩
  cases hresult : importText t with
  | error e =>
    rw [hresult] at himport
    contradiction
  | ok p =>
    rw [hresult] at himport
    change (p.kind == .ikev2 && p.detail? "keyexchange" == some "ikev1") = true at himport
    rw [Bool.and_eq_true, beq_iff_eq, beq_iff_eq] at himport
    exact ⟨p, rfl, himport⟩

end IKEv2
end VpnImport
