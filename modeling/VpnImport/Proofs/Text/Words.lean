import VpnImport.Proofs.Text.Trim

/-!
# Words

A word is never empty and holds no white space, and a text has no words only if
it is blank.
-/

namespace VpnImport
namespace Text

theorem words_nil : words [] = [] := rfl

theorem words_cons_blank {c : Char} (hc : isBlank c = true) (t : Text) :
    words (c :: t) = words t := by
  rw [words, words, List.splitOnP_cons_eq_if_modifyHead, if_pos hc]
  rfl

theorem words_blank_append {w : Text} (hw : allBlank w = true) (t : Text) :
    words (w ++ t) = words t := by
  induction w with
  | nil => rfl
  | cons c w ih =>
    obtain ⟨hc, hw⟩ := allBlank_cons.mp hw
    rw [List.cons_append, words_cons_blank hc, ih hw]

/-- A character that is not white space starts a word or joins the one behind
it. -/
theorem exists_words_cons {c : Char} (hc : isBlank c = false) (t : Text) :
    ∃ w rest, words (c :: t) = (c :: w) :: rest := by
  obtain ⟨w, pieces, hpieces⟩ := List.exists_cons_of_ne_nil (List.splitOnP_ne_nil isBlank t)
  refine ⟨w, pieces.filter fun w => !w.isEmpty, ?_⟩
  rw [words, List.splitOnP_cons_eq_if_modifyHead, hc, if_neg Bool.false_ne_true, hpieces]
  rfl

theorem words_eq_nil_iff {t : Text} : words t = [] ↔ allBlank t = true := by
  induction t with
  | nil => simp [words_nil, allBlank]
  | cons c t ih =>
    by_cases hc : isBlank c = true
    · rw [words_cons_blank hc, ih]
      simp [allBlank, hc]
    · obtain ⟨w, rest, hw⟩ := exists_words_cons (Bool.not_eq_true _ ▸ hc) t
      simp [hw, allBlank, hc]

/-- White space ends the word before it. -/
theorem words_append_cons {w : Text} (hw : w ≠ []) (hvisible : ∀ c ∈ w, isBlank c = false)
    {c : Char} (hc : isBlank c = true) (t : Text) : words (w ++ c :: t) = w :: words t := by
  rw [words, List.splitOnP_append_cons_of_forall_mem hvisible c hc,
    List.filter_cons_of_pos (by simpa using hw), words]

/-- A word goes up to white space or to the end. -/
theorem words_append {w : Text} (hw : w ≠ []) (hvisible : ∀ c ∈ w, isBlank c = false) {t : Text}
    (ht : t.head?.all isBlank = true) : words (w ++ t) = w :: words t := by
  cases t with
  | nil =>
    rw [List.append_nil, words, List.splitOnP_eq_singleton hvisible,
      List.filter_cons_of_pos (by simpa using hw)]
    rfl
  | cons c t =>
    rw [words_append_cons hw hvisible ht, words_cons_blank ht]

/-- White space behind a text adds no words to it. -/
theorem words_append_blank {w : Text} (hw : allBlank w = true) (t : Text) :
    words (t ++ w) = words t := by
  cases w with
  | nil => rw [List.append_nil]
  | cons c w =>
    obtain ⟨hc, hw⟩ := allBlank_cons.mp hw
    have hnone : words w = [] := words_eq_nil_iff.mpr hw
    rw [words, List.splitOnP_append_cons _ _ hc, List.filter_append]
    rw [words] at hnone
    rw [hnone, List.append_nil, words]

theorem words_trim (t : Text) : words (trim t) = words t := by
  obtain ⟨before, after, ht, hbefore, hafter⟩ := exists_trim t
  conv_rhs => rw [ht, words_append_blank hafter, words_blank_append hbefore]

theorem visible_of_mem_splitOnP {t piece : Text} (h : piece ∈ t.splitOnP isBlank) :
    ∀ c ∈ piece, isBlank c = false := by
  induction t generalizing piece with
  | nil =>
    rw [List.splitOnP_nil, List.mem_singleton] at h
    simp [h]
  | cons x t ih =>
    rw [List.splitOnP_cons_eq_if_modifyHead] at h
    by_cases hx : isBlank x = true
    · rw [if_pos hx, List.mem_cons] at h
      rcases h with rfl | h
      · simp
      · exact ih h
    · obtain ⟨w, pieces, hpieces⟩ := List.exists_cons_of_ne_nil (List.splitOnP_ne_nil isBlank t)
      rw [hpieces] at h ih
      rw [if_neg hx, List.modifyHead_cons, List.mem_cons] at h
      rcases h with rfl | h
      · intro c hc
        rcases List.mem_cons.mp hc with rfl | hc
        · exact Bool.eq_false_iff.mpr hx
        · exact ih List.mem_cons_self c hc
      · exact ih (List.mem_cons_of_mem w h)

section Word
variable {t w : Text} (h : w ∈ words t)
include h

theorem ne_nil_of_mem_words : w ≠ [] := by
  have hne := (List.mem_filter.mp h).2
  simpa using hne

theorem visible_of_mem_words : ∀ c ∈ w, isBlank c = false :=
  visible_of_mem_splitOnP (List.mem_filter.mp h).1

theorem not_allBlank_of_mem_words : allBlank w = false := by
  obtain ⟨c, s, rfl⟩ := List.exists_cons_of_ne_nil (ne_nil_of_mem_words h)
  have hc := visible_of_mem_words h c List.mem_cons_self
  simp [allBlank, hc]

end Word

end Text
end VpnImport
