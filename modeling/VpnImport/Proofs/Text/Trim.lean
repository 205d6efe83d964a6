import VpnImport.Text.Blank
import VpnImport.Proofs.Text.Match

/-!
# White space at the ends of a text

`exists_trim` says what trimming takes away; the other lemmas say which changes
to a text trimming does not see.
-/

namespace VpnImport
namespace Text

theorem isBlank_of_isPad {c : Char} (h : isPad c = true) : isBlank c = true := by
  rw [isPad, Bool.or_eq_true, beq_iff_eq, beq_iff_eq] at h
  rcases h with rfl | rfl <;> decide

theorem not_isPad_of_not_isBlank {c : Char} (h : isBlank c = false) : isPad c = false := by
  rw [← Bool.not_eq_true]
  intro hpad
  rw [isBlank_of_isPad hpad] at h
  contradiction

theorem allBlank_of_all_isPad {t : Text} (h : t.all isPad = true) : allBlank t = true := by
  rw [allBlank, List.all_eq_true]
  exact fun c hc => isBlank_of_isPad (List.all_eq_true.mp h c hc)

/-- Spaces and tabs are skipped up to what is visible. -/
theorem skipPads_append_visible {pads : Text} (hpads : pads.all isPad = true) {w : Text}
    (hne : w ≠ []) (hw : ∀ c ∈ w, isBlank c = false) (t : Text) :
    skipPads (pads ++ (w ++ t)) = w ++ t := by
  obtain ⟨c, w, rfl⟩ := List.exists_cons_of_ne_nil hne
  rw [skipPads_pads_append hpads, List.cons_append,
    skipPads_of_head (not_isPad_of_not_isBlank (hw c List.mem_cons_self))]

theorem allBlank_append {a b : Text} :
    allBlank (a ++ b) = true ↔ allBlank a = true ∧ allBlank b = true := by
  rw [allBlank, List.all_append, Bool.and_eq_true]
  rfl

theorem allBlank_cons {c : Char} {t : Text} :
    allBlank (c :: t) = true ↔ isBlank c = true ∧ allBlank t = true := by
  rw [allBlank, List.all_cons, Bool.and_eq_true]
  rfl

theorem allBlank_iff {t : Text} : allBlank t = true ↔ ∀ c ∈ t, isBlank c = true := by
  rw [allBlank, List.all_eq_true]

theorem trimStart_append_cons {c : Char} (h : isBlank c = false) (a t : Text) :
    trimStart (a ++ c :: t) = trimStart a ++ c :: t :=
  dropWhile_append_cons h a t

theorem trimStart_of_head {c : Char} (h : isBlank c = false) (t : Text) :
    trimStart (c :: t) = c :: t := by
  rw [trimStart, List.dropWhile_cons_of_neg (by simp [h])]

theorem trimStart_blank_append {w : Text} (h : allBlank w = true) (t : Text) :
    trimStart (w ++ t) = trimStart t :=
  List.dropWhile_append_of_pos (allBlank_iff.mp h)

theorem trimStart_eq_nil_iff {t : Text} : trimStart t = [] ↔ allBlank t = true := by
  rw [allBlank_iff]
  constructor
  · intro h c hc
    have happ := List.takeWhile_append_dropWhile (p := isBlank) (l := t)
    rw [trimStart] at h
    rw [h, List.append_nil] at happ
    rw [← happ] at hc
    exact List.all_eq_true.mp List.all_takeWhile c hc
  · intro h
    simpa [trimStart] using trimStart_blank_append (allBlank_iff.mpr h) []

/-- A text that is not all white space goes on with a character that is none
when its start is trimmed. -/
theorem trimStart_cases (t : Text) :
    trimStart t = [] ∨ ∃ c s, trimStart t = c :: s ∧ isBlank c = false := by
  cases h : trimStart t with
  | nil => exact .inl rfl
  | cons c s =>
    refine .inr ⟨c, s, rfl, ?_⟩
    have hnot := List.head?_dropWhile_not isBlank t
    rw [trimStart] at h
    rw [h] at hnot
    simpa using hnot

/-- Trimming the end does not go past a character that is not white space. -/
theorem trimEnd_append_cons {c : Char} (h : isBlank c = false) (a t : Text) :
    trimEnd (a ++ c :: t) = a ++ c :: trimEnd t := by
  have hreverse : (a ++ c :: t).reverse = t.reverse ++ c :: a.reverse := by simp
  rw [trimEnd, hreverse, dropWhile_append_cons h, List.reverse_append]
  simp [trimEnd]

theorem trimEnd_cons {c : Char} (h : isBlank c = false) (t : Text) :
    trimEnd (c :: t) = c :: trimEnd t :=
  trimEnd_append_cons h [] t

theorem trimEnd_append_blank {w : Text} (h : allBlank w = true) (t : Text) :
    trimEnd (t ++ w) = trimEnd t := by
  have hw : ∀ c ∈ w.reverse, isBlank c = true := fun c hc =>
    allBlank_iff.mp h c (List.mem_reverse.mp hc)
  rw [trimEnd, List.reverse_append, List.dropWhile_append_of_pos hw]
  rfl

theorem trim_append_blank {w : Text} (h : allBlank w = true) (t : Text) :
    trim (t ++ w) = trim t := by
  rw [trim, trim, trimStart, List.dropWhile_append]
  split
  · rename_i hnil
    have hw : w.dropWhile isBlank = [] := trimStart_eq_nil_iff.mpr h
    rw [hw, trimStart, List.isEmpty_iff.mp hnil]
  · exact trimEnd_append_blank h _

/-- Trimming keeps the first character that is not white space. -/
theorem head?_trim (t : Text) : (trim t).head? = (trimStart t).head? := by
  rw [trim]
  rcases trimStart_cases t with h | ⟨c, s, h, hc⟩
  · rw [h]
    rfl
  · rw [h, trimEnd_cons hc]
    rfl

theorem trim_eq_nil_iff {t : Text} : trim t = [] ↔ allBlank t = true := by
  rw [← trimStart_eq_nil_iff, ← List.head?_eq_none_iff, head?_trim, List.head?_eq_none_iff]

theorem exists_trimEnd (t : Text) : ∃ after, t = trimEnd t ++ after ∧ allBlank after = true := by
  refine ⟨(t.reverse.takeWhile isBlank).reverse, ?_, ?_⟩
  · rw [trimEnd, ← List.reverse_append, List.takeWhile_append_dropWhile, List.reverse_reverse]
  · rw [allBlank, List.all_reverse]
    exact List.all_takeWhile

theorem exists_trim (t : Text) :
    ∃ before after, t = before ++ trim t ++ after ∧ allBlank before = true ∧
      allBlank after = true := by
  obtain ⟨after, hstart, hafter⟩ := exists_trimEnd (trimStart t)
  refine ⟨t.takeWhile isBlank, after, ?_, List.all_takeWhile, hafter⟩
  rw [trim, List.append_assoc, ← hstart, trimStart, List.takeWhile_append_dropWhile]

theorem trim_trimEnd (t : Text) : trim (trimEnd t) = trim t := by
  obtain ⟨after, ht, hafter⟩ := exists_trimEnd t
  conv_rhs => rw [ht, trim_append_blank hafter]

/-- Trimming the end of a text leaves its first character or nothing. -/
theorem head?_trimEnd {t : Text} {c : Char} (h : (trimEnd t).head? = some c) :
    t.head? = some c := by
  obtain ⟨after, ht, -⟩ := exists_trimEnd t
  rw [ht, List.head?_append, h]
  rfl

theorem trim_subset (t : Text) : trim t ⊆ t := by
  obtain ⟨before, after, ht, -, -⟩ := exists_trim t
  intro c hc
  rw [ht]
  exact List.mem_append_left _ (List.mem_append_right _ hc)

theorem mem_trim {c : Char} {t : Text} (h : c ∈ t) (hc : isBlank c = false) : c ∈ trim t := by
  obtain ⟨before, after, ht, hbefore, hafter⟩ := exists_trim t
  rw [ht, List.mem_append, List.mem_append] at h
  rcases h with (h | h) | h
  · rw [allBlank_iff.mp hbefore c h] at hc
    contradiction
  · exact h
  · rw [allBlank_iff.mp hafter c h] at hc
    contradiction

/-- What is left of a trimmed text is not all white space. -/
theorem allBlank_trim (t : Text) : allBlank (trim t) = true ↔ trim t = [] := by
  constructor
  · intro h
    obtain ⟨before, after, ht, hbefore, hafter⟩ := exists_trim t
    rw [trim_eq_nil_iff, ht]
    exact allBlank_append.mpr ⟨allBlank_append.mpr ⟨hbefore, h⟩, hafter⟩
  · intro h
    rw [h]
    rfl

theorem not_allBlank_trim {t : Text} (h : trim t ≠ []) : allBlank (trim t) = false := by
  rw [← Bool.not_eq_true, allBlank_trim]
  exact h

/-- A word goes up to white space or to the end. -/
theorem upToBlank_append {w behind : Text} (hw : ∀ c ∈ w, isBlank c = false)
    (hbehind : behind.head?.all isBlank = true) : upToBlank (w ++ behind) = w := by
  have hall : ∀ c ∈ w, (!isBlank c) = true := by simpa using hw
  rw [upToBlank, List.takeWhile_append_of_pos hall]
  cases behind with
  | nil => simp
  | cons c behind =>
    have hc : isBlank c = true := hbehind
    simp [hc]

theorem exists_upToBlank (t : Text) :
    ∃ behind, t = upToBlank t ++ behind ∧ (∀ c ∈ upToBlank t, isBlank c = false) ∧
      behind.head?.all isBlank = true := by
  refine ⟨t.dropWhile fun c => !isBlank c, List.takeWhile_append_dropWhile.symm, ?_, ?_⟩
  · intro c hc
    simpa using List.all_eq_true.mp List.all_takeWhile c hc
  · have hnot := List.head?_dropWhile_not (fun c => !isBlank c) t
    cases hhead : (t.dropWhile fun c => !isBlank c).head? with
    | none => rfl
    | some c =>
      rw [hhead] at hnot
      simpa using hnot

theorem not_allBlank_upToBlank {t : Text} (h : upToBlank t ≠ []) :
    allBlank (upToBlank t) = false := by
  cases t with
  | nil => contradiction
  | cons c t =>
    by_cases hc : isBlank c = true
    · rw [upToBlank, List.takeWhile_cons_of_neg (by simp [hc])] at h
      contradiction
    · rw [upToBlank, List.takeWhile_cons_of_pos (by simp [hc])]
      simp [allBlank, hc]

end Text
end VpnImport
