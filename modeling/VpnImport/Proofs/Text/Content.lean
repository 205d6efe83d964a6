import VpnImport.Proofs.Text.Line

/-!
# The content of a text

The content of a text is its lines without the blank ones.  A scan of the lines
that passes over blank lines is a scan of the content, so it cannot tell two
texts of the same content apart: `SameContent`.  A search for a line does not even
see in what order the lines stand, or how often: `SameLines`.  Neither line endings
nor blank lines belong to the content, which the last section states.
-/

namespace VpnImport
namespace Text

/-- The lines that hold something beside white space. -/
def contentLines (t : Text) : List Text :=
  (lines t).filter fun l => !allBlank l

/-- Two texts that differ in blank lines and line endings only. -/
def SameContent (t t' : Text) : Prop :=
  contentLines t = contentLines t'

/-- Two texts with the same lines, the blank ones apart, in whatever order and
number. -/
def SameLines (t t' : Text) : Prop :=
  ∀ l, l ∈ contentLines t ↔ l ∈ contentLines t'

theorem filterMap_contentLines {α : Type} {f : Text → Option α}
    (hf : ∀ l, allBlank l = true → f l = none) (t : Text) :
    (contentLines t).filterMap f = (lines t).filterMap f := by
  rw [contentLines, List.filterMap_filter]
  congr 1
  funext l
  by_cases hl : allBlank l = true
  · simp [hl, hf l hl]
  · simp [hl]

theorem any_contentLines {p : Text → Bool} (hp : ∀ l, allBlank l = true → p l = false) (t : Text) :
    (contentLines t).any p = (lines t).any p := by
  rw [contentLines, List.any_filter]
  congr 1
  funext l
  by_cases hl : allBlank l = true
  · simp [hl, hp l hl]
  · simp [hl]

theorem countP_contentLines {p : Text → Bool} (hp : ∀ l, allBlank l = true → p l = false)
    (t : Text) : (contentLines t).countP p = (lines t).countP p := by
  rw [contentLines, List.countP_filter]
  congr 1
  funext l
  by_cases hl : allBlank l = true
  · simp [hl, hp l hl]
  · simp [hl]

theorem foldl_contentLines {σ : Type} {f : σ → Text → σ}
    (hf : ∀ s l, allBlank l = true → f s l = s) (s : σ) (t : Text) :
    (contentLines t).foldl f s = (lines t).foldl f s := by
  rw [contentLines, List.foldl_filter]
  congr 1
  funext s l
  by_cases hl : allBlank l = true
  · simp [hl, hf s l hl]
  · simp [hl]

/-! ## Scans of two texts -/

namespace SameContent
variable {t t' : Text} (h : SameContent t t')
include h

theorem filterMap {α : Type} {f : Text → Option α} (hf : ∀ l, allBlank l = true → f l = none) :
    (lines t).filterMap f = (lines t').filterMap f := by
  rw [← filterMap_contentLines hf, ← filterMap_contentLines hf, h]

theorem findSome? {α : Type} {f : Text → Option α} (hf : ∀ l, allBlank l = true → f l = none) :
    (lines t).findSome? f = (lines t').findSome? f := by
  rw [← List.head?_filterMap, ← List.head?_filterMap, h.filterMap hf]

theorem sameLines : SameLines t t' := fun l => by
  rw [h]

theorem countP {p : Text → Bool} (hp : ∀ l, allBlank l = true → p l = false) :
    (lines t).countP p = (lines t').countP p := by
  rw [← countP_contentLines hp, ← countP_contentLines hp, h]

theorem foldl {σ : Type} {f : σ → Text → σ} (hf : ∀ s l, allBlank l = true → f s l = s) (s : σ) :
    (lines t).foldl f s = (lines t').foldl f s := by
  rw [← foldl_contentLines hf, ← foldl_contentLines hf, h]

end SameContent

theorem sameLines_of_lines {t t' : Text} (h : ∀ l, l ∈ lines t ↔ l ∈ lines t') :
    SameLines t t' := fun l => by
  rw [contentLines, contentLines, List.mem_filter, List.mem_filter, h]

theorem SameLines.any {t t' : Text} (h : SameLines t t') {p : Text → Bool}
    (hp : ∀ l, allBlank l = true → p l = false) : (lines t).any p = (lines t').any p := by
  rw [← any_contentLines hp, ← any_contentLines hp, Bool.eq_iff_iff, List.any_eq_true,
    List.any_eq_true]
  exact exists_congr fun l => and_congr_left fun _ => h l

/-! ## Blank texts -/

theorem allBlank_dropReturn (row : Text) : allBlank (dropReturn row) = allBlank row := by
  refine dropReturn_congr (fun row => ?_) row
  rw [allBlank, List.all_append, allBlank]
  exact Bool.and_true _

/-- A text is blank when all its lines are. -/
theorem allBlank_eq_all_lines (t : Text) : allBlank t = (lines t).all allBlank := by
  induction t using row_induction with
  | last row hrow =>
    rw [lines_row hrow]
    by_cases hempty : row = []
    · rw [hempty]
      rfl
    · simp [hempty]
  | cons row t hrow ih =>
    rw [lines_cons hrow, List.all_cons, allBlank_dropReturn, ← ih, allBlank, List.all_append]
    show (allBlank row && (isBlank '\n' && allBlank t)) = _
    rw [show isBlank '\n' = true by decide, Bool.true_and]

theorem contentLines_eq_nil_iff {t : Text} : contentLines t = [] ↔ allBlank t = true := by
  rw [allBlank_eq_all_lines, contentLines, List.filter_eq_nil_iff, List.all_eq_true]
  simp

theorem SameContent.allBlank_eq {t t' : Text} (h : SameContent t t') :
    allBlank t = allBlank t' := by
  rw [Bool.eq_iff_iff, ← contentLines_eq_nil_iff, ← contentLines_eq_nil_iff, h]

/-! ## Changes of the layout

A line that is added or taken away, and a line ending that is written in another
way, leave the content alone.  A carriage return at the end of a line belongs to
the line once another one follows it, so the lemmas ask that there be none. -/

theorem contentLines_append (a b : Text) :
    contentLines (a ++ '\n' :: b) =
      ((a.splitOn '\n').map dropReturn).filter (fun l => !allBlank l) ++ contentLines b := by
  rw [contentLines, lines_append, List.filter_append]
  rfl

theorem contentLines_cons {row : Text} (hrow : '\n' ∉ row) (t : Text) :
    contentLines (row ++ '\n' :: t) =
      (if allBlank row then [] else [dropReturn row]) ++ contentLines t := by
  rw [contentLines_append, List.splitOn_eq_singleton hrow]
  by_cases hblank : allBlank row = true
  · simp [allBlank_dropReturn, hblank]
  · simp [allBlank_dropReturn, hblank]

/-- Putting the same lines before two texts. -/
theorem SameContent.append {b b' : Text} (a : Text) (h : SameContent b b') :
    SameContent (a ++ '\n' :: b) (a ++ '\n' :: b') := by
  unfold SameContent at h ⊢
  rw [contentLines_append, contentLines_append, h]

/-- Blank lines at the front of a text. -/
theorem sameContent_blank_append {b : Text} (hb : allBlank b = true) (t : Text) :
    SameContent (b ++ '\n' :: t) t := by
  unfold SameContent
  induction b using row_induction with
  | last row hrow => rw [contentLines_cons hrow, if_pos hb, List.nil_append]
  | cons row b hrow ih =>
    obtain ⟨hrowBlank, hrest⟩ := allBlank_append.mp hb
    have hbBlank : allBlank b = true := (allBlank_append (a := ['\n'])).mp hrest |>.2
    rw [List.append_assoc, List.cons_append, contentLines_cons hrow, if_pos hrowBlank,
      List.nil_append, ih hbBlank]

/-- Blank lines at the end of a text, the last of them ended or not. -/
theorem sameContent_append_blank {b : Text} (hb : allBlank b = true) (a : Text) :
    SameContent (a ++ '\n' :: b) (a ++ ['\n']) := by
  refine SameContent.append a ?_
  exact (contentLines_eq_nil_iff.mpr hb).trans (contentLines_eq_nil_iff.mpr rfl).symm

/-- The ending of the last line. -/
theorem sameContent_append_feed {t : Text} (ht : t.getLast? ≠ some '\r') :
    SameContent (t ++ ['\n']) t := by
  unfold SameContent
  induction t using row_induction with
  | last row hrow =>
    have hkeep : dropReturn row = row := if_neg ht
    rw [contentLines_cons hrow, hkeep, contentLines, contentLines, lines_row hrow]
    by_cases hblank : allBlank row = true
    · by_cases hempty : row = []
      · rw [hempty]
        rfl
      · simp [hblank, hempty, lines, openRow]
    · have hempty : row ≠ [] := fun e => hblank (by rw [e]; rfl)
      simp [hblank, hempty, lines, openRow]
  | cons row t hrow ih =>
    have hlast : t.getLast? ≠ some '\r' := by
      intro h
      apply ht
      rw [List.getLast?_append_of_ne_nil _ (List.cons_ne_nil _ _), List.getLast?_cons, h]
      rfl
    rw [List.append_assoc, List.cons_append, contentLines_cons hrow, contentLines_cons hrow,
      ih hlast]

/-- The text with a carriage return before each of its line feeds. -/
def withReturns (t : Text) : Text :=
  t.flatMap fun c => if c == '\n' then ['\r', '\n'] else [c]

theorem withReturns_of_not_mem {row : Text} (h : '\n' ∉ row) : withReturns row = row := by
  induction row with
  | nil => rfl
  | cons c row ih =>
    obtain ⟨hc, hrow⟩ := not_or.mp (mt List.mem_cons.mpr h)
    have hne : (c == '\n') = false := beq_false_of_ne (Ne.symm hc)
    rw [withReturns, List.flatMap_cons, hne, if_neg Bool.false_ne_true]
    exact congrArg (c :: ·) (ih hrow)

theorem withReturns_cons {row : Text} (h : '\n' ∉ row) (t : Text) :
    withReturns (row ++ '\n' :: t) = (row ++ ['\r']) ++ '\n' :: withReturns t := by
  have hrow := withReturns_of_not_mem h
  rw [withReturns] at hrow
  rw [withReturns, List.flatMap_append, hrow, List.append_assoc]
  rfl

/-- A text whose lines end in line feeds alone has the lines of the text in which
they end in a carriage return and a line feed. -/
theorem lines_withReturns {t : Text} (h : ¬ ['\r', '\n'] <:+: t) :
    lines (withReturns t) = lines t := by
  induction t using row_induction with
  | last row hrow => rw [withReturns_of_not_mem hrow]
  | cons row t hrow ih =>
    have hreturn : '\n' ∉ row ++ ['\r'] := by simp [hrow]
    have hrest : ¬ ['\r', '\n'] <:+: t := fun hin =>
      h (hin.trans (List.suffix_append_of_suffix (List.suffix_cons '\n' t)).isInfix)
    have hkeep : dropReturn row = row := by
      refine if_neg fun hlast => h ?_
      obtain ⟨init, rfl⟩ := List.getLast?_eq_some_iff.mp hlast
      exact ⟨init, t, by simp⟩
    rw [withReturns_cons hrow, lines_cons hreturn, lines_cons hrow, dropReturn_append_return,
      hkeep, ih hrest]

theorem sameContent_withReturns {t : Text} (h : ¬ ['\r', '\n'] <:+: t) :
    SameContent (withReturns t) t := by
  rw [SameContent, contentLines, lines_withReturns h, contentLines]

end Text
end VpnImport
