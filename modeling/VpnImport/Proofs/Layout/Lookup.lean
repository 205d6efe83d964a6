import VpnImport.Assignment
import VpnImport.Comment
import VpnImport.Proofs.Section
import VpnImport.Proofs.Text.Content
import VpnImport.Proofs.Text.Lower

/-!
# Lookups see the content alone

Assignments, comments, section headers and words of a lower-cased text are all
found by scans of lines that a blank line cannot end.  The scan for an occurrence
is the one that runs over the text as a whole, line endings included; but a word
without line endings occurs in a text only if it occurs on one of its lines.
-/

namespace VpnImport
open Text (SameContent contentLines)

namespace Text

/-- A blank text goes on being blank when its start is cut off. -/
theorem allBlank_of_after? {same : Char → Char → Bool} {head t rest : Text}
    (h : after? same head t = some rest) (ht : allBlank t = true) : allBlank rest = true := by
  induction head generalizing t with
  | nil => exact Option.some.inj h ▸ ht
  | cons c head ih =>
    cases t with
    | nil => contradiction
    | cons x t =>
      have hrest : allBlank t = true := (allBlank_append (a := [x])).mp ht |>.2
      rw [after?] at h
      split at h
      · exact ih h hrest
      · contradiction

theorem allBlank_skipPads {t : Text} (ht : allBlank t = true) : allBlank (skipPads t) = true :=
  allBlank_iff.mpr fun c hc => allBlank_iff.mp ht c (skipPads_subset t hc)

/-! ## Occurrences -/

theorem occurs_append_cons {needle : Text} {c : Char} (hne : needle ≠ []) (hc : c ∉ needle)
    (a t : Text) : occurs needle (a ++ c :: t) = (occurs needle a || occurs needle t) := by
  have hhead : ∀ a t : Text, needle.isPrefixOf (a ++ c :: t) = needle.isPrefixOf a := by
    intro a t
    rw [← List.isSome_isPrefixOf?_eq_isPrefixOf, ← List.isSome_isPrefixOf?_eq_isPrefixOf,
      isPrefixOf?_eq_after?, isPrefixOf?_eq_after?, after?_append_cons_of_not_mem hc,
      Option.isSome_map]
  obtain ⟨x, s, rfl⟩ := List.exists_cons_of_ne_nil hne
  induction a with
  | nil =>
    have hfront : (x :: s).isPrefixOf (c :: t) = false := hhead [] t
    rw [List.nil_append, occurs, occurs, hfront]
    rfl
  | cons y a ih =>
    have hfront := hhead (y :: a) t
    rw [List.cons_append] at hfront
    rw [List.cons_append, occurs, occurs, hfront, ih, Bool.or_assoc]

section Occurs
variable {needle : Text} (hfeed : '\n' ∉ needle) (hreturn : '\r' ∉ needle)
  (hsolid : allBlank needle = false)
include hsolid

theorem ne_nil_of_not_allBlank : needle ≠ [] := fun h => by
  rw [h] at hsolid
  contradiction

theorem occurs_of_allBlank {l : Text} (hl : allBlank l = true) : occurs needle l = false := by
  rw [← Bool.not_eq_true, occurs_iff_isInfix]
  intro hin
  have hall : allBlank needle = true :=
    allBlank_iff.mpr fun c hc => allBlank_iff.mp hl c (hin.subset hc)
  rw [hsolid] at hall
  contradiction

include hfeed hreturn

/-- A word without line endings occurs in a text when it occurs on a line. -/
theorem occurs_eq_any_lines (t : Text) : occurs needle t = (lines t).any (occurs needle) := by
  have hne := ne_nil_of_not_allBlank hsolid
  have hnil : occurs needle [] = false := List.isEmpty_eq_false_iff.mpr hne
  induction t using row_induction with
  | last row hrow =>
    rw [lines_row hrow]
    by_cases hempty : row = []
    · rw [hempty, hnil]
      rfl
    · simp [hempty]
  | cons row t hrow ih =>
    have hrow' : occurs needle (dropReturn row) = occurs needle row := by
      refine dropReturn_congr (fun row => ?_) row
      rw [occurs_append_cons hne hreturn, hnil, Bool.or_false]
    rw [lines_cons hrow, List.any_cons, hrow', ← ih, occurs_append_cons hne hfeed]

end Occurs

/-! ## Lower case -/

section SameLines
variable {t t' : Text} (h : SameLines t t')
include h

theorem SameLines.any_lower {p : Text → Bool} (hp : ∀ l, allBlank l = true → p l = false) :
    (lines t.lower).any p = (lines t'.lower).any p := by
  rw [lines_lower, lines_lower, List.any_map, List.any_map]
  refine h.any fun l hl => ?_
  rw [Function.comp, lower_of_allBlank hl, hp l hl]

theorem SameLines.occurs_lower {needle : Text} (hfeed : '\n' ∉ needle) (hreturn : '\r' ∉ needle)
    (hsolid : Text.allBlank needle = false) : occurs needle t.lower = occurs needle t'.lower := by
  rw [occurs_eq_any_lines hfeed hreturn hsolid, occurs_eq_any_lines hfeed hreturn hsolid,
    h.any_lower fun l hl => occurs_of_allBlank hsolid hl]

end SameLines
end Text

/-! ## Assignments and comments -/

theorem Assignment.valueOf?_of_allBlank {same : Char → Char → Bool} {key l : Text}
    (hl : Text.allBlank l = true) : valueOf? same key l = none := by
  unfold valueOf?
  split
  · rfl
  · rename_i rest hrest
    have hblank : Text.allBlank (Text.skipPads rest) = true :=
      Text.allBlank_skipPads (Text.allBlank_of_after? hrest (Text.allBlank_skipPads hl))
    split
    · rename_i value hvalue
      rw [hvalue] at hblank
      exact absurd (Text.allBlank_iff.mp hblank '=' List.mem_cons_self) (by decide)
    · rfl

theorem Comment.content?_of_allBlank {l : Text} (hl : Text.allBlank l = true) :
    content? l = none := by
  rw [content?, Text.trim_eq_nil_iff.mpr hl]
  rfl

namespace Text.SameContent
variable {t t' : Text} (h : SameContent t t')
include h

theorem firstValue?_eq (same : Char → Char → Bool) (key : Text) :
    Assignment.firstValue? same key t = Assignment.firstValue? same key t' :=
  h.findSome? fun _ hl => Assignment.valueOf?_of_allBlank hl

theorem tokenValue_eq (key : Text) :
    Assignment.tokenValue t key = Assignment.tokenValue t' key := by
  rw [Assignment.tokenValue, Assignment.tokenValue, h.firstValue?_eq]

theorem lineValue_eq (key : Text) : Assignment.lineValue t key = Assignment.lineValue t' key := by
  rw [Assignment.lineValue, Assignment.lineValue, h.firstValue?_eq]

theorem firstUsable?_eq : Comment.firstUsable? t = Comment.firstUsable? t' := by
  rw [Comment.firstUsable?, Comment.firstUsable?,
    h.filterMap fun _ hl => Comment.content?_of_allBlank hl]

end Text.SameContent

/-! ## Sections -/

namespace Section
variable {header : Text} (hheader : Text.allBlank header = false)

theorem opens_of_allBlank {l : Text} (hl : Text.allBlank l = true) : opens l = false := by
  rw [opens, Text.trim_eq_nil_iff.mpr hl]
  rfl

/-- Blank lines do not end a section. -/
theorem takeWhile_contentLines (ls : List Text) :
    (ls.filter fun l => !Text.allBlank l).takeWhile (fun l => !opens l) =
      (ls.takeWhile fun l => !opens l).filter fun l => !Text.allBlank l := by
  rw [List.takeWhile_filter]
  congr 2
  funext l
  by_cases hl : Text.allBlank l = true
  · simp [hl, opens_of_allBlank hl]
  · simp [hl]

include hheader

theorem isHeader_of_allBlank {l : Text} (hl : Text.allBlank l = true) :
    isHeader header l = false := by
  rw [isHeader, Text.trim_eq_nil_iff.mpr hl, beq_eq_false_iff_ne]
  exact (Text.ne_nil_of_not_allBlank hheader).symm

theorem bodyLines?_filter (ls : List Text) :
    bodyLines? header (ls.filter fun l => !Text.allBlank l) =
      (bodyLines? header ls).map (List.filter fun l => !Text.allBlank l) := by
  induction ls with
  | nil => rfl
  | cons l ls ih =>
    rw [bodyLines?_cons]
    by_cases hl : Text.allBlank l = true
    · rw [List.filter_cons_of_neg (by simp [hl]), ih, isHeader_of_allBlank hheader hl,
        if_neg Bool.false_ne_true]
    · rw [List.filter_cons_of_pos (by simp [hl]), bodyLines?_cons, ih, takeWhile_contentLines]
      by_cases hhead : isHeader header l = true
      · rw [if_pos hhead, if_pos hhead]
        rfl
      · rw [if_neg hhead, if_neg hhead]

/-- The content of a section is cut out of the content of the text. -/
theorem contentLines_body? (t : Text) :
    (body? t header).map contentLines = bodyLines? header (contentLines t) := by
  rw [contentLines, bodyLines?_filter hheader, ← lines_body?, Option.map_map]
  rfl

theorem count_eq_of_sameContent {t t' : Text} (h : SameContent t t') :
    count t header = count t' header :=
  h.countP fun _ hl => isHeader_of_allBlank hheader hl

/-- Two texts of the same content have the same sections, up to their layout. -/
theorem body?_cases {t t' : Text} (h : SameContent t t') :
    (body? t header = none ∧ body? t' header = none) ∨
      ∃ b b', body? t header = some b ∧ body? t' header = some b' ∧ SameContent b b' := by
  have hmap : (body? t header).map contentLines = (body? t' header).map contentLines := by
    rw [contentLines_body? hheader, contentLines_body? hheader, h]
  cases hb : body? t header with
  | none =>
    rw [hb, Option.map_none, eq_comm, Option.map_eq_none_iff] at hmap
    exact .inl ⟨rfl, hmap⟩
  | some b =>
    rw [hb, Option.map_some, eq_comm, Option.map_eq_some_iff] at hmap
    obtain ⟨b', hb', heq⟩ := hmap
    exact .inr ⟨b, b', rfl, hb', heq.symm⟩

end Section
end VpnImport
