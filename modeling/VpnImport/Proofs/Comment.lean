import VpnImport.Comment
import VpnImport.Proofs.Text.Letters
import VpnImport.Proofs.Text.Line

/-!
# Comments

A line says something as a comment when its first visible character is a comment mark:
what it says is what stands behind the marks, without the white space around it
(`content?_eq_some_iff`).  The comment that can serve as a name is the first on which a
text says something short enough: `firstUsable?_eq_some_iff`.
-/

namespace VpnImport

namespace Text

/-- The first of the lines that yield something acceptable, and what it yields. -/
theorem find?_filterMap_eq_some_iff {α β : Type} {f : α → Option β} {p : β → Bool} {l : List α}
    {b : β} :
    (l.filterMap f).find? p = some b ↔
      ∃ before a after, l = before ++ a :: after ∧ f a = some b ∧ p b = true ∧
        ∀ x ∈ before, ∀ y, f x = some y → p y = false := by
  rw [List.find?_filterMap, Option.bind_eq_some_iff]
  constructor
  · rintro ⟨a, ha, hb⟩
    obtain ⟨hp, before, after, hl, hbefore⟩ := List.find?_eq_some_iff_append.mp ha
    rw [hb, Option.any_some] at hp
    refine ⟨before, a, after, hl, hb, hp, fun x hx y hy => ?_⟩
    have hnot := hbefore x hx
    rw [hy] at hnot
    simpa using hnot
  · rintro ⟨before, a, after, hl, hb, hp, hbefore⟩
    refine ⟨a, List.find?_eq_some_iff_append.mpr ⟨by rw [hb]; exact hp, before, after, hl, ?_⟩, hb⟩
    intro x hx
    cases hy : f x with
    | none => rfl
    | some y => simp [hbefore x hx y hy]

theorem find?_filterMap_eq_none_iff {α β : Type} {f : α → Option β} {p : β → Bool} {l : List α} :
    (l.filterMap f).find? p = none ↔ ∀ a ∈ l, ∀ b, f a = some b → p b = false := by
  rw [List.find?_eq_none]
  simp only [List.mem_filterMap, forall_exists_index, and_imp, Bool.not_eq_true]
  exact ⟨fun h a ha b hb => h b a ha hb, fun h b a ha hb => h a ha b hb⟩

end Text

namespace Comment

theorem isSome_content? (l : Text) : (content? l).isSome = (Text.trim l).head?.any isMark := by
  unfold content?
  dsimp only
  split
  · rename_i h
    rw [h]
    rfl
  · rename_i h
    rw [Bool.eq_false_iff.mpr h]
    rfl

/-- What a line says as a comment. -/
inductive Says : Text → Text → Prop where
  | line {indent marks rest : Text} (hindent : Text.allBlank indent = true) (hne : marks ≠ [])
      (hmarks : marks.all isMark = true) (hrest : rest.head?.any isMark = false) :
      Says (indent ++ (marks ++ rest)) (Text.trim rest)

theorem not_isBlank_of_isMark {c : Char} (h : isMark c = true) : Text.isBlank c = false := by
  rw [isMark, Bool.or_eq_true, beq_iff_eq, beq_iff_eq] at h
  rcases h with rfl | rfl <;> decide

theorem content?_of_comment {l content : Text} (h : Says l content) :
    content? l = some content := by
  obtain @⟨indent, marks, rest, hindent, hne, hmarks, hrest⟩ := h
  have hall := List.all_eq_true.mp hmarks
  -- White space at the end goes no further than the last mark.
  have htrim : Text.trim (indent ++ (marks ++ rest)) = marks ++ Text.trimEnd rest := by
    obtain ⟨c, s, hmarks⟩ := List.exists_cons_of_ne_nil hne
    have hc : Text.isBlank c = false := not_isBlank_of_isMark (hall c (hmarks ▸ by simp))
    have hend : Text.trimEnd (marks ++ rest) = marks ++ Text.trimEnd rest := by
      rw [← List.dropLast_append_getLast hne, List.append_assoc, List.append_assoc]
      exact Text.trimEnd_append_cons
        (not_isBlank_of_isMark (hall _ (List.getLast_mem hne))) _ rest
    rw [Text.trim, Text.trimStart_blank_append hindent, ← hend, hmarks, List.cons_append,
      Text.trimStart_of_head hc]
  have hdrop : (marks ++ Text.trimEnd rest).dropWhile isMark = Text.trimEnd rest := by
    rw [List.dropWhile_append_of_pos hall]
    cases hcons : Text.trimEnd rest with
    | nil => rfl
    | cons c s =>
      have hhead : rest.head? = some c := Text.head?_trimEnd (by rw [hcons]; rfl)
      rw [hhead, Option.any_some] at hrest
      exact List.dropWhile_cons_of_neg (by simp [hrest])
  have hmark : (marks ++ Text.trimEnd rest).head?.any isMark = true := by
    obtain ⟨c, s, rfl⟩ := List.exists_cons_of_ne_nil hne
    exact hall c List.mem_cons_self
  rw [content?, htrim, if_pos hmark, hdrop, Text.trim_trimEnd]

theorem exists_comment {l : Text} (h : (Text.trim l).head?.any isMark = true) :
    ∃ content, Says l content := by
  rw [Text.head?_trim] at h
  obtain ⟨c, hc, hmark⟩ := (Option.any_eq_true _ _).mp h
  obtain ⟨s, hs⟩ := List.head?_eq_some_iff.mp hc
  have hl : l = l.takeWhile Text.isBlank ++
      ((Text.trimStart l).takeWhile isMark ++ (Text.trimStart l).dropWhile isMark) := by
    rw [List.takeWhile_append_dropWhile, Text.trimStart, List.takeWhile_append_dropWhile]
  have hne : (Text.trimStart l).takeWhile isMark ≠ [] := by
    rw [hs, List.takeWhile_cons_of_pos hmark]
    exact List.cons_ne_nil _ _
  have hrest : ((Text.trimStart l).dropWhile isMark).head?.any isMark = false := by
    have hnot := List.head?_dropWhile_not isMark (Text.trimStart l)
    cases hhead : ((Text.trimStart l).dropWhile isMark).head? with
    | none => rfl
    | some x =>
      rw [hhead] at hnot
      simpa using hnot
  have hblank : Text.allBlank (l.takeWhile Text.isBlank) = true := List.all_takeWhile
  have hcomment := Says.line hblank hne List.all_takeWhile hrest
  rw [← hl] at hcomment
  exact ⟨_, hcomment⟩

theorem content?_eq_some_iff {l content : Text} : content? l = some content ↔ Says l content := by
  refine ⟨fun h => ?_, content?_of_comment⟩
  obtain ⟨content', hcomment⟩ := exists_comment (by rw [← isSome_content?, h]; rfl)
  rw [content?_of_comment hcomment, Option.some_inj] at h
  exact h ▸ hcomment

/-- A comment that may serve as a name is not empty and not too long. -/
def MayName (content : Text) : Prop :=
  content ≠ [] ∧ content.length ≤ 50

theorem usable_iff {content : Text} : usable content = true ↔ MayName content := by
  rw [usable, Bool.and_eq_true, Bool.not_eq_true', List.isEmpty_eq_false_iff, decide_eq_true_eq]
  rfl

/-- What a text says on the first line with a comment that may serve as a name. -/
def IsFirst (t content : Text) : Prop :=
  ∃ before l after, Text.lines t = before ++ l :: after ∧ Says l content ∧ MayName content ∧
    ∀ x ∈ before, ∀ other, Says x other → ¬ MayName other

theorem firstUsable?_eq_some_iff {t content : Text} :
    firstUsable? t = some content ↔ IsFirst t content := by
  rw [IsFirst, firstUsable?, Text.find?_filterMap_eq_some_iff]
  simp only [content?_eq_some_iff, ← usable_iff, Bool.not_eq_true]

theorem firstUsable?_eq_none_iff {t : Text} :
    firstUsable? t = none ↔ ∀ l ∈ Text.lines t, ∀ content, Says l content → ¬ MayName content := by
  rw [firstUsable?, Text.find?_filterMap_eq_none_iff]
  simp only [content?_eq_some_iff, ← usable_iff, Bool.not_eq_true]

end Comment
end VpnImport
