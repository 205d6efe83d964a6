import Mathlib.Data.List.Induction

/-!
# Folds

How one field of a state comes out of a fold over a list.  The last element that
writes to it decides, or the first, or it collects what all of them say.
-/

namespace VpnImport

section Fold
variable {σ α β : Type} {step : σ → α → σ}

theorem foldl_last_wins (field : σ → β) (value : α → Option β)
    (h : ∀ s a, field (step s a) = (value a).getD (field s)) (s : σ) (l : List α) :
    field (l.foldl step s) = (l.filterMap value).getLast?.getD (field s) := by
  induction l generalizing s with
  | nil => rfl
  | cons a l ih =>
    rw [List.foldl_cons, ih, h, List.filterMap_cons]
    cases value a with
    | none => rfl
    | some b => simp [List.getLast?_cons]

theorem foldl_first_wins (field : σ → Option β) (value : α → Option β)
    (h : ∀ s a, field (step s a) = (field s).or (value a)) (s : σ) (l : List α) :
    field (l.foldl step s) = (field s).or (l.findSome? value) := by
  induction l generalizing s with
  | nil => simp
  | cons a l ih =>
    rw [List.foldl_cons, ih, h, List.findSome?_cons, Option.or_assoc]
    cases value a <;> simp

theorem foldl_append (field : σ → List β) (value : α → Option β)
    (h : ∀ s a, field (step s a) = field s ++ (value a).toList) (s : σ) (l : List α) :
    field (l.foldl step s) = field s ++ l.filterMap value := by
  induction l generalizing s with
  | nil => simp
  | cons a l ih =>
    rw [List.foldl_cons, ih, h, List.filterMap_cons, List.append_assoc]
    cases value a <;> simp

theorem foldl_distinct [DecidableEq β] (field : σ → List β) (value : α → Option β) {s : σ}
    (h : ∀ s a, field (step s a) = match value a with
      | none => field s
      | some b => if b ∈ field s then field s else field s ++ [b])
    (hs : field s = []) (l : List α) :
    field (l.foldl step s) = (l.filterMap value).eraseDups := by
  induction l using List.reverseRecOn with
  | nil => exact hs
  | append_singleton l a ih =>
    rw [List.foldl_append, List.foldl_cons, List.foldl_nil, h, ih, List.filterMap_append]
    cases hvalue : value a with
    | none => simp [hvalue]
    | some b =>
      rw [List.filterMap_cons, hvalue, List.filterMap_nil, List.eraseDups_append]
      generalize l.filterMap value = seen
      by_cases hb : b ∈ seen
      · simp [List.removeAll, hb]
      · simp [List.removeAll, hb, List.eraseDups_cons]

end Fold

end VpnImport
