import Mathlib.Data.List.Basic
import VpnImport.LineShape

/-!
# Matching at the start of a text

A match of a word compares no further than the word goes, and a run of
characters of one class ends with the first character outside it.  Hence a
character that neither the word has nor the class holds bounds both: what stands
behind it cannot change what is found before it.  Every insensitivity to line
endings and to the values of assignments rests on the lemmas of this module.
-/

namespace VpnImport
namespace Text

theorem isPrefixOf?_eq_after? (head t : Text) :
    head.isPrefixOf? t = after? (· == ·) head t := by
  induction head generalizing t with
  | nil => cases t <;> rfl
  | cons h head ih =>
    cases t with
    | nil => rfl
    | cons c t => simp only [List.isPrefixOf?, after?, ih]

/-- What is left behind a word, all characters being compared exactly. -/
theorem after?_eq_some_iff {head t rest : Text} :
    after? (· == ·) head t = some rest ↔ t = head ++ rest := by
  rw [← isPrefixOf?_eq_after?, List.isPrefixOf?_eq_some_iff_append_eq, eq_comm]

theorem after?_append (head rest : Text) : after? (· == ·) head (head ++ rest) = some rest :=
  after?_eq_some_iff.mpr rfl

/-- What is matched stands in front of what is left. -/
theorem after?_eq_some_iff_exists {same : Char → Char → Bool} {head t rest : Text} :
    after? same head t = some rest ↔ ∃ w, after? same head w = some [] ∧ t = w ++ rest := by
  induction head generalizing t with
  | nil => simp [after?, eq_comm]
  | cons h head ih =>
    cases t with
    | nil =>
      constructor
      · intro hmatch
        contradiction
      · rintro ⟨w, hw, ht⟩
        rw [(List.append_eq_nil_iff.mp ht.symm).1] at hw
        contradiction
    | cons c t =>
      rw [after?]
      constructor
      · intro hmatch
        split at hmatch
        · rename_i hc
          obtain ⟨w, hw, rfl⟩ := ih.mp hmatch
          exact ⟨c :: w, by rw [after?, if_pos hc, hw], rfl⟩
        · contradiction
      · rintro ⟨w, hw, ht⟩
        cases w with
        | nil => contradiction
        | cons x w =>
          obtain ⟨rfl, rfl⟩ := List.cons.inj ht
          rw [after?] at hw
          split at hw
          · rename_i hc
            rw [if_pos hc, ih]
            exact ⟨w, hw, rfl⟩
          · contradiction

theorem subset_of_after? {same : Char → Char → Bool} {head t rest : Text}
    (h : after? same head t = some rest) : rest ⊆ t := by
  obtain ⟨w, -, rfl⟩ := after?_eq_some_iff_exists.mp h
  exact List.subset_append_right w rest

/-- A character that no letter of the word equals bounds the match. -/
theorem after?_append_cons {same : Char → Char → Bool} {head : Text} {c : Char}
    (h : ∀ a ∈ head, same a c = false) (a t : Text) :
    after? same head (a ++ c :: t) = (after? same head a).map (· ++ c :: t) := by
  induction head generalizing a with
  | nil => cases a <;> rfl
  | cons x head ih =>
    have hhead : ∀ y ∈ head, same y c = false := fun y hy => h y (List.mem_cons_of_mem x hy)
    cases a with
    | nil => simp [after?, h x List.mem_cons_self]
    | cons y a =>
      simp only [List.cons_append, after?]
      by_cases hxy : same x y = true
      · rw [if_pos hxy, if_pos hxy, ih hhead]
      · rw [if_neg hxy, if_neg hxy, Option.map_none]

theorem after?_append_cons_of_not_mem {head : Text} {c : Char} (h : c ∉ head) (a t : Text) :
    after? (· == ·) head (a ++ c :: t) = (after? (· == ·) head a).map (· ++ c :: t) := by
  refine after?_append_cons (fun x hx => ?_) a t
  have hne : x ≠ c := fun e => h (e ▸ hx)
  exact beq_false_of_ne hne

/-- A character outside the class bounds the run. -/
theorem dropWhile_append_cons {p : Char → Bool} {c : Char} (h : p c = false) (a t : Text) :
    (a ++ c :: t).dropWhile p = a.dropWhile p ++ c :: t := by
  rw [List.dropWhile_append]
  split
  · rename_i hnil
    rw [List.isEmpty_iff.mp hnil, List.dropWhile_cons_of_neg (by simp [h]), List.nil_append]
  · rfl

/-- A run that goes up to a character ends where the character stands first. -/
theorem takeWhile_bne_append {c : Char} {a : Text} (h : c ∉ a) (t : Text) :
    (a ++ c :: t).takeWhile (· != c) = a := by
  have hall : ∀ x ∈ a, (x != c) = true := fun x hx => bne_iff_ne.mpr fun e => h (e ▸ hx)
  rw [List.takeWhile_append_of_pos hall, List.takeWhile_cons_of_neg (by simp), List.append_nil]

theorem dropWhile_bne_append {c : Char} {a : Text} (h : c ∉ a) (t : Text) :
    (a ++ c :: t).dropWhile (· != c) = c :: t := by
  have hall : ∀ x ∈ a, (x != c) = true := fun x hx => bne_iff_ne.mpr fun e => h (e ▸ hx)
  rw [List.dropWhile_append_of_pos hall, List.dropWhile_cons_of_neg (by simp)]

theorem dropWhile_bne_of_not_mem {c : Char} {a : Text} (h : c ∉ a) :
    a.dropWhile (· != c) = [] := by
  have hall : ∀ x ∈ a, (x != c) = true := fun x hx => bne_iff_ne.mpr fun e => h (e ▸ hx)
  have hnil : (a ++ []).dropWhile (· != c) = [] := List.dropWhile_append_of_pos hall
  rwa [List.append_nil] at hnil

theorem head?_append_cons (a : Text) (c : Char) (t t' : Text) :
    (a ++ c :: t).head? = (a ++ c :: t').head? := by
  cases a <;> rfl

theorem skipPads_append_cons {c : Char} (h : isPad c = false) (a t : Text) :
    skipPads (a ++ c :: t) = skipPads a ++ c :: t :=
  dropWhile_append_cons h a t

theorem skipPads_of_head {c : Char} (h : isPad c = false) (t : Text) :
    skipPads (c :: t) = c :: t := by
  rw [skipPads, List.dropWhile_cons_of_neg (by simp [h])]

theorem skipPads_pads_append {pads : Text} (h : pads.all isPad = true) (t : Text) :
    skipPads (pads ++ t) = skipPads t :=
  List.dropWhile_append_of_pos (List.all_eq_true.mp h)

/-- What is left behind the spaces and tabs does not start with one. -/
theorem skipPads_cases (t : Text) :
    skipPads t = [] ∨ ∃ c s, skipPads t = c :: s ∧ isPad c = false := by
  cases h : skipPads t with
  | nil => exact .inl rfl
  | cons c s =>
    have hnot := List.head?_dropWhile_not isPad t
    rw [skipPads] at h
    rw [h] at hnot
    exact .inr ⟨c, s, rfl, by simpa using hnot⟩

theorem exists_skipPads (t : Text) : ∃ pads, t = pads ++ skipPads t ∧ pads.all isPad = true :=
  ⟨t.takeWhile isPad, (List.takeWhile_append_dropWhile).symm, List.all_takeWhile⟩

theorem skipPads_subset (t : Text) : skipPads t ⊆ t :=
  (List.dropWhile_sublist _).subset

theorem upToBlank_subset (t : Text) : upToBlank t ⊆ t :=
  (List.takeWhile_sublist _).subset

/-! ## Occurrences -/

theorem occurs_iff_isInfix {needle t : Text} : occurs needle t = true ↔ needle <:+: t := by
  induction t with
  | nil => simp [occurs]
  | cons c t ih =>
    rw [occurs, Bool.or_eq_true, List.isPrefixOf_iff_prefix, ih, List.infix_cons_iff]

theorem occurs_append_left {needle t : Text} (u : Text) (h : occurs needle t = true) :
    occurs needle (t ++ u) = true :=
  occurs_iff_isInfix.mpr ((occurs_iff_isInfix.mp h).trans (List.prefix_append t u).isInfix)

theorem occurs_append_right {needle t : Text} (u : Text) (h : occurs needle t = true) :
    occurs needle (u ++ t) = true :=
  occurs_iff_isInfix.mpr ((occurs_iff_isInfix.mp h).trans (List.suffix_append u t).isInfix)

end Text
end VpnImport
