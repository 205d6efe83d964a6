import VpnImport.Text.Lower
import VpnImport.Proofs.Text.Line

/-!
# Lower case

The mapping of a character depends on its surroundings only through the capital
sigma, which looks past case-ignorable characters for a cased one.  A character
that is neither stops that search, so the text before it and the text behind it
are lowered independently: `lower_append`.  Line feeds, carriage returns and
equals signs are such characters, and no other character is lowered to one of
them.  So lowering commutes with cutting a text into lines: `lines_lower`.
-/

namespace VpnImport
namespace Text

/-! ## Characters that divide a text -/

/-- A character that lower-casing keeps and does not look past. -/
structure Divides (c : Char) : Prop where
  notCased : isCased c = false
  notIgnorable : isCaseIgnorable c = false
  lowerAt : ∀ before after, lowerAt before c after = [c]

theorem divides_feed : Divides '\n' :=
  ⟨by decide +kernel, by decide +kernel, fun _ _ => rfl⟩

theorem divides_return : Divides '\r' :=
  ⟨by decide +kernel, by decide +kernel, fun _ _ => rfl⟩

theorem divides_equals : Divides '=' :=
  ⟨by decide +kernel, by decide +kernel, fun _ _ => rfl⟩

section Divides
variable {c : Char} (hc : Divides c)
include hc

theorem meetsCased_append (a b : Text) : meetsCased (a ++ c :: b) = meetsCased a := by
  rw [meetsCased, meetsCased, dropWhile_append_cons hc.notIgnorable]
  cases a.dropWhile isCaseIgnorable with
  | nil => exact hc.notCased
  | cons x s => rfl

theorem lowerAt_append_left (a b : Text) (x : Char) (after : Text) :
    lowerAt (a ++ c :: b) x after = lowerAt a x after := by
  rw [lowerAt, lowerAt, meetsCased_append hc]

theorem lowerAt_append_right (before : Text) (x : Char) (a b : Text) :
    lowerAt before x (a ++ c :: b) = lowerAt before x a := by
  rw [lowerAt, lowerAt, meetsCased_append hc]

/-- What stands before the dividing character does not matter behind it. -/
theorem lowerAfter_append_left (a b t : Text) :
    lowerAfter (a ++ c :: b) t = lowerAfter a t := by
  induction t generalizing a with
  | nil => rfl
  | cons x t ih =>
    rw [lowerAfter, lowerAfter, lowerAt_append_left hc]
    exact congrArg (lowerAt a x t ++ ·) (ih (x :: a))

theorem lowerAfter_append (before a b : Text) :
    lowerAfter before (a ++ c :: b) = lowerAfter before a ++ c :: lowerAfter [] b := by
  induction a generalizing before with
  | nil =>
    show lowerAt before c b ++ lowerAfter (c :: before) b = c :: lowerAfter [] b
    rw [hc.lowerAt]
    exact congrArg (c :: ·) (lowerAfter_append_left hc [] before b)
  | cons x a ih =>
    rw [List.cons_append, lowerAfter, lowerAfter, lowerAt_append_right hc, ih, List.append_assoc]

/-- The two sides of a dividing character are lowered independently. -/
theorem lower_append (a b : Text) : lower (a ++ c :: b) = lower a ++ c :: lower b := by
  rw [lower_eq, lower_eq, lower_eq, lowerAfter_append hc]

end Divides

/-! ## Signs below the letters -/

/-- The ASCII characters below the letters, which are no character's lower
case but their own. -/
def isLow (c : Char) : Bool := 0 < c.toNat && c.toNat < 0x41

theorem toLower_low {n : Nat} (hn : n < 0x80) :
    isLow (Char.ofNat n).toLower = true → (Char.ofNat n).toLower = Char.ofNat n := by
  revert n
  decide

theorem not_isLow_ofNat {n : Nat} (h : 0x41 ≤ n) : isLow (Char.ofNat n) = false := by
  unfold Char.ofNat
  by_cases hvalid : n.isValidChar
  · rw [dif_pos hvalid]
    have hval : (Char.ofNatAux n hvalid).toNat = n := rfl
    rw [isLow, hval, Bool.and_eq_false_iff, decide_eq_false_iff_not, decide_eq_false_iff_not]
    omega
  · rw [dif_neg hvalid]
    rfl

/-- No range of the table leads below the letters. -/
theorem lowerRanges_above : ∀ r ∈ lowerRanges, 0x41 ≤ r.first + r.offset := by
  decide +kernel

theorem eq_of_mem_lowerChar {c d : Char} (h : d ∈ lowerChar c) (hd : isLow d = true) :
    d = c := by
  rw [lowerChar] at h
  split at h
  · rename_i hascii
    rw [List.mem_singleton] at h
    have hlow := toLower_low hascii
    rw [Char.ofNat_toNat] at hlow
    subst h
    exact hlow hd
  · split at h
    · rw [List.mem_cons, List.mem_singleton] at h
      rcases h with rfl | rfl <;> exact absurd hd (by decide)
    · split at h
      · rename_i r hr
        rw [List.mem_singleton] at h
        have hfirst : r.first ≤ c.toNat := by
          have hholds := List.find?_some hr
          simp only [CaseRange.holds, Bool.and_eq_true, decide_eq_true_eq] at hholds
          exact hholds.1.1
        have habove := lowerRanges_above r (List.mem_of_find?_eq_some hr)
        rw [h, not_isLow_ofNat (by omega)] at hd
        contradiction
      · exact List.mem_singleton.mp h

theorem eq_of_mem_lowerAt {before after : Text} {c d : Char} (h : d ∈ lowerAt before c after)
    (hd : isLow d = true) : d = c := by
  rw [lowerAt] at h
  split at h
  · rw [List.mem_singleton] at h
    subst h
    split at hd <;> exact absurd hd (by decide)
  · exact eq_of_mem_lowerChar h hd

/-- A character to which no other is lowered. -/
def Fixed (d : Char) : Prop :=
  ∀ before c after, d ∈ lowerAt before c after → d = c

theorem fixed_of_isLow {d : Char} (hd : isLow d = true) : Fixed d :=
  fun _ _ _ h => eq_of_mem_lowerAt h hd

theorem fixed_feed : Fixed '\n' := fixed_of_isLow (by decide)

theorem Fixed.mem_of_mem_lowerAfter {d : Char} (hd : Fixed d) {before t : Text}
    (h : d ∈ lowerAfter before t) : d ∈ t := by
  induction t generalizing before with
  | nil => exact h
  | cons c t ih =>
    rw [lowerAfter, List.mem_append] at h
    rcases h with h | h
    · exact hd _ _ _ h ▸ List.mem_cons_self
    · exact List.mem_cons_of_mem c (ih h)

theorem Fixed.mem_of_mem_lower {d : Char} (hd : Fixed d) {t : Text} (h : d ∈ lower t) : d ∈ t :=
  hd.mem_of_mem_lowerAfter (lower_eq t ▸ h)

/-! ## Lines in lower case -/

theorem lowerAt_ne_nil (before : Text) (c : Char) (after : Text) :
    lowerAt before c after ≠ [] := by
  rw [lowerAt, lowerChar]
  repeat' split
  all_goals exact List.cons_ne_nil _ _

theorem lower_eq_nil_iff {t : Text} : lower t = [] ↔ t = [] := by
  rw [lower_eq]
  cases t with
  | nil => simp [lowerAfter]
  | cons c t => simp [lowerAfter, lowerAt_ne_nil]

theorem exists_lowerAfter_concat (before a : Text) (c : Char) :
    ∃ init, lowerAfter before (a ++ [c]) = init ++ lowerAt (a.reverse ++ before) c [] := by
  induction a generalizing before with
  | nil => exact ⟨[], List.append_nil _⟩
  | cons x a ih =>
    obtain ⟨init, h⟩ := ih (x :: before)
    refine ⟨lowerAt before x (a ++ [c]) ++ init, ?_⟩
    rw [List.cons_append, lowerAfter, h, List.reverse_cons, List.append_assoc, List.append_assoc]
    rfl

/-- A text ends in a carriage return if it does so in lower case. -/
theorem exists_of_lower_eq {t s : Text} (h : lower t = s ++ ['\r']) :
    ∃ init, t = init ++ ['\r'] := by
  rcases List.eq_nil_or_concat t with rfl | ⟨init, c, rfl⟩
  · exact absurd h (by simp [lower_eq, lowerAfter])
  · rw [List.concat_eq_append, lower_eq] at h
    obtain ⟨x, hx⟩ := exists_lowerAfter_concat [] init c
    have hmem : '\r' ∈ lowerAt (init.reverse ++ []) c [] := by
      rw [hx] at h
      have hlast := congrArg List.getLast? h
      rw [List.getLast?_concat, List.getLast?_append_of_ne_nil _ (lowerAt_ne_nil _ _ _)] at hlast
      exact List.mem_of_getLast? hlast
    have hc : '\r' = c := eq_of_mem_lowerAt hmem (by decide)
    exact ⟨init, by rw [hc, List.concat_eq_append]⟩

theorem dropReturn_lower (row : Text) : dropReturn (lower row) = lower (dropReturn row) := by
  rcases dropReturn_cases (lower row) with h | h
  · rcases dropReturn_cases row with h' | h'
    · rw [h, h']
    · rw [h', lower_append divides_return, dropReturn_append_return]
      exact dropReturn_append_return (lower (dropReturn row))
  · obtain ⟨init, rfl⟩ := exists_of_lower_eq h
    rw [lower_append divides_return, dropReturn_append_return]
    exact dropReturn_append_return (lower init)

theorem lines_lower (t : Text) : lines (lower t) = (lines t).map lower := by
  induction t using row_induction with
  | last row hrow =>
    have hlow : '\n' ∉ lower row := fun hmem => hrow (fixed_feed.mem_of_mem_lower hmem)
    rw [lines_row hrow, lines_row hlow]
    by_cases hempty : row = []
    · rw [hempty]
      rfl
    · have hne : lower row ≠ [] := fun h => hempty (lower_eq_nil_iff.mp h)
      simp [hempty, hne]
  | cons row t hrow ih =>
    have hlow : '\n' ∉ lower row := fun hmem => hrow (fixed_feed.mem_of_mem_lower hmem)
    rw [lower_append divides_feed, lines_cons hrow, lines_cons hlow, ih, dropReturn_lower]
    rfl

theorem Extends.lower {t s : Text} (h : Extends t s) : Extends t.lower s.lower := by
  induction h with
  | refl => exact .refl
  | before u _ ih =>
    rw [lower_append divides_feed]
    exact .before u.lower ih
  | after u _ ih =>
    rw [lower_append divides_feed]
    exact .after u.lower ih

/-! ## White space in lower case -/

theorem lowerRanges_not_blank :
    ∀ r ∈ lowerRanges, ∀ b ∈ blankRanges, b.2 < r.first ∨ r.last < b.1 := by
  decide +kernel

theorem toLower_blank {n : Nat} (hn : n < 0x80) :
    isBlank (Char.ofNat n) = true → (Char.ofNat n).toLower = Char.ofNat n := by
  revert n
  decide

theorem lowerChar_of_isBlank {c : Char} (h : isBlank c = true) : lowerChar c = [c] := by
  rw [lowerChar]
  split
  · rename_i hascii
    have hlow := toLower_blank hascii
    rw [Char.ofNat_toNat] at hlow
    rw [hlow h]
  · split
    · rename_i hdot
      rw [beq_iff_eq.mp hdot] at h
      exact absurd h (by decide)
    · split
      · rename_i r hr
        obtain ⟨b, hb, hin⟩ := List.any_eq_true.mp h
        have hholds := List.find?_some hr
        simp only [CaseRange.holds, Bool.and_eq_true, decide_eq_true_eq] at hholds hin
        have hapart := lowerRanges_not_blank r (List.mem_of_find?_eq_some hr) b hb
        omega
      · rfl

theorem lower_of_allBlank {t : Text} (h : allBlank t = true) : lower t = t := by
  have hafter : ∀ before, lowerAfter before t = t := by
    induction t with
    | nil => exact fun _ => rfl
    | cons c t ih =>
      intro before
      have hall := allBlank_iff.mp h
      have hc : isBlank c = true := hall c List.mem_cons_self
      have ht : allBlank t = true :=
        allBlank_iff.mpr fun x hx => hall x (List.mem_cons_of_mem c hx)
      have hsigma : (c == '\u03A3') = false :=
        beq_false_of_ne fun e => absurd (e ▸ hc) (by decide)
      rw [lowerAfter, ih ht, lowerAt, hsigma, if_neg Bool.false_ne_true, lowerChar_of_isBlank hc]
      rfl
  rw [lower_eq, hafter]

theorem not_allBlank_of_lower {t : Text} (h : allBlank t.lower = false) : allBlank t = false := by
  rw [← Bool.not_eq_true]
  intro hblank
  rw [lower_of_allBlank hblank, hblank] at h
  contradiction

end Text
end VpnImport
