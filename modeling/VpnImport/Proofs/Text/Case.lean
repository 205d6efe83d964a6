import VpnImport.Proofs.Text.Letters
import VpnImport.Proofs.Text.Words

/-!
# Letters in another case

Most of what is asked of a text does not depend on the case of its ASCII letters:
white space, digits and marks are no letters, and lower-casing takes both cases of
a letter to one.  A reading that takes a text and its letters in lower case for the
same takes any two texts with the same letters for the same: `IgnoresCase.eq`.
-/

namespace VpnImport
namespace Text

/-! ## Characters -/

theorem toLower_cases (c : Char) :
    c.toLower = c ∨ ∃ n < 26, c = Char.ofNat (n + 0x41) ∧ c.toLower = Char.ofNat (n + 0x61) := by
  by_cases h : 0x41 ≤ c.toNat ∧ c.toNat ≤ 0x5A
  · have hlow : ∀ n < 26, (Char.ofNat (n + 0x41)).toLower = Char.ofNat (n + 0x61) := by decide
    have hc : c = Char.ofNat (c.toNat - 0x41 + 0x41) := by
      rw [Nat.sub_add_cancel h.1, Char.ofNat_toNat]
    refine .inr ⟨c.toNat - 0x41, by omega, hc, ?_⟩
    rw [← hlow _ (by omega), ← hc]
  · refine .inl (dif_neg fun hcapital => h ?_)
    exact ⟨UInt32.le_iff_toNat_le.mp hcapital.1, UInt32.le_iff_toNat_le.mp hcapital.2⟩

/-- What is asked of a character, if every letter gives one answer in both cases. -/
def BlindToCase {α : Type} (p : Char → α) : Prop :=
  ∀ c, p c.toLower = p c

theorem blindToCase_of_letters {α : Type} {p : Char → α}
    (h : ∀ n < 26, p (Char.ofNat (n + 0x61)) = p (Char.ofNat (n + 0x41))) : BlindToCase p := by
  intro c
  rcases toLower_cases c with hc | ⟨n, hn, hc, hlow⟩
  · rw [hc]
  · rw [hlow, h n hn, hc]

theorem blindToCase_inRanges {ranges : List (Nat × Nat)}
    (h : ∀ n < 26, inRanges ranges (n + 0x61) = inRanges ranges (n + 0x41)) :
    BlindToCase fun c => inRanges ranges c.toNat := by
  have hnat : ∀ n < 26, (Char.ofNat (n + 0x61)).toNat = n + 0x61 ∧
      (Char.ofNat (n + 0x41)).toNat = n + 0x41 := by decide
  refine blindToCase_of_letters fun n hn => ?_
  rw [(hnat n hn).1, (hnat n hn).2, h n hn]

section Apart
variable {ranges : List (Nat × Nat)}
  (h : ∀ r ∈ ranges, r.2 < 0x41 ∨ 0x5A < r.1 ∧ r.2 < 0x61 ∨ 0x7A < r.1)
include h

theorem inRanges_letter {n : Nat} (hn : 0x41 ≤ n ∧ n ≤ 0x5A ∨ 0x61 ≤ n ∧ n ≤ 0x7A) :
    inRanges ranges n = false := by
  refine List.any_eq_false.mpr fun r hr => ?_
  have hapart := h r hr
  simp only [Bool.and_eq_true, decide_eq_true_eq]
  omega

theorem blindToCase_inRanges_of_apart : BlindToCase fun c => inRanges ranges c.toNat := by
  refine blindToCase_inRanges fun n hn => ?_
  rw [inRanges_letter h (by omega), inRanges_letter h (by omega)]

theorem toLower_of_inRanges {c : Char} (hc : inRanges ranges c.toNat = true) : c.toLower = c := by
  refine dif_neg fun hcapital => ?_
  have hletter := inRanges_letter h (n := c.toNat)
    (.inl ⟨UInt32.le_iff_toNat_le.mp hcapital.1, UInt32.le_iff_toNat_le.mp hcapital.2⟩)
  rw [hc] at hletter
  contradiction

end Apart

theorem digitRanges_no_letter :
    ∀ r ∈ digitRanges, r.2 < 0x41 ∨ 0x5A < r.1 ∧ r.2 < 0x61 ∨ 0x7A < r.1 := by
  decide +kernel

theorem blindToCase_isBlank : BlindToCase isBlank :=
  blindToCase_inRanges_of_apart (by decide)

theorem blindToCase_isDecimal : BlindToCase isDecimal :=
  blindToCase_inRanges_of_apart digitRanges_no_letter

theorem toLower_of_isDecimal {c : Char} (h : isDecimal c = true) : c.toLower = c :=
  toLower_of_inRanges digitRanges_no_letter h

theorem blindToCase_isCaseIgnorable : BlindToCase isCaseIgnorable :=
  blindToCase_inRanges_of_apart (by decide +kernel)

theorem blindToCase_isCased : BlindToCase isCased :=
  blindToCase_inRanges (by decide +kernel)

theorem blindToCase_isPad : BlindToCase isPad :=
  blindToCase_of_letters (by decide)

theorem blindToCase_utf8Size : BlindToCase Char.utf8Size :=
  blindToCase_of_letters (by decide)

theorem blindToCase_toLower : BlindToCase Char.toLower :=
  blindToCase_of_letters (by decide)

theorem blindToCase_lowerChar : BlindToCase lowerChar :=
  blindToCase_of_letters (by decide)

/-- Only a letter has another case, so no other character comes from one. -/
theorem toLower_eq_iff {c d : Char}
    (hd : ∀ n < 26, d ≠ Char.ofNat (n + 0x41) ∧ d ≠ Char.ofNat (n + 0x61)) :
    c.toLower = d ↔ c = d := by
  rcases toLower_cases c with hc | ⟨n, hn, hc, hlow⟩
  · rw [hc]
  · rw [hlow, hc]
    exact iff_of_false (hd n hn).2.symm (hd n hn).1.symm

theorem toLower_beq {c d : Char}
    (hd : ∀ n < 26, d ≠ Char.ofNat (n + 0x41) ∧ d ≠ Char.ofNat (n + 0x61)) :
    (c.toLower == d) = (c == d) := by
  rw [Bool.eq_iff_iff, beq_iff_eq, beq_iff_eq]
  exact toLower_eq_iff hd

namespace BlindToCase
variable {p : Char → Bool} (hp : BlindToCase p)
include hp

theorem dropWhile (t : Text) :
    (t.map Char.toLower).dropWhile p = (t.dropWhile p).map Char.toLower := by
  rw [List.dropWhile_map, show p ∘ Char.toLower = p from funext hp]

theorem takeWhile (t : Text) :
    (t.map Char.toLower).takeWhile p = (t.takeWhile p).map Char.toLower := by
  rw [List.takeWhile_map, show p ∘ Char.toLower = p from funext hp]

theorem all (t : Text) : (t.map Char.toLower).all p = t.all p := by
  rw [List.all_map, show p ∘ Char.toLower = p from funext hp]

theorem any_head? (t : Text) : (t.map Char.toLower).head?.any p = t.head?.any p := by
  cases t with
  | nil => rfl
  | cons c t => exact hp c

end BlindToCase

theorem trim_map_toLower (t : Text) : trim (t.map Char.toLower) = (trim t).map Char.toLower := by
  rw [trim, trim, trimStart, trimStart, blindToCase_isBlank.dropWhile, trimEnd, trimEnd,
    ← List.map_reverse, blindToCase_isBlank.dropWhile, List.map_reverse]

theorem skipPads_map_toLower (t : Text) :
    skipPads (t.map Char.toLower) = (skipPads t).map Char.toLower :=
  blindToCase_isPad.dropWhile t

theorem blindToCase_visible : BlindToCase fun c => !isBlank c := by
  intro c
  dsimp only
  rw [blindToCase_isBlank]

theorem upToBlank_map_toLower (t : Text) :
    upToBlank (t.map Char.toLower) = (upToBlank t).map Char.toLower :=
  blindToCase_visible.takeWhile t

/-- A comparison of letters that takes nothing from outside a class for something in it. -/
def StaysIn (p : Char → Bool) (same : Char → Char → Bool) : Prop :=
  ∀ a c, p a = true → same a c = true → p c = true

theorem staysIn_beq (p : Char → Bool) : StaysIn p (· == ·) :=
  fun _ _ ha h => beq_iff_eq.mp h ▸ ha

theorem BlindToCase.staysIn_sameLetter {p : Char → Bool} (hp : BlindToCase p) :
    StaysIn p sameLetter := by
  intro a c ha h
  rw [← hp c, ← beq_iff_eq.mp h, hp a]
  exact ha

theorem StaysIn.not_same {p : Char → Bool} {same : Char → Char → Bool} (hsame : StaysIn p same)
    {t : Text} (ht : t.all p = true) {c : Char} (hc : p c = false) :
    ∀ a ∈ t, same a c = false := by
  intro a ha
  rw [← Bool.not_eq_true]
  intro h
  rw [hsame a c (List.all_eq_true.mp ht a ha) h] at hc
  contradiction

theorem after?_map_toLower (head t : Text) :
    after? sameLetter head (t.map Char.toLower) =
      (after? sameLetter head t).map (List.map Char.toLower) := by
  induction head generalizing t with
  | nil => rfl
  | cons h head ih =>
    cases t with
    | nil => rfl
    | cons c t =>
      have hsame : sameLetter h c.toLower = sameLetter h c := by
        rw [sameLetter, sameLetter, blindToCase_toLower]
      rw [List.map_cons, after?, after?, hsame, ih]
      split <;> rfl

/-! ## Readings -/

/-- A reading of a text that does not depend on the case of its letters. -/
def IgnoresCase {α : Type} (f : Text → α) : Prop :=
  ∀ t, f (t.map Char.toLower) = f t

/-- What ignores the case of letters is the same for two texts with the same
letters. -/
theorem IgnoresCase.eq {α : Type} {f : Text → α} (hf : IgnoresCase f) {t t' : Text}
    (h : sameLetters t t' = true) : f t = f t' := by
  rw [← hf t, ← hf t', beq_iff_eq.mp h]

theorem IgnoresCase.eq_none {α : Type} {f : Text → Option α}
    (hf : IgnoresCase fun t => (f t).isSome) {t t' : Text} (h : sameLetters t t' = true)
    (ht : f t = none) : f t' = none := by
  have hsome : (f t).isSome = (f t').isSome := hf.eq h
  rw [ht] at hsome
  simpa using hsome.symm

theorem meetsCased_map_toLower (t : Text) : meetsCased (t.map Char.toLower) = meetsCased t := by
  rw [meetsCased, meetsCased, blindToCase_isCaseIgnorable.dropWhile]
  cases t.dropWhile isCaseIgnorable with
  | nil => rfl
  | cons c s => exact blindToCase_isCased c

theorem lowerAt_map_toLower (before : Text) (c : Char) (after : Text) :
    lowerAt (before.map Char.toLower) c.toLower (after.map Char.toLower) =
      lowerAt before c after := by
  have hsigma : (c.toLower == '\u03A3') = (c == '\u03A3') := toLower_beq (by decide)
  rw [lowerAt, lowerAt, hsigma, meetsCased_map_toLower, meetsCased_map_toLower,
    blindToCase_lowerChar]

/-- The surroundings of a character count for its lower case, but not the case of
the letters in them. -/
theorem ignoresCase_lower : IgnoresCase lower := by
  have hafter : ∀ before t : Text,
      lowerAfter (before.map Char.toLower) (t.map Char.toLower) = lowerAfter before t := by
    intro before t
    induction t generalizing before with
    | nil => rfl
    | cons c t ih =>
      rw [List.map_cons, lowerAfter, lowerAfter, lowerAt_map_toLower, ← List.map_cons, ih]
  intro t
  rw [lower_eq, lower_eq]
  exact hafter [] t

theorem ignoresCase_byteSize : IgnoresCase byteSize := by
  intro t
  rw [byteSize, byteSize, List.foldl_map]
  simp only [blindToCase_utf8Size _]

theorem ignoresCase_sameLetters (w : Text) : IgnoresCase fun t => sameLetters t w := by
  intro t
  have hmap : (t.map Char.toLower).map Char.toLower = t.map Char.toLower := by
    rw [List.map_map]
    exact List.map_congr_left fun c _ => blindToCase_toLower c
  show ((t.map Char.toLower).map Char.toLower == _) = _
  rw [hmap]
  rfl

theorem sameLetters_symm {t t' : Text} (h : sameLetters t t' = true) : sameLetters t' t = true :=
  beq_iff_eq.mpr (beq_iff_eq.mp h).symm

theorem sameLetters_trans {a b c : Text} (hab : sameLetters a b = true)
    (hbc : sameLetters b c = true) : sameLetters a c = true :=
  beq_iff_eq.mpr ((beq_iff_eq.mp hab).trans (beq_iff_eq.mp hbc))

theorem sameLetters_append {a a' : Text} (h : sameLetters a a' = true) (t : Text) :
    sameLetters (a ++ t) (a' ++ t) = true := by
  simp only [sameLetters, List.map_append, beq_iff_eq.mp h, beq_self_eq_true]

theorem sameLetters_middle (before : Text) {a a' : Text} (h : sameLetters a a' = true)
    (after : Text) : sameLetters (before ++ (a ++ after)) (before ++ (a' ++ after)) = true := by
  simp only [sameLetters, List.map_append, beq_iff_eq.mp h, beq_self_eq_true]

theorem sameLetters_trim {t t' : Text} (h : sameLetters t t' = true) :
    sameLetters (trim t) (trim t') = true := by
  rw [sameLetters, ← trim_map_toLower, ← trim_map_toLower, beq_iff_eq.mp h]
  exact beq_self_eq_true _

/-- Another case leaves a visible word visible. -/
theorem visible_of_sameLetters {w w' : Text} (h : sameLetters w w' = true)
    (hw : ∀ c ∈ w, isBlank c = false) : ∀ c ∈ w', isBlank c = false := by
  have hblind : IgnoresCase fun t => t.all fun c => !isBlank c := blindToCase_visible.all
  have hall : (w.all fun c => !isBlank c) = true := by simpa using hw
  have hall' : (w'.all fun c => !isBlank c) = true := (hblind.eq h).symm.trans hall
  simpa using hall'

theorem ne_nil_of_sameLetters {w w' : Text} (h : sameLetters w w' = true) (hw : w ≠ []) :
    w' ≠ [] := by
  rintro rfl
  exact hw (List.map_eq_nil_iff.mp (beq_iff_eq.mp h))

end Text
end VpnImport
