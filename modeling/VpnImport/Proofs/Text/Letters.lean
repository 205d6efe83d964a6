import VpnImport.Proofs.Text.Lower

/-!
# White space and letters in lower case

Lower-casing keeps white space and makes none, so a text and its lower case are
trimmed and divided alike: `trim_lower`.  Of the letters of ASCII the same holds
but for one sign of Unicode that is lowered into ASCII, the sign for kelvin.
`lower_eq_iff` says which texts a word in lower case comes from.
-/

namespace VpnImport
namespace Text

/-! ## White space -/

theorem inRanges_eq_false {n : Nat} {ranges ranges' : List (Nat × Nat)}
    (hapart : ∀ r ∈ ranges, ∀ r' ∈ ranges', r.2 < r'.1 ∨ r'.2 < r.1)
    (h : inRanges ranges n = true) : inRanges ranges' n = false := by
  rw [← Bool.not_eq_true]
  intro h'
  obtain ⟨r, hr, hin⟩ := List.any_eq_true.mp h
  obtain ⟨r', hr', hin'⟩ := List.any_eq_true.mp h'
  simp only [Bool.and_eq_true, decide_eq_true_eq] at hin hin'
  have hdisjoint := hapart r hr r' hr'
  omega

theorem blankRanges_not_cased :
    ∀ b ∈ blankRanges, ∀ r ∈ casedRanges, b.2 < r.1 ∨ r.2 < b.1 := by
  decide +kernel

theorem blankRanges_not_ignorable :
    ∀ b ∈ blankRanges, ∀ r ∈ caseIgnorableRanges, b.2 < r.1 ∨ r.2 < b.1 := by
  decide +kernel

theorem lowerAt_of_isBlank {c : Char} (h : isBlank c = true) (before after : Text) :
    lowerAt before c after = [c] := by
  have hsigma : (c == '\u03A3') = false :=
    beq_false_of_ne fun e => absurd (e ▸ h) (by decide)
  rw [lowerAt, hsigma, if_neg Bool.false_ne_true, lowerChar_of_isBlank h]

theorem divides_of_isBlank {c : Char} (h : isBlank c = true) : Divides c :=
  ⟨inRanges_eq_false blankRanges_not_cased h, inRanges_eq_false blankRanges_not_ignorable h,
    lowerAt_of_isBlank h⟩

theorem lowerRanges_not_to_blank : ∀ r ∈ lowerRanges, ∀ b ∈ blankRanges,
    (b.2 : Int) < r.first + r.offset ∨ (r.last + r.offset).toNat < b.1 := by
  decide +kernel

theorem toLower_to_blank {n : Nat} (hn : n < 0x80) :
    isBlank (Char.ofNat n).toLower = true → (Char.ofNat n).toLower = Char.ofNat n := by
  revert n
  decide

theorem not_isBlank_ofNat {n : Nat} (h : inRanges blankRanges n = false) :
    isBlank (Char.ofNat n) = false := by
  unfold Char.ofNat
  by_cases hvalid : n.isValidChar
  · rw [dif_pos hvalid]
    exact h
  · rw [dif_neg hvalid]
    rfl

theorem eq_of_blank_mem_lowerChar {c d : Char} (h : d ∈ lowerChar c) (hd : isBlank d = true) :
    d = c := by
  rw [lowerChar] at h
  split at h
  · rename_i hascii
    rw [List.mem_singleton] at h
    have hlow := toLower_to_blank hascii
    rw [Char.ofNat_toNat] at hlow
    subst h
    exact hlow hd
  · split at h
    · rw [List.mem_cons, List.mem_singleton] at h
      rcases h with rfl | rfl <;> exact absurd hd (by decide)
    · split at h
      · rename_i r hr
        rw [List.mem_singleton] at h
        have hholds := List.find?_some hr
        simp only [CaseRange.holds, Bool.and_eq_true, decide_eq_true_eq] at hholds
        have hnot : inRanges blankRanges (c.toNat + r.offset).toNat = false := by
          rw [inRanges, List.any_eq_false]
          intro b hb
          have hapart := lowerRanges_not_to_blank r (List.mem_of_find?_eq_some hr) b hb
          rw [Bool.and_eq_true, decide_eq_true_eq, decide_eq_true_eq]
          omega
        rw [h, not_isBlank_ofNat hnot] at hd
        contradiction
      · exact List.mem_singleton.mp h

theorem fixed_of_isBlank {d : Char} (hd : isBlank d = true) : Fixed d := by
  intro before c after h
  rw [lowerAt] at h
  split at h
  · rw [List.mem_singleton] at h
    subst h
    split at hd <;> exact absurd hd (by decide)
  · exact eq_of_blank_mem_lowerChar h hd

/-! ## Texts that are divided -/

/-- Where the lower case of a text is divided, the text is. -/
theorem exists_of_lowerAfter_eq_append {c : Char} (hc : Divides c) (hfixed : Fixed c)
    {before t u v : Text} (h : lowerAfter before t = u ++ c :: v) :
    ∃ a b, t = a ++ c :: b ∧ lowerAfter before a = u ∧ lower b = v := by
  induction t generalizing before u with
  | nil => exact absurd h (by simp [lowerAfter])
  | cons x t ih =>
    rw [lowerAfter] at h
    rcases List.append_eq_append_iff.mp h with ⟨rest, ha, hrest⟩ | ⟨s, hx, hs⟩
    · obtain ⟨a, b, rfl, rfl, hb⟩ := ih hrest
      refine ⟨x :: a, b, rfl, ?_, hb⟩
      rw [ha, lowerAfter, lowerAt_append_right hc]
    · cases s with
      | nil =>
        obtain ⟨a, b, rfl, ha, hb⟩ := ih (u := []) hs.symm
        refine ⟨x :: a, b, rfl, ?_, hb⟩
        rw [lowerAfter, ha, ← lowerAt_append_right hc before x a b, hx, List.append_nil,
          List.append_nil]
      | cons y s =>
        -- The dividing character comes from `x`, which is then this character.
        obtain ⟨rfl, hb⟩ := List.cons.inj hs
        change v = s ++ lowerAfter (x :: before) t at hb
        have hmem : c ∈ lowerAt before x t := hx ▸ by simp
        obtain rfl := hfixed before x t hmem
        rw [hc.lowerAt] at hx
        obtain ⟨rfl, hnil⟩ : u = [] ∧ s = [] := by
          rcases u with _ | ⟨z, u⟩ <;> simp_all
        refine ⟨[], t, rfl, rfl, ?_⟩
        rw [hb, hnil, List.nil_append, lower_eq]
        exact (lowerAfter_append_left hc [] before t).symm

theorem exists_of_lower_eq_append {c : Char} (hc : Divides c) (hfixed : Fixed c)
    {t u v : Text} (h : lower t = u ++ c :: v) :
    ∃ a b, t = a ++ c :: b ∧ lower a = u ∧ lower b = v := by
  rw [lower_eq] at h
  obtain ⟨a, b, ht, ha, hb⟩ := exists_of_lowerAfter_eq_append hc hfixed h
  exact ⟨a, b, ht, (lower_eq a).trans ha, hb⟩

theorem lower_blank_append {w : Text} (h : allBlank w = true) (t : Text) :
    lower (w ++ t) = w ++ lower t := by
  induction w with
  | nil => rfl
  | cons c w ih =>
    obtain ⟨hc, hw⟩ := allBlank_cons.mp h
    have hcons := lower_append (divides_of_isBlank hc) [] (w ++ t)
    rw [List.cons_append, ← List.nil_append (c :: (w ++ t)), hcons, ih hw]
    rfl

theorem lower_append_blank {w : Text} (h : allBlank w = true) (t : Text) :
    lower (t ++ w) = lower t ++ w := by
  cases w with
  | nil => rw [List.append_nil, List.append_nil]
  | cons c w =>
    obtain ⟨hc, hw⟩ := allBlank_cons.mp h
    rw [lower_append (divides_of_isBlank hc), lower_of_allBlank hw]

/-! ## Trimming -/

theorem trimStart_eq_self {t : Text} (h : ∀ c ∈ t.head?, isBlank c = false) : trimStart t = t := by
  cases t with
  | nil => rfl
  | cons c t => exact trimStart_of_head (h c rfl) t

theorem trimEnd_eq_self {t : Text} (h : ∀ c ∈ t.getLast?, isBlank c = false) : trimEnd t = t := by
  have hreverse : trimStart t.reverse = t.reverse :=
    trimStart_eq_self fun c hc => h c (List.head?_reverse ▸ hc)
  rw [trimStart] at hreverse
  rw [trimEnd, hreverse, List.reverse_reverse]

theorem trim_eq_self {t : Text} (hhead : ∀ c ∈ t.head?, isBlank c = false)
    (hlast : ∀ c ∈ t.getLast?, isBlank c = false) : trim t = t := by
  rw [trim, trimStart_eq_self hhead, trimEnd_eq_self hlast]

theorem trim_eq_of_append {before t after : Text} (hbefore : allBlank before = true)
    (hafter : allBlank after = true) (hhead : ∀ c ∈ t.head?, isBlank c = false)
    (hlast : ∀ c ∈ t.getLast?, isBlank c = false) : trim (before ++ t ++ after) = t := by
  rw [trim_append_blank hafter, trim, trimStart_blank_append hbefore]
  exact trim_eq_self hhead hlast

theorem visible_head_trim {t : Text} : ∀ c ∈ (trim t).head?, isBlank c = false := by
  intro c hc
  rw [head?_trim] at hc
  rcases trimStart_cases t with h | ⟨x, s, h, hx⟩
  · rw [h] at hc
    contradiction
  · rw [h] at hc
    exact Option.some.inj hc ▸ hx

theorem visible_last_trim {t : Text} : ∀ c ∈ (trim t).getLast?, isBlank c = false := by
  intro c hc
  have hnot := List.head?_dropWhile_not isBlank (trimStart t).reverse
  rw [trim, trimEnd, List.getLast?_reverse] at hc
  rw [hc] at hnot
  simpa using hnot

theorem trim_trim (t : Text) : trim (trim t) = trim t :=
  trim_eq_self visible_head_trim visible_last_trim

theorem head?_of_head?_lower {t : Text} {c : Char} (hc : isBlank c = true)
    (h : (lower t).head? = some c) : t.head? = some c := by
  obtain ⟨rest, hrest⟩ := List.head?_eq_some_iff.mp h
  obtain ⟨a, b, rfl, ha, -⟩ := exists_of_lower_eq_append (u := []) (divides_of_isBlank hc)
    (fixed_of_isBlank hc) hrest
  rw [lower_eq_nil_iff.mp ha]
  rfl

theorem visible_head_lower {t : Text} (h : ∀ c ∈ t.head?, isBlank c = false) :
    ∀ c ∈ (lower t).head?, isBlank c = false := by
  intro c hc
  rw [← Bool.not_eq_true]
  intro hblank
  rw [h c (head?_of_head?_lower hblank hc)] at hblank
  contradiction

theorem visible_last_lower {t : Text} (h : ∀ c ∈ t.getLast?, isBlank c = false) :
    ∀ c ∈ (lower t).getLast?, isBlank c = false := by
  intro c hc
  rw [← Bool.not_eq_true]
  intro hblank
  obtain ⟨init, hinit⟩ := List.getLast?_eq_some_iff.mp hc
  obtain ⟨a, b, rfl, -, hb⟩ := exists_of_lower_eq_append (divides_of_isBlank hblank)
    (fixed_of_isBlank hblank) hinit
  obtain rfl := lower_eq_nil_iff.mp hb
  rw [h c (by simp)] at hblank
  contradiction

theorem trim_lower (t : Text) : trim (lower t) = lower (trim t) := by
  obtain ⟨before, after, ht, hbefore, hafter⟩ := exists_trim t
  have hlower : lower t = before ++ lower (trim t) ++ after := by
    conv_lhs => rw [ht]
    rw [lower_append_blank hafter, lower_blank_append hbefore]
  rw [hlower]
  exact trim_eq_of_append hbefore hafter (visible_head_lower visible_head_trim)
    (visible_last_lower visible_last_trim)

theorem skipPads_lower (t : Text) : skipPads (lower t) = lower (skipPads t) := by
  obtain ⟨pads, ht, hpads⟩ := exists_skipPads t
  conv_lhs => rw [ht, lower_blank_append (allBlank_of_all_isPad hpads)]
  rw [skipPads_pads_append hpads]
  cases hlower : lower (skipPads t) with
  | nil => rfl
  | cons c s =>
    refine skipPads_of_head (Bool.eq_false_iff.mpr fun hpad => ?_) s
    have hhead : (skipPads t).head? = some c :=
      head?_of_head?_lower (isBlank_of_isPad hpad) (by rw [hlower]; rfl)
    rcases skipPads_cases t with hskip | ⟨x, rest, hskip, hx⟩
    · rw [hskip] at hhead
      contradiction
    · rw [hskip] at hhead
      rw [Option.some.inj hhead, hpad] at hx
      contradiction

/-! ## Letters -/

/-- The sign for kelvin, the one character beyond ASCII whose lower case is a
letter of ASCII alone. -/
def kelvin : Char := '\u212A'

/-- The lower case of a character whose lower case is in ASCII. -/
def lowerLetter (c : Char) : Char :=
  if c = kelvin then 'k' else c.toLower

/-- A character of ASCII. -/
def IsAscii (c : Char) : Prop := 0 < c.toNat ∧ c.toNat < 0x80

/-- Besides the ranges within ASCII, only the sign for kelvin leads there. -/
theorem lowerRanges_ascii : ∀ r ∈ lowerRanges,
    r.last < 0x80 ∨ (0x80 : Int) ≤ r.first + r.offset ∨ r.first = 0x212A ∧ r.last = 0x212A := by
  decide +kernel

theorem not_isAscii_ofNat {n : Nat} (h : 0x80 ≤ n) : ¬ IsAscii (Char.ofNat n) := by
  unfold Char.ofNat
  by_cases hvalid : n.isValidChar
  · rw [dif_pos hvalid]
    intro hascii
    have hlt : n < 0x80 := hascii.2
    omega
  · rw [dif_neg hvalid]
    exact fun hascii => absurd hascii.1 (by decide)

theorem toLower_eq_self {c : Char} (h : 0x80 ≤ c.toNat) : c.toLower = c := by
  refine dif_neg fun hcapital => ?_
  have hle : c.toNat ≤ 0x5A := UInt32.le_iff_toNat_le.mp hcapital.2
  omega

theorem toLower_of_isBlank {c : Char} (h : isBlank c = true) : c.toLower = c := by
  by_cases hascii : c.toNat < 0x80
  · have hlow := toLower_blank hascii
    rw [Char.ofNat_toNat] at hlow
    exact hlow h
  · exact toLower_eq_self (Nat.not_lt.mp hascii)

theorem after?_sameLetter_iff {key w : Text} :
    after? sameLetter key w = some [] ↔ sameLetters w key = true := by
  rw [sameLetters, beq_iff_eq]
  induction key generalizing w with
  | nil => simp [after?]
  | cons a key ih =>
    cases w with
    | nil => simp [after?]
    | cons c w =>
      rw [after?, List.map_cons, List.map_cons, List.cons.injEq, ← ih]
      by_cases h : a.toLower = c.toLower
      · simp [sameLetter, h]
      · simp [sameLetter, h, Ne.symm h]

theorem lowerAt_kelvin (before after : Text) : lowerAt before kelvin after = ['k'] := by
  rw [lowerAt, if_neg (by decide)]
  decide +kernel

/-- Whatever is lowered into ASCII is lowered to one character. -/
theorem lowerAt_of_isAscii {before after : Text} {c : Char}
    (h : ∀ d ∈ lowerAt before c after, IsAscii d) : lowerAt before c after = [lowerLetter c] := by
  by_cases hkelvin : c = kelvin
  · rw [hkelvin]
    exact lowerAt_kelvin before after
  · unfold lowerAt at h ⊢
    split at h
    · have hsigma := h _ List.mem_cons_self
      split at hsigma <;> exact absurd hsigma.2 (by decide)
    · rename_i hsigma
      rw [if_neg hsigma]
      unfold lowerChar at h ⊢
      split at h
      · rename_i hascii
        rw [if_pos hascii, lowerLetter, if_neg hkelvin]
      · rename_i hascii
        split at h
        · exact absurd (h '\u0307' (by simp)).2 (by decide)
        · split at h
          · rename_i r hr
            have hholds := List.find?_some hr
            simp only [CaseRange.holds, Bool.and_eq_true, decide_eq_true_eq] at hholds
            rcases lowerRanges_ascii r (List.mem_of_find?_eq_some hr) with hlow | habove | hsign
            · omega
            · exact absurd (h _ List.mem_cons_self) (not_isAscii_ofNat (by omega))
            · have hc : c.toNat = 0x212A := by omega
              exact absurd (Char.toNat_inj.mp hc) hkelvin
          · exact absurd (h c List.mem_cons_self).2 hascii

/-- A character that lower-casing takes into ASCII is lowered without a look at
its surroundings. -/
theorem lowerAt_of_lowerLetter {c : Char} (h : IsAscii (lowerLetter c)) (before after : Text) :
    lowerAt before c after = [lowerLetter c] := by
  by_cases hkelvin : c = kelvin
  · rw [hkelvin]
    exact lowerAt_kelvin before after
  · rw [lowerLetter, if_neg hkelvin] at h ⊢
    have hascii : c.toNat < 0x80 := by
      rw [← Nat.not_le]
      intro hbeyond
      rw [toLower_eq_self hbeyond] at h
      exact absurd h.2 (Nat.not_lt.mpr hbeyond)
    have hsigma : (c == '\u03A3') = false :=
      beq_false_of_ne fun e => absurd (e ▸ hascii) (by decide)
    rw [lowerAt, hsigma, if_neg Bool.false_ne_true, lowerChar, if_pos hascii]

/-- A word of ASCII is the lower case of the texts that give it letter by
letter. -/
theorem lower_eq_iff {t w : Text} (hw : ∀ d ∈ w, IsAscii d) :
    lower t = w ↔ t.map lowerLetter = w := by
  have hafter : ∀ before, lowerAfter before t = w ↔ t.map lowerLetter = w := by
    induction t generalizing w with
    | nil => exact fun _ => Iff.rfl
    | cons c t ih =>
      intro before
      rw [lowerAfter, List.map_cons]
      constructor
      · intro h
        have hone : lowerAt before c t = [lowerLetter c] :=
          lowerAt_of_isAscii fun d hd => hw d (h ▸ List.mem_append_left _ hd)
        rw [hone, List.singleton_append] at h
        subst h
        rw [List.cons_inj_right, ← ih fun d hd => hw d (List.mem_cons_of_mem _ hd)]
      · intro h
        subst h
        rw [lowerAt_of_lowerLetter (hw _ List.mem_cons_self), List.singleton_append,
          List.cons_inj_right, ih fun d hd => hw d (List.mem_cons_of_mem _ hd)]
  rw [lower_eq]
  exact hafter []

/-- A word of ASCII in lower case. -/
structure IsLowWord (w : Text) : Prop where
  ascii : ∀ d ∈ w, IsAscii d
  lower : ∀ d ∈ w, d.toLower = d
  visible : ∀ d ∈ w, isBlank d = false

theorem isLowWord_iff {w : Text} : IsLowWord w ↔ (w.all fun d =>
    0 < d.toNat && d.toNat < 0x80 && d.toLower == d && !isBlank d) = true := by
  rw [List.all_eq_true]
  simp only [Bool.and_eq_true, decide_eq_true_eq, beq_iff_eq, Bool.not_eq_true']
  constructor
  · exact fun h d hd => ⟨⟨h.ascii d hd, h.lower d hd⟩, h.visible d hd⟩
  · exact fun h => ⟨fun d hd => (h d hd).1.1, fun d hd => (h d hd).1.2, fun d hd => (h d hd).2⟩

instance (w : Text) : Decidable (IsLowWord w) :=
  decidable_of_iff _ isLowWord_iff.symm

namespace IsLowWord
variable {t w : Text} (hw : IsLowWord w)
include hw

theorem sameLetters_iff : sameLetters t w = true ↔ t.map Char.toLower = w := by
  have hself : w.map Char.toLower = w := (List.map_congr_left hw.lower).trans (List.map_id' w)
  rw [sameLetters, beq_iff_eq, hself]

theorem visible_of_sameLetters (h : sameLetters t w = true) : ∀ c ∈ t, isBlank c = false := by
  intro c hc
  have hmem : c.toLower ∈ w := hw.sameLetters_iff.mp h ▸ List.mem_map_of_mem hc
  rw [← Bool.not_eq_true]
  intro hblank
  have hnot := hw.visible _ hmem
  rw [toLower_of_isBlank hblank, hblank] at hnot
  contradiction

/-- A text that is the word but for the case of its letters is lowered to it. -/
theorem lower_eq_of_sameLetters (h : sameLetters t w = true) : Text.lower t = w := by
  rw [hw.sameLetters_iff] at h
  rw [lower_eq_iff hw.ascii, ← h]
  refine List.map_congr_left fun c hc => ?_
  have hne : c ≠ kelvin := by
    rintro rfl
    have hmem : kelvin.toLower ∈ w := h ▸ List.mem_map_of_mem hc
    exact absurd (hw.ascii _ hmem).2 (by decide)
  rw [lowerLetter, if_neg hne]

/-- Without signs for kelvin a text is lowered to the word only if it is the word
but for the case of its letters. -/
theorem lower_eq_iff_sameLetters (h : kelvin ∉ t) :
    Text.lower t = w ↔ sameLetters t w = true := by
  rw [lower_eq_iff hw.ascii, hw.sameLetters_iff]
  have hmap : t.map lowerLetter = t.map Char.toLower := by
    refine List.map_congr_left fun c hc => ?_
    have hne : c ≠ kelvin := fun e => h (e ▸ hc)
    rw [lowerLetter, if_neg hne]
  rw [hmap]

/-- Lower-casing makes the word out of the texts that have its letters, and out of
those in which signs for kelvin stand for some of them. -/
theorem sameLetters_iff_lower :
    sameLetters t w = true ↔ Text.lower t = w ∧ kelvin ∉ t := by
  constructor
  · intro h
    refine ⟨hw.lower_eq_of_sameLetters h, fun hmem => ?_⟩
    have hlow : kelvin.toLower ∈ w := hw.sameLetters_iff.mp h ▸ List.mem_map_of_mem hmem
    exact absurd (hw.ascii _ hlow).2 (by decide)
  · rintro ⟨h, hmem⟩
    exact (hw.lower_eq_iff_sameLetters hmem).mp h

/-- Nothing but its letters makes a word in which there is no `k`. -/
theorem lower_eq_iff_of_not_mem (hk : 'k' ∉ w) : Text.lower t = w ↔ sameLetters t w = true := by
  refine ⟨fun h => hw.sameLetters_iff_lower.mpr ⟨h, fun hmem => hk ?_⟩,
    hw.lower_eq_of_sameLetters⟩
  rw [← (lower_eq_iff hw.ascii).mp h]
  exact List.mem_map_of_mem (f := lowerLetter) hmem

end IsLowWord

end Text
end VpnImport
