import VpnImport.Text.Number

/-!
# Decimals

Reading stops counting at a limit, so that a long run of digits costs no more than
its length: `digitsValue_eq`.  The limit is past the largest number, so it changes
nothing in what is read: `toWord16?_eq_some_iff`.
-/

namespace VpnImport
namespace Text

/-- The decimals of a number: its value in digits of ASCII, with leading zeros or
without, and with a plus sign in front or without. -/
def IsDecimalOf (n : Nat) (t : Text) : Prop :=
  ∃ digits, (t = digits ∨ t = '+' :: digits) ∧ digits ≠ [] ∧ (∀ d ∈ digits, d.isDigit = true) ∧
    Nat.ofDigitChars 10 digits 0 = n

theorem digitsValue_eq (limit : Nat) (digits : Text) :
    digitsValue limit digits = min limit (Nat.ofDigitChars 10 digits 0) := by
  suffices h : ∀ n, digits.foldl (fun n d => min limit (10 * n + (d.toNat - '0'.toNat)))
      (min limit n) = min limit (Nat.ofDigitChars 10 digits n) by
    simpa [digitsValue] using h 0
  induction digits with
  | nil => exact fun _ => rfl
  | cons d digits ih =>
    intro n
    have hstep : min limit (10 * min limit n + (d.toNat - '0'.toNat)) =
        min limit (10 * n + (d.toNat - '0'.toNat)) := by omega
    rw [List.foldl_cons, hstep, ih, Nat.ofDigitChars_cons]

theorem toUInt16_eq_iff {v : Nat} {n : UInt16} (hv : v < 0x10000) :
    v.toUInt16 = n ↔ v = n.toNat := by
  rw [← UInt16.toNat_inj, Nat.toUInt16_eq, UInt16.toNat_ofNat_of_lt' hv]

/-- A number is read from its decimals and from nothing else. -/
theorem toWord16?_eq_some_iff {t : Text} {n : UInt16} :
    toWord16? t = some n ↔ IsDecimalOf n.toNat t := by
  have hread : ∀ digits : Text,
      (if (digits.isEmpty || !digits.all Char.isDigit) = true then none
        else if digitsValue 0x10000 digits < 0x10000 then
          some (digitsValue 0x10000 digits).toUInt16
        else none) = some n ↔
      digits ≠ [] ∧ (∀ d ∈ digits, d.isDigit = true) ∧
        Nat.ofDigitChars 10 digits 0 = n.toNat := by
    intro digits
    rw [Option.ite_none_left_eq_some, digitsValue_eq, Bool.not_eq_true, Bool.or_eq_false_iff,
      List.isEmpty_eq_false_iff, Bool.not_eq_false', List.all_eq_true, and_assoc]
    refine and_congr_right fun _ => and_congr_right fun _ => ?_
    rw [Option.ite_none_right_eq_some, Option.some_inj]
    have hn : n.toNat < 0x10000 := n.toNat_lt
    constructor
    · rintro ⟨hlt, heq⟩
      rw [toUInt16_eq_iff hlt] at heq
      omega
    · intro heq
      have hlt : min 0x10000 (Nat.ofDigitChars 10 digits 0) < 0x10000 := by omega
      refine ⟨hlt, (toUInt16_eq_iff hlt).mpr ?_⟩
      omega
  unfold toWord16? IsDecimalOf
  split
  · rename_i rest
    rw [hread]
    constructor
    · exact fun h => ⟨rest, .inr rfl, h⟩
    · rintro ⟨digits, rfl | hdigits, hne, hall, hvalue⟩
      · exact absurd (hall '+' List.mem_cons_self) (by decide)
      · obtain rfl := (List.cons.inj hdigits).2
        exact ⟨hne, hall, hvalue⟩
  · rename_i hplus
    rw [hread]
    constructor
    · exact fun h => ⟨t, .inl rfl, h⟩
    · rintro ⟨digits, rfl | rfl, h⟩
      · exact h
      · exact absurd rfl (hplus digits)

theorem toNat_of_isDigit {c : Char} (h : c.isDigit = true) : 0x30 ≤ c.toNat ∧ c.toNat ≤ 0x39 := by
  rw [Char.isDigit, Bool.and_eq_true, decide_eq_true_eq, decide_eq_true_eq, ge_iff_le,
    UInt32.le_iff_toNat_le, UInt32.le_iff_toNat_le] at h
  exact h

theorem not_isBlank_of_isDigit {c : Char} (h : c.isDigit = true) : isBlank c = false := by
  obtain ⟨hlow, hhigh⟩ := toNat_of_isDigit h
  have hapart : ∀ r ∈ blankRanges, r.2 < 0x30 ∨ 0x39 < r.1 := by decide
  rw [isBlank, inRanges, List.any_eq_false]
  intro r hr
  have hr' := hapart r hr
  rw [Bool.and_eq_true, decide_eq_true_eq, decide_eq_true_eq]
  omega

theorem isDigit_of_mem_toDigits {n : Nat} : ∀ c ∈ Nat.toDigits 10 n, c.isDigit = true :=
  fun _ h => Nat.isDigit_of_mem_toDigits (by decide) (by decide) h

/-- The digits of a number are one of its decimals. -/
theorem isDecimalOf_toDigits (n : Nat) : IsDecimalOf n (Nat.toDigits 10 n) :=
  ⟨_, .inl rfl, Nat.toDigits_ne_nil, isDigit_of_mem_toDigits, Nat.ofDigitChars_ten_toDigits⟩

end Text
end VpnImport
