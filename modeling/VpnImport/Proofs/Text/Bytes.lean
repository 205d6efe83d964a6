import Mathlib.Data.List.Basic
import VpnImport.Text.Basic

/-!
# Byte offsets

A text is encoded in UTF-8, and an offset counts the bytes in front of a place.  Not every
offset is a place: it may lie behind the end, or inside a character.  `slice` cuts out
what stands between two offsets and fails on any other pair: `slice_eq_ok_iff` says what
is cut out, and `exists_slice_iff` between which offsets something is.
-/

namespace VpnImport
namespace Text

@[simp] theorem byteSize_nil : byteSize [] = 0 := rfl

@[simp] theorem byteSize_cons (c : Char) (t : Text) :
    byteSize (c :: t) = c.utf8Size + byteSize t := by
  have hfoldl : ∀ n, t.foldl (fun n c => n + c.utf8Size) n = n + byteSize t := by
    intro n
    rw [byteSize]
    induction t generalizing n with
    | nil => rfl
    | cons d t ih =>
      rw [List.foldl_cons, List.foldl_cons, ih, ih (0 + d.utf8Size)]
      omega
  rw [byteSize, List.foldl_cons, hfoldl, Nat.zero_add]

@[simp] theorem byteSize_append (a b : Text) : byteSize (a ++ b) = byteSize a + byteSize b := by
  induction a with
  | nil => simp
  | cons c a ih => simp [ih, Nat.add_assoc]

theorem byteSize_eq_utf8ByteSize (t : Text) : byteSize t = (String.ofList t).utf8ByteSize := by
  induction t with
  | nil => rfl
  | cons c t ih =>
    rw [byteSize_cons, ih, String.ofList_cons, String.utf8ByteSize_append,
      String.utf8ByteSize_singleton]

/-- Every character takes a byte, so two fronts of a text are told apart by their size. -/
theorem append_inj_byteSize {a b a' b' : Text} (h : a ++ b = a' ++ b')
    (hsize : byteSize a = byteSize a') : a = a' ∧ b = b' := by
  induction a generalizing a' with
  | nil =>
    cases a' with
    | nil => exact ⟨rfl, h⟩
    | cons c a' =>
      have hc := c.utf8Size_pos
      simp at hsize
      omega
  | cons c a ih =>
    cases a' with
    | nil =>
      have hc := c.utf8Size_pos
      simp at hsize
      omega
    | cons c' a' =>
      obtain ⟨rfl, hrest⟩ := List.cons.inj h
      simp only [byteSize_cons, Nat.add_left_cancel_iff] at hsize
      obtain ⟨rfl, hb⟩ := ih hrest hsize
      exact ⟨rfl, hb⟩

theorem byteSize_eq_zero_iff {t : Text} : byteSize t = 0 ↔ t = [] := by
  cases t with
  | nil => simp
  | cons c t =>
    have hc := c.utf8Size_pos
    simp
    omega

/-! ## Slices -/

/-- What stands before an offset and what stands behind it, if it is a place. -/
def cutAt? : Text → Nat → Option (Text × Text)
  | t, 0 => some ([], t)
  | [], _ + 1 => none
  | c :: t, n + 1 =>
    if c.utf8Size ≤ n + 1 then
      (cutAt? t (n + 1 - c.utf8Size)).map fun m => (c :: m.1, m.2)
    else none

/-- What stands from one offset up to another. -/
def slice? (t : Text) (start stop : Nat) : Option Text :=
  (cutAt? t stop).bind fun m => (cutAt? m.1 start).map Prod.snd

/-- A slice that a text does not have. -/
structure BadSlice where
  text : Text
  start : Nat
  stop : Nat

/-- The slice of a text, where its not being there is an error. -/
def slice (t : Text) (start stop : Nat) : Except BadSlice Text :=
  match slice? t start stop with
  | none => .error ⟨t, start, stop⟩
  | some s => .ok s

theorem cutAt?_append (a b : Text) : cutAt? (a ++ b) (byteSize a) = some (a, b) := by
  induction a with
  | nil =>
    rw [List.nil_append, byteSize_nil]
    cases b <;> rfl
  | cons c a ih =>
    obtain ⟨k, hk⟩ : ∃ k, c.utf8Size = k + 1 :=
      Nat.exists_eq_succ_of_ne_zero (Nat.ne_of_gt c.utf8Size_pos)
    have hsize : byteSize (c :: a) = k + byteSize a + 1 := by
      rw [byteSize_cons, hk]
      omega
    have hrest : k + byteSize a + 1 - c.utf8Size = byteSize a := by omega
    rw [List.cons_append, hsize, cutAt?, if_pos (by omega), hrest, ih]
    rfl

theorem append_of_cutAt? {t : Text} {n : Nat} {m : Text × Text} (h : cutAt? t n = some m) :
    t = m.1 ++ m.2 ∧ byteSize m.1 = n := by
  fun_induction cutAt? t n generalizing m with
  | case1 t =>
    cases h
    exact ⟨rfl, rfl⟩
  | case2 => contradiction
  | case3 c t n hc ih =>
    obtain ⟨m', hm, rfl⟩ := Option.map_eq_some_iff.mp h
    obtain ⟨ht, hsize⟩ := ih hm
    refine ⟨congrArg (c :: ·) ht, ?_⟩
    rw [byteSize_cons]
    omega
  | case4 => contradiction

theorem cutAt?_eq_some_iff {t a b : Text} {n : Nat} :
    cutAt? t n = some (a, b) ↔ t = a ++ b ∧ byteSize a = n := by
  constructor
  · exact append_of_cutAt?
  · rintro ⟨rfl, rfl⟩
    exact cutAt?_append a b

theorem slice?_eq_some_iff {t s : Text} {i j : Nat} :
    slice? t i j = some s ↔
      ∃ a b, t = a ++ (s ++ b) ∧ byteSize a = i ∧ byteSize (a ++ s) = j := by
  rw [slice?, Option.bind_eq_some_iff]
  constructor
  · rintro ⟨⟨front, b⟩, hfront, hcut⟩
    obtain ⟨⟨a, s'⟩, ha, rfl⟩ := Option.map_eq_some_iff.mp hcut
    obtain ⟨rfl, hj⟩ := cutAt?_eq_some_iff.mp hfront
    obtain ⟨rfl, hi⟩ := cutAt?_eq_some_iff.mp ha
    exact ⟨a, b, List.append_assoc a s' b, hi, hj⟩
  · rintro ⟨a, b, rfl, rfl, rfl⟩
    refine ⟨(a ++ s, b), cutAt?_eq_some_iff.mpr ⟨(List.append_assoc a s b).symm, rfl⟩, ?_⟩
    rw [cutAt?_append]
    rfl

theorem slice_eq_ok_iff {t s : Text} {i j : Nat} :
    slice t i j = .ok s ↔
      ∃ a b, t = a ++ (s ++ b) ∧ byteSize a = i ∧ byteSize (a ++ s) = j := by
  rw [← slice?_eq_some_iff, slice]
  cases slice? t i j <;> simp

theorem slice_of_append {t a s b : Text} {i j : Nat} (h : t = a ++ (s ++ b))
    (hi : byteSize a = i) (hj : byteSize (a ++ s) = j) : slice t i j = .ok s :=
  slice_eq_ok_iff.mpr ⟨a, b, h, hi, hj⟩

/-- The slices from the start on are the fronts of a text. -/
theorem slice?_zero_eq_some_iff {t head : Text} {n : Nat} :
    slice? t 0 n = some head ↔ ∃ b, t = head ++ b ∧ byteSize head = n := by
  rw [slice?_eq_some_iff]
  constructor
  · rintro ⟨a, b, ht, ha, hsize⟩
    obtain rfl := byteSize_eq_zero_iff.mp ha
    exact ⟨b, ht, hsize⟩
  · rintro ⟨b, ht, hsize⟩
    exact ⟨[], b, ht, rfl, hsize⟩

theorem slice_to_end (a b : Text) : slice (a ++ b) (byteSize a) (byteSize (a ++ b)) = .ok b :=
  slice_of_append (b := []) (by simp) rfl rfl

/-! ## Places -/

/-- An offset is a place of a text when a character of the encoding starts there, or at
the end. -/
def IsPlace (t : Text) (n : Nat) : Prop :=
  String.Pos.Raw.IsValid (String.ofList t) ⟨n⟩

theorem isPlace_iff {t : Text} {n : Nat} : IsPlace t n ↔ ∃ a b, t = a ++ b ∧ byteSize a = n := by
  rw [IsPlace, String.Pos.Raw.isValid_ofList]
  constructor
  · rintro ⟨k, hk⟩
    exact ⟨t.take k, t.drop k, (List.take_append_drop k t).symm,
      (byteSize_eq_utf8ByteSize _).trans hk.symm⟩
  · rintro ⟨a, b, rfl, rfl⟩
    refine ⟨a.length, ?_⟩
    rw [List.take_left, ← byteSize_eq_utf8ByteSize]

/-- There is a slice between two places that stand in order, and between no other
offsets. -/
theorem exists_slice_iff {t : Text} {i j : Nat} :
    (∃ s, slice t i j = .ok s) ↔ i ≤ j ∧ j ≤ byteSize t ∧ IsPlace t i ∧ IsPlace t j := by
  simp only [slice_eq_ok_iff, isPlace_iff]
  constructor
  · rintro ⟨s, a, b, rfl, rfl, rfl⟩
    refine ⟨?_, ?_, ⟨a, s ++ b, rfl, rfl⟩, ⟨a ++ s, b, (List.append_assoc a s b).symm, rfl⟩⟩
    · rw [byteSize_append]
      omega
    · simp only [byteSize_append]
      omega
  · rintro ⟨hij, -, ⟨a, b, rfl, rfl⟩, ⟨a', b', h, rfl⟩⟩
    -- The shorter front is a front of the longer one.
    rcases List.append_eq_append_iff.mp h with ⟨s, rfl, rfl⟩ | ⟨s, rfl, rfl⟩
    · exact ⟨s, a, b', rfl, rfl, rfl⟩
    · rw [byteSize_append] at hij
      have hs : s = [] := byteSize_eq_zero_iff.mp (by omega)
      exact ⟨[], a', s ++ b, by simp, by simp [hs], by simp⟩

end Text
end VpnImport
