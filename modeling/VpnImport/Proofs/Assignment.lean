import VpnImport.Assignment
import VpnImport.Proofs.LineShape

/-!
# Assignments on a line

A line assigns a value to a key when it is the key, an equals sign and the
value, up to spaces and tabs: `valueOf?_eq_some_iff`.  A line is of this shape
for one key and one value only, even if any white space may stand where the
lookup takes spaces and tabs: `assignment_unique`.
-/

namespace VpnImport
namespace Assignment

/-- What can be the key of an assignment. -/
structure IsKey (key : Text) : Prop where
  ne_nil : key ≠ []
  visible : ∀ c ∈ key, Text.isBlank c = false
  noEquals : '=' ∉ key

/-- The line that assigns `value` to `key`, with the white space before the key
and before the equals sign. -/
def line (indent key gap value : Text) : Text :=
  indent ++ (key ++ (gap ++ '=' :: value))

namespace IsKey
variable {key : Text} (hkey : IsKey key)
include hkey

theorem exists_cons : ∃ c s, key = c :: s ∧ Text.isBlank c = false := by
  obtain ⟨c, s, h⟩ := List.exists_cons_of_ne_nil hkey.ne_nil
  exact ⟨c, s, h, hkey.visible c (h ▸ List.mem_cons_self)⟩

theorem trimStart_line {indent : Text} (h : Text.allBlank indent = true) (gap value : Text) :
    Text.trimStart (line indent key gap value) = key ++ (gap ++ '=' :: value) := by
  obtain ⟨c, s, rfl, hc⟩ := hkey.exists_cons
  rw [line, Text.trimStart_blank_append h, List.cons_append, Text.trimStart_of_head hc]

theorem skipPads_line {indent : Text} (h : indent.all Text.isPad = true) (gap value : Text) :
    Text.skipPads (line indent key gap value) = key ++ (gap ++ '=' :: value) :=
  Text.skipPads_append_visible h hkey.ne_nil hkey.visible _

/-- The key is the run of characters before white space and equals signs. -/
theorem takeWhile_append {gap : Text} (h : Text.allBlank gap = true) (value : Text) :
    (key ++ (gap ++ '=' :: value)).takeWhile (fun c => !Text.isBlank c && c != '=') = key := by
  have hall : ∀ c ∈ key, (!Text.isBlank c && c != '=') = true := by
    intro c hc
    have hne : c ≠ '=' := fun e => hkey.noEquals (e ▸ hc)
    rw [hkey.visible c hc, bne_iff_ne.mpr hne]
    rfl
  rw [List.takeWhile_append_of_pos hall]
  cases gap with
  | nil => simp
  | cons x gap =>
    have hx : Text.isBlank x = true := Text.allBlank_iff.mp h x List.mem_cons_self
    simp [hx]

end IsKey

/-- A line assigns one value to one key. -/
theorem assignment_unique {indent key gap value indent' key' gap' value' : Text}
    (hkey : IsKey key) (hkey' : IsKey key')
    (hindent : Text.allBlank indent = true) (hindent' : Text.allBlank indent' = true)
    (hgap : Text.allBlank gap = true) (hgap' : Text.allBlank gap' = true)
    (h : line indent key gap value = line indent' key' gap' value') :
    indent = indent' ∧ key = key' ∧ gap = gap' ∧ value = value' := by
  -- Behind the indent, the key ends at the first white space or equals sign.
  have htrim := congrArg Text.trimStart h
  rw [hkey.trimStart_line hindent, hkey'.trimStart_line hindent'] at htrim
  have hk := congrArg (List.takeWhile fun c => !Text.isBlank c && c != '=') htrim
  rw [hkey.takeWhile_append hgap, hkey'.takeWhile_append hgap'] at hk
  subst hk
  have hrest := List.append_cancel_left htrim
  have hvalue := congrArg Text.trimStart hrest
  rw [Text.trimStart_blank_append hgap, Text.trimStart_blank_append hgap',
    Text.trimStart_of_head (by decide), Text.trimStart_of_head (by decide)] at hvalue
  obtain rfl : value = value' := (List.cons.inj hvalue).2
  rw [line, line, htrim] at h
  exact ⟨List.append_cancel_right h, rfl, List.append_cancel_right hrest, rfl⟩

theorem valueOf?_append_cons {same : Char → Char → Bool} {key : Text} {c : Char}
    (hkey : ∀ a ∈ key, same a c = false) (hpad : Text.isPad c = false) (heq : c ≠ '=')
    (a t : Text) :
    valueOf? same key (a ++ c :: t) = (valueOf? same key a).map (· ++ c :: t) := by
  rw [valueOf?, valueOf?, Text.skipPads_append_cons hpad, Text.after?_append_cons hkey]
  cases Text.after? same key (Text.skipPads a) with
  | none => rfl
  | some rest =>
    dsimp only [Option.map_some]
    rw [Text.skipPads_append_cons hpad]
    cases hrest : Text.skipPads rest with
    | nil => simp [heq]
    | cons x s =>
      by_cases hx : x = '='
      · simp [hx]
      · simp [hx]

theorem valueOf?_return {key : Text} (hkey : '\r' ∉ key) (row : Text) :
    valueOf? (· == ·) key (row ++ ['\r']) = (valueOf? (· == ·) key row).map (· ++ ['\r']) := by
  refine valueOf?_append_cons (fun a ha => ?_) (by decide) (by decide) row []
  exact beq_false_of_ne fun e => hkey (e ▸ ha)

theorem skipPads_gap {gap : Text} (h : gap.all Text.isPad = true) (value : Text) :
    Text.skipPads (gap ++ '=' :: value) = '=' :: value := by
  rw [Text.skipPads_pads_append h, Text.skipPads_of_head (by decide)]

/-- A line gives a value for a key when it is the assignment of the value to a name
that matches the key, with nothing but spaces and tabs around the name. -/
theorem valueOf?_eq_some_iff_exists {same : Char → Char → Bool} {key l value : Text}
    (hname : ∀ w, Text.after? same key w = some [] → IsKey w) :
    valueOf? same key l = some value ↔
      ∃ indent w gap, l = line indent w gap value ∧ Text.after? same key w = some [] ∧
        indent.all Text.isPad = true ∧ gap.all Text.isPad = true := by
  constructor
  · intro h
    rw [valueOf?] at h
    cases hrest : Text.after? same key (Text.skipPads l) with
    | none =>
      rw [hrest] at h
      contradiction
    | some rest =>
      obtain ⟨indent, hl, hindent⟩ := Text.exists_skipPads l
      obtain ⟨gap, hgap, hpads⟩ := Text.exists_skipPads rest
      obtain ⟨w, hw, hskip⟩ := Text.after?_eq_some_iff_exists.mp hrest
      refine ⟨indent, w, gap, ?_, hw, hindent, hpads⟩
      have hvalue : Text.skipPads rest = '=' :: value := by
        simp only [hrest] at h
        split at h
        · rename_i v hv
          rw [hv, Option.some.inj h]
        · contradiction
      rw [line, ← hvalue, ← hgap, ← hskip]
      exact hl
  · intro h
    obtain ⟨indent, w, gap, rfl, hw, hindent, hgap⟩ := h
    rw [valueOf?, (hname w hw).skipPads_line hindent,
      Text.after?_eq_some_iff_exists.mpr ⟨w, hw, rfl⟩]
    dsimp only
    rw [skipPads_gap hgap]
    rfl

/-- A line gives a value for a key, keys being compared exactly, when it is the
assignment of the value with nothing but spaces and tabs around the key. -/
theorem valueOf?_eq_some_iff {key l value : Text} (hkey : IsKey key) :
    valueOf? (· == ·) key l = some value ↔
      ∃ indent gap, l = line indent key gap value ∧ indent.all Text.isPad = true ∧
        gap.all Text.isPad = true := by
  have hmatch : ∀ w, Text.after? (· == ·) key w = some [] ↔ w = key := by
    intro w
    rw [Text.after?_eq_some_iff, List.append_nil]
  rw [valueOf?_eq_some_iff_exists fun w hw => (hmatch w).mp hw ▸ hkey]
  simp [hmatch]

/-- An assignment gives its value for its own key, if nothing but spaces and tabs
stand around the key, and gives no value for any other. -/
theorem valueOf?_line {indent key key' gap : Text} (hkey : IsKey key) (hkey' : IsKey key')
    (hindent : Text.allBlank indent = true) (hgap : Text.allBlank gap = true) (value : Text) :
    valueOf? (· == ·) key (line indent key' gap value) =
      if key' = key ∧ indent.all Text.isPad = true ∧ gap.all Text.isPad = true then some value
      else none := by
  split
  · rename_i h
    obtain ⟨rfl, hi, hg⟩ := h
    exact (valueOf?_eq_some_iff hkey).mpr ⟨indent, gap, rfl, hi, hg⟩
  · rename_i h
    rw [Option.eq_none_iff_forall_ne_some]
    intro v hv
    obtain ⟨indent', gap', hline, hi, hg⟩ := (valueOf?_eq_some_iff hkey).mp hv
    obtain ⟨rfl, rfl, rfl, -⟩ := assignment_unique hkey' hkey hindent
      (Text.allBlank_of_all_isPad hi) hgap (Text.allBlank_of_all_isPad hg) hline
    exact h ⟨rfl, hi, hg⟩

theorem line_eq (indent key gap value : Text) :
    line indent key gap value = (indent ++ key ++ gap) ++ '=' :: value := by
  rw [line, List.append_assoc, List.append_assoc]

/-- A value that is looked up is given by a line. -/
theorem exists_of_lineValue_ne_nil {t key : Text} (h : lineValue t key ≠ []) :
    ∃ l ∈ Text.lines t, ∃ value, valueOf? (· == ·) key l = some value := by
  unfold lineValue firstValue? at h
  split at h
  · contradiction
  · rename_i rest hrest
    obtain ⟨l, hl, hvalue⟩ := List.exists_of_findSome?_eq_some hrest
    exact ⟨l, hl, rest, hvalue⟩

end Assignment
end VpnImport
