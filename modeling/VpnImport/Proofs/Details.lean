import VpnImport.Profile.Details
import Mathlib.Data.List.Induction
import Mathlib.Data.List.Sort

/-!
# Lookups by key

Details are found under the key they were put in with.  What a profile records is
often a table in which some keys have no value, and what can be found is the table
itself as long as no key stands in it twice.
-/

namespace VpnImport
namespace Details

theorem get?_empty (key : String) : empty.get? key = none := rfl

/-! ## Lists of entries -/

theorem lookup_cons_eq_ite {β : Type} (first : String) (value : β) (k : String)
    (es : List (String × β)) :
    ((first, value) :: es).lookup k = if k = first then some value else es.lookup k := by
  rw [List.lookup_cons]
  by_cases hk : k = first
  · rw [beq_iff_eq.mpr hk, if_pos hk]
  · rw [beq_false_of_ne hk, if_neg hk]

theorem isSome_lookup_iff {β : Type} {es : List (String × β)} {k : String} :
    (es.lookup k).isSome = true ↔ k ∈ es.map Prod.fst := by
  induction es with
  | nil => simp
  | cons e es ih =>
    obtain ⟨first, v⟩ := e
    rw [lookup_cons_eq_ite, List.map_cons, List.mem_cons, ← ih]
    by_cases hk : k = first
    · simp [hk]
    · simp [hk]

theorem lookup_eq_none_of_not_mem {β : Type} {k : String} {es : List (String × β)}
    (h : k ∉ es.map Prod.fst) : es.lookup k = none := by
  rw [← Option.not_isSome_iff_eq_none, isSome_lookup_iff]
  exact h

theorem mem_of_lookup {β : Type} {es : List (String × β)} {k : String} {v : β}
    (h : es.lookup k = some v) : (k, v) ∈ es := by
  obtain ⟨before, behind, rfl, -⟩ := List.lookup_eq_some_iff.mp h
  exact List.mem_append_right before List.mem_cons_self

theorem lookup_of_mem {β : Type} {es : List (String × β)} (hkeys : (es.map Prod.fst).Nodup)
    {e : String × β} (he : e ∈ es) : es.lookup e.1 = some e.2 := by
  induction es with
  | nil => contradiction
  | cons x es ih =>
    obtain ⟨first, v⟩ := x
    obtain ⟨hfresh, hrest⟩ := List.nodup_cons.mp hkeys
    rw [lookup_cons_eq_ite]
    rcases List.mem_cons.mp he with rfl | he
    · exact if_pos rfl
    · have hne : e.1 ≠ first := fun hk => hfresh (List.mem_map.mpr ⟨e, he, hk⟩)
      rw [if_neg hne, ih hrest he]

theorem lookup_insertSorted (key value : String) (es : List (String × String)) (k : String) :
    (insertSorted key value es).lookup k = if k = key then some value else es.lookup k := by
  induction es with
  | nil => exact lookup_cons_eq_ite key value k []
  | cons e es ih =>
    obtain ⟨first, v⟩ := e
    rw [insertSorted, lookup_cons_eq_ite first v]
    by_cases hlt : key < first
    · rw [if_pos hlt, lookup_cons_eq_ite, lookup_cons_eq_ite]
    · rw [if_neg hlt]
      by_cases hgt : first < key
      · rw [if_pos hgt, lookup_cons_eq_ite, ih]
        by_cases hk : k = first
        · have hne : k ≠ key := fun e => String.lt_irrefl key (by rwa [← hk, e] at hgt)
          rw [if_pos hk, if_neg hne, if_pos hk]
        · rw [if_neg hk, if_neg hk]
      · have hkey : key = first := String.le_antisymm hgt hlt
        rw [if_neg hgt, lookup_cons_eq_ite, hkey]
        by_cases hk : k = first
        · rw [if_pos hk, if_pos hk]
        · rw [if_neg hk, if_neg hk, if_neg hk]

theorem get?_insert (d : Details) (key value k : String) :
    (d.insert key value).get? k = if k = key then some value else d.get? k :=
  lookup_insertSorted key value d.entries k

/-! ## Details by their entries -/

theorem nodup_keys (d : Details) : (d.entries.map Prod.fst).Nodup :=
  List.pairwise_map.mpr (d.sorted.imp fun h => String.ne_of_lt h)

theorem mem_entries_iff {d : Details} {k v : String} :
    (k, v) ∈ d.entries ↔ d.get? k = some v :=
  ⟨fun h => lookup_of_mem d.nodup_keys h, mem_of_lookup⟩

theorem mem_entries_insert {d : Details} {key value : String} {e : String × String}
    (h : e ∈ (d.insert key value).entries) : e = (key, value) ∨ e ∈ d.entries := by
  obtain ⟨k, v⟩ := e
  rw [mem_entries_iff, get?_insert] at h
  split at h
  · rename_i hk
    rw [hk, ← Option.some.inj h]
    exact .inl rfl
  · exact .inr (mem_entries_iff.mpr h)

/-- Details in which the same can be found are the same. -/
theorem ext_get? {a b : Details} (h : ∀ k, a.get? k = b.get? k) : a = b := by
  have : Std.Irrefl fun x y : String × String => x.1 < y.1 := ⟨fun x => String.lt_irrefl x.1⟩
  have : Std.Antisymm fun x y : String × String => x.1 < y.1 :=
    ⟨fun x y hxy hyx => absurd (String.lt_trans hxy hyx) (String.lt_irrefl x.1)⟩
  -- Two ascending lists with the same members are the same list.
  refine ext (a.sorted.eq_of_mem_iff b.sorted fun e => ?_)
  rw [mem_entries_iff, mem_entries_iff, h]

/-- The fields of a table that have a value. -/
def present (table : List (String × Option String)) : List (String × String) :=
  table.filterMap fun e => e.2.map fun v => (e.1, v)

theorem present_cons (key : String) (value : Option String)
    (table : List (String × Option String)) :
    present ((key, value) :: table) = (value.map fun v => (key, v)).toList ++ present table := by
  rw [present, List.filterMap_cons]
  cases value <;> rfl

theorem mem_of_mem_present {table : List (String × Option String)} {e : String × String}
    (h : e ∈ present table) : (e.1, some e.2) ∈ table := by
  obtain ⟨⟨key, value⟩, hmem, hvalue⟩ := List.mem_filterMap.mp h
  obtain ⟨v, rfl, rfl⟩ := Option.map_eq_some_iff.mp hvalue
  exact hmem

theorem keys_present_sublist (table : List (String × Option String)) :
    List.Sublist ((present table).map Prod.fst) (table.map Prod.fst) := by
  induction table with
  | nil => exact .slnil
  | cons e table ih =>
    obtain ⟨key, value⟩ := e
    rw [present_cons]
    cases value with
    | none => exact ih.cons key
    | some v => exact ih.cons_cons key

theorem lookup_present {table : List (String × Option String)}
    (hkeys : (table.map Prod.fst).Nodup) (k : String) :
    (present table).lookup k = (table.lookup k).join := by
  induction table with
  | nil => rfl
  | cons e table ih =>
    obtain ⟨key, value⟩ := e
    obtain ⟨hfresh, hrest⟩ := List.nodup_cons.mp hkeys
    rw [present_cons, lookup_cons_eq_ite]
    by_cases hk : k = key
    · have hnone : (present table).lookup k = none :=
        lookup_eq_none_of_not_mem fun hmem =>
          hfresh ((keys_present_sublist table).subset (hk ▸ hmem))
      rw [if_pos hk, List.lookup_append, hnone, Option.or_none]
      cases value with
      | none => rfl
      | some v => exact (lookup_cons_eq_ite key v k []).trans (if_pos hk)
    · rw [if_neg hk, ← ih hrest]
      cases value with
      | none => rfl
      | some v => exact (lookup_cons_eq_ite key v k _).trans (if_neg hk)

theorem mem_keys_of_join {table : List (String × Option String)} {k : String}
    (h : (table.lookup k).join.isSome = true) : k ∈ table.map Prod.fst := by
  obtain ⟨v, hv⟩ := Option.isSome_iff_exists.mp h
  rw [← isSome_lookup_iff, Option.join_eq_some_iff.mp hv]
  rfl

/-- If no value of a table is empty, none that is found is. -/
theorem join_lookup_ne_empty {table : List (String × Option String)}
    (h : ∀ e ∈ table, e.2 ≠ some "") (k : String) : (table.lookup k).join ≠ some "" := by
  intro hjoin
  exact h _ (mem_of_lookup (Option.join_eq_some_iff.mp hjoin)) rfl

end Details
end VpnImport
