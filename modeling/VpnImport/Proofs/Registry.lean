import Mathlib.Data.List.Induction
import VpnImport.Extractor

/-!
# The entries of a registry

A registry holds, for each kind, the extractor that was registered last for it and
has not been unregistered since.  What led to a registry is kept beside it as a list
of changes: `Reached`.
-/

namespace VpnImport

theorem Protocol.mem_all (p : Protocol) : p ∈ Protocol.all := by
  cases p <;> decide

namespace Registry
variable {r : Registry} {p : Protocol} {x : Extractor}

theorem ext_get? {r r' : Registry} (h : ∀ p, r.get? p = r'.get? p) : r = r' := by
  obtain ⟨get?⟩ := r
  obtain ⟨get?'⟩ := r'
  exact congrArg Registry.mk (funext h)

theorem mem_protocols : p ∈ r.protocols ↔ ∃ x, r.get? p = some x := by
  rw [protocols, List.mem_filter, Option.isSome_iff_exists]
  exact and_iff_right (Protocol.mem_all p)

theorem pairwise_protocols (r : Registry) :
    r.protocols.Pairwise fun p q => p.rank < q.rank := by
  have hall : Protocol.all.Pairwise fun p q => p.rank < q.rank := by decide
  exact hall.filter _

theorem get?_register (r : Registry) (x : Extractor) (p : Protocol) :
    (r.register x).get? p = if p = x.protocol then some x else r.get? p := rfl

/-- Of the extractors that are registered one after the other, the last one for a
kind stays. -/
theorem get?_foldl_register (xs : List Extractor) (r : Registry) (p : Protocol) :
    (xs.foldl register r).get? p =
      (xs.filter fun x => x.protocol = p).getLast?.or (r.get? p) := by
  induction xs using List.reverseRecOn with
  | nil => rfl
  | append_singleton xs x ih =>
    rw [List.foldl_append, List.foldl_cons, List.foldl_nil, get?_register, ih, List.filter_append]
    by_cases hp : p = x.protocol
    · simp [hp]
    · have hx : x.protocol ≠ p := fun e => hp e.symm
      simp [hp, hx]

/-! ## Changes -/

namespace Change

/-- The kind whose entry a change sets. -/
def target : Change → Protocol
  | register x => x.protocol
  | unregister p => p

def entry : Change → Option Extractor
  | register x => some x
  | unregister _ => none

end Change

theorem get?_change (r : Registry) (c : Change) (p : Protocol) :
    (r.change c).get? p = if p = c.target then c.entry else r.get? p := by
  cases c <;> rfl

theorem changes_concat (r : Registry) (cs : List Change) (c : Change) :
    r.changes (cs ++ [c]) = (r.changes cs).change c :=
  List.foldl_append

/-- The extractor was registered for the kind, and nothing that was changed later
concerns the kind. -/
def Standing (cs : List Change) (p : Protocol) (x : Extractor) : Prop :=
  ∃ before behind, cs = before ++ .register x :: behind ∧ x.protocol = p ∧
    ∀ c ∈ behind, c.target ≠ p

theorem not_standing_nil : ¬ Standing [] p x := by
  rintro ⟨before, behind, h, -⟩
  exact List.append_ne_nil_of_right_ne_nil _ (List.cons_ne_nil _ _) h.symm

/-- One more change either registers the extractor or leaves its kind alone. -/
theorem standing_concat {cs : List Change} {c : Change} :
    Standing (cs ++ [c]) p x ↔
      (c = .register x ∧ x.protocol = p) ∨ (c.target ≠ p ∧ Standing cs p x) := by
  constructor
  · -- The extractor is registered by the last change, or by an earlier one.
    rintro ⟨before, behind, h, hp, hlater⟩
    rcases List.eq_nil_or_concat behind with rfl | ⟨init, last, rfl⟩
    · obtain ⟨-, hc⟩ := List.append_inj' h rfl
      exact .inl ⟨List.singleton_inj.mp hc, hp⟩
    · rw [List.concat_eq_append, ← List.cons_append, ← List.append_assoc] at h
      obtain ⟨hcs, hc⟩ := List.append_inj' h rfl
      obtain rfl : c = last := List.singleton_inj.mp hc
      refine .inr ⟨hlater c (by simp), before, init, hcs, hp, fun c' hc' => hlater c' ?_⟩
      simp [hc']
  · rintro (⟨rfl, hp⟩ | ⟨hc, before, behind, rfl, hp, hlater⟩)
    · exact ⟨cs, [], rfl, hp, fun c hc => absurd hc List.not_mem_nil⟩
    · refine ⟨before, behind ++ [c], by simp, hp, fun c' hc' => ?_⟩
      rcases List.mem_append.mp hc' with hc' | hc'
      · exact hlater c' hc'
      · rw [List.mem_singleton.mp hc']
        exact hc

theorem get?_changes_eq_some_iff {cs : List Change} :
    (empty.changes cs).get? p = some x ↔ Standing cs p x := by
  -- From the back: the last change sets the entry of `p` or leaves it to those before.
  induction cs using List.reverseRecOn with
  | nil => exact iff_of_false (Option.some_ne_none x ∘ Eq.symm) not_standing_nil
  | append_singleton cs c ih =>
    rw [changes_concat, get?_change, standing_concat, ← ih]
    by_cases hp : p = c.target
    · rw [if_pos hp, hp]
      cases c with
      | register y =>
        constructor
        · intro h
          obtain rfl : y = x := Option.some.inj h
          exact .inl ⟨rfl, rfl⟩
        · rintro (⟨hy, -⟩ | ⟨hne, -⟩)
          · exact congrArg some (Change.register.inj hy)
          · exact absurd rfl hne
      | unregister q =>
        constructor
        · intro h
          contradiction
        · rintro (⟨hy, -⟩ | ⟨hne, -⟩)
          · contradiction
          · exact absurd rfl hne
    · rw [if_neg hp]
      constructor
      · exact fun h => .inr ⟨Ne.symm hp, h⟩
      · rintro (⟨rfl, hx⟩ | ⟨-, h⟩)
        · exact absurd hx.symm hp
        · exact h

/-- The changes that fill an empty registry with the extractors of the dialects. -/
def builtins : List Change :=
  [.register .openVPN, .register .ikev2, .register .wireGuard]

/-- The registries that come about by changes of an empty one, or of the one with
the extractors of the dialects, each with all the changes that led to it. -/
inductive Reached : List Change → Registry → Prop where
  | empty : Reached [] .empty
  | withDefaults : Reached builtins .withDefaults
  | change {cs : List Change} {r : Registry} (c : Change) (h : Reached cs r) :
      Reached (cs ++ [c]) (r.change c)

theorem withDefaults_eq : withDefaults = empty.changes builtins :=
  ext_get? fun p => by cases p <;> rfl

section Reached
variable {cs : List Change} (h : Reached cs r)
include h

theorem Reached.eq_changes : r = Registry.empty.changes cs := by
  induction h with
  | empty => rfl
  | withDefaults => exact withDefaults_eq
  | change c _ ih => rw [changes_concat, ← ih]

theorem Reached.get?_eq_some_iff : r.get? p = some x ↔ Standing cs p x := by
  rw [h.eq_changes]
  exact get?_changes_eq_some_iff

theorem Reached.mem_protocols : p ∈ r.protocols ↔ ∃ x, Standing cs p x := by
  rw [Registry.mem_protocols]
  exact exists_congr fun x => h.get?_eq_some_iff

theorem Reached.isEmpty_iff : r.isEmpty = true ↔ ∀ p x, ¬ Standing cs p x := by
  rw [isEmpty, List.isEmpty_iff, List.eq_nil_iff_forall_not_mem]
  refine forall_congr' fun p => ?_
  rw [h.mem_protocols, not_exists]

end Reached

end Registry
end VpnImport
