import Mathlib.Data.List.Forall2

/-!
# Computations that may fail

When a sequence of steps succeeds, each of which may fail.  The lemmas take a
successful extraction apart without a look at how its steps are made.
-/

namespace VpnImport

/-- A computation that may fail succeeds when each of its two steps does. -/
theorem bind_eq_ok_iff {ε α β : Type} {x : Except ε α} {f : α → Except ε β} {b : β} :
    (x >>= f) = .ok b ↔ ∃ a, x = .ok a ∧ f a = .ok b := by
  cases x with
  | error e =>
    constructor
    · intro h
      contradiction
    · intro h
      obtain ⟨a, h, -⟩ := h
      contradiction
  | ok a =>
    constructor
    · exact fun h => ⟨a, rfl, h⟩
    · intro h
      obtain ⟨a', ha, h⟩ := h
      rw [Except.ok.inj ha]
      exact h

/-- Every element of a list is taken when each one is. -/
theorem exists_mapM_eq_ok_iff {ε α β : Type} {f : α → Except ε β} {l : List α} :
    (∃ bs, l.mapM f = .ok bs) ↔ ∀ a ∈ l, ∃ b, f a = .ok b := by
  induction l with
  | nil => exact ⟨fun _ a ha => absurd ha List.not_mem_nil, fun _ => ⟨[], rfl⟩⟩
  | cons x l ih =>
    rw [List.forall_mem_cons, ← ih]
    constructor
    · intro h
      obtain ⟨bs, h⟩ := h
      rw [List.mapM_cons] at h
      obtain ⟨b, hb, htail⟩ := bind_eq_ok_iff.mp h
      obtain ⟨rest, hrest, -⟩ := bind_eq_ok_iff.mp htail
      exact ⟨⟨b, hb⟩, ⟨rest, hrest⟩⟩
    · intro h
      obtain ⟨⟨b, hb⟩, ⟨rest, hrest⟩⟩ := h
      refine ⟨b :: rest, ?_⟩
      rw [List.mapM_cons]
      exact bind_eq_ok_iff.mpr ⟨b, hb, bind_eq_ok_iff.mpr ⟨rest, hrest, rfl⟩⟩

/-- What a sequence of steps gives, step by step. -/
theorem forall₂_of_mapM {ε α β : Type} {f : α → Except ε β} {l : List α} {bs : List β}
    (h : l.mapM f = .ok bs) : List.Forall₂ (fun a b => f a = .ok b) l bs := by
  induction l generalizing bs with
  | nil =>
    cases h
    exact .nil
  | cons x l ih =>
    rw [List.mapM_cons] at h
    obtain ⟨b, hb, htail⟩ := bind_eq_ok_iff.mp h
    obtain ⟨rest, hrest, hcons⟩ := bind_eq_ok_iff.mp htail
    cases hcons
    exact .cons hb (ih hrest)

theorem exists_of_mem_forall₂ {α β : Type} {R : α → β → Prop} {l : List α} {bs : List β}
    (h : List.Forall₂ R l bs) {b : β} (hb : b ∈ bs) : ∃ a ∈ l, R a b := by
  induction h with
  | nil => contradiction
  | @cons a b' l bs hab _ ih =>
    rcases List.mem_cons.mp hb with rfl | hb
    · exact ⟨a, List.mem_cons_self, hab⟩
    · obtain ⟨a', ha', hab'⟩ := ih hb
      exact ⟨a', List.mem_cons_of_mem a ha', hab'⟩

theorem mapM_congr {ε α β : Type} {f g : α → Except ε β} {l : List α}
    (h : ∀ a ∈ l, f a = g a) : l.mapM f = l.mapM g := by
  induction l with
  | nil => rfl
  | cons x l ih =>
    rw [List.mapM_cons, List.mapM_cons, h x List.mem_cons_self,
      ih fun a ha => h a (List.mem_cons_of_mem x ha)]

/-! ## What a computation yields -/

section Yields
variable {ε α β : Type} {onError : ε → Prop} {onValue : α → Prop} {onResult : β → Prop}

/-- What holds of the error or of the value that a computation comes to. -/
def Yields (onError : ε → Prop) (onValue : α → Prop) : Except ε α → Prop
  | .error e => onError e
  | .ok a => onValue a

theorem Yields.bind {x : Except ε α} {f : α → Except ε β} (hx : Yields onError onValue x)
    (hf : ∀ a, onValue a → Yields onError onResult (f a)) :
    Yields onError onResult (x >>= f) := by
  cases x with
  | error e => exact hx
  | ok a => exact hf a hx

theorem Yields.map {x : Except ε α} {f : α → β} (hx : Yields onError onValue x)
    (hf : ∀ a, onValue a → onResult (f a)) : Yields onError onResult (x.map f) := by
  cases x with
  | error e => exact hx
  | ok a => exact hf a hx

theorem yields_mapM {f : α → Except ε β} {l : List α}
    (h : ∀ a ∈ l, Yields onError onResult (f a)) :
    Yields onError (fun bs => ∀ b ∈ bs, onResult b) (l.mapM f) := by
  induction l with
  | nil => exact fun b hb => absurd hb List.not_mem_nil
  | cons x l ih =>
    obtain ⟨hx, hl⟩ := List.forall_mem_cons.mp h
    rw [List.mapM_cons]
    refine hx.bind fun b hb => (ih hl).bind fun bs hbs => ?_
    exact List.forall_mem_cons.mpr ⟨hb, hbs⟩

end Yields

end VpnImport
