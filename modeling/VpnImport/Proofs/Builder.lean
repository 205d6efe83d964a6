import VpnImport.Builder
import VpnImport.Proofs.Fold
import VpnImport.Proofs.Registry

/-!
# What the steps of a set-up come to

Of the steps that concern one dialect the last one counts, and so does the last
that sets the limit.  Added extractors are collected in their order, whatever is
switched on or off around them.
-/

namespace VpnImport
namespace Builder

/-! ## The steps, read one by one -/

namespace Step

/-- Whether a step switches the extractor that comes with a dialect on or off. -/
def switch? (p : Protocol) : Step → Option Bool
  | enable q => if q = p then some true else none
  | enableAll => some true
  | disable q => if q = p then some false else none
  | _ => none

def limit? : Step → Option (Option Nat)
  | maxSize size => some (some size)
  | unlimited => some none
  | _ => none

def added? : Step → Option Extractor
  | add x => some x
  | _ => none

end Step

/-- Whether the last step that switches a dialect on or off switches it on. -/
def switchedOn (ss : List Step) (p : Protocol) : Bool :=
  p.isKnown && (ss.filterMap (Step.switch? p)).getLast?.getD false

/-- The limit that is set last, or else the default. -/
def lastLimit (ss : List Step) : Option Nat :=
  (ss.filterMap Step.limit?).getLast?.getD (some defaultMaxContentSize)

/-- The extractors that are added, in their order. -/
def added (ss : List Step) : List Extractor :=
  ss.filterMap Step.added?

/-- The extractor for a kind: the last that is added for it, or else the one that
comes with the dialect if that is switched on. -/
def extractor? (ss : List Step) (p : Protocol) : Option Extractor :=
  ((added ss).filter fun x => x.protocol = p).getLast?.or
    (if switchedOn ss p then Extractor.builtin? p else none)

theorem isSome_builtin?_iff {ss : List Step} {p : Protocol} :
    (∃ x, (if switchedOn ss p then Extractor.builtin? p else none) = some x) ↔
      switchedOn ss p = true := by
  constructor
  · rintro ⟨x, hx⟩
    by_contra hoff
    rw [if_neg hoff] at hx
    contradiction
  · intro hon
    rw [if_pos hon]
    cases p with
    | unknown => contradiction
    | openVPN | ikev2 | wireGuard => exact ⟨_, rfl⟩

theorem isSome_extractor?_iff {ss : List Step} {p : Protocol} :
    (∃ x, extractor? ss p = some x) ↔
      switchedOn ss p = true ∨ ∃ x ∈ added ss, x.protocol = p := by
  rw [extractor?]
  cases hlast : ((added ss).filter fun x => x.protocol = p).getLast? with
  | none =>
    have hnone : ¬ ∃ x ∈ added ss, x.protocol = p := by
      rw [List.getLast?_eq_none_iff, List.filter_eq_nil_iff] at hlast
      simpa using hlast
    rw [Option.none_or, or_iff_left hnone]
    exact isSome_builtin?_iff
  | some x =>
    obtain ⟨hx, hp⟩ := List.mem_filter.mp (List.mem_of_getLast? hlast)
    exact iff_of_true ⟨x, rfl⟩ (.inr ⟨x, hx, of_decide_eq_true hp⟩)

/-! ## The set-up after the steps -/

theorem enabled_step_known (b : Builder) (s : Step) {p : Protocol} (hp : p.isKnown = true) :
    (b.step s).enabled p = (s.switch? p).getD (b.enabled p) := by
  cases s with
  | enable q =>
    show ((p == q && q.isKnown) || b.enabled p) = _
    by_cases hq : q = p
    · simp [Step.switch?, hq, hp]
    · simp [Step.switch?, hq, Ne.symm hq]
  | enableAll =>
    show (p.isKnown || b.enabled p) = true
    rw [hp, Bool.true_or]
  | disable q =>
    show (p != q && b.enabled p) = _
    by_cases hq : q = p
    · simp [Step.switch?, hq]
    · simp [Step.switch?, hq, Ne.symm hq]
  | maxSize size => rfl
  | unlimited => rfl
  | add x => rfl

/-- Nothing switches the kind of no dialect on. -/
theorem enabled_step_unknown {b : Builder} (h : b.enabled .unknown = false) (s : Step) :
    (b.step s).enabled .unknown = false := by
  cases s with
  | enable q =>
    show ((Protocol.unknown == q && q.isKnown) || b.enabled .unknown) = false
    rw [h, Bool.or_false]
    cases q <;> rfl
  | enableAll => exact h
  | disable q =>
    show (Protocol.unknown != q && b.enabled .unknown) = false
    rw [h, Bool.and_false]
  | maxSize size => exact h
  | unlimited => exact h
  | add x => exact h

theorem enabled_steps_unknown {b : Builder} (h : b.enabled .unknown = false) (ss : List Step) :
    (b.steps ss).enabled .unknown = false := by
  induction ss generalizing b with
  | nil => exact h
  | cons s ss ih => exact ih (enabled_step_unknown h s)

theorem enabled_steps (ss : List Step) (p : Protocol) :
    (start.steps ss).enabled p = switchedOn ss p := by
  by_cases hp : p.isKnown = true
  · rw [switchedOn, hp, Bool.true_and]
    exact foldl_last_wins (fun b : Builder => b.enabled p) _
      (fun b s => enabled_step_known b s hp) start ss
  · obtain rfl : p = .unknown := by
      cases p
      case unknown => rfl
      all_goals exact absurd rfl hp
    exact enabled_steps_unknown rfl ss

theorem maxContentSize_steps (ss : List Step) :
    (start.steps ss).maxContentSize = lastLimit ss :=
  foldl_last_wins maxContentSize _ (fun _ s => by cases s <;> rfl) start ss

theorem custom_steps (ss : List Step) : (start.steps ss).custom = added ss := by
  have hstep : ∀ (b : Builder) (s : Step), (b.step s).custom = b.custom ++ s.added?.toList := by
    intro b s
    cases s <;> simp [step, Step.added?]
  exact foldl_append custom _ hstep start ss

/-! ## Building -/

theorem mem_enabledProtocols {b : Builder} {p : Protocol} :
    p ∈ b.enabledProtocols ↔ b.enabled p = true := by
  rw [enabledProtocols, List.mem_filter]
  exact and_iff_right (Protocol.mem_all p)

theorem fault?_eq_none_iff {b : Builder} :
    b.fault? = none ↔
      (b.enabledProtocols ≠ [] ∨ b.custom ≠ []) ∧ b.maxContentSize ≠ some 0 ∧
        ∀ x ∈ b.custom, x.protocol ≠ .unknown := by
  have hnone : (b.enabledProtocols.isEmpty && b.custom.isEmpty) = true ↔
      ¬ (b.enabledProtocols ≠ [] ∨ b.custom ≠ []) := by
    rw [Bool.and_eq_true, List.isEmpty_iff, List.isEmpty_iff, not_or, not_not, not_not]
  have htarget : (b.custom.any fun x => !x.protocol.isKnown) = true ↔
      ¬ ∀ x ∈ b.custom, x.protocol ≠ .unknown := by
    simp [Protocol.isKnown]
  -- The conditions are taken in the order in which they are tested.
  rw [fault?]
  by_cases hempty : b.enabledProtocols ≠ [] ∨ b.custom ≠ []
  · rw [if_neg (fun h => hnone.mp h hempty)]
    by_cases hlimit : b.maxContentSize = some 0
    · simp [hlimit]
    · rw [if_neg (by simpa using hlimit)]
      by_cases hknown : ∀ x ∈ b.custom, x.protocol ≠ .unknown
      · rw [if_neg (fun h => htarget.mp h hknown)]
        exact ⟨fun _ => ⟨hempty, hlimit, hknown⟩, fun _ => rfl⟩
      · rw [if_pos (htarget.mpr hknown)]
        exact iff_of_false (Option.some_ne_none _) fun h => hknown h.2.2
  · rw [if_pos (hnone.mpr hempty)]
    exact iff_of_false (Option.some_ne_none _) fun h => hempty h.1

theorem build_eq_ok_iff {b : Builder} {m : Importer} :
    b.build = .ok m ↔ b.fault? = none ∧ m = ⟨b.maxContentSize, b.registry⟩ := by
  rw [build]
  cases b.fault? with
  | some f => simp
  | none => simp [eq_comm]

/-! ## The extractors -/

theorem protocol_of_builtin? {p : Protocol} {x : Extractor} (h : Extractor.builtin? p = some x) :
    x.protocol = p := by
  cases p <;> cases h <;> rfl

/-- The extractors of some dialects, registered in whatever order. -/
theorem get?_builtins (order : List Protocol) (p : Protocol) :
    ((order.filterMap Extractor.builtin?).foldl Registry.register .empty).get? p =
      if p ∈ order then Extractor.builtin? p else none := by
  induction order using List.reverseRecOn with
  | nil => rfl
  | append_singleton order q ih =>
    rw [List.filterMap_append, List.foldl_append, List.filterMap_cons, List.filterMap_nil]
    cases hq : Extractor.builtin? q with
    | none =>
      show ((order.filterMap Extractor.builtin?).foldl Registry.register .empty).get? p = _
      rw [ih]
      by_cases hp : p = q
      · simp [hp, hq]
      · simp [hp]
    | some x =>
      show (Registry.register _ x).get? p = _
      rw [Registry.get?_register, ih, protocol_of_builtin? hq]
      by_cases hp : p = q
      · simp [hp, hq]
      · simp [hp]

/-- An added extractor stands in the place of the one that comes with the dialect,
and the last of several stays. -/
theorem get?_registry_of_order {b : Builder} {order : List Protocol}
    (h : ∀ p, p ∈ order ↔ b.enabled p = true) (p : Protocol) :
    (b.custom.foldl Registry.register
        ((order.filterMap Extractor.builtin?).foldl Registry.register .empty)).get? p =
      (b.custom.filter fun x => x.protocol = p).getLast?.or
        (if b.enabled p then Extractor.builtin? p else none) := by
  rw [Registry.get?_foldl_register, get?_builtins]
  simp only [h]

theorem get?_registry (b : Builder) (p : Protocol) :
    b.registry.get? p =
      (b.custom.filter fun x => x.protocol = p).getLast?.or
        (if b.enabled p then Extractor.builtin? p else none) :=
  get?_registry_of_order (fun _ => mem_enabledProtocols) p

theorem get?_registry_steps (ss : List Step) (p : Protocol) :
    (start.steps ss).registry.get? p = extractor? ss p := by
  rw [get?_registry, custom_steps, enabled_steps, extractor?]

/-- The registry does not depend on the order in which the dialects are gone
through. -/
theorem registry_of_order {b : Builder} {order : List Protocol}
    (h : ∀ p, p ∈ order ↔ b.enabled p = true) :
    b.custom.foldl Registry.register
        ((order.filterMap Extractor.builtin?).foldl Registry.register .empty) = b.registry :=
  Registry.ext_get? fun p => (get?_registry_of_order h p).trans (get?_registry b p).symm

end Builder
end VpnImport
