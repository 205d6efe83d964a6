import Mathlib.Data.List.Forall2
import VpnImport.Proofs.Keyword
import VpnImport.Proofs.Section
import VpnImport.Proofs.Text.Lower

/-!
# Texts that agree up to equals signs

Section headers, commands and keywords are all recognised by what stands before
the first equals sign of a line.  Two texts whose lines agree so far therefore
pass the same gates and have the same keywords, in lower case as well.
-/

namespace VpnImport

/-- Two lines that agree up to an equals sign on both, or altogether. -/
inductive UpToEquals : Text → Text → Prop where
  | refl (line : Text) : UpToEquals line line
  | equals (a t t' : Text) : UpToEquals (a ++ '=' :: t) (a ++ '=' :: t')

namespace UpToEquals

/-- What does not see the text behind an equals sign is the same for both
lines. -/
theorem congr {α : Type} {f : Text → α}
    (hf : ∀ a t t', f (a ++ '=' :: t) = f (a ++ '=' :: t')) {l l' : Text}
    (h : UpToEquals l l') : f l = f l' := by
  cases h with
  | refl => rfl
  | equals a t t' => exact hf a t t'

theorem lower {l l' : Text} (h : UpToEquals l l') : UpToEquals l.lower l'.lower := by
  cases h with
  | refl => exact .refl _
  | equals a t t' =>
    rw [Text.lower_append Text.divides_equals, Text.lower_append Text.divides_equals]
    exact .equals _ _ _

end UpToEquals

/-! ## Lists of lines -/

section Related
variable {α β : Type} {R : α → α → Prop} {l l' : List α} (h : List.Forall₂ R l l')
include h

/-- What related elements have in common, related lists have in common. -/
theorem map_eq_of_forall₂ {f : α → β} (hf : ∀ a b, R a b → f a = f b) :
    l.map f = l'.map f := by
  rw [← List.forall₂_eq_eq_eq, List.forall₂_map_left_iff, List.forall₂_map_right_iff]
  exact h.imp hf

theorem any_eq_of_forall₂ {p : α → Bool} (hp : ∀ a b, R a b → p a = p b) :
    l.any p = l'.any p := by
  have hmap := congrArg (List.any · id) (map_eq_of_forall₂ h hp)
  simpa [List.any_map] using hmap

theorem filterMap_eq_of_forall₂ {f : α → Option β} (hf : ∀ a b, R a b → f a = f b) :
    l.filterMap f = l'.filterMap f := by
  have hmap := congrArg (List.filterMap id) (map_eq_of_forall₂ h hf)
  simpa [List.filterMap_map] using hmap

theorem findSome?_eq_of_forall₂ {f : α → Option β} (hf : ∀ a b, R a b → f a = f b) :
    l.findSome? f = l'.findSome? f := by
  have hmap := congrArg (List.findSome? id) (map_eq_of_forall₂ h hf)
  simpa [List.findSome?_map] using hmap

theorem foldl_eq_of_forall₂ {f : β → α → β} (hf : ∀ s a b, R a b → f s a = f s b) (s : β) :
    l.foldl f s = l'.foldl f s := by
  induction h generalizing s with
  | nil => rfl
  | cons hab _ ih => rw [List.foldl_cons, List.foldl_cons, hf s _ _ hab, ih]

theorem takeWhile_of_forall₂ {p : α → Bool} (hp : ∀ a b, R a b → p a = p b) :
    List.Forall₂ R (l.takeWhile p) (l'.takeWhile p) := by
  induction h with
  | nil => exact .nil
  | cons hab _ ih =>
    rw [List.takeWhile_cons, List.takeWhile_cons, hp _ _ hab]
    split
    · exact .cons hab ih
    · exact .nil

theorem findSome?_of_forall₂ {P : β → β → Prop} {f : α → Option β}
    (hf : ∀ a a', R a a' → Option.Rel P (f a) (f a')) :
    Option.Rel P (l.findSome? f) (l'.findSome? f) := by
  induction h with
  | nil => exact .none
  | @cons a a' _ _ ha _ ih =>
    rw [List.findSome?_cons, List.findSome?_cons]
    have hrel := hf a a' ha
    revert hrel
    generalize f a = x
    generalize f a' = x'
    intro hrel
    cases hrel with
    | none => exact ih
    | some hv => exact .some hv

end Related

namespace Section
variable {R : Text → Text → Prop} (hR : ∀ l l', R l l' → UpToEquals l l') {header : Text}
  (hheader : '=' ∉ header)
include hR hheader

theorem isHeader_eq_of_related {l l' : Text} (h : R l l') :
    isHeader header l = isHeader header l' :=
  (hR l l' h).congr fun a t t' => by
    rw [isHeader_equals hheader, isHeader_equals hheader]

/-- Related lines form related sections. -/
theorem bodyLines?_of_forall₂ {ls ls' b b' : List Text} (h : List.Forall₂ R ls ls')
    (hb : bodyLines? header ls = some b) (hb' : bodyLines? header ls' = some b') :
    List.Forall₂ R b b' := by
  induction h with
  | nil => contradiction
  | @cons l l' ls ls' hl hls ih =>
    rw [bodyLines?_cons] at hb hb'
    rw [← isHeader_eq_of_related hR hheader hl] at hb'
    by_cases hhead : isHeader header l = true
    · rw [if_pos hhead] at hb hb'
      cases hb
      cases hb'
      refine takeWhile_of_forall₂ hls fun a a' ha => ?_
      rw [(hR a a' ha).congr opens_equals]
    · rw [if_neg hhead] at hb hb'
      exact ih hb hb'

theorem lines_body?_of_forall₂ {t t' body body' : Text}
    (h : List.Forall₂ R (Text.lines t) (Text.lines t')) (hb : body? t header = some body)
    (hb' : body? t' header = some body') :
    List.Forall₂ R (Text.lines body) (Text.lines body') := by
  have hlines := lines_body? t header
  have hlines' := lines_body? t' header
  rw [hb] at hlines
  rw [hb'] at hlines'
  exact bodyLines?_of_forall₂ hR hheader h hlines.symm hlines'.symm

end Section

/-! ## Texts -/

/-- Two texts whose lines agree up to equals signs. -/
def AlikeUpToEquals (t t' : Text) : Prop :=
  List.Forall₂ UpToEquals (Text.lines t) (Text.lines t')

namespace AlikeUpToEquals
variable {t t' : Text} (h : AlikeUpToEquals t t')
include h

theorem lower : AlikeUpToEquals t.lower t'.lower := by
  rw [AlikeUpToEquals, Text.lines_lower, Text.lines_lower, List.forall₂_map_left_iff,
    List.forall₂_map_right_iff]
  exact h.imp fun _ _ => UpToEquals.lower

theorem any_lines {p : Text → Bool} (hp : ∀ a x y, p (a ++ '=' :: x) = p (a ++ '=' :: y)) :
    (Text.lines t).any p = (Text.lines t').any p :=
  any_eq_of_forall₂ h fun _ _ => UpToEquals.congr hp

/-- Both texts have the same keywords of a table. -/
theorem found_prepare {s : KeywordSet} (hs : ∀ k ∈ s.keywords, '=' ∉ k.toList) :
    s.found (s.prepare t) = s.found (s.prepare t') := by
  have hprepare : AlikeUpToEquals (s.prepare t) (s.prepare t') := by
    unfold KeywordSet.prepare
    split
    · exact h
    · exact h.lower
  refine List.filter_congr fun k hk => ?_
  exact hprepare.any_lines (KeywordSet.lineHas_equals (hs k hk))

end AlikeUpToEquals
end VpnImport
