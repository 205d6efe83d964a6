import VpnImport.Fault
import VpnImport.Proofs.Except
import VpnImport.Proofs.Profile
import VpnImport.Proofs.Text.Foreign
import VpnImport.Proofs.Text.Number

/-!
# The texts of profiles and errors

A profile and an error are made of texts, and so are the messages they are put
into.  The lemmas say which characters these are free of, given that their parts
are.
-/

namespace VpnImport

/-- The texts that an error quotes. -/
def ExtractError.texts : ExtractError → List String
  | missingField field part => [field, part]
  | placeholderKey field value => [field, value]
  | invalidEndpoint endpoint reason => [endpoint, reason]
  | invalidValue field value => [field, value]

/-- The texts of a profile, the keys of its details among them. -/
def Profile.texts (p : Profile) : List String :=
  [p.name, p.server, p.protocol, p.username, p.password, p.encryption] ++
    p.details.entries.flatMap fun e => [e.1, e.2]

/-- The character is in no text of the error. -/
def ExtractError.Without (d : Char) (e : ExtractError) : Prop :=
  ∀ s ∈ e.texts, d ∉ s.toList

/-- The character is in no text of the profile. -/
def Profile.Without (d : Char) (p : Profile) : Prop :=
  ∀ s ∈ p.texts, d ∉ s.toList

theorem Profile.without_iff {d : Char} {p : Profile} :
    p.Without d ↔
      (d ∉ p.name.toList ∧ d ∉ p.server.toList ∧ d ∉ p.protocol.toList ∧
        d ∉ p.username.toList ∧ d ∉ p.password.toList ∧ d ∉ p.encryption.toList) ∧
      ∀ e ∈ p.details.entries, d ∉ e.1.toList ∧ d ∉ e.2.toList := by
  simp only [Without, texts, List.forall_mem_append, List.forall_mem_cons, List.forall_mem_flatMap,
    List.not_mem_nil, false_implies, implies_true, and_true]

theorem Profile.without_recordAll {d : Char} {p : Profile} {fields : List (String × String)}
    (hp : p.Without d) (hfields : ∀ f ∈ fields, d ∉ f.1.toList ∧ d ∉ f.2.toList) :
    (p.recordAll fields).Without d := by
  obtain ⟨htexts, hentries⟩ := without_iff.mp hp
  refine without_iff.mpr ⟨by simpa using htexts, fun e he => ?_⟩
  rcases mem_entries_recordAll he with hfield | hentry
  · exact hfields e hfield
  · exact hentries e hentry

theorem forall_mem_orElse {α : Type} {p : α → Prop} {a b : Option α} (ha : ∀ x ∈ a, p x)
    (hb : ∀ x ∈ b, p x) : ∀ x ∈ (a <|> b), p x := by
  cases a with
  | none => exact hb
  | some y => exact ha

theorem getD_of_forall_mem {α : Type} {p : α → Prop} {o : Option α} {y : α}
    (ho : ∀ x ∈ o, p x) (hy : p y) : p (o.getD y) := by
  cases o with
  | none => exact hy
  | some x => exact ho x rfl

theorem forall_mem_pair {p : String → Prop} {a b : String} :
    (∀ s ∈ [a, b], p s) ↔ p a ∧ p b := by
  rw [List.forall_mem_cons, List.forall_mem_singleton]

theorem not_mem_toList_ofList {d : Char} {w : Text} : d ∉ (String.ofList w).toList ↔ d ∉ w := by
  rw [String.toList_ofList]

theorem not_mem_toList_append {d : Char} {a b : String} :
    d ∉ (a ++ b).toList ↔ d ∉ a.toList ∧ d ∉ b.toList := by
  rw [String.toList_append, List.mem_append, not_or]

theorem not_mem_toList_intercalate {d : Char} {sep : String} {l : List String}
    (hsep : d ∉ sep.toList) (hl : ∀ s ∈ l, d ∉ s.toList) : d ∉ (sep.intercalate l).toList := by
  induction l with
  | nil => exact List.not_mem_nil
  | cons s l ih =>
    obtain ⟨hs, hl⟩ := List.forall_mem_cons.mp hl
    cases l with
    | nil => simpa using hs
    | cons s' l =>
      rw [String.intercalate_cons_cons, not_mem_toList_append, not_mem_toList_append]
      exact ⟨⟨hs, hsep⟩, ih hl⟩

namespace Text.Foreign
variable {t : Text} {d : Char} (h : Text.Foreign t d)
include h

theorem not_mem_toString (n : Nat) : d ∉ (toString n).toList := by
  refine h.not_mem_of_isPrintable (List.all_eq_true.mpr fun c hc => ?_)
  have hdigit : c.isDigit = true := Text.isDigit_of_mem_toDigits c (by simpa using hc)
  have hlow := (Text.toNat_of_isDigit hdigit).1
  rw [decide_eq_true_eq]
  omega

theorem not_mem_message {e : ExtractError} (he : e.Without d) : d ∉ e.message.toList := by
  cases e with
  | missingField field part =>
    obtain ⟨hfield, hpart⟩ : d ∉ field.toList ∧ d ∉ part.toList := forall_mem_pair.mp he
    unfold ExtractError.message
    simp only [not_mem_toList_append, and_assoc]
    exact ⟨h.not_mem_of_isPrintable rfl, hfield, h.not_mem_of_isPrintable rfl, hpart⟩
  | placeholderKey field value =>
    obtain ⟨hfield, hvalue⟩ : d ∉ field.toList ∧ d ∉ value.toList := forall_mem_pair.mp he
    unfold ExtractError.message
    simp only [not_mem_toList_append, and_assoc]
    exact ⟨hfield, h.not_mem_of_isPrintable rfl, hvalue, h.not_mem_of_isPrintable rfl⟩
  | invalidEndpoint endpoint reason =>
    obtain ⟨hendpoint, hreason⟩ : d ∉ endpoint.toList ∧ d ∉ reason.toList := forall_mem_pair.mp he
    unfold ExtractError.message
    simp only [not_mem_toList_append, and_assoc]
    exact ⟨h.not_mem_of_isPrintable rfl, hendpoint, h.not_mem_of_isPrintable rfl, hreason⟩
  | invalidValue field value =>
    obtain ⟨hfield, hvalue⟩ : d ∉ field.toList ∧ d ∉ value.toList := forall_mem_pair.mp he
    unfold ExtractError.message
    simp only [not_mem_toList_append, and_assoc]
    exact ⟨h.not_mem_of_isPrintable rfl, hvalue, h.not_mem_of_isPrintable rfl, hfield⟩

end Text.Foreign
end VpnImport
