import VpnImport.Proofs.OpenVPN.Extraction
import VpnImport.Proofs.Text.Lower

/-!
# The fields of an OpenVPN profile are filled

Arguments are words and so never empty, whether they are taken as they are, in
lower case or up to a colon.  A list is recorded only if it has an element.
-/

namespace VpnImport
namespace OpenVPN

theorem lastArgument_ne_empty (names : List String) (t : Text) :
    (lastArgument names t).map String.ofList ≠ some "" := by
  intro h
  obtain ⟨arg, harg, hempty⟩ := Option.map_eq_some_iff.mp h
  exact ne_nil_of_lastArgument harg (String.ofList_eq_empty_iff.mp hempty)

theorem getD_lastArgument_ne_nil (names : List String) (t : Text) {default : Text}
    (hdefault : default ≠ []) : (lastArgument names t).getD default ≠ [] := by
  cases h : lastArgument names t with
  | none => exact hdefault
  | some arg => exact ne_nil_of_lastArgument h

theorem selectedTransport_ne_nil {t : Text} {first : List Text}
    (hfirst : first ∈ remoteArguments t) : selectedTransport t first ≠ [] := by
  have hword : ∀ w, first[2]?.or (lastArgument ["proto"] t) = some w → w ≠ [] := by
    intro w hw
    rcases Option.or_eq_some_iff.mp hw with hthird | ⟨-, hproto⟩
    · exact ne_nil_of_mem_uses (mem_uses_of_remoteArguments hfirst) (List.mem_of_getElem? hthird)
    · exact ne_nil_of_lastArgument hproto
  rw [selectedTransport]
  cases h : first[2]?.or (lastArgument ["proto"] t) with
  | none => exact List.cons_ne_nil _ _
  | some w => exact fun hnil => hword w h (Text.lower_eq_nil_iff.mp hnil)

theorem selectedCipher_ne_nil (t : Text) : selectedCipher t ≠ [] := by
  rw [selectedCipher]
  cases hcipher : lastArgument ["cipher"] t with
  | some cipher => exact ne_nil_of_lastArgument hcipher
  | none =>
    rw [Option.none_or]
    cases hfilter : Option.filter (fun cipher : Text => !cipher.isEmpty)
        ((lastArgument ["data-ciphers", "ncp-ciphers"] t).map fun list =>
          list.takeWhile (· != ':')) with
    | none => exact List.cons_ne_nil _ _
    | some cipher => simpa using (Option.filter_eq_some_iff.mp hfilter).2

theorem intercalate_ne_empty {s : String} (h : s ≠ "") (sep : String) (l : List String) :
    sep.intercalate (s :: l) ≠ "" := by
  cases l with
  | nil => simpa using h
  | cons a l => simp [String.intercalate_cons_cons, h]

theorem listed_ne_empty {t : Text} {args : List Text} (h : args ∈ remoteArguments t) :
    listed args ≠ "" := by
  cases args with
  | nil => simpa using (List.mem_filter.mp h).2
  | cons host rest =>
    have hhost : host ≠ [] :=
      ne_nil_of_mem_uses (mem_uses_of_remoteArguments h) List.mem_cons_self
    exact intercalate_ne_empty (mt String.ofList_eq_empty_iff.mp hhost) ":" _

/-- A list is recorded only when it holds something. -/
theorem joined_ne_empty {α : Type} [DecidableEq α] {f : α → String} {l : List α}
    (h : ∀ a ∈ l, f a ≠ "") :
    (if l = [] then none else some (",".intercalate (l.map f))) ≠ some "" := by
  cases l with
  | nil => simp
  | cons a l =>
    rw [if_neg (List.cons_ne_nil a l), ne_eq, Option.some_inj]
    exact intercalate_ne_empty (h a List.mem_cons_self) "," _

section Stated
variable {t : Text} {first : List Text} {others : List (List Text)}
  (h : remoteArguments t = first :: others)
include h

theorem statedDetails_ne_empty : ∀ e ∈ statedDetails t first others, e.2 ≠ some "" := by
  have hofList : ∀ {w : Text}, w ≠ [] → some (String.ofList w) ≠ some "" := by
    intro w hw
    simpa using hw
  have hflag : ∀ {c : Prop} [Decidable c], (if c then none else some "true") ≠ some "" := by
    intro c _
    split <;> simp
  have hmode : ∀ mode : Option TlsMode, some ((mode.map TlsMode.name).getD "none") ≠ some "" := by
    intro mode
    rcases mode with _ | _ | _ <;> decide
  simp only [statedDetails, List.forall_mem_cons]
  refine ⟨hofList (selectedTransport_ne_nil (h ▸ List.mem_cons_self)),
    hofList (getD_lastArgument_ne_nil _ _ (by decide)),
    hofList (getD_lastArgument_ne_nil _ _ (by decide)), hmode _, by simp,
    joined_ne_empty fun args hargs => listed_ne_empty (h ▸ List.mem_cons_of_mem first hargs),
    joined_ne_empty fun tag _ => by cases tag <;> decide,
    lastArgument_ne_empty _ _, lastArgument_ne_empty _ _, lastArgument_ne_empty _ _,
    lastArgument_ne_empty _ _, hflag, hflag, hflag, by simp⟩

end Stated

end OpenVPN
end VpnImport
