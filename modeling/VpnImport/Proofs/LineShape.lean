import VpnImport.Proofs.Text.Line

/-!
# What the shapes of a line do not see

A word without carriage returns is found on a line whether or not the line ends
in one, and a word without equals signs is found without a look behind the first
equals sign of the line.
-/

namespace VpnImport
namespace LineShape

theorem head?_any_concat {p : Char → Bool} {c : Char} (h : p c = false) (t : Text) :
    (t ++ [c]).head?.any p = t.head?.any p := by
  cases t with
  | nil => exact h
  | cons x t => rfl

theorem head?_all_concat {p : Char → Bool} {c : Char} (h : p c = true) (t : Text) :
    (t ++ [c]).head?.all p = t.head?.all p := by
  cases t with
  | nil => exact h
  | cons x t => rfl

theorem afterWord?_append_cons {word : Text} {c : Char} (hw : c ∉ word)
    (hc : Text.isPad c = false) (a t : Text) :
    afterWord? word (a ++ c :: t) = (afterWord? word a).map (· ++ c :: t) := by
  rw [afterWord?, afterWord?, Text.skipPads_append_cons hc, Text.isPrefixOf?_eq_after?,
    Text.isPrefixOf?_eq_after?, Text.after?_append_cons_of_not_mem hw]

section Return
variable {word : Text} (hw : '\r' ∉ word)
include hw

theorem hasArgument_return (row : Text) :
    hasArgument word (row ++ ['\r']) = hasArgument word row := by
  rw [hasArgument, hasArgument, afterWord?_append_cons hw (by decide)]
  cases afterWord? word row with
  | none => rfl
  | some rest =>
    show ((rest ++ ['\r']).head?.any _ && (Text.skipPads (rest ++ ['\r'])).head?.any _) = _
    rw [Text.skipPads_append_cons (by decide), head?_any_concat (by decide),
      head?_any_concat (by decide)]

theorem isCommand_return (row : Text) : isCommand word (row ++ ['\r']) = isCommand word row := by
  rw [isCommand, isCommand, afterWord?_append_cons hw (by decide)]
  cases afterWord? word row with
  | none => rfl
  | some rest => exact head?_all_concat (by decide) rest

theorem startsWithWord_return (t : Text) :
    startsWithWord word (t ++ ['\r']) = startsWithWord word t := by
  rw [startsWithWord, startsWithWord, Text.isPrefixOf?_eq_after?, Text.isPrefixOf?_eq_after?,
    Text.after?_append_cons_of_not_mem hw]
  cases Text.after? (· == ·) word t with
  | none => rfl
  | some rest =>
    cases rest with
    | nil => exact (by decide +kernel : Text.wordEnds ['\r'] = true)
    | cons c rest => rfl

end Return

section Equals
variable {word : Text} (hw : '=' ∉ word)
include hw

theorem hasArgument_equals (a t t' : Text) :
    hasArgument word (a ++ '=' :: t) = hasArgument word (a ++ '=' :: t') := by
  rw [hasArgument, hasArgument, afterWord?_append_cons hw (by decide),
    afterWord?_append_cons hw (by decide)]
  cases afterWord? word a with
  | none => rfl
  | some rest =>
    show ((rest ++ '=' :: t).head?.any _ && (Text.skipPads (rest ++ '=' :: t)).head?.any _) =
      ((rest ++ '=' :: t').head?.any _ && (Text.skipPads (rest ++ '=' :: t')).head?.any _)
    rw [Text.skipPads_append_cons (by decide), Text.skipPads_append_cons (by decide),
      Text.head?_append_cons rest '=' t t', Text.head?_append_cons (Text.skipPads rest) '=' t t']

theorem isCommand_equals (a t t' : Text) :
    isCommand word (a ++ '=' :: t) = isCommand word (a ++ '=' :: t') := by
  rw [isCommand, isCommand, afterWord?_append_cons hw (by decide),
    afterWord?_append_cons hw (by decide)]
  cases afterWord? word a with
  | none => rfl
  | some rest =>
    show (rest ++ '=' :: t).head?.all _ = (rest ++ '=' :: t').head?.all _
    rw [Text.head?_append_cons rest '=' t t']

end Equals

/-- A line on which a word has an argument is not blank. -/
theorem not_allBlank_of_hasArgument {word line : Text} (h : hasArgument word line = true) :
    Text.allBlank line = false := by
  rw [← Bool.not_eq_true]
  intro hblank
  unfold hasArgument at h
  split at h
  · contradiction
  · rename_i rest hrest
    rw [Bool.and_eq_true] at h
    obtain ⟨c, hc, hnot⟩ := (Option.any_eq_true _ _).mp h.2
    rw [afterWord?, Text.isPrefixOf?_eq_after?, Text.after?_eq_some_iff] at hrest
    have hmem : c ∈ Text.skipPads line := by
      rw [hrest]
      exact List.mem_append_right _ (Text.skipPads_subset rest (List.mem_of_head? hc))
    have hline : c ∈ line := Text.skipPads_subset line hmem
    rw [Text.allBlank_iff.mp hblank c hline] at hnot
    contradiction

end LineShape
end VpnImport
