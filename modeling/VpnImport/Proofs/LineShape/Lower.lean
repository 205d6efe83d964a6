import VpnImport.Proofs.LineShape
import VpnImport.Proofs.Text.Letters

/-!
# The shapes of a line in lower case

The detectors look at a line in lower case, the extractors at the line itself without
regard to the case of letters.  For a word in which there is no `k` both see the same:
`hasArgument_lower`.
-/

namespace VpnImport
namespace LineShape

/-- Whether a line states something with a word: the word, ASCII case ignored, and behind
it, after spaces or tabs, something that is not white space. -/
def states (word line : Text) : Bool :=
  match Text.after? Text.sameLetter word (Text.skipPads line) with
  | none => false
  | some rest =>
    rest.head?.any Text.isPad && (Text.skipPads rest).head?.any fun c => !Text.isBlank c

/-- A word has an argument if white space that indents stands behind it and something
visible behind that. -/
theorem argument_iff {same : Char → Char → Bool} {word t : Text} :
    (match Text.after? same word t with
      | none => false
      | some rest =>
        rest.head?.any Text.isPad && (Text.skipPads rest).head?.any fun c => !Text.isBlank c) =
        true ↔
      ∃ w p rest, t = w ++ p :: rest ∧ Text.after? same word w = some [] ∧ Text.isPad p = true ∧
        (Text.skipPads (p :: rest)).head?.any (fun c => !Text.isBlank c) = true := by
  constructor
  · intro h
    split at h
    · contradiction
    · rename_i rest hrest
      rw [Bool.and_eq_true] at h
      obtain ⟨p, hp, hpad⟩ := (Option.any_eq_true _ _).mp h.1
      obtain ⟨behind, rfl⟩ := List.head?_eq_some_iff.mp hp
      obtain ⟨w, hw, ht⟩ := Text.after?_eq_some_iff_exists.mp hrest
      exact ⟨w, p, behind, ht, hw, hpad, h.2⟩
  · rintro ⟨w, p, rest, ht, hw, hpad, hvisible⟩
    rw [Text.after?_eq_some_iff_exists.mpr ⟨w, hw, ht⟩]
    dsimp only
    rw [hvisible, List.head?_cons, Option.any_some, hpad]
    rfl

theorem states_iff {word line : Text} :
    states word line = true ↔
      ∃ w p rest, Text.skipPads line = w ++ p :: rest ∧ Text.sameLetters w word = true ∧
        Text.isPad p = true ∧
        (Text.skipPads (p :: rest)).head?.any (fun c => !Text.isBlank c) = true := by
  simp only [← Text.after?_sameLetter_iff]
  exact argument_iff

theorem hasArgument_iff {word line : Text} :
    hasArgument word line = true ↔
      ∃ w p rest, Text.skipPads line = w ++ p :: rest ∧ w = word ∧ Text.isPad p = true ∧
        (Text.skipPads (p :: rest)).head?.any (fun c => !Text.isBlank c) = true := by
  have hmatch : ∀ w, w = word ↔ Text.after? (· == ·) word w = some [] := by
    intro w
    rw [Text.after?_eq_some_iff, List.append_nil]
  simp only [hmatch]
  rw [hasArgument, afterWord?, Text.isPrefixOf?_eq_after?]
  exact argument_iff

theorem any_visible_head?_lower (t : Text) :
    (Text.lower t).head?.any (fun c => !Text.isBlank c) = t.head?.any fun c => !Text.isBlank c := by
  cases t with
  | nil => rfl
  | cons c t =>
    by_cases hc : Text.isBlank c = true
    · rw [show Text.lower (c :: t) = c :: Text.lower t from
        Text.lower_blank_append (w := [c]) (by simp [Text.allBlank, hc]) t]
      rfl
    · have hhead := Text.visible_head_lower (t := c :: t) (by simpa using hc)
      obtain ⟨x, s, hlower⟩ := List.exists_cons_of_ne_nil
        (show Text.lower (c :: t) ≠ [] from fun h => absurd (Text.lower_eq_nil_iff.mp h) (by simp))
      rw [hlower] at hhead ⊢
      simp [hc, hhead x rfl]

theorem hasArgument_lower {word : Text} (hword : Text.IsLowWord word) (hk : 'k' ∉ word)
    (line : Text) : hasArgument word line.lower = states word line := by
  have hskip : ∀ p rest, Text.isPad p = true →
      Text.skipPads (p :: Text.lower rest) = Text.lower (Text.skipPads (p :: rest)) := by
    intro p rest hpad
    rw [← Text.skipPads_lower]
    congr 1
    exact (Text.lower_append (Text.divides_of_isBlank (Text.isBlank_of_isPad hpad)) [] rest).symm
  rw [Bool.eq_iff_iff, hasArgument_iff, states_iff, Text.skipPads_lower]
  constructor
  · rintro ⟨_, p, rest, hline, rfl, hpad, hvisible⟩
    -- The white space behind the word divides the line, and only its letters make the word.
    have hblank := Text.isBlank_of_isPad hpad
    obtain ⟨w, b, hskipped, hw, rfl⟩ := Text.exists_of_lower_eq_append
      (Text.divides_of_isBlank hblank) (Text.fixed_of_isBlank hblank) hline
    rw [hskip p b hpad, any_visible_head?_lower] at hvisible
    exact ⟨w, p, b, hskipped, (hword.lower_eq_iff_of_not_mem hk).mp hw, hpad, hvisible⟩
  · rintro ⟨w, p, rest, hline, hw, hpad, hvisible⟩
    refine ⟨word, p, Text.lower rest, ?_, rfl, hpad, ?_⟩
    · rw [hline, Text.lower_append (Text.divides_of_isBlank (Text.isBlank_of_isPad hpad)),
        hword.lower_eq_of_sameLetters hw]
    · rw [hskip p rest hpad, any_visible_head?_lower]
      exact hvisible

end LineShape
end VpnImport
