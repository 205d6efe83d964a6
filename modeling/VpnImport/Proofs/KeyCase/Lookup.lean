import VpnImport.Proofs.Assignment
import VpnImport.Proofs.Comment
import VpnImport.Proofs.Text.Case

/-!
# Lookups in another case

Whether a line is a comment, and whether it assigns to a key, does not depend on
the case of the letters before its first equals sign, and what it assigns stands
behind that sign: `valueOf?_eq_of_sameLetters`.
-/

namespace VpnImport
open Text (BlindToCase IgnoresCase)

namespace Comment

theorem blindToCase_isMark : BlindToCase isMark :=
  Text.blindToCase_of_letters (by decide)

theorem ignoresCase_isSome_content? : IgnoresCase fun l => (content? l).isSome := by
  intro l
  dsimp only
  rw [isSome_content?, isSome_content?, Text.trim_map_toLower, blindToCase_isMark.any_head?]

end Comment

namespace Assignment

theorem valueOf?_of_not_mem {same : Char → Char → Bool} {key l : Text} (hl : '=' ∉ l) :
    valueOf? same key l = none := by
  unfold valueOf?
  split
  · rfl
  · rename_i rest hrest
    split
    · rename_i value hvalue
      have hmem : '=' ∈ Text.skipPads rest := hvalue ▸ List.mem_cons_self
      have hrow : '=' ∈ Text.skipPads l :=
        Text.subset_of_after? hrest (Text.skipPads_subset rest hmem)
      exact absurd (Text.skipPads_subset l hrow) hl
    · rfl

/-- Whether a text is the key, letters being compared without regard to case, with
nothing but spaces and tabs around it. -/
def isName (key t : Text) : Bool :=
  (Text.after? Text.sameLetter key (Text.skipPads t)).any fun rest => (Text.skipPads rest).isEmpty

theorem ignoresCase_isName (key : Text) : IgnoresCase (isName key) := by
  intro t
  rw [isName, isName, Text.skipPads_map_toLower, Text.after?_map_toLower, Option.any_map]
  congr 1
  funext rest
  simp [Text.skipPads_map_toLower]

/-- The first equals sign of a line ends what may be the key and starts the value. -/
theorem valueOf?_append_equals {key : Text} (hkey : '=' ∉ key) {t : Text} (ht : '=' ∉ t)
    (value : Text) :
    valueOf? Text.sameLetter key (t ++ '=' :: value) =
      if isName key t then some value else none := by
  have hsame : ∀ a ∈ key, Text.sameLetter a '=' = false := by
    intro a ha
    rw [← Bool.not_eq_true, Text.sameLetter, beq_iff_eq]
    intro hlow
    obtain rfl : a = '=' := (Text.toLower_eq_iff (by decide)).mp hlow
    exact hkey ha
  rw [valueOf?, Text.skipPads_append_cons (by decide), Text.after?_append_cons hsame]
  cases hrest : Text.after? Text.sameLetter key (Text.skipPads t) with
  | none => simp [isName, hrest]
  | some rest =>
    have hname : isName key t = (Text.skipPads rest).isEmpty := by
      rw [isName, hrest]
      rfl
    have hgap : '=' ∉ Text.skipPads rest := fun hmem =>
      ht (Text.skipPads_subset t (Text.subset_of_after? hrest (Text.skipPads_subset rest hmem)))
    rw [hname]
    dsimp only [Option.map_some]
    rw [Text.skipPads_append_cons (by decide)]
    generalize Text.skipPads rest = gap at hgap
    cases gap with
    | nil => rfl
    | cons c gap =>
      have hne : c ≠ '=' := fun e => hgap (e ▸ List.mem_cons_self)
      simp [hne]

theorem not_mem_map_toLower {t : Text} : '=' ∉ t.map Char.toLower ↔ '=' ∉ t := by
  have hlow : ∀ c : Char, c.toLower = '=' ↔ c = '=' := fun c => Text.toLower_eq_iff (by decide)
  simp [hlow]

/-- The case of the letters before the first equals sign of a line does not count for
what the line assigns. -/
theorem valueOf?_eq_of_sameLetters {key : Text} (hkey : '=' ∉ key) {a a' : Text}
    (h : Text.sameLetters a a' = true) (ha : '=' ∉ a) (rest : Text) :
    valueOf? Text.sameLetter key (a ++ rest) = valueOf? Text.sameLetter key (a' ++ rest) := by
  have ha' : '=' ∉ a' := by
    rw [← not_mem_map_toLower, ← beq_iff_eq.mp h, not_mem_map_toLower]
    exact ha
  by_cases hrest : '=' ∈ rest
  · obtain ⟨b, value, rfl, hb⟩ := List.eq_append_cons_of_mem hrest
    have hname : isName key (a ++ b) = isName key (a' ++ b) :=
      (ignoresCase_isName key).eq (Text.sameLetters_append h b)
    rw [← List.append_assoc, ← List.append_assoc,
      valueOf?_append_equals hkey (by simp [ha, hb]),
      valueOf?_append_equals hkey (by simp [ha', hb]), hname]
  · rw [valueOf?_of_not_mem (by simp [ha, hrest]), valueOf?_of_not_mem (by simp [ha', hrest])]

end Assignment
end VpnImport
