import VpnImport.OpenVPN.Settings

/-!
# Inline blocks

The reading of a file carries the open block from line to line.  The lines of the
blocks can be taken out beforehand instead: what a file sets is what the lines
that are left set, one after the other.
-/

namespace VpnImport
namespace OpenVPN

/-- The lines behind the one that closes the block, none if the block stays
open. -/
def InlineTag.behind (tag : InlineTag) (ls : List Text) : List Text :=
  (ls.dropWhile fun l => !tag.closes (Text.trim l)).tail

theorem InlineTag.length_behind_le (tag : InlineTag) (ls : List Text) :
    (tag.behind ls).length ≤ ls.length := by
  have hdrop : (ls.dropWhile fun l => !tag.closes (Text.trim l)).length ≤ ls.length :=
    (List.dropWhile_sublist _).length_le
  rw [behind, List.length_tail]
  omega

/-- The lines that stand outside the inline blocks, the opening lines among
them. -/
def outside : List Text → List Text
  | [] => []
  | l :: ls =>
    match InlineTag.opened? (Text.trim l) with
    | some tag => l :: outside (tag.behind ls)
    | none => l :: outside ls
termination_by ls => ls.length
decreasing_by
  · have := tag.length_behind_le ls
    simp only [List.length_cons]
    omega
  · simp only [List.length_cons]
    omega

/-! ## Kinds of lines -/

theorem InlineTag.exists_cons_of_opened? {l : Text} {tag : InlineTag} (h : opened? l = some tag) :
    ∃ rest, l = '<' :: rest := by
  unfold opened? at h
  split at h
  · exact ⟨_, rfl⟩
  · contradiction

/-- An opening line starts with a bracket, a comment does not. -/
theorem content?_eq_none_of_opened? {l : Text} {tag : InlineTag}
    (h : InlineTag.opened? (Text.trim l) = some tag) : Comment.content? l = none := by
  obtain ⟨rest, htrim⟩ := InlineTag.exists_cons_of_opened? h
  rw [Comment.content?, htrim]
  rfl

theorem Line.ofText_eq_opening_iff {l : Text} {tag : InlineTag} :
    ofText l = .opening tag ↔ InlineTag.opened? (Text.trim l) = some tag := by
  constructor
  · intro h
    unfold ofText at h
    split at h
    · contradiction
    · split at h
      · rename_i found hfound
        rw [hfound, Line.opening.inj h]
      · split at h <;> contradiction
  · intro h
    rw [ofText, content?_eq_none_of_opened? h, h]

/-! ## Reading without blocks -/

/-- Applies a line that stands outside the blocks. -/
def Settings.applyLine (s : Settings) (line : Line) : Settings :=
  (Reading.readLine ⟨s, none⟩ line).settings

namespace Reading

theorem run_cons (r : Reading) (l : Text) (ls : List Text) :
    r.run (l :: ls) = (r.step l).run ls := rfl

/-- A line sets something only outside the blocks. -/
theorem settings_step (r : Reading) (l : Text) :
    (r.step l).settings =
      if r.block = none then r.settings.applyLine (.ofText l) else r.settings := by
  obtain ⟨s, block⟩ := r
  cases block with
  | none => rfl
  | some tag =>
    rw [if_neg (by simp), step]
    dsimp only
    split <;> rfl

/-- An open block hides its lines, and reading goes on behind it. -/
theorem settings_run_block (s : Settings) (tag : InlineTag) (ls : List Text) :
    (run ⟨s, some tag⟩ ls).settings = (run ⟨s, none⟩ (tag.behind ls)).settings := by
  induction ls with
  | nil => rfl
  | cons l ls ih =>
    rw [run_cons, step, InlineTag.behind, List.dropWhile_cons]
    by_cases hclose : tag.closes (Text.trim l) = true
    · simp [hclose]
    · simp [hclose, ih, InlineTag.behind]

theorem step_of_opened? (s : Settings) {tag : InlineTag} {l : Text}
    (h : InlineTag.opened? (Text.trim l) = some tag) :
    step ⟨s, none⟩ l = ⟨s.applyLine (.ofText l), some tag⟩ := by
  rw [Line.ofText_eq_opening_iff.mpr h, step, Line.ofText_eq_opening_iff.mpr h]
  rfl

theorem step_of_not_opened? (s : Settings) {l : Text}
    (h : InlineTag.opened? (Text.trim l) = none) :
    step ⟨s, none⟩ l = ⟨s.applyLine (.ofText l), none⟩ := by
  show readLine ⟨s, none⟩ (.ofText l) = ⟨(readLine ⟨s, none⟩ (.ofText l)).settings, none⟩
  cases hline : Line.ofText l with
  | blank => rfl
  | comment content => rfl
  | opening tag =>
    rw [Line.ofText_eq_opening_iff, h] at hline
    contradiction
  | directive name args =>
    rw [readLine]
    split <;> rfl

theorem settings_run (s : Settings) (ls : List Text) :
    (run ⟨s, none⟩ ls).settings =
      (outside ls).foldl (fun s l => s.applyLine (.ofText l)) s := by
  induction ls using outside.induct generalizing s with
  | case1 =>
    rw [outside]
    rfl
  | case2 l ls tag hopen ih =>
    rw [run_cons, step_of_opened? s hopen, settings_run_block, ih, outside, hopen]
    rfl
  | case3 l ls hopen ih =>
    rw [run_cons, step_of_not_opened? s hopen, ih, outside, hopen]
    rfl

end Reading

theorem Settings.ofText_eq (t : Text) :
    ofText t = (outside (Text.lines t)).foldl (fun s l => s.applyLine (.ofText l)) .empty :=
  Reading.settings_run .empty (Text.lines t)

end OpenVPN
end VpnImport
