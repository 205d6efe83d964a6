import VpnImport.Log.Plain
import Mathlib.Data.List.Induction

/-!
# Plain text

Writing goes character by character: a character is written or left out, so plain
text is a part of the text it is made from.  A line feed is left out only where a
control string is open, and only an escape character opens one.
-/

namespace VpnImport
namespace Log

theorem Writing.written_step (w : Writing) (c : Char) :
    (w.step c).written = c :: w.written ∨ (w.step c).written = w.written := by
  unfold step
  generalize (if w.shown then Control.outside else w.control) = seen
  dsimp only
  split
  · exact .inl rfl
  · exact .inr rfl

theorem plain_append_singleton (t : Text) (c : Char) :
    plain (t ++ [c]) = plain t ++ [c] ∨ plain (t ++ [c]) = plain t := by
  unfold plain
  rw [List.foldl_append, List.foldl_cons, List.foldl_nil]
  rcases Writing.written_step (t.foldl Writing.step .start) c with h | h
  · rw [h, List.reverse_cons]
    exact .inl rfl
  · rw [h]
    exact .inr rfl

theorem plain_sublist (t : Text) : List.Sublist (plain t) t := by
  induction t using List.reverseRecOn with
  | nil => exact .slnil
  | append_singleton t c ih =>
    rcases plain_append_singleton t c with h | h
    · rw [h]
      exact ih.append (.refl [c])
    · rw [h]
      exact ih.trans (List.sublist_append_left t [c])

/-! ## Line feeds -/

/-- Whether a string is open, in which white space is content. -/
def Writing.isOpen (w : Writing) : Bool :=
  !w.shown && !w.control.showsSpace

def leavesOpen (t : Text) : Bool :=
  (t.foldl Writing.step .start).isOpen

theorem Writing.written_step_feed (w : Writing) :
    (w.step '\n').written = if w.isOpen then w.written else '\n' :: w.written := by
  have hshows : ∀ s : Control, s.shows '\n' = s.showsSpace := fun s => if_pos rfl
  unfold step isOpen
  dsimp only
  rw [hshows]
  cases w.shown with
  | true => rfl
  | false => cases hspace : w.control.showsSpace <;> simp [hspace]

theorem plain_append_feed (t : Text) :
    plain (t ++ ['\n']) = plain t ++ if leavesOpen t then [] else ['\n'] := by
  unfold plain leavesOpen
  rw [List.foldl_append, List.foldl_cons, List.foldl_nil, Writing.written_step_feed]
  split
  · exact (List.append_nil _).symm
  · exact List.reverse_cons

theorem Writing.control_step {w : Writing} (hw : w.control = .outside) {c : Char}
    (hc : c ≠ '\x1b') : (w.step c).control = .outside := by
  unfold step
  rw [hw, ite_self]
  dsimp only
  split
  · exact ite_self _
  · -- No other character leads out of the plain text.
    unfold Control.next
    rw [beq_false_of_ne hc, if_neg Bool.false_ne_true]
    split <;> rfl

theorem Writing.control_foldl_step {t : Text} (h : '\x1b' ∉ t) {w : Writing}
    (hw : w.control = .outside) : (t.foldl step w).control = .outside := by
  induction t generalizing w with
  | nil => exact hw
  | cons c t ih =>
    rw [List.mem_cons, not_or] at h
    exact ih h.2 (control_step hw (Ne.symm h.1))

theorem leavesOpen_of_not_mem {t : Text} (h : '\x1b' ∉ t) : leavesOpen t = false := by
  rw [leavesOpen, Writing.isOpen, Writing.control_foldl_step h rfl]
  exact Bool.and_false _

end Log
end VpnImport
