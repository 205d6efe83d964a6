import VpnImport.Proofs.Assignment
import VpnImport.Proofs.Section
import VpnImport.Proofs.Text.Lower
import VpnImport.Proofs.Text.Words
import VpnImport.Comment

/-!
# Control characters that a text does not have

Whatever is read from a text is read from one of its lines.  A control character
that stands on none of them is therefore in nothing that is read, however it is
cut out, trimmed, unquoted or lowered.  The line feed is such a character for every
text.
-/

namespace VpnImport
namespace Text

/-! ## What is cut out of a text -/

theorem subset_of_mem_splitOnP {t piece : Text} (h : piece ∈ t.splitOnP isBlank) : piece ⊆ t := by
  induction t generalizing piece with
  | nil =>
    rw [List.splitOnP_nil, List.mem_singleton] at h
    rw [h]
    exact List.Subset.refl _
  | cons x t ih =>
    rw [List.splitOnP_cons_eq_if_modifyHead] at h
    by_cases hx : isBlank x = true
    · rw [if_pos hx, List.mem_cons] at h
      rcases h with rfl | h
      · exact List.nil_subset _
      · exact List.Subset.trans (ih h) (List.subset_cons_self x t)
    · obtain ⟨w, pieces, hpieces⟩ := List.exists_cons_of_ne_nil (List.splitOnP_ne_nil isBlank t)
      rw [hpieces] at h ih
      rw [if_neg hx, List.modifyHead_cons, List.mem_cons] at h
      rcases h with rfl | h
      · exact List.cons_subset_cons x (ih List.mem_cons_self)
      · exact List.Subset.trans (ih (List.mem_cons_of_mem w h)) (List.subset_cons_self x t)

theorem subset_of_mem_words {t w : Text} (h : w ∈ words t) : w ⊆ t :=
  subset_of_mem_splitOnP (List.mem_filter.mp h).1

theorem firstWord_subset (t : Text) : firstWord t ⊆ t := by
  unfold firstWord
  cases h : words t with
  | nil => exact List.nil_subset t
  | cons w rest =>
    have hmem : w ∈ words t := by
      rw [h]
      exact List.mem_cons_self
    exact subset_of_mem_words hmem

end Text

namespace Assignment

theorem subset_of_valueOf? {same : Char → Char → Bool} {key l rest : Text}
    (h : valueOf? same key l = some rest) : rest ⊆ l := by
  unfold valueOf? at h
  split at h
  · contradiction
  · rename_i behind hbehind
    split at h
    · rename_i value hvalue
      obtain rfl := Option.some.inj h
      have hskip : '=' :: value ⊆ behind := hvalue ▸ Text.skipPads_subset behind
      intro c hc
      exact Text.skipPads_subset l
        (Text.subset_of_after? hbehind (hskip (List.mem_cons_of_mem '=' hc)))
    · contradiction

theorem subset_of_quoted? {quote : Char} {t q : Text} (h : quoted? quote t = some q) : q ⊆ t := by
  cases t with
  | nil => contradiction
  | cons c inner =>
    rw [quoted?] at h
    split at h
    · rename_i hc
      rw [Bool.and_eq_true, beq_iff_eq, List.contains_iff_mem] at hc
      obtain ⟨rfl, hmem⟩ := hc
      rw [← Option.some.inj h]
      have hclose : [c] ⊆ inner := List.cons_subset.mpr ⟨hmem, List.nil_subset inner⟩
      exact List.cons_subset_cons c
        (List.append_subset.mpr ⟨(List.takeWhile_sublist _).subset, hclose⟩)
    · contradiction

theorem firstToken_subset (t : Text) : firstToken t ⊆ t := by
  unfold firstToken
  split
  · exact subset_of_quoted? ‹_›
  · split
    · exact subset_of_quoted? ‹_›
    · exact Text.firstWord_subset t

theorem trimQuotes_subset (t : Text) : trimQuotes t ⊆ t := by
  unfold trimQuotes
  split
  · exact List.Subset.trans (List.dropLast_subset _) (List.tail_sublist t).subset
  · exact List.Subset.refl t

end Assignment

theorem Comment.subset_of_content? {l content : Text} (h : content? l = some content) :
    content ⊆ l := by
  unfold content? at h
  dsimp only at h
  split at h
  · rw [← Option.some.inj h]
    intro c hc
    exact Text.trim_subset l ((List.dropWhile_sublist _).subset (Text.trim_subset _ hc))
  · contradiction

/-! ## Characters that no line has -/

/-- A control character that stands on no line of the text. -/
structure Text.Foreign (t : Text) (d : Char) : Prop where
  control : 0 < d.toNat ∧ d.toNat < 0x20
  absent : ∀ l ∈ Text.lines t, d ∉ l

namespace Text

/-- Whether a text has no control characters of ASCII. -/
def isPrintable (t : Text) : Bool :=
  t.all fun c => 0x20 ≤ c.toNat

theorem not_mem_feed_of_mem_lines {t l : Text} (h : l ∈ lines t) : '\n' ∉ l := by
  induction t using row_induction with
  | last row hrow =>
    rw [lines_row hrow, List.mem_filter, List.mem_singleton] at h
    exact h.1 ▸ hrow
  | cons row t hrow ih =>
    rw [lines_cons hrow, List.mem_cons] at h
    rcases h with rfl | h
    · rcases dropReturn_cases row with heq | heq
      · rwa [heq]
      · intro hmem
        apply hrow
        rw [heq]
        exact List.mem_append_left _ hmem
    · exact ih h

theorem foreign_feed (t : Text) : Foreign t '\n' :=
  ⟨by decide, fun _ => not_mem_feed_of_mem_lines⟩

theorem foreign_of_not_mem {t : Text} {d : Char} (hd : 0 < d.toNat ∧ d.toNat < 0x20)
    (h : d ∉ t) : Foreign t d :=
  ⟨hd, fun _ hl hmem => h (mem_of_mem_lines hl hmem)⟩

namespace Foreign
variable {t : Text} {d : Char} (h : Foreign t d)
include h

theorem not_mem_of_isPrintable {w : Text} (hw : isPrintable w = true) : d ∉ w := by
  intro hmem
  have hle := List.all_eq_true.mp hw d hmem
  rw [decide_eq_true_eq] at hle
  have hlt := h.control.2
  omega

theorem not_mem_of_subset {l w : Text} (hl : l ∈ lines t) (hw : w ⊆ l) : d ∉ w :=
  fun hmem => h.absent l hl (hw hmem)

theorem not_mem_lower {w : Text} (hw : d ∉ w) : d ∉ lower w := by
  have hlow : isLow d = true := by
    obtain ⟨hpos, hlt⟩ := h.control
    rw [isLow, Bool.and_eq_true, decide_eq_true_eq, decide_eq_true_eq]
    omega
  exact fun hmem => hw ((fixed_of_isLow hlow).mem_of_mem_lower hmem)

/-- A section of the text has no other lines. -/
theorem of_body? {header body : Text} (hbody : Section.body? t header = some body) :
    Foreign body d :=
  ⟨h.control, fun l hl => h.absent l (Section.lines_subset_of_body? hbody hl)⟩

theorem not_mem_of_firstValue? {same : Char → Char → Bool} {key rest : Text}
    (hrest : Assignment.firstValue? same key t = some rest) : d ∉ rest := by
  obtain ⟨l, hl, hvalue⟩ := List.exists_of_findSome?_eq_some hrest
  exact h.not_mem_of_subset hl (Assignment.subset_of_valueOf? hvalue)

theorem not_mem_tokenValue (key : Text) : d ∉ Assignment.tokenValue t key := by
  unfold Assignment.tokenValue
  split
  · exact List.not_mem_nil
  · rename_i rest hrest
    intro hmem
    exact h.not_mem_of_firstValue? hrest
      (trim_subset _ (Assignment.firstToken_subset _ (Assignment.trimQuotes_subset _ hmem)))

theorem not_mem_lineValue (key : Text) : d ∉ Assignment.lineValue t key := by
  unfold Assignment.lineValue
  split
  · exact List.not_mem_nil
  · rename_i rest hrest
    intro hmem
    exact h.not_mem_of_firstValue? hrest (trim_subset _ (Assignment.trimQuotes_subset _ hmem))

theorem not_mem_firstUsable? : ∀ name ∈ Comment.firstUsable? t, d ∉ name := by
  intro name hname
  obtain ⟨l, hl, hcontent⟩ := List.mem_filterMap.mp (List.mem_of_find?_eq_some hname)
  exact h.not_mem_of_subset hl (Comment.subset_of_content? hcontent)

end Foreign
end Text
end VpnImport
