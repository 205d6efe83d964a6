import VpnImport.Text.Line
import VpnImport.Proofs.Text.Trim

/-!
# Lines

A text is its first row, a line feed and the rest, or a single row without a
line feed.  `row_induction` follows this shape, and `lines_cons` and
`endedLines_cons` say what each step of it adds.  A row that a line feed ends
loses one carriage return, so a property of lines carries over from a text to a
longer one only if it does not see that carriage return.
-/

namespace VpnImport
namespace Text

/-! ## The shape of a text -/

/-- A text is made of rows: one that is not ended, and before it any number of
rows that a line feed ends. -/
theorem row_induction {motive : Text → Prop}
    (last : ∀ row, '\n' ∉ row → motive row)
    (cons : ∀ row t, '\n' ∉ row → motive t → motive (row ++ '\n' :: t)) (t : Text) :
    motive t := by
  by_cases h : '\n' ∈ t
  · obtain ⟨row, rest, ht, hrow⟩ := List.eq_append_cons_of_mem h
    have hlen : rest.length < t.length := by
      rw [ht, List.length_append, List.length_cons]
      omega
    rw [ht]
    exact cons row rest hrow (row_induction last cons rest)
  · exact last t h
termination_by t.length

theorem openRow_append (a b : Text) : openRow (a ++ '\n' :: b) = openRow b := by
  rw [openRow, openRow, List.splitOn_append_cons_self,
    List.getLast?_append_of_ne_nil _ (List.splitOn_ne_nil _ _)]

/-- A text in front of a line feed contributes its rows, each without one
carriage return at its end. -/
theorem lines_append (a b : Text) :
    lines (a ++ '\n' :: b) = (a.splitOn '\n').map dropReturn ++ lines b := by
  rw [lines, lines, openRow_append, List.splitOn_append_cons_self,
    List.dropLast_append_of_ne_nil (List.splitOn_ne_nil _ _), List.map_append, List.append_assoc]

theorem endedLines_append (a b : Text) :
    endedLines (a ++ '\n' :: b) = (a.splitOn '\n').map (· ++ ['\n']) ++ endedLines b := by
  rw [endedLines, endedLines, openRow_append, List.splitOn_append_cons_self,
    List.dropLast_append_of_ne_nil (List.splitOn_ne_nil _ _), List.map_append, List.append_assoc]

section Row
variable {row : Text} (h : '\n' ∉ row)
include h

theorem lines_row : lines row = [row].filter fun r => !r.isEmpty := by
  rw [lines, openRow, List.splitOn_eq_singleton h]
  rfl

theorem endedLines_row : endedLines row = [row].filter fun r => !r.isEmpty := by
  rw [endedLines, openRow, List.splitOn_eq_singleton h]
  rfl

theorem lines_cons (t : Text) : lines (row ++ '\n' :: t) = dropReturn row :: lines t := by
  rw [lines_append, List.splitOn_eq_singleton h]
  rfl

theorem endedLines_cons (t : Text) :
    endedLines (row ++ '\n' :: t) = (row ++ ['\n']) :: endedLines t := by
  rw [endedLines_append, List.splitOn_eq_singleton h]
  rfl

end Row

/-! ## Carriage returns -/

theorem dropReturn_append_return (row : Text) : dropReturn (row ++ ['\r']) = row := by
  rw [dropReturn, if_pos (by simp), List.dropLast_concat]

/-- A row either loses a carriage return or stays as it is. -/
theorem dropReturn_cases (row : Text) :
    dropReturn row = row ∨ row = dropReturn row ++ ['\r'] := by
  by_cases h : row.getLast? = some '\r'
  · obtain ⟨init, rfl⟩ := List.getLast?_eq_some_iff.mp h
    rw [dropReturn_append_return]
    exact .inr rfl
  · rw [dropReturn, if_neg h]
    exact .inl rfl

/-- What does not see a carriage return at the end of a line does not see
whether it has been dropped. -/
theorem dropReturn_congr {α : Type} {f : Text → α} (h : ∀ row, f (row ++ ['\r']) = f row)
    (row : Text) : f (dropReturn row) = f row := by
  rcases dropReturn_cases row with hrow | hrow
  · rw [hrow]
  · rw [hrow, dropReturn_append_return, h]

theorem trim_append_feed (row : Text) : trim (row ++ ['\n']) = trim row :=
  trim_append_blank (by decide) row

/-! ## Rows that are put together -/

/-- What is looked for in the rows of a text is found in its lines, unless it tells a
carriage return at the end of a row or an empty row. -/
theorem findSome?_lines_intercalate {α : Type} {f : Text → Option α}
    (hreturn : ∀ row, f (row ++ ['\r']) = f row) (hnil : f [] = none) {rows : List Text}
    (h : ∀ row ∈ rows, '\n' ∉ row) :
    (lines (List.intercalate ['\n'] rows)).findSome? f = rows.findSome? f := by
  induction rows with
  | nil => rfl
  | cons row rows ih =>
    have hrow : '\n' ∉ row := h row List.mem_cons_self
    cases rows with
    | nil =>
      rw [List.intercalate_singleton, lines_row hrow]
      by_cases hempty : row = []
      · simp [hempty, hnil]
      · simp [hempty]
    | cons next rows =>
      rw [List.intercalate_cons_cons, List.append_assoc, List.singleton_append, lines_cons hrow,
        List.findSome?_cons, List.findSome?_cons, dropReturn_congr hreturn,
        ih fun r hr => h r (List.mem_cons_of_mem _ hr)]

/-! ## Lines of a longer text -/

theorem any_lines_append_left {p : Text → Bool} (a : Text) {b : Text}
    (h : (lines b).any p = true) : (lines (a ++ '\n' :: b)).any p = true := by
  rw [lines_append, List.any_append, h, Bool.or_true]

/-- Every line of a text is a row of it, or a row of it without the carriage
return at its end. -/
theorem mem_lines {line t : Text} (h : line ∈ lines t) :
    ∃ row ∈ t.splitOn '\n', line = row ∨ line = dropReturn row := by
  rw [lines, List.mem_append, List.mem_map] at h
  rcases h with ⟨row, hrow, rfl⟩ | h
  · exact ⟨row, List.dropLast_subset _ hrow, .inr rfl⟩
  · rw [openRow, List.mem_filter, Option.mem_toList] at h
    exact ⟨line, List.mem_of_getLast? h.1, .inl rfl⟩

theorem any_lines_append_right {p : Text → Bool} (hp : ∀ row, p (row ++ ['\r']) = p row)
    {a : Text} (b : Text) (h : (lines a).any p = true) :
    (lines (a ++ '\n' :: b)).any p = true := by
  obtain ⟨line, hline, hpline⟩ := List.any_eq_true.mp h
  obtain ⟨row, hrow, heq⟩ := mem_lines hline
  have hprow : p (dropReturn row) = true := by
    rcases heq with rfl | rfl
    · rw [dropReturn_congr hp, hpline]
    · exact hpline
  rw [lines_append, List.any_append, Bool.or_eq_true]
  exact .inl (List.any_eq_true.mpr ⟨dropReturn row, List.mem_map_of_mem hrow, hprow⟩)

/-- A search of lines, if it does not tell whether a line has been ended, is one search of
the text before a line feed and another of the text behind it. -/
theorem any_lines_append {p : Text → Bool} (hp : ∀ row, p (row ++ ['\r']) = p row)
    (hnil : p [] = false) (a b : Text) :
    (lines (a ++ '\n' :: b)).any p = ((lines a).any p || (lines b).any p) := by
  induction a using row_induction with
  | last row hrow =>
    rw [lines_cons hrow, lines_row hrow, List.any_cons, dropReturn_congr hp]
    by_cases hempty : row = []
    · simp [hempty, hnil]
    · simp [hempty]
  | cons row t hrow ih =>
    rw [List.append_assoc, List.cons_append, lines_cons hrow, lines_cons hrow, List.any_cons,
      List.any_cons, ih, Bool.or_assoc]

theorem mem_of_mem_lines {line t : Text} {c : Char} (h : line ∈ lines t) (hc : c ∈ line) :
    c ∈ t := by
  induction t using row_induction with
  | last row hrow =>
    rw [lines_row hrow, List.mem_filter, List.mem_singleton] at h
    exact h.1 ▸ hc
  | cons row t hrow ih =>
    rw [lines_cons hrow, List.mem_cons] at h
    rw [List.mem_append, List.mem_cons]
    rcases h with rfl | h
    · rcases dropReturn_cases row with heq | heq
      · exact .inl (heq ▸ hc)
      · rw [heq]
        exact .inl (List.mem_append_left _ hc)
    · exact .inr (.inr (ih h))

theorem not_allBlank_of_any_lines {p : Text → Bool} {t : Text}
    (hp : ∀ line, p line = true → allBlank line = false) (h : (lines t).any p = true) :
    allBlank t = false := by
  obtain ⟨line, hline, hpline⟩ := List.any_eq_true.mp h
  rw [← Bool.not_eq_true]
  intro hblank
  have hall : allBlank line = true :=
    allBlank_iff.mpr fun c hc => allBlank_iff.mp hblank c (mem_of_mem_lines hline hc)
  rw [hp line hpline] at hall
  contradiction

/-- The rows of a text up to the first that a property rejects have the lines up
to the first that it rejects. -/
theorem lines_takeWhile {p : Text → Bool} (hreturn : ∀ row, p (row ++ ['\r']) = p row)
    (hfeed : ∀ row, p (row ++ ['\n']) = p row) (t : Text) :
    lines ((endedLines t).takeWhile p).flatten = (lines t).takeWhile p := by
  induction t using row_induction with
  | last row hrow =>
    rw [lines_row hrow, endedLines_row hrow]
    by_cases hempty : row = []
    · rw [hempty]
      rfl
    · by_cases hp : p row = true
      · simp [hempty, hp, lines_row hrow]
      · simp [hempty, hp, lines_row]
  | cons row t hrow ih =>
    rw [lines_cons hrow, endedLines_cons hrow, List.takeWhile_cons, List.takeWhile_cons, hfeed,
      dropReturn_congr hreturn]
    by_cases hp : p row = true
    · rw [if_pos hp, if_pos hp, List.flatten_cons, List.append_assoc, List.singleton_append,
        lines_cons hrow, ih]
    · rw [if_neg hp, if_neg hp]
      rfl

/-! ## Cutting between lines -/

/-- The lines of a text with their endings make up the text. -/
theorem flatten_endedLines (t : Text) : (endedLines t).flatten = t := by
  induction t using row_induction with
  | last row hrow =>
    rw [endedLines_row hrow]
    cases row <;> simp
  | cons row t hrow ih =>
    rw [endedLines_cons hrow, List.flatten_cons, ih, List.append_assoc]
    rfl

/-- A text that stops where a line ends. -/
def EndsLine (t : Text) : Prop :=
  t = [] ∨ t.getLast? = some '\n'

theorem endsLine_append_feed (t : Text) : EndsLine (t ++ ['\n']) :=
  .inr List.getLast?_concat

theorem EndsLine.append {a b : Text} (ha : EndsLine a) (hb : EndsLine b) : EndsLine (a ++ b) := by
  rcases hb with rfl | hb
  · rwa [List.append_nil]
  · obtain ⟨init, rfl⟩ := List.getLast?_eq_some_iff.mp hb
    rw [← List.append_assoc]
    exact endsLine_append_feed _

section EndsLine
variable {a : Text} (h : EndsLine a)
include h

theorem EndsLine.endedLines_append (b : Text) :
    endedLines (a ++ b) = endedLines a ++ endedLines b := by
  rcases h with rfl | h
  · rfl
  · obtain ⟨init, rfl⟩ := List.getLast?_eq_some_iff.mp h
    rw [List.append_assoc, List.singleton_append, Text.endedLines_append, Text.endedLines_append]
    simp [endedLines_row]

theorem EndsLine.lines_append (b : Text) : lines (a ++ b) = lines a ++ lines b := by
  rcases h with rfl | h
  · rfl
  · obtain ⟨init, rfl⟩ := List.getLast?_eq_some_iff.mp h
    rw [List.append_assoc, List.singleton_append, Text.lines_append, Text.lines_append]
    simp [lines_row]

end EndsLine

/-- The lines up to the first that a property rejects stop where a line ends, unless they
are all the lines there are. -/
theorem endsLine_takeWhile {p : Text → Bool} (hfeed : ∀ row, p (row ++ ['\n']) = p row) (t : Text) :
    EndsLine ((endedLines t).takeWhile p).flatten ∨ ((endedLines t).dropWhile p).flatten = [] := by
  induction t using row_induction with
  | last row hrow =>
    rw [endedLines_row hrow]
    by_cases hempty : row = []
    · exact .inr (by simp [hempty])
    · by_cases hp : p row = true
      · exact .inr (by simp [hempty, hp])
      · exact .inl (.inl (by simp [hempty, hp]))
  | cons row t hrow ih =>
    rw [endedLines_cons hrow, List.takeWhile_cons, List.dropWhile_cons, hfeed]
    by_cases hp : p row = true
    · rw [if_pos hp, if_pos hp, List.flatten_cons]
      exact ih.imp_left (endsLine_append_feed row).append
    · rw [if_neg hp]
      exact .inl (.inl rfl)

/-- What does not see how lines end sees the same with their endings and without. -/
theorem map_endedLines {α : Type} {f : Text → α} (hreturn : ∀ row, f (row ++ ['\r']) = f row)
    (hfeed : ∀ row, f (row ++ ['\n']) = f row) (t : Text) :
    (endedLines t).map f = (lines t).map f := by
  induction t using row_induction with
  | last row hrow => rw [endedLines_row hrow, lines_row hrow]
  | cons row t hrow ih =>
    rw [endedLines_cons hrow, lines_cons hrow, List.map_cons, List.map_cons, hfeed,
      dropReturn_congr hreturn, ih]

/-! ## Adding lines -/

/-- `Extends t s` says that lines have been put before and behind `t`, any
number of times, and have made it `s`. -/
inductive Extends (t : Text) : Text → Prop where
  | refl : Extends t t
  | before {s : Text} (u : Text) : Extends t s → Extends t (u ++ '\n' :: s)
  | after {s : Text} (u : Text) : Extends t s → Extends t (s ++ '\n' :: u)

section Extends
variable {t s : Text} (h : Extends t s)
include h

theorem Extends.any_lines {p : Text → Bool} (hp : ∀ row, p (row ++ ['\r']) = p row)
    (ht : (lines t).any p = true) : (lines s).any p = true := by
  induction h with
  | refl => exact ht
  | before u _ ih => exact any_lines_append_left u ih
  | after u _ ih => exact any_lines_append_right hp u ih

theorem Extends.occurs {needle : Text} (ht : Text.occurs needle t = true) :
    Text.occurs needle s = true := by
  induction h with
  | refl => exact ht
  | before u _ ih => exact occurs_append_right u (occurs_append_right ['\n'] ih)
  | after u _ ih => exact occurs_append_left _ ih

end Extends

end Text
end VpnImport
