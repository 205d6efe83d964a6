import VpnImport.Section
import VpnImport.Proofs.Text.Line

/-!
# The lines of a section

`body?` cuts a section out of the rows of a text.  `lines_body?` says which lines
the section has in terms of the lines of the text alone, so what is looked up in
a section depends on nothing but those lines.
-/

namespace VpnImport
namespace Section

theorem isHeader_return (header row : Text) :
    isHeader header (row ++ ['\r']) = isHeader header row := by
  rw [isHeader, isHeader, Text.trim_append_blank (by decide)]

theorem isHeader_feed (header row : Text) :
    isHeader header (row ++ ['\n']) = isHeader header row := by
  rw [isHeader, isHeader, Text.trim_append_feed]

theorem opens_return (row : Text) : opens (row ++ ['\r']) = opens row := by
  rw [opens, opens, Text.trim_append_blank (by decide)]

theorem opens_feed (row : Text) : opens (row ++ ['\n']) = opens row := by
  rw [opens, opens, Text.trim_append_feed]

/-- A line with an equals sign is no header. -/
theorem isHeader_equals {header : Text} (hheader : '=' ∉ header) (a t : Text) :
    isHeader header (a ++ '=' :: t) = false := by
  rw [isHeader, beq_eq_false_iff_ne]
  intro h
  subst h
  exact hheader (Text.mem_trim (List.mem_append_right _ List.mem_cons_self) (by decide))

theorem opens_equals (a t t' : Text) : opens (a ++ '=' :: t) = opens (a ++ '=' :: t') := by
  rw [opens, opens, Text.head?_trim, Text.head?_trim, Text.trimStart_append_cons (by decide),
    Text.trimStart_append_cons (by decide), Text.head?_append_cons (Text.trimStart a) '=' t t']

/-- The lines behind the first header, up to the next line that opens a
section. -/
def bodyLines? (header : Text) (lines : List Text) : Option (List Text) :=
  match lines.dropWhile (fun l => !isHeader header l) with
  | [] => none
  | _ :: rest => some (rest.takeWhile fun l => !opens l)

variable {header : Text}

theorem bodyLines?_cons (line : Text) (lines : List Text) :
    bodyLines? header (line :: lines) =
      if isHeader header line then some (lines.takeWhile fun l => !opens l)
      else bodyLines? header lines := by
  by_cases h : isHeader header line = true
  · simp [bodyLines?, h]
  · simp [bodyLines?, h]

theorem body?_cons {row : Text} (hrow : '\n' ∉ row) (t : Text) :
    body? (row ++ '\n' :: t) header =
      if isHeader header row then some ((Text.endedLines t).takeWhile fun l => !opens l).flatten
      else body? t header := by
  rw [body?, Text.endedLines_cons hrow]
  by_cases h : isHeader header row = true
  · simp [isHeader_feed, h]
  · simp [isHeader_feed, h, body?]

theorem lines_body? (t header : Text) :
    (body? t header).map Text.lines = bodyLines? header (Text.lines t) := by
  induction t using Text.row_induction with
  | last row hrow =>
    rw [body?, Text.endedLines_row hrow, Text.lines_row hrow, bodyLines?]
    by_cases hempty : row = []
    · rw [hempty]
      rfl
    · by_cases h : isHeader header row = true
      · simp [hempty, h]
        rfl
      · simp [hempty, h]
  | cons row t hrow ih =>
    rw [body?_cons hrow, Text.lines_cons hrow, bodyLines?_cons,
      Text.dropReturn_congr (isHeader_return header)]
    by_cases h : isHeader header row = true
    · rw [if_pos h, if_pos h, Option.map_some]
      refine congrArg some (Text.lines_takeWhile (fun row => ?_) (fun row => ?_) t)
      · rw [opens_return]
      · rw [opens_feed]
    · rw [if_neg h, if_neg h, ih]

theorem isSome_bodyLines? (lines : List Text) :
    (bodyLines? header lines).isSome = lines.any (isHeader header) := by
  induction lines with
  | nil => rfl
  | cons line lines ih =>
    rw [bodyLines?_cons, List.any_cons]
    by_cases h : isHeader header line = true
    · rw [if_pos h, h]
      rfl
    · rw [if_neg h, ih, Bool.eq_false_iff.mpr h, Bool.false_or]

/-- A text has a section when one of its lines is the header. -/
theorem isSome_body? (t header : Text) :
    (body? t header).isSome = (Text.lines t).any (isHeader header) := by
  rw [← isSome_bodyLines?, ← lines_body?, Option.isSome_map]

theorem subset_of_bodyLines? {lines body : List Text} (h : bodyLines? header lines = some body) :
    body ⊆ lines := by
  induction lines with
  | nil => contradiction
  | cons line lines ih =>
    rw [bodyLines?_cons] at h
    split at h
    · rw [← Option.some.inj h]
      exact fun l hl => List.mem_cons_of_mem _ ((List.takeWhile_sublist _).subset hl)
    · exact fun l hl => List.mem_cons_of_mem _ (ih h hl)

/-- The lines of a section are lines of the text. -/
theorem lines_subset_of_body? {t body : Text} (h : body? t header = some body) :
    Text.lines body ⊆ Text.lines t := by
  have hlines := lines_body? t header
  rw [h] at hlines
  exact subset_of_bodyLines? hlines.symm

end Section
end VpnImport
