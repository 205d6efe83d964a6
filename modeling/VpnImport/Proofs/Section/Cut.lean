import VpnImport.WireGuard.Markers
import VpnImport.Proofs.Section
import VpnImport.Proofs.Text.Bytes

/-!
# How a section is cut out

A section cuts its text into four: what stands before its header, the line of the header,
the section itself, and what stands behind it.  All four go from one end of a line to
another, so the lines of the text are the lines of the four parts (`Cut.rows`), and there
is one way only to cut a text at a header (`subsingleton_cut`).  Of two sections with
different headers, one ends before the other's header: `Cut.apart`.
-/

namespace VpnImport
namespace Section

/-- A text cut into the part before the first line with the given header, this line, the
section, and the part from the next line on that opens a section. -/
@[ext] structure Cut (t header : Text) where
  before : Text
  heading : Text
  body : Text
  behind : Text
  text : t = before ++ (heading ++ (body ++ behind))
  before_ends : Text.EndsLine before
  /-- The heading is a single line. -/
  heading_line : Text.endedLines heading = [heading]
  heading_ends : Text.EndsLine heading ∨ body ++ behind = []
  body_ends : Text.EndsLine body ∨ behind = []
  trim_heading : Text.trim heading = header
  first : ∀ l ∈ Text.lines before, Text.trim l ≠ header
  quiet : ∀ l ∈ Text.lines body, opens l = false
  opens_behind : ∀ l ∈ (Text.lines behind).head?, opens l = true

/-! ## Every section is cut out -/

variable {t header : Text}

theorem isHeader_eq_false_iff {l : Text} : isHeader header l = false ↔ Text.trim l ≠ header := by
  rw [isHeader, beq_eq_false_iff_ne]

/-- The lines up to the next that opens a section, and the text behind them. -/
theorem exists_behind (t : Text) :
    let body := ((Text.endedLines t).takeWhile fun l => !opens l).flatten
    ∃ behind, t = body ++ behind ∧ (Text.EndsLine body ∨ behind = []) ∧
      (∀ l ∈ Text.lines body, opens l = false) ∧
      ∀ l ∈ (Text.lines behind).head?, opens l = true := by
  intro body
  have hreturn : ∀ row, (!opens (row ++ ['\r'])) = !opens row := fun row => by rw [opens_return]
  have hfeed : ∀ row, (!opens (row ++ ['\n'])) = !opens row := fun row => by rw [opens_feed]
  have htext : t = body ++ ((Text.endedLines t).dropWhile fun l => !opens l).flatten := by
    rw [← List.flatten_append, List.takeWhile_append_dropWhile, Text.flatten_endedLines]
  have hbody : Text.lines body = (Text.lines t).takeWhile fun l => !opens l :=
    Text.lines_takeWhile hreturn hfeed t
  have hends := Text.endsLine_takeWhile (p := fun l => !opens l) hfeed t
  refine ⟨_, htext, hends, ?_, ?_⟩
  · rw [hbody]
    intro l hl
    simpa using List.all_eq_true.mp List.all_takeWhile l hl
  · intro l hl
    rcases hends with hends | hnil
    · -- What is left of the lines starts with one that is no longer taken.
      have hlines := hends.lines_append ((Text.endedLines t).dropWhile fun l => !opens l).flatten
      rw [← htext, hbody] at hlines
      have hrest := List.append_cancel_left (hlines.symm.trans
        (List.takeWhile_append_dropWhile (p := fun l => !opens l)).symm)
      have hnot := List.head?_dropWhile_not (fun l => !opens l) (Text.lines t)
      rw [hrest] at hl
      rw [hl] at hnot
      simpa using hnot
    · rw [hnil] at hl
      contradiction

theorem exists_cut {body : Text} (h : body? t header = some body) :
    ∃ cut : Cut t header, cut.body = body := by
  induction t using Text.row_induction with
  | last row hrow =>
    rw [body?, Text.endedLines_row hrow] at h
    by_cases hempty : row = []
    · simp [hempty] at h
    · by_cases hheader : isHeader header row = true
      · -- A header that no line feed ends has nothing behind it.
        obtain rfl : [] = body := by simpa [hempty, hheader] using h
        exact ⟨{
          before := []
          heading := row
          body := []
          behind := []
          text := by simp
          before_ends := .inl rfl
          heading_line := by simp [Text.endedLines_row hrow, hempty]
          heading_ends := .inr rfl
          body_ends := .inr rfl
          trim_heading := eq_of_beq hheader
          first := by simp [Text.lines_row]
          quiet := by simp [Text.lines_row]
          opens_behind := by simp [Text.lines_row] }, rfl⟩
      · simp [hempty, hheader] at h
  | cons row t hrow ih =>
    rw [body?_cons hrow] at h
    by_cases hheader : isHeader header row = true
    · rw [if_pos hheader] at h
      obtain rfl := Option.some.inj h
      obtain ⟨behind, htext, hends, hquiet, hopens⟩ := exists_behind t
      exact ⟨{
        before := []
        heading := row ++ ['\n']
        body := ((Text.endedLines t).takeWhile fun l => !opens l).flatten
        behind := behind
        text := by rw [← htext]; simp
        before_ends := .inl rfl
        heading_line := Text.endedLines_cons hrow []
        heading_ends := .inl (Text.endsLine_append_feed row)
        body_ends := hends
        trim_heading := by rw [Text.trim_append_feed]; exact eq_of_beq hheader
        first := by simp [Text.lines_row]
        quiet := hquiet
        opens_behind := hopens }, rfl⟩
    · rw [if_neg hheader] at h
      obtain ⟨cut, rfl⟩ := ih h
      have hbefore : row ++ '\n' :: cut.before = (row ++ ['\n']) ++ cut.before := by simp
      exact ⟨{ cut with
        before := row ++ '\n' :: cut.before
        text := by rw [List.append_assoc, List.cons_append, ← cut.text]
        before_ends := by
          rw [hbefore]
          exact (Text.endsLine_append_feed row).append cut.before_ends
        first := by
          rw [Text.lines_cons hrow, List.forall_mem_cons]
          refine ⟨?_, cut.first⟩
          rw [← isHeader_eq_false_iff, Text.dropReturn_congr (isHeader_return header)]
          exact Bool.eq_false_iff.mpr hheader }, rfl⟩

/-! ## There is one cut -/

namespace Cut
variable (cut : Cut t header)

/-- The lines of a text are the lines of its parts. -/
theorem rows : Text.endedLines t = Text.endedLines cut.before ++
    cut.heading :: (Text.endedLines cut.body ++ Text.endedLines cut.behind) := by
  have hbody : Text.endedLines (cut.body ++ cut.behind) =
      Text.endedLines cut.body ++ Text.endedLines cut.behind := by
    rcases cut.body_ends with hends | hnil
    · exact hends.endedLines_append _
    · rw [hnil, List.append_nil]
      exact (List.append_nil _).symm
  have hheading : Text.endedLines (cut.heading ++ (cut.body ++ cut.behind)) =
      cut.heading :: (Text.endedLines cut.body ++ Text.endedLines cut.behind) := by
    rcases cut.heading_ends with hends | hnil
    · rw [hends.endedLines_append, cut.heading_line, hbody]
      rfl
    · rw [← hbody, hnil, List.append_nil, cut.heading_line]
      rfl
  rw [← hheading, ← cut.before_ends.endedLines_append, ← cut.text]

theorem isHeader_rows : ∀ row ∈ Text.endedLines cut.before, isHeader header row = false := by
  have hmap := Text.map_endedLines (isHeader_return header) (isHeader_feed header) cut.before
  rw [← List.forall_mem_map (P := (· = false)), hmap, List.forall_mem_map]
  exact fun l hl => isHeader_eq_false_iff.mpr (cut.first l hl)

theorem isHeader_heading : isHeader header cut.heading = true :=
  beq_iff_eq.mpr cut.trim_heading

theorem opens_body_rows : ∀ row ∈ Text.endedLines cut.body, opens row = false := by
  have hmap := Text.map_endedLines opens_return opens_feed cut.body
  rw [← List.forall_mem_map (P := (· = false)), hmap, List.forall_mem_map]
  exact cut.quiet

theorem opens_behind_rows : ∀ row ∈ (Text.endedLines cut.behind).head?, opens row = true := by
  have hmap := congrArg List.head? (Text.map_endedLines opens_return opens_feed cut.behind)
  rw [List.head?_map, List.head?_map] at hmap
  intro row hrow
  rw [hrow] at hmap
  obtain ⟨l, hl, heq⟩ := Option.map_eq_some_iff.mp hmap.symm
  rw [← heq]
  exact cut.opens_behind l hl

theorem takeWhile_rows :
    (Text.endedLines t).takeWhile (fun l => !isHeader header l) = Text.endedLines cut.before := by
  rw [cut.rows, List.takeWhile_append_of_pos (by simpa using cut.isHeader_rows),
    List.takeWhile_cons_of_neg (by simp [cut.isHeader_heading]), List.append_nil]

theorem dropWhile_rows :
    (Text.endedLines t).dropWhile (fun l => !isHeader header l) =
      cut.heading :: (Text.endedLines cut.body ++ Text.endedLines cut.behind) := by
  rw [cut.rows, List.dropWhile_append_of_pos (by simpa using cut.isHeader_rows),
    List.dropWhile_cons_of_neg (by simp [cut.isHeader_heading])]

theorem takeWhile_behind :
    (Text.endedLines cut.body ++ Text.endedLines cut.behind).takeWhile (fun l => !opens l) =
      Text.endedLines cut.body := by
  have hbehind := cut.opens_behind_rows
  rw [List.takeWhile_append_of_pos (by simpa using cut.opens_body_rows)]
  cases hrows : Text.endedLines cut.behind with
  | nil => simp
  | cons row rest =>
    rw [hrows] at hbehind
    simp [hbehind row rfl]

/-- What is cut out is the section. -/
theorem body?_eq : body? t header = some cut.body := by
  rw [body?, cut.dropWhile_rows]
  dsimp only
  rw [cut.takeWhile_behind, Text.flatten_endedLines]

theorem before_eq : cut.before =
    ((Text.endedLines t).takeWhile fun l => !isHeader header l).flatten := by
  rw [cut.takeWhile_rows, Text.flatten_endedLines]

end Cut

theorem subsingleton_cut (t header : Text) : Subsingleton (Cut t header) := by
  refine ⟨fun cut cut' => ?_⟩
  have hbefore : cut.before = cut'.before := by rw [cut.before_eq, cut'.before_eq]
  have hheading : cut.heading = cut'.heading :=
    (List.cons.inj (cut.dropWhile_rows.symm.trans cut'.dropWhile_rows)).1
  have hbody : cut.body = cut'.body := Option.some.inj (cut.body?_eq.symm.trans cut'.body?_eq)
  have htext := cut.text.symm.trans cut'.text
  rw [hbefore, hheading, hbody] at htext
  exact Cut.ext hbefore hheading hbody
    (List.append_cancel_left (List.append_cancel_left (List.append_cancel_left htext)))

theorem body?_eq_some_iff {body : Text} :
    body? t header = some body ↔ ∃ cut : Cut t header, cut.body = body := by
  constructor
  · exact exists_cut
  · rintro ⟨cut, rfl⟩
    exact cut.body?_eq

/-! ## Two sections -/

namespace Cut

/-- The bytes before the section. -/
def start (cut : Cut t header) : Nat :=
  Text.byteSize (cut.before ++ cut.heading)

/-- The bytes up to the end of the section. -/
def stop (cut : Cut t header) : Nat :=
  Text.byteSize (cut.before ++ (cut.heading ++ cut.body))

theorem slice_eq (cut : Cut t header) : Text.slice t cut.start cut.stop = .ok cut.body := by
  refine Text.slice_of_append (b := cut.behind) ?_ rfl ?_
  · rw [List.append_assoc, ← cut.text]
  · rw [stop, List.append_assoc]

section Two
variable {header' : Text} (cut : Cut t header) (cut' : Cut t header') (hne : header ≠ header')
  (hheader' : header'.head? = some '[')

include hheader' in
theorem opens_heading : opens cut'.heading = true := by
  rw [opens, cut'.trim_heading, hheader']
  rfl

include hne hheader'

/-- A header that is not met before another one is met behind the section of the other. -/
theorem prefix_of_prefix {s : List Text}
    (h : Text.endedLines cut'.before = Text.endedLines cut.before ++ s) :
    Text.endedLines cut.before ++ cut.heading :: Text.endedLines cut.body <+:
      Text.endedLines cut'.before := by
  have hopens := opens_heading cut' hheader'
  have hrows := cut.rows.symm.trans cut'.rows
  rw [h, List.append_assoc] at hrows
  replace hrows := List.append_cancel_left hrows
  cases s with
  | nil =>
    have hheading : cut.heading = cut'.heading := (List.cons.inj hrows).1
    exact absurd (cut.trim_heading.symm.trans (hheading ▸ cut'.trim_heading)) hne
  | cons row s =>
    obtain ⟨rfl, hrest⟩ := List.cons.inj hrows
    rcases List.append_eq_append_iff.mp hrest with ⟨u, rfl, -⟩ | ⟨u, hbody, hu⟩
    · exact ⟨u, by rw [h]; simp⟩
    · cases u with
      | nil => exact ⟨[], by rw [h, hbody]; simp⟩
      | cons x u =>
        -- The second header would be a line of the first section.
        have hx : cut'.heading = x := (List.cons.inj hu).1
        have hquiet := cut.opens_body_rows x (by rw [hbody]; simp)
        rw [← hx, hopens] at hquiet
        contradiction

end Two

/-- Of two sections with different headers, one stands with all its lines before the header
of the other. -/
theorem apart {header' : Text} (hne : header ≠ header') (hheader : header.head? = some '[')
    (hheader' : header'.head? = some '[') (cut : Cut t header) (cut' : Cut t header') :
    Text.endedLines cut.before ++ cut.heading :: Text.endedLines cut.body <+:
        Text.endedLines cut'.before ∨
      Text.endedLines cut'.before ++ cut'.heading :: Text.endedLines cut'.body <+:
        Text.endedLines cut.before := by
  rcases List.append_eq_append_iff.mp (cut.rows.symm.trans cut'.rows) with ⟨s, h, -⟩ | ⟨s, h, -⟩
  · exact .inl (cut.prefix_of_prefix cut' hne hheader' h)
  · exact .inr (cut'.prefix_of_prefix cut (Ne.symm hne) hheader h)

/-- A section that stands with all its lines before another header ends before the section
of that header starts. -/
theorem stop_le_start {header' : Text} {cut : Cut t header} {cut' : Cut t header'}
    (h : Text.endedLines cut.before ++ cut.heading :: Text.endedLines cut.body <+:
      Text.endedLines cut'.before) : cut.stop ≤ cut'.start := by
  obtain ⟨u, hu⟩ := h
  have htext := congrArg List.flatten hu
  rw [List.flatten_append, List.flatten_append, List.flatten_cons, Text.flatten_endedLines,
    Text.flatten_endedLines, Text.flatten_endedLines] at htext
  rw [stop, start, ← htext]
  simp only [Text.byteSize_append]
  omega

end Cut

theorem body?_eq_none_iff : body? t header = none ↔ ∀ l ∈ Text.lines t, Text.trim l ≠ header := by
  rw [← Option.isNone_iff_eq_none, ← Option.not_isSome, isSome_body?, Bool.not_eq_true',
    List.any_eq_false]
  simp [isHeader]

theorem body?_eq_none_iff_count : body? t header = none ↔ count t header = 0 := by
  rw [body?_eq_none_iff, count, List.countP_eq_zero]
  simp [isHeader]

theorem hasSections_iff_isSome (t : Text) : WireGuard.hasSections t = true ↔
    (body? t WireGuard.interfaceHeader).isSome = true ∧
      (body? t WireGuard.peerHeader).isSome = true := by
  rw [isSome_body?, isSome_body?, ← Bool.and_eq_true]
  rfl

/-- A text has a section when one of its lines is the header, and the section is what its
cut at the header says.  Sections with different headers take up different lines of the
text and different bytes. -/
theorem section_cut (t header : Text) :
    (body? t header = none ↔ ∀ l ∈ Text.lines t, Text.trim l ≠ header) ∧
    (body? t header = none ↔ count t header = 0) ∧
    (WireGuard.hasSections t = true ↔
      (body? t WireGuard.interfaceHeader).isSome = true ∧
        (body? t WireGuard.peerHeader).isSome = true) ∧
    (∀ body, body? t header = some body ↔ ∃ cut : Cut t header, cut.body = body) ∧
    Subsingleton (Cut t header) ∧
    (∀ cut : Cut t header, Text.slice t cut.start cut.stop = .ok cut.body) ∧
    ∀ header', header ≠ header' → header.head? = some '[' → header'.head? = some '[' →
      ∀ (cut : Cut t header) (cut' : Cut t header'),
        (Text.endedLines cut.before ++ cut.heading :: Text.endedLines cut.body <+:
            Text.endedLines cut'.before ∨
          Text.endedLines cut'.before ++ cut'.heading :: Text.endedLines cut'.body <+:
            Text.endedLines cut.before) ∧
        (cut.stop ≤ cut'.start ∨ cut'.stop ≤ cut.start) := by
  refine ⟨body?_eq_none_iff, body?_eq_none_iff_count, hasSections_iff_isSome t,
    fun _ => body?_eq_some_iff, subsingleton_cut t header, Cut.slice_eq, ?_⟩
  intro header' hne hheader hheader' cut cut'
  have hapart := Cut.apart hne hheader hheader' cut cut'
  exact ⟨hapart, hapart.imp Cut.stop_le_start Cut.stop_le_start⟩

/-- The second header comes at once, and the first comes again on a line without an end. -/
theorem section_cut_adjacent :
    let t := "é\r\n[Interface]\r\n\u00a0[Peer]\nEndpoint = b\r\n\n[Interface]".toList
    ∃ (cut : Cut t WireGuard.interfaceHeader) (cut' : Cut t WireGuard.peerHeader),
      cut.body = [] ∧ cut'.body = "Endpoint = b\r\n\n".toList ∧
        (cut.stop ≤ cut'.start ∨ cut'.stop ≤ cut.start) := by
  intro t
  obtain ⟨cut, hcut⟩ := ((section_cut t WireGuard.interfaceHeader).2.2.2.1 []).mp (by decide)
  obtain ⟨cut', hcut'⟩ :=
    ((section_cut t WireGuard.peerHeader).2.2.2.1 "Endpoint = b\r\n\n".toList).mp (by decide)
  have hapart := (section_cut t WireGuard.interfaceHeader).2.2.2.2.2.2 WireGuard.peerHeader
    (by decide) (by decide) (by decide) cut cut'
  exact ⟨cut, cut', hcut, hcut', hapart.2⟩

end Section
end VpnImport
