import Mathlib.Data.List.Nodup
import VpnImport.Proofs.Section

/-!
# Texts made of sections

A document is a preamble and a list of blocks, each of them a header with the rows of its
section.  The section with a given header is the body of the first block with that header
(`body?_text`), so if no two blocks have the same header, the order of the blocks decides
neither over any section nor over which lines there are: `Reordered.body?_eq` and
`Reordered.perm_rows`.
-/

namespace VpnImport

namespace Text

/-- Rows, each with the line feed that ends it. -/
def ended (rows : List Text) : Text :=
  rows.flatMap (· ++ ['\n'])

section Ended
variable {rows : List Text} (h : ∀ row ∈ rows, '\n' ∉ row)
include h

theorem lines_ended : lines (ended rows) = rows.map dropReturn := by
  induction rows with
  | nil => rfl
  | cons row rows ih =>
    obtain ⟨hrow, hrows⟩ := List.forall_mem_cons.mp h
    rw [ended, List.flatMap_cons, List.append_assoc, List.singleton_append, lines_cons hrow]
    exact congrArg (dropReturn row :: ·) (ih hrows)

theorem endedLines_ended : endedLines (ended rows) = rows.map (· ++ ['\n']) := by
  induction rows with
  | nil => rfl
  | cons row rows ih =>
    obtain ⟨hrow, hrows⟩ := List.forall_mem_cons.mp h
    rw [ended, List.flatMap_cons, List.append_assoc, List.singleton_append, endedLines_cons hrow]
    exact congrArg ((row ++ ['\n']) :: ·) (ih hrows)

end Ended

theorem perm_ended {rows rows' : List Text} (h : rows.Perm rows') :
    (ended rows).Perm (ended rows') :=
  h.flatMap_right _

theorem byteSize_eq_of_perm {t t' : Text} (h : t.Perm t') : byteSize t = byteSize t' :=
  h.foldl_eq' (fun _ _ _ _ _ => Nat.add_right_comm _ _ _) 0

theorem allBlank_eq_of_perm {t t' : Text} (h : t.Perm t') : allBlank t = allBlank t' :=
  h.all_eq

end Text

namespace Section

/-- A row that opens a section, and the rows of the section. -/
structure Block where
  header : Text
  body : List Text
  opens_header : opens header = true
  quiet : ∀ row ∈ body, opens row = false
  noFeed : ∀ row ∈ header :: body, '\n' ∉ row

namespace Block

/-- The header of a block without the white space around it. -/
def name (b : Block) : Text :=
  Text.trim b.header

def rows (b : Block) : List Text :=
  b.header :: b.body

end Block

/-- Rows before the first section, and the sections. -/
structure Document where
  preamble : List Text
  blocks : List Block
  quiet : ∀ row ∈ preamble, opens row = false
  noFeed : ∀ row ∈ preamble, '\n' ∉ row

namespace Document

def rows (d : Document) : List Text :=
  d.preamble ++ d.blocks.flatMap Block.rows

def text (d : Document) : Text :=
  Text.ended d.rows

theorem noFeed_rows (d : Document) : ∀ row ∈ d.rows, '\n' ∉ row := by
  intro row hrow
  rcases List.mem_append.mp hrow with hrow | hrow
  · exact d.noFeed row hrow
  · obtain ⟨b, -, hb⟩ := List.mem_flatMap.mp hrow
    exact b.noFeed row hb

/-- The document with its blocks in reverse order. -/
def reverse (d : Document) : Document :=
  { d with blocks := d.blocks.reverse }

end Document

/-! ## Sections of rows -/

theorem body?_ended {rows : List Text} (h : ∀ row ∈ rows, '\n' ∉ row) (header : Text) :
    body? (Text.ended rows) header = (bodyLines? header rows).map Text.ended := by
  have hheader : (fun l => !isHeader header l) ∘ (· ++ ['\n']) = fun l => !isHeader header l := by
    funext row
    rw [Function.comp_apply, isHeader_feed]
  have hopens : (fun l => !opens l) ∘ (· ++ ['\n']) = fun l => !opens l := by
    funext row
    rw [Function.comp_apply, opens_feed]
  rw [body?, Text.endedLines_ended h, List.dropWhile_map, hheader, bodyLines?]
  cases rows.dropWhile (fun l => !isHeader header l) with
  | nil => rfl
  | cons row rest =>
    show some ((rest.map (· ++ ['\n'])).takeWhile fun l => !opens l).flatten = some _
    rw [List.takeWhile_map, hopens]
    rfl

section Header
variable {header : Text} (hheader : header.head? = some '[')
include hheader

theorem not_isHeader_of_quiet {row : Text} (h : opens row = false) :
    isHeader header row = false := by
  rw [isHeader, beq_eq_false_iff_ne]
  rintro rfl
  rw [opens, hheader] at h
  contradiction

theorem bodyLines?_quiet_append {quiet : List Text} (h : ∀ row ∈ quiet, opens row = false)
    (rows : List Text) : bodyLines? header (quiet ++ rows) = bodyLines? header rows := by
  induction quiet with
  | nil => rfl
  | cons row quiet ih =>
    obtain ⟨hrow, hquiet⟩ := List.forall_mem_cons.mp h
    rw [List.cons_append, bodyLines?_cons, not_isHeader_of_quiet hheader hrow,
      if_neg Bool.false_ne_true, ih hquiet]

/-- A section is the body of the first block with its header. -/
theorem bodyLines?_blocks (blocks : List Block) :
    bodyLines? header (blocks.flatMap Block.rows) =
      (blocks.find? fun b => b.name == header).map Block.body := by
  induction blocks with
  | nil => rfl
  | cons b blocks ih =>
    rw [List.flatMap_cons, Block.rows, List.cons_append, bodyLines?_cons, List.find?_cons,
      show isHeader header b.header = (b.name == header) from rfl]
    by_cases h : (b.name == header) = true
    · -- The section ends where the next block opens.
      have hnext : (blocks.flatMap Block.rows).takeWhile (fun l => !opens l) = [] := by
        cases blocks with
        | nil => rfl
        | cons c blocks =>
          rw [List.flatMap_cons, Block.rows, List.cons_append]
          exact List.takeWhile_cons_of_neg (by simp [c.opens_header])
      have hbody : ∀ row ∈ b.body, (!opens row) = true := fun row hrow => by
        rw [b.quiet row hrow]
        rfl
      rw [if_pos h, h, List.takeWhile_append_of_pos hbody, hnext, List.append_nil]
      rfl
    · rw [if_neg h, Bool.eq_false_iff.mpr h, bodyLines?_quiet_append hheader b.quiet, ih]

theorem body?_text (d : Document) :
    body? d.text header =
      (d.blocks.find? fun b => b.name == header).map fun b => Text.ended b.body := by
  rw [Document.text, body?_ended d.noFeed_rows, Document.rows,
    bodyLines?_quiet_append hheader d.quiet, bodyLines?_blocks hheader, Option.map_map]
  rfl

end Header

/-! ## Blocks in another order -/

theorem find?_name_eq_some_iff {blocks : List Block} (h : (blocks.map Block.name).Nodup)
    {header : Text} {b : Block} :
    blocks.find? (fun b => b.name == header) = some b ↔ b ∈ blocks ∧ b.name = header := by
  constructor
  · intro hfind
    exact ⟨List.mem_of_find?_eq_some hfind, by simpa using List.find?_some hfind⟩
  · rintro ⟨hb, hname⟩
    cases hfind : blocks.find? (fun b => b.name == header) with
    | none => exact absurd (beq_iff_eq.mpr hname) (List.find?_eq_none.mp hfind b hb)
    | some c =>
      have hc : c.name = header := by simpa using List.find?_some hfind
      rw [List.inj_on_of_nodup_map h (List.mem_of_find?_eq_some hfind) hb (hc.trans hname.symm)]

/-- The same document with its blocks in another order. -/
structure Reordered (d d' : Document) : Prop where
  preamble : d.preamble = d'.preamble
  blocks : d.blocks.Perm d'.blocks
  names : (d.blocks.map Block.name).Nodup

theorem reordered_reverse {d : Document} (h : (d.blocks.map Block.name).Nodup) :
    Reordered d d.reverse :=
  ⟨rfl, (List.reverse_perm _).symm, h⟩

namespace Reordered
variable {d d' : Document} (h : Reordered d d')
include h

theorem perm_rows : d.rows.Perm d'.rows := by
  rw [Document.rows, Document.rows, h.preamble]
  exact (h.blocks.flatMap_right _).append_left _

theorem perm_lines : (Text.lines d.text).Perm (Text.lines d'.text) := by
  rw [Document.text, Document.text, Text.lines_ended d.noFeed_rows,
    Text.lines_ended d'.noFeed_rows]
  exact h.perm_rows.map _

theorem perm_text : d.text.Perm d'.text :=
  Text.perm_ended h.perm_rows

theorem body?_eq {header : Text} (hheader : header.head? = some '[') :
    body? d.text header = body? d'.text header := by
  have hnames : (d'.blocks.map Block.name).Nodup := (h.blocks.map _).nodup_iff.mp h.names
  rw [body?_text hheader, body?_text hheader]
  congr 1
  refine Option.ext fun b => ?_
  rw [find?_name_eq_some_iff h.names, find?_name_eq_some_iff hnames, h.blocks.mem_iff]

theorem count_eq (header : Text) : count d.text header = count d'.text header :=
  h.perm_lines.countP_eq _

end Reordered

end Section
end VpnImport
