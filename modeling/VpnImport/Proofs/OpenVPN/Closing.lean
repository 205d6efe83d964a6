import VpnImport.Proofs.OpenVPN.Opacity
import VpnImport.Proofs.Text.Letters

/-!
# How a block is closed

A block is opened in any spelling whose lower case is the name of its tag, and closed
in any that has the letters of the name without regard to ASCII case.  The two agree
on ASCII.  Beyond it lower-casing also makes a `k` of the sign for kelvin, so a block
of keys that is opened with that sign is not closed by the same spelling, and hides
what stands behind: `same_spelling_closes_iff`.  In every other spelling a block with
its content counts as the empty block in lower case.
-/

namespace VpnImport
namespace OpenVPN

/-! ## Spellings of a tag -/

namespace InlineTag
variable {tag : InlineTag} {spelling : Text}

/-- The line that opens a block, the name of the tag being spelled so. -/
def openingLine (spelling : Text) : Text :=
  '<' :: (spelling ++ ['>'])

/-- The line that closes a block, the name of the tag being spelled so. -/
def closingLine (spelling : Text) : Text :=
  '<' :: '/' :: (spelling ++ ['>'])

/-- The lines of a block that hides nothing, its tag being spelled in lower case. -/
def emptyBlock (tag : InlineTag) : List Text :=
  [openingLine tag.name.toList, closingLine tag.name.toList]

theorem trim_bracketed (t : Text) : Text.trim ('<' :: (t ++ ['>'])) = '<' :: (t ++ ['>']) := by
  rw [Text.trim, Text.trimStart_of_head (by decide), ← List.cons_append,
    Text.trimEnd_append_cons (by decide)]
  rfl

@[simp] theorem trim_openingLine (spelling : Text) :
    Text.trim (openingLine spelling) = openingLine spelling :=
  trim_bracketed spelling

@[simp] theorem trim_closingLine (spelling : Text) :
    Text.trim (closingLine spelling) = closingLine spelling :=
  trim_bracketed ('/' :: spelling)

theorem openingLine_inj {spelling' : Text} :
    openingLine spelling = openingLine spelling' ↔ spelling = spelling' := by
  rw [openingLine, openingLine, List.cons_inj_right, List.append_cancel_right_eq]

theorem isLowWord_name (tag : InlineTag) : Text.IsLowWord tag.name.toList := by
  cases tag <;> decide

theorem opened?_openingLine_iff :
    opened? (openingLine spelling) = some tag ↔ Text.lower spelling = tag.name.toList := by
  have hfind : opened? (openingLine spelling) =
      all.find? fun tag => tag.name.toList == Text.lower spelling := by
    show (if (spelling ++ ['>']).getLast? = some '>' then _ else _) = _
    rw [List.getLast?_concat, if_pos rfl, List.dropLast_concat]
  rw [hfind]
  constructor
  · intro h
    have hname : tag.name.toList = Text.lower spelling := by simpa using List.find?_some h
    exact hname.symm
  · intro h
    rw [h]
    cases tag <;> decide

/-- A line that opens a block is a spelling of the tag between brackets. -/
theorem opened?_eq_some_iff {l : Text} :
    opened? l = some tag ↔
      ∃ spelling, l = openingLine spelling ∧ Text.lower spelling = tag.name.toList := by
  constructor
  · intro h
    obtain ⟨rest, rfl⟩ := exists_cons_of_opened? h
    by_cases hlast : rest.getLast? = some '>'
    · obtain ⟨spelling, rfl⟩ := List.getLast?_eq_some_iff.mp hlast
      exact ⟨spelling, rfl, opened?_openingLine_iff.mp h⟩
    · rw [opened?, if_neg hlast] at h
      contradiction
  · rintro ⟨spelling, rfl, h⟩
    exact opened?_openingLine_iff.mpr h

theorem closes_closingLine_iff :
    tag.closes (closingLine spelling) = true ↔
      Text.sameLetters spelling tag.name.toList = true := by
  have hline : "</".toList ++ tag.name.toList ++ ">".toList = closingLine tag.name.toList := rfl
  rw [closes, hline, Text.sameLetters, Text.sameLetters, beq_iff_eq, beq_iff_eq]
  simp [closingLine]

/-- Of the spellings that open a block, those with a sign for kelvin do not close it. -/
theorem closes_iff_of_opens (h : Text.lower spelling = tag.name.toList) :
    tag.closes (closingLine spelling) = true ↔ Text.kelvin ∉ spelling := by
  rw [closes_closingLine_iff, (isLowWord_name tag).sameLetters_iff_lower, and_iff_right h]

/-- The sign for kelvin can only stand for the `k` of a name. -/
theorem eq_of_kelvin (h : Text.lower spelling = tag.name.toList)
    (hsign : Text.kelvin ∈ spelling) : tag = .key ∨ tag = .pkcs12 := by
  have hk : 'k' ∈ tag.name.toList := by
    rw [← (Text.lower_eq_iff (isLowWord_name tag).ascii).mp h]
    exact List.mem_map_of_mem (f := Text.lowerLetter) hsign
  cases tag with
  | key => exact .inl rfl
  | pkcs12 => exact .inr rfl
  | ca | cert | tlsAuth | tlsCrypt | extraCerts => exact absurd hk (by decide)

theorem opened?_openingLine_name (tag : InlineTag) :
    opened? (Text.trim (openingLine tag.name.toList)) = some tag := by
  rw [trim_openingLine, opened?_openingLine_iff]
  exact (isLowWord_name tag).lower_eq_of_sameLetters (beq_self_eq_true _)

theorem closes_closingLine_name (tag : InlineTag) :
    tag.closes (Text.trim (closingLine tag.name.toList)) = true := by
  rw [trim_closingLine, closes_closingLine_iff]
  exact beq_self_eq_true _

end InlineTag

/-! ## Reading a block -/

/-- Whether a block between two lines is read as if some lines stood in its place,
whatever it hides, what has been read before it and what follows. -/
def InlineTag.ReadsAs (tag : InlineTag) (opening closing : Text) (ls : List Text) : Prop :=
  ∀ (r : Reading) (content behind : List Text), r.block = none → tag.Hides content →
    r.run (opening :: (content ++ closing :: behind)) = r.run (ls ++ behind)

section Block
variable {opening : Text} {tag : InlineTag}
  (hopen : InlineTag.opened? (Text.trim opening) = some tag)
include hopen

theorem Reading.run_of_opened? {r : Reading} (hr : r.block = none) (behind : List Text) :
    r.run (opening :: behind) = run ⟨r.settings.applyTag tag, some tag⟩ behind := by
  obtain ⟨s, block⟩ := r
  obtain rfl : block = none := hr
  rw [run_cons, step_of_opened? s hopen, Line.ofText_eq_opening_iff.mpr hopen]
  rfl

/-- A block notes its tag, and its last line alone decides whether the lines behind it
are read. -/
theorem Reading.run_block {r : Reading} (hr : r.block = none) {content : List Text}
    (hcontent : tag.Hides content) (closing : Text) (behind : List Text) :
    r.run (opening :: (content ++ closing :: behind)) =
      run ⟨r.settings.applyTag tag,
        if tag.closes (Text.trim closing) then none else some tag⟩ behind := by
  rw [run_opening hr hopen hcontent, run_of_opened? hopen hr, run_cons, step]
  dsimp only
  split <;> rfl

/-- Lines that note the tag stand for a block if both leave the same block open. -/
theorem InlineTag.readsAs_iff {closing : Text} {ls : List Text} {block : Option InlineTag}
    (hls : ∀ (r : Reading) (behind : List Text), r.block = none →
      r.run (ls ++ behind) = Reading.run ⟨r.settings.applyTag tag, block⟩ behind) :
    tag.ReadsAs opening closing ls ↔
      (if tag.closes (Text.trim closing) then none else some tag) = block := by
  constructor
  · intro h
    -- At the end of a file that ends with the block, what is open can be seen.
    have hrun := h .start [] [] rfl (List.forall_mem_nil _)
    rw [Reading.run_block hopen rfl (List.forall_mem_nil _), hls _ _ rfl] at hrun
    exact congrArg Reading.block hrun
  · intro h r content behind hr hcontent
    rw [Reading.run_block hopen hr hcontent, hls r behind hr, h]

theorem InlineTag.readsAs_emptyBlock_iff {closing : Text} :
    tag.ReadsAs opening closing tag.emptyBlock ↔ tag.closes (Text.trim closing) = true := by
  have hempty : ∀ (r : Reading) (behind : List Text), r.block = none →
      r.run (tag.emptyBlock ++ behind) = Reading.run ⟨r.settings.applyTag tag, none⟩ behind := by
    intro r behind hr
    have hrun := Reading.run_block tag.opened?_openingLine_name hr (List.forall_mem_nil _)
      (closingLine tag.name.toList) behind
    rwa [tag.closes_closingLine_name, if_pos rfl] at hrun
  rw [readsAs_iff hopen hempty]
  cases tag.closes (Text.trim closing) <;> simp

theorem InlineTag.readsAs_opening_iff {closing : Text} :
    tag.ReadsAs opening closing [openingLine tag.name.toList] ↔
      tag.closes (Text.trim closing) = false := by
  have hopened : ∀ (r : Reading) (behind : List Text), r.block = none →
      r.run ([openingLine tag.name.toList] ++ behind) =
        Reading.run ⟨r.settings.applyTag tag, some tag⟩ behind :=
    fun _ behind hr => Reading.run_of_opened? tag.opened?_openingLine_name hr behind
  rw [readsAs_iff hopen hopened]
  cases tag.closes (Text.trim closing) <;> simp

end Block

/-- A line that opens a block spells its tag between brackets.  The line with the same
spelling closes the block, and the block is read as the empty one in lower case,
exactly if no sign for kelvin stands in the spelling.  With such a sign, for which only
the two names with a `k` have room, the block is read as one that has just been
opened. -/
theorem same_spelling_closes_iff {opening : Text} {tag : InlineTag}
    (hopen : InlineTag.opened? (Text.trim opening) = some tag) :
    ∃ spelling, Text.trim opening = InlineTag.openingLine spelling ∧
      (Text.kelvin ∈ spelling → tag = .key ∨ tag = .pkcs12) ∧
      ∀ closing, Text.trim closing = InlineTag.closingLine spelling →
        (tag.closes (Text.trim closing) = true ↔ Text.kelvin ∉ spelling) ∧
        (tag.ReadsAs opening closing tag.emptyBlock ↔ Text.kelvin ∉ spelling) ∧
        (tag.ReadsAs opening closing [InlineTag.openingLine tag.name.toList] ↔
          Text.kelvin ∈ spelling) := by
  obtain ⟨spelling, htrim, hlower⟩ := InlineTag.opened?_eq_some_iff.mp hopen
  refine ⟨spelling, htrim, InlineTag.eq_of_kelvin hlower, fun closing hclosing => ?_⟩
  have hcloses : tag.closes (Text.trim closing) = true ↔ Text.kelvin ∉ spelling := by
    rw [hclosing]
    exact InlineTag.closes_iff_of_opens hlower
  refine ⟨hcloses, (InlineTag.readsAs_emptyBlock_iff hopen).trans hcloses, ?_⟩
  rw [InlineTag.readsAs_opening_iff hopen, ← Bool.not_eq_true, hcloses, not_not]

theorem same_spelling_closes_iff_mixed_case :
    let opening := "\t<PkCs12> ".toList
    let closing := "</PkCs12>".toList
    InlineTag.opened? (Text.trim opening) = some .pkcs12 ∧
      Text.trim closing = InlineTag.closingLine "PkCs12".toList ∧
      InlineTag.pkcs12.closes (Text.trim closing) = true ∧
      InlineTag.pkcs12.ReadsAs opening closing ["<pkcs12>".toList, "</pkcs12>".toList] := by
  intro opening closing
  have hopen : InlineTag.opened? (Text.trim opening) = some .pkcs12 := by decide +kernel
  have hclosing : Text.trim closing = InlineTag.closingLine "PkCs12".toList := by decide +kernel
  obtain ⟨spelling, htrim, -, hspelled⟩ := same_spelling_closes_iff hopen
  have hopening : Text.trim opening = InlineTag.openingLine "PkCs12".toList := by decide +kernel
  have hspelling : "PkCs12".toList = spelling :=
    InlineTag.openingLine_inj.mp (hopening.symm.trans htrim)
  subst hspelling
  have hsign : Text.kelvin ∉ "PkCs12".toList := by decide
  obtain ⟨hcloses, hreads, -⟩ := hspelled closing hclosing
  exact ⟨hopen, hclosing, hcloses.mpr hsign, hreads.mpr hsign⟩

/-- A block that is opened with a sign for kelvin stays open behind the line with the
same spelling, and with it goes the remote. -/
theorem block_with_kelvin_left_open :
    let opening := "<\u212Aey>".toList
    let closing := "</\u212Aey>".toList
    let t : Text := "client\ndev tun\n<\u212Aey>\nx\n</\u212Aey>\nremote a 53\n".toList
    let t' : Text := "client\ndev tun\n<key>\n</key>\nremote a 53\n".toList
    InlineTag.opened? (Text.trim opening) = some .key ∧
      InlineTag.key.closes (Text.trim closing) = false ∧
      ¬ InlineTag.key.ReadsAs opening closing InlineTag.key.emptyBlock ∧
      classify t = .openVPN ∧
      importText t = .error (.parsingFailed .openVPN
        (ExtractError.missingField "'remote' directive" "OpenVPN configuration").message) ∧
      (importText t').toOption.map Profile.server = some "a" := by
  intro opening closing t t'
  have hopen : InlineTag.opened? (Text.trim opening) = some .key := by decide +kernel
  have hcloses : InlineTag.key.closes (Text.trim closing) = false := by decide +kernel
  refine ⟨hopen, hcloses, ?_, ?_⟩
  · rw [InlineTag.readsAs_emptyBlock_iff hopen, hcloses]
    exact Bool.false_ne_true
  · decide +kernel

end OpenVPN
end VpnImport
