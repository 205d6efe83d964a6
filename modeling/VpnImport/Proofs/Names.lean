import VpnImport.Proofs.Keyword
import VpnImport.Proofs.Text.Letters

/-!
# The name on a line

Two readers look at what a line assigns to.  The one that scores trims any white
space around the name and, for a table that ignores case, compares its lower case.
The one that looks values up skips spaces and tabs only and compares the letters
of ASCII.  Both are put in terms of the name, which is what stands before the
first equals sign: `lineHas_iff` and `valueOf?_isSome_iff` differ in what may stand
around it, `lineHas_lower_iff` and `valueOf?_sameLetter_isSome_iff` also in the
letters that pass for its own.
-/

namespace VpnImport

namespace Text

/-- Nothing but spaces and tabs is white space in the text. -/
def PadsOnly (t : Text) : Prop :=
  ∀ c ∈ t, isBlank c = true → isPad c = true

instance (t : Text) : Decidable (PadsOnly t) :=
  inferInstanceAs (Decidable (∀ c ∈ t, isBlank c = true → isPad c = true))

theorem padsOnly_append {a b : Text} : PadsOnly (a ++ b) ↔ PadsOnly a ∧ PadsOnly b :=
  List.forall_mem_append

theorem padsOnly_of_visible {t : Text} (h : ∀ c ∈ t, isBlank c = false) : PadsOnly t := by
  intro c hc hblank
  rw [h c hc] at hblank
  contradiction

theorem all_isPad_iff {t : Text} (h : allBlank t = true) : t.all isPad = true ↔ PadsOnly t := by
  rw [List.all_eq_true]
  exact forall₂_congr fun c hc => by simp [allBlank_iff.mp h c hc]

end Text

namespace Assignment

/-- What stands before the first equals sign of a line. -/
def name (line : Text) : Text :=
  line.takeWhile (· != '=')

/-! ## The name and what surrounds it -/

theorem name_append {n : Text} (h : '=' ∉ n) (value : Text) : name (n ++ '=' :: value) = n :=
  Text.takeWhile_bne_append h value

theorem exists_name {l : Text} (h : '=' ∈ l) : ∃ value, l = name l ++ '=' :: value := by
  obtain ⟨n, value, hl, hn⟩ := List.eq_append_cons_of_mem h
  refine ⟨value, ?_⟩
  conv_rhs => rw [hl, name_append hn]
  exact hl

theorem not_equals_mem_of_allBlank {t : Text} (h : Text.allBlank t = true) : '=' ∉ t :=
  fun hmem => absurd (Text.allBlank_iff.mp h '=' hmem) (by decide)

theorem IsKey.name_line {indent key gap : Text} (hkey : IsKey key)
    (hindent : Text.allBlank indent = true) (hgap : Text.allBlank gap = true) (value : Text) :
    name (line indent key gap value) = indent ++ key ++ gap := by
  rw [line_eq]
  refine name_append ?_ value
  rw [List.mem_append, List.mem_append, not_or, not_or]
  exact ⟨⟨not_equals_mem_of_allBlank hindent, hkey.noEquals⟩, not_equals_mem_of_allBlank hgap⟩

theorem IsKey.trim_name_line {indent key gap : Text} (hkey : IsKey key)
    (hindent : Text.allBlank indent = true) (hgap : Text.allBlank gap = true) (value : Text) :
    Text.trim (name (line indent key gap value)) = key := by
  rw [hkey.name_line hindent hgap]
  exact Text.trim_eq_of_append hindent hgap (fun c hc => hkey.visible c (List.mem_of_head? hc))
    fun c hc => hkey.visible c (List.mem_of_getLast? hc)

/-- Every line with an equals sign is the assignment to its trimmed name. -/
theorem exists_line {l : Text} (h : '=' ∈ l) :
    ∃ indent gap value, l = line indent (Text.trim (name l)) gap value ∧
      name l = indent ++ Text.trim (name l) ++ gap ∧
      Text.allBlank indent = true ∧ Text.allBlank gap = true := by
  obtain ⟨value, hl⟩ := exists_name h
  obtain ⟨indent, gap, hname, hindent, hgap⟩ := Text.exists_trim (name l)
  refine ⟨indent, gap, value, ?_, hname, hindent, hgap⟩
  rw [line_eq, ← hname]
  exact hl

theorem equals_mem_line (indent key gap value : Text) : '=' ∈ line indent key gap value := by
  simp [line]

theorem mem_lower_iff {l : Text} : '=' ∈ l.lower ↔ '=' ∈ l := by
  constructor
  · exact (Text.fixed_of_isLow (by decide)).mem_of_mem_lower
  · intro h
    obtain ⟨value, hl⟩ := exists_name h
    rw [hl, Text.lower_append Text.divides_equals]
    simp

theorem name_lower {l : Text} (h : '=' ∈ l) : name l.lower = Text.lower (name l) := by
  obtain ⟨value, hl⟩ := exists_name h
  have hname : '=' ∉ Text.lower (name l) := by
    intro hmem
    have hin := (Text.fixed_of_isLow (by decide)).mem_of_mem_lower hmem
    exact absurd (List.all_eq_true.mp (List.all_takeWhile (p := (· != '='))) '=' hin) (by decide)
  conv_lhs => rw [hl, Text.lower_append Text.divides_equals, name_append hname]

/-! ## Looking a value up -/

/-- A line gives a value for a key when its name matches the key, with nothing
but spaces and tabs around it. -/
theorem valueOf?_isSome_iff_of_isKey {same : Char → Char → Bool} {key l : Text}
    (hname : ∀ w, Text.after? same key w = some [] → IsKey w) :
    (valueOf? same key l).isSome = true ↔
      '=' ∈ l ∧ Text.after? same key (Text.trim (name l)) = some [] ∧
        Text.PadsOnly (name l) := by
  rw [Option.isSome_iff_exists]
  constructor
  · rintro ⟨value, hvalue⟩
    obtain ⟨indent, w, gap, rfl, hw, hindent, hgap⟩ :=
      (valueOf?_eq_some_iff_exists hname).mp hvalue
    have hi := Text.allBlank_of_all_isPad hindent
    have hg := Text.allBlank_of_all_isPad hgap
    have hkey := hname w hw
    refine ⟨equals_mem_line _ _ _ _, ?_, ?_⟩
    · rw [hkey.trim_name_line hi hg]
      exact hw
    · rw [hkey.name_line hi hg, Text.padsOnly_append, Text.padsOnly_append]
      exact ⟨⟨(Text.all_isPad_iff hi).mp hindent, Text.padsOnly_of_visible hkey.visible⟩,
        (Text.all_isPad_iff hg).mp hgap⟩
  · rintro ⟨hl, hw, hpads⟩
    obtain ⟨indent, gap, value, hline, hparts, hindent, hgap⟩ := exists_line hl
    rw [hparts, Text.padsOnly_append, Text.padsOnly_append] at hpads
    obtain ⟨⟨hi, -⟩, hg⟩ := hpads
    exact ⟨value, (valueOf?_eq_some_iff_exists hname).mpr ⟨indent, _, gap, hline, hw,
      (Text.all_isPad_iff hindent).mpr hi, (Text.all_isPad_iff hgap).mpr hg⟩⟩

theorem valueOf?_isSome_iff {key l : Text} (hkey : IsKey key) :
    (valueOf? (· == ·) key l).isSome = true ↔
      '=' ∈ l ∧ Text.trim (name l) = key ∧ Text.PadsOnly (name l) := by
  have hmatch : ∀ w, Text.after? (· == ·) key w = some [] ↔ w = key := by
    intro w
    rw [Text.after?_eq_some_iff, List.append_nil]
  rw [valueOf?_isSome_iff_of_isKey fun w hw => (hmatch w).mp hw ▸ hkey, hmatch]

theorem IsKey.of_sameLetters {key w : Text} (hkey : IsKey key) (hlow : Text.IsLowWord key)
    (h : Text.sameLetters w key = true) : IsKey w := by
  have hletters : w.map Char.toLower = key := hlow.sameLetters_iff.mp h
  refine ⟨fun hnil => ?_, hlow.visible_of_sameLetters h, fun hequals => ?_⟩
  · rw [hnil] at hletters
    exact hkey.ne_nil hletters.symm
  · have hmem : '='.toLower ∈ key := hletters ▸ List.mem_map_of_mem hequals
    exact hkey.noEquals hmem

/-- Without regard to ASCII case, a line gives a value for a key when the lower
case of its name is the key, no sign for kelvin being among its letters, with
nothing but spaces and tabs around it. -/
theorem valueOf?_sameLetter_isSome_iff {key l : Text} (hkey : IsKey key)
    (hlow : Text.IsLowWord key) :
    (valueOf? Text.sameLetter key l).isSome = true ↔
      '=' ∈ l ∧ Text.lower (Text.trim (name l)) = key ∧ Text.PadsOnly (name l) ∧
        Text.kelvin ∉ name l := by
  rw [valueOf?_isSome_iff_of_isKey fun w hw =>
      hkey.of_sameLetters hlow (Text.after?_sameLetter_iff.mp hw),
    Text.after?_sameLetter_iff, hlow.sameLetters_iff_lower]
  have hmem : Text.kelvin ∈ Text.trim (name l) ↔ Text.kelvin ∈ name l :=
    ⟨fun h => Text.trim_subset _ h, fun h => Text.mem_trim h (by decide)⟩
  rw [hmem]
  tauto

theorem valueOf?_lower {key l value : Text} (hkey : IsKey key) (hlow : Text.IsLowWord key)
    (h : valueOf? Text.sameLetter key l = some value) :
    valueOf? (· == ·) key l.lower = some value.lower := by
  have hname : ∀ w, Text.after? Text.sameLetter key w = some [] → IsKey w :=
    fun w hw => hkey.of_sameLetters hlow (Text.after?_sameLetter_iff.mp hw)
  obtain ⟨indent, w, gap, rfl, hw, hindent, hgap⟩ := (valueOf?_eq_some_iff_exists hname).mp h
  refine (valueOf?_eq_some_iff hkey).mpr ⟨indent, gap, ?_, hindent, hgap⟩
  have hlower : Text.lower w = key :=
    hlow.lower_eq_of_sameLetters (Text.after?_sameLetter_iff.mp hw)
  rw [line_eq, line_eq, Text.lower_append Text.divides_equals,
    Text.lower_append_blank (Text.allBlank_of_all_isPad hgap),
    Text.lower_blank_append (Text.allBlank_of_all_isPad hindent), hlower]

end Assignment

/-! ## Counting a keyword -/

namespace KeywordSet
variable {key l : Text} (hkey : Assignment.IsKey key)
include hkey

/-- A line counts for a keyword when the keyword is its name, up to the white
space around it. -/
theorem lineHas_iff :
    lineHas .assignment key l = true ↔ '=' ∈ l ∧ Text.trim (Assignment.name l) = key := by
  constructor
  · intro h
    unfold lineHas at h
    split at h
    · contradiction
    · rename_i rest hrest
      rw [Text.isPrefixOf?_eq_after?, Text.after?_eq_some_iff] at hrest
      obtain ⟨value, hvalue⟩ := List.head?_eq_some_iff.mp (eq_of_beq h)
      have hl : l = Assignment.line (l.takeWhile Text.isBlank) key (rest.takeWhile Text.isBlank)
          value := by
        rw [Assignment.line, ← hvalue, Text.trimStart, List.takeWhile_append_dropWhile, ← hrest,
          Text.trimStart, List.takeWhile_append_dropWhile]
      rw [hl]
      exact ⟨Assignment.equals_mem_line _ _ _ _,
        hkey.trim_name_line List.all_takeWhile List.all_takeWhile value⟩
  · rintro ⟨hl, htrim⟩
    obtain ⟨indent, gap, value, hline, -, hindent, hgap⟩ := Assignment.exists_line hl
    rw [hline, htrim]
    exact lineHas_line hkey hindent hgap value

/-- A line in lower case counts for a keyword when the keyword is the lower case
of its name, up to the white space around it. -/
theorem lineHas_lower_iff :
    lineHas .assignment key l.lower = true ↔
      '=' ∈ l ∧ Text.lower (Text.trim (Assignment.name l)) = key := by
  rw [lineHas_iff hkey, Assignment.mem_lower_iff]
  refine and_congr_right fun hl => ?_
  rw [Assignment.name_lower hl, Text.trim_lower]

end KeywordSet
end VpnImport
