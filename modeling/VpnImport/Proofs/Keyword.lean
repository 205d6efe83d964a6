import VpnImport.Keyword
import VpnImport.Proofs.Assignment

/-!
# Keywords on a line

A line that assigns to a key has the key as a keyword, whatever white space
stands around it, and no keyword is looked for behind the first equals sign.
-/

namespace VpnImport
namespace KeywordSet

theorem lineHas_line {indent key gap : Text} (hkey : Assignment.IsKey key)
    (hindent : Text.allBlank indent = true) (hgap : Text.allBlank gap = true) (value : Text) :
    lineHas .assignment key (Assignment.line indent key gap value) = true := by
  rw [lineHas, hkey.trimStart_line hindent, Text.isPrefixOf?_eq_after?, Text.after?_append]
  show ((Text.trimStart (gap ++ '=' :: value)).head? == some '=') = true
  rw [Text.trimStart_blank_append hgap, Text.trimStart_of_head (by decide)]
  rfl

/-- A line that gives a value for a key counts for the key. -/
theorem lineHas_of_valueOf? {key line value : Text} (hkey : Assignment.IsKey key)
    (h : Assignment.valueOf? (· == ·) key line = some value) :
    lineHas .assignment key line = true := by
  obtain ⟨indent, gap, rfl, hindent, hgap⟩ := (Assignment.valueOf?_eq_some_iff hkey).mp h
  exact lineHas_line hkey (Text.allBlank_of_all_isPad hindent) (Text.allBlank_of_all_isPad hgap)
    value

theorem lineHas_equals {mode : KeywordMode} {keyword : Text} (h : '=' ∉ keyword) (a t t' : Text) :
    lineHas mode keyword (a ++ '=' :: t) = lineHas mode keyword (a ++ '=' :: t') := by
  rw [lineHas, lineHas, Text.trimStart_append_cons (by decide),
    Text.trimStart_append_cons (by decide), Text.isPrefixOf?_eq_after?,
    Text.isPrefixOf?_eq_after?, Text.after?_append_cons_of_not_mem h,
    Text.after?_append_cons_of_not_mem h]
  cases Text.after? (· == ·) keyword (Text.trimStart a) with
  | none => rfl
  | some rest =>
    cases mode with
    | directive =>
      show (rest ++ '=' :: t).head?.all _ = (rest ++ '=' :: t').head?.all _
      rw [Text.head?_append_cons rest '=' t t']
    | assignment =>
      show ((Text.trimStart (rest ++ '=' :: t)).head? == some '=') =
        ((Text.trimStart (rest ++ '=' :: t')).head? == some '=')
      rw [Text.trimStart_append_cons (by decide), Text.trimStart_append_cons (by decide),
        Text.head?_append_cons (Text.trimStart rest) '=' t t']

/-- A word that has an argument is a directive of its line. -/
theorem lineHas_of_hasArgument {c : Char} {word line : Text} (hc : Text.isBlank c = false)
    (h : LineShape.hasArgument (c :: word) line = true) :
    lineHas .directive (c :: word) line = true := by
  unfold LineShape.hasArgument LineShape.afterWord? at h
  split at h
  · contradiction
  · rename_i rest hrest
    obtain ⟨p, hp, hpad⟩ := (Option.any_eq_true _ _).mp (Bool.and_eq_true_iff.mp h).1
    rw [Text.isPrefixOf?_eq_after?, Text.after?_eq_some_iff] at hrest
    obtain ⟨pads, hline, hpads⟩ := Text.exists_skipPads line
    have htrim : Text.trimStart line = c :: word ++ rest := by
      rw [hline, hrest, Text.trimStart_blank_append (Text.allBlank_of_all_isPad hpads),
        List.cons_append, Text.trimStart_of_head hc]
    rw [lineHas, htrim, Text.isPrefixOf?_eq_after?, Text.after?_append]
    show rest.head?.all Text.isBlank = true
    rw [hp]
    exact Text.isBlank_of_isPad hpad

/-! ## The score -/

variable {s : KeywordSet} {t : Text}

/-- Keywords that stand in the table and in the text are found. -/
theorem sublist_found {ks : List String} (hks : ks.Sublist s.keywords)
    (h : ∀ k ∈ ks, s.contains t k = true) : ks.Sublist (s.found t) := by
  have hfilter : ks.filter (s.contains t) = ks := List.filter_eq_self.mpr h
  rw [← hfilter]
  exact hks.filter (s.contains t)

theorem length_found_le (s : KeywordSet) (t : Text) :
    (s.found t).length ≤ s.keywords.length :=
  List.length_filter_le _ _

/-- A value that is looked up in lines of the text counts for its key. -/
theorem contains_of_lineValue {body : Text} {key : String} (hmode : s.mode = .assignment)
    (hkey : Assignment.IsKey key.toList) (hbody : Text.lines body ⊆ Text.lines t)
    (h : Assignment.lineValue body key.toList ≠ []) : s.contains t key = true := by
  obtain ⟨line, hline, value, hvalue⟩ := Assignment.exists_of_lineValue_ne_nil h
  rw [contains, List.any_eq_true, hmode]
  exact ⟨line, hbody hline, lineHas_of_valueOf? hkey hvalue⟩

end KeywordSet
end VpnImport
