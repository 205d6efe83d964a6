import Mathlib.Data.List.Nodup
import VpnImport.Classification
import VpnImport.Proofs.Names
import VpnImport.Proofs.Text.Content
import VpnImport.Proofs.Text.Foreign
import VpnImport.Proofs.Text.Words

/-!
# What a score counts

A line offers one word to a table of keywords: its first word, or what it assigns to.  The
line counts for this word and for no other (`OfWords.lineHas_iff_offered`), so a score is no
larger than the number of lines that are not blank.  Which keywords are found depends on
which words are offered and on nothing else, so the keywords found in texts that are put
together are those found in one of them: `OfWords.mem_found_append` and
`OfWords.mem_found_intercalate`.
-/

namespace VpnImport
namespace KeywordSet

/-- A table of words that a line can offer. -/
structure OfWords (s : KeywordSet) : Prop where
  ne_nil : ∀ k ∈ s.keywords, k.toList ≠ []
  visible : ∀ k ∈ s.keywords, ∀ c ∈ k.toList, Text.isBlank c = false
  noEquals : s.mode = .assignment → ∀ k ∈ s.keywords, '=' ∉ k.toList

theorem ofWords_iff {s : KeywordSet} : s.OfWords ↔
    ∀ k ∈ s.keywords, k.toList ≠ [] ∧ k.toList.any Text.isBlank = false ∧
      (s.mode = .assignment → '=' ∉ k.toList) := by
  constructor
  · intro hs k hk
    exact ⟨hs.ne_nil k hk, List.any_eq_false.mpr fun c hc => by simp [hs.visible k hk c hc],
      fun hmode => hs.noEquals hmode k hk⟩
  · intro h
    exact ⟨fun k hk => (h k hk).1,
      fun k hk c hc => Bool.eq_false_iff.mpr (List.any_eq_false.mp (h k hk).2.1 c hc),
      fun hmode k hk => (h k hk).2.2 hmode⟩

instance (s : KeywordSet) : Decidable s.OfWords :=
  decidable_of_iff _ ofWords_iff.symm

/-- The word that a line offers, if there is one. -/
def offered? : KeywordMode → Text → Option Text
  | .directive, l => (Text.words l).head?
  | .assignment, l => if '=' ∈ l then some (Text.trim (Assignment.name l)) else none

theorem offered?_return (mode : KeywordMode) (row : Text) :
    offered? mode (row ++ ['\r']) = offered? mode row := by
  cases mode with
  | directive => rw [offered?, offered?, Text.words_append_blank (by decide)]
  | assignment =>
    by_cases hmem : '=' ∈ row
    · obtain ⟨n, value, rfl, hn⟩ := List.eq_append_cons_of_mem hmem
      rw [offered?, offered?, List.append_assoc, List.cons_append, Assignment.name_append hn,
        Assignment.name_append hn]
      simp
    · simp [offered?, hmem]

theorem offered?_of_allBlank (mode : KeywordMode) {l : Text} (hl : Text.allBlank l = true) :
    offered? mode l = none := by
  cases mode with
  | directive =>
    rw [offered?, Text.words_eq_nil_iff.mpr hl]
    rfl
  | assignment => rw [offered?, if_neg (Assignment.not_equals_mem_of_allBlank hl)]

/-- A line has a keyword as a directive when the keyword is its first word. -/
theorem lineHas_directive_iff {k l : Text} (hne : k ≠ [])
    (hvisible : ∀ c ∈ k, Text.isBlank c = false) :
    lineHas .directive k l = true ↔ (Text.words l).head? = some k := by
  have hwords : Text.words l = Text.words (Text.trimStart l) := by
    conv_lhs => rw [← List.takeWhile_append_dropWhile (p := Text.isBlank) (l := l)]
    exact Text.words_blank_append List.all_takeWhile _
  rw [hwords, lineHas, Text.isPrefixOf?_eq_after?]
  constructor
  · intro h
    split at h
    · contradiction
    · rename_i rest hrest
      rw [Text.after?_eq_some_iff.mp hrest, Text.words_append hne hvisible h]
      rfl
  · intro h
    rcases Text.trimStart_cases l with hnil | ⟨c, s, hcons, hc⟩
    · rw [hnil] at h
      contradiction
    · obtain ⟨behind, hsplit, hword, hbehind⟩ := Text.exists_upToBlank (Text.trimStart l)
      have hfirst : Text.upToBlank (Text.trimStart l) ≠ [] := by
        rw [hcons, Text.upToBlank, List.takeWhile_cons_of_pos (by simp [hc])]
        exact List.cons_ne_nil _ _
      -- The first word goes up to white space, so what is behind it starts with some or is empty.
      have hk : Text.upToBlank (Text.trimStart l) = k := by
        rw [hsplit, Text.words_append hfirst hword hbehind] at h
        exact Option.some.inj h
      rw [hk] at hsplit
      rw [hsplit, Text.after?_append]
      exact hbehind

/-! ## The tables of the dialects -/

/-- The tables of the dialects are tables of words, without repetitions. -/
theorem ofWords_of_mem_detectors :
    ∀ d ∈ Classification.detectors, d.keywordSet.OfWords ∧ d.keywordSet.keywords.Nodup := by
  decide

/-! ## What is found -/

theorem found_eq_filter (s : KeywordSet) (t : Text) :
    s.found t = s.keywords.filter fun k => k ∈ s.found t := by
  refine List.filter_congr fun k hk => ?_
  rw [Bool.eq_iff_iff, decide_eq_true_iff, found, List.mem_filter, and_iff_right hk]

theorem hits_eq_countP (s : KeywordSet) (t : Text) :
    s.hits t = s.keywords.countP fun k => k ∈ s.found t := by
  rw [List.countP_eq_length_filter, ← found_eq_filter, hits]

/-- The table gives the order, so what is found is a matter of membership. -/
theorem found_sublist {s : KeywordSet} {t t' : Text} (h : s.found t ⊆ s.found t') :
    (s.found t).Sublist (s.found t') := by
  rw [found_eq_filter s t, found_eq_filter s t']
  exact List.monotone_filter_right s.keywords fun k hk => by simpa using h (by simpa using hk)

section OfWords
variable {s : KeywordSet} (hs : s.OfWords)
include hs

/-- A line has the keyword that it offers and no other. -/
theorem OfWords.lineHas_iff_offered {k : String} (hk : k ∈ s.keywords) (l : Text) :
    lineHas s.mode k.toList l = true ↔ offered? s.mode l = some k.toList := by
  cases hmode : s.mode with
  | directive => exact lineHas_directive_iff (hs.ne_nil k hk) (hs.visible k hk)
  | assignment =>
    have hkey : Assignment.IsKey k.toList :=
      ⟨hs.ne_nil k hk, hs.visible k hk, hs.noEquals hmode k hk⟩
    rw [lineHas_iff hkey, offered?]
    split <;> simp [*]

theorem OfWords.mem_found_iff {k : String} {t : Text} :
    k ∈ s.found t ↔ k ∈ s.keywords ∧ ∃ l ∈ Text.lines t, offered? s.mode l = some k.toList := by
  rw [found, List.mem_filter, List.any_eq_true]
  exact and_congr_right fun hk => exists_congr fun l =>
    and_congr_right fun _ => hs.lineHas_iff_offered hk l

theorem OfWords.eq_of_lineHas {k k' : String} (hk : k ∈ s.keywords) (hk' : k' ∈ s.keywords)
    {l : Text} (h : lineHas s.mode k.toList l = true) (h' : lineHas s.mode k'.toList l = true) :
    k = k' := by
  have hoffered := (hs.lineHas_iff_offered hk l).mp h
  rw [(hs.lineHas_iff_offered hk' l).mp h'] at hoffered
  exact (String.toList_injective (Option.some.inj hoffered)).symm

/-- What is found in one text put before another is what is found in one of the two. -/
theorem OfWords.mem_found_append {k : String} {a b : Text} :
    k ∈ s.found (a ++ '\n' :: b) ↔ k ∈ s.found a ∨ k ∈ s.found b := by
  simp only [found, List.mem_filter]
  rw [← and_or_left]
  refine and_congr_right fun hk => ?_
  have hreturn (row : Text) :
      lineHas s.mode k.toList (row ++ ['\r']) = lineHas s.mode k.toList row := by
    rw [Bool.eq_iff_iff, hs.lineHas_iff_offered hk, hs.lineHas_iff_offered hk, offered?_return]
  have hnil : lineHas s.mode k.toList [] = false := by
    rw [← Bool.not_eq_true, hs.lineHas_iff_offered hk, offered?_of_allBlank s.mode rfl]
    simp
  rw [Text.any_lines_append hreturn hnil, Bool.or_eq_true]

/-- A keyword is found in texts that are put together if it is found in one of them. -/
theorem OfWords.mem_found_intercalate {k : String} {rows : List Text} :
    k ∈ s.found (List.intercalate ['\n'] rows) ↔ ∃ row ∈ rows, k ∈ s.found row := by
  induction rows with
  | nil =>
    constructor
    · intro hk
      obtain ⟨-, l, hl, -⟩ := hs.mem_found_iff.mp hk
      contradiction
    · simp
  | cons row rows ih =>
    cases rows with
    | nil => simp
    | cons next rows =>
      rw [List.intercalate_cons_cons, List.append_assoc, List.singleton_append,
        hs.mem_found_append, ih]
      simp

/-! ## What a score counts -/

/-- Every keyword that is found is offered by a line of its own. -/
theorem OfWords.hits_le (hnodup : s.keywords.Nodup) (t : Text) :
    s.hits t ≤ (Text.contentLines t).length := by
  have hfound : ((s.found t).map String.toList).Nodup :=
    (hnodup.filter _).map fun _ _ => String.toList_injective
  have hsubset : (s.found t).map String.toList ⊆
      (Text.contentLines t).filterMap (offered? s.mode) := by
    intro w hw
    obtain ⟨k, hk, rfl⟩ := List.mem_map.mp hw
    rw [Text.filterMap_contentLines fun l => offered?_of_allBlank s.mode, List.mem_filterMap]
    exact (hs.mem_found_iff.mp hk).2
  calc s.hits t
      = ((s.found t).map String.toList).length := (List.length_map _).symm
    _ ≤ ((Text.contentLines t).filterMap (offered? s.mode)).length :=
        hfound.length_le_of_subset hsubset
    _ ≤ (Text.contentLines t).length := List.length_filterMap_le _ _

theorem OfWords.hits_intercalate_le {rows rows' : List Text} (h : rows ⊆ rows') :
    s.hits (List.intercalate ['\n'] rows) ≤ s.hits (List.intercalate ['\n'] rows') := by
  refine (found_sublist fun k hk => ?_).length_le
  obtain ⟨row, hrow, hfound⟩ := hs.mem_found_intercalate.mp hk
  exact hs.mem_found_intercalate.mpr ⟨row, h hrow, hfound⟩

theorem OfWords.hits_append_of_mem_lines {t l : Text} (hl : l ∈ Text.lines t) :
    s.hits (t ++ '\n' :: l) = s.hits t := by
  have hrow : ∀ l' ∈ Text.lines l, l' = l := by
    rw [Text.lines_row (Text.not_mem_feed_of_mem_lines hl)]
    simp
  have hsubset : s.found l ⊆ s.found t := by
    intro k hk
    obtain ⟨hk, l', hl', hoffered⟩ := hs.mem_found_iff.mp hk
    exact hs.mem_found_iff.mpr ⟨hk, l, hl, hrow l' hl' ▸ hoffered⟩
  refine Nat.le_antisymm (found_sublist fun k hk => ?_).length_le
    (found_sublist fun k hk => hs.mem_found_append.mpr (.inl hk)).length_le
  exact (hs.mem_found_append.mp hk).elim id fun hk => hsubset hk

/-- A score counts lines.  It is the number of keywords of the table that some line
offers, which is what it takes for the line to have the keyword.  No line has two, so
that the score of a table without repetitions is no larger than the number of lines that
are not blank.  Of two texts put one before the other, the keywords found are those found
in either, in the order of the table; a row that is there already adds nothing, and one
that is new takes nothing away. -/
theorem score_counts_lines :
    (∀ l, ∀ k ∈ s.keywords,
      lineHas s.mode k.toList l = true ↔ offered? s.mode l = some k.toList) ∧
    (∀ t k, k ∈ s.found t ↔
      k ∈ s.keywords ∧ ∃ l ∈ Text.lines t, offered? s.mode l = some k.toList) ∧
    (∀ t, s.hits t = s.keywords.countP fun k => k ∈ s.found t) ∧
    (∀ l, ∀ k ∈ s.keywords, ∀ k' ∈ s.keywords, lineHas s.mode k.toList l = true →
      lineHas s.mode k'.toList l = true → k = k') ∧
    (s.keywords.Nodup → ∀ t, s.hits t ≤ (Text.contentLines t).length) ∧
    (∀ a b, s.found (a ++ '\n' :: b) =
      s.keywords.filter fun k => k ∈ s.found a ∨ k ∈ s.found b) ∧
    (∀ t, ∀ l ∈ Text.lines t, s.hits (t ++ '\n' :: l) = s.hits t) ∧
    (∀ a b, s.hits a ≤ s.hits (a ++ '\n' :: b) ∧ s.hits b ≤ s.hits (a ++ '\n' :: b)) ∧
    ∀ rows rows' : List Text, rows ⊆ rows' →
      s.hits (List.intercalate ['\n'] rows) ≤ s.hits (List.intercalate ['\n'] rows') := by
  refine ⟨fun l k hk => hs.lineHas_iff_offered hk l, fun t k => hs.mem_found_iff,
    s.hits_eq_countP, fun l k hk k' hk' h h' => hs.eq_of_lineHas hk hk' h h', hs.hits_le,
    fun a b => ?_, fun t l hl => hs.hits_append_of_mem_lines hl, fun a b => ⟨?_, ?_⟩,
    fun rows rows' h => hs.hits_intercalate_le h⟩
  · rw [found_eq_filter]
    simp only [hs.mem_found_append]
  · exact (found_sublist fun k hk => hs.mem_found_append.mpr (.inl hk)).length_le
  · exact (found_sublist fun k hk => hs.mem_found_append.mpr (.inr hk)).length_le

end OfWords

/-- A line for `remote-cert-tls` does not count for `remote`, and one for `leftid` does not
count for `left`. -/
theorem score_counts_lines_dialects :
    (OpenVPN.keywordSet.OfWords ∧ OpenVPN.keywordSet.keywords.Nodup ∧
      lineHas .directive "remote-cert-tls".toList "remote-cert-tls server".toList = true ∧
      lineHas .directive "remote".toList "remote-cert-tls server".toList = false ∧
      OpenVPN.keywordSet.hits "client\n\nremote-cert-tls server\r\n".toList ≤ 2) ∧
    IKEv2.keywordSet.OfWords ∧
      lineHas .assignment "leftid".toList " leftid = @moon".toList = true ∧
      lineHas .assignment "left".toList " leftid = @moon".toList = false := by
  obtain ⟨hopenVPN, hnodup⟩ :=
    ofWords_of_mem_detectors OpenVPN.detector (by simp [Classification.detectors])
  obtain ⟨hikev2, -⟩ :=
    ofWords_of_mem_detectors IKEv2.detector (by simp [Classification.detectors])
  have htls : lineHas .directive "remote-cert-tls".toList "remote-cert-tls server".toList = true :=
    by decide
  have hid : lineHas .assignment "leftid".toList " leftid = @moon".toList = true := by decide
  refine ⟨⟨hopenVPN, hnodup, htls, Bool.eq_false_iff.mpr fun hremote => ?_, ?_⟩, hikev2, hid,
    Bool.eq_false_iff.mpr fun hleft => ?_⟩
  · have heq := (score_counts_lines hopenVPN).2.2.2.1 _ "remote" (by decide) "remote-cert-tls"
      (by decide) hremote htls
    exact absurd heq (by decide)
  · exact (score_counts_lines hopenVPN).2.2.2.2.1 hnodup _
  · have heq := (score_counts_lines hikev2).2.2.2.1 _ "left" (by decide) "leftid" (by decide)
      hleft hid
    exact absurd heq (by decide)

end KeywordSet
end VpnImport
