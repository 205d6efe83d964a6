import VpnImport.Importer
import VpnImport.Proofs.Names
import VpnImport.Proofs.WireGuard.Extraction

/-!
# What counts and what is looked up

A keyword that counts for a dialect need not be visible to the lookup of its
extractor.  The keyword is found on the lines that name it, up to white space and
up to case where the table ignores it; the lookup accepts those of them whose names
are plain.  So whatever is looked up has been counted, and the two agree on a text
exactly when every keyword that a line names is named by a plain line too:
`scored_iff_looked_up`.
-/

namespace VpnImport
namespace KeywordSet

/-- A line names a keyword when the keyword is its name, without the white space
around it and in lower case if the table ignores case. -/
def Names (s : KeywordSet) (k : String) (l : Text) : Prop :=
  '=' ∈ l ∧ s.prepare (Text.trim (Assignment.name l)) = k.toList

/-- The name of a line is plain when no white space but spaces and tabs stands in
it and, if the table ignores case, no sign for kelvin. -/
def PlainName (s : KeywordSet) (l : Text) : Prop :=
  Text.PadsOnly (Assignment.name l) ∧ (s.caseSensitive = false → Text.kelvin ∉ Assignment.name l)

/-- A table of names that lines assign to. -/
structure OfNames (s : KeywordSet) : Prop where
  mode : s.mode = .assignment
  isKey : ∀ k ∈ s.keywords, Assignment.IsKey k.toList

section OfNames
variable {s : KeywordSet} (hs : s.OfNames) {k : String} (hk : k ∈ s.keywords)
include hs hk

theorem mem_found_prepare_iff {t : Text} :
    k ∈ s.found (s.prepare t) ↔ ∃ l ∈ Text.lines t, s.Names k l := by
  rw [found, List.mem_filter, and_iff_right hk, hs.mode]
  unfold Names prepare
  split
  · rw [List.any_eq_true]
    simp only [lineHas_iff (hs.isKey k hk)]
  · rw [Text.lines_lower, List.any_map, List.any_eq_true]
    simp only [Function.comp, lineHas_lower_iff (hs.isKey k hk)]

variable {same : Char → Char → Bool}
  (hsame : ∀ l, (Assignment.valueOf? same k.toList l).isSome = true ↔ s.Names k l ∧ s.PlainName l)
include hsame

theorem mem_found_of_valueOf? {t : Text}
    (h : ∃ l ∈ Text.lines t, (Assignment.valueOf? same k.toList l).isSome = true) :
    k ∈ s.found (s.prepare t) := by
  obtain ⟨l, hl, hvalue⟩ := h
  exact (mem_found_prepare_iff hs hk).mpr ⟨l, hl, ((hsame l).mp hvalue).1⟩

/-- Counting a keyword and looking it up agree when a line that names it with a
plain name stands beside those that do not. -/
theorem agree_iff {t : Text} :
    (k ∈ s.found (s.prepare t) ↔
        ∃ l ∈ Text.lines t, (Assignment.valueOf? same k.toList l).isSome = true) ↔
      ((∃ l ∈ Text.lines t, s.Names k l) →
        ∃ l ∈ Text.lines t, s.Names k l ∧ s.PlainName l) := by
  have hlook : (∃ l ∈ Text.lines t, (Assignment.valueOf? same k.toList l).isSome = true) ↔
      ∃ l ∈ Text.lines t, s.Names k l ∧ s.PlainName l := by
    simp only [hsame]
  rw [mem_found_prepare_iff hs hk, hlook]
  constructor
  · exact fun h => h.mp
  · exact fun h => ⟨h, fun ⟨l, hl, hnames, _⟩ => ⟨l, hl, hnames⟩⟩

end OfNames

end KeywordSet

/-! ## The two tables -/

theorem WireGuard.ofNames : WireGuard.keywordSet.OfNames :=
  ⟨rfl, fun _ => WireGuard.isKey_of_mem⟩

theorem IKEv2.isLowWord : ∀ k ∈ IKEv2.keywordSet.keywords, Text.IsLowWord k.toList := by
  decide +kernel

theorem IKEv2.ofNames : IKEv2.keywordSet.OfNames where
  mode := rfl
  isKey k hk :=
    { ne_nil := (by decide : ∀ k ∈ IKEv2.keywordSet.keywords, k.toList ≠ []) k hk
      visible := (IKEv2.isLowWord k hk).visible
      noEquals := (by decide : ∀ k ∈ IKEv2.keywordSet.keywords, '=' ∉ k.toList) k hk }

theorem WireGuard.valueOf?_isSome_iff {k : String} (hk : k ∈ WireGuard.keywordSet.keywords)
    (l : Text) : (Assignment.valueOf? (· == ·) k.toList l).isSome = true ↔
      WireGuard.keywordSet.Names k l ∧ WireGuard.keywordSet.PlainName l := by
  rw [Assignment.valueOf?_isSome_iff (WireGuard.ofNames.isKey k hk), ← and_assoc]
  refine and_congr_right fun _ => ?_
  rw [KeywordSet.PlainName, and_iff_left]
  intro hcase
  contradiction

theorem IKEv2.valueOf?_isSome_iff {k : String} (hk : k ∈ IKEv2.keywordSet.keywords) (l : Text) :
    (Assignment.valueOf? Text.sameLetter k.toList l).isSome = true ↔
      IKEv2.keywordSet.Names k l ∧ IKEv2.keywordSet.PlainName l := by
  rw [Assignment.valueOf?_sameLetter_isSome_iff (IKEv2.ofNames.isKey k hk)
    (IKEv2.isLowWord k hk), ← and_assoc]
  refine and_congr_right fun _ => ?_
  rw [KeywordSet.PlainName, show IKEv2.keywordSet.caseSensitive = false from rfl,
    forall_prop_of_true rfl]

/-- Whatever the lookups of the extractors accept counts for detection.  The
converse holds on the texts in which every keyword that a line names is also named
by a line whose name is plain. -/
theorem scored_iff_looked_up (t : Text) :
    (∀ k ∈ WireGuard.keywordSet.keywords,
      (∃ l ∈ Text.lines t, (Assignment.valueOf? (· == ·) k.toList l).isSome = true) →
        k ∈ WireGuard.keywordSet.found (WireGuard.keywordSet.prepare t)) ∧
    (∀ k ∈ IKEv2.keywordSet.keywords,
      (∃ l ∈ Text.lines t, (Assignment.valueOf? Text.sameLetter k.toList l).isSome = true) →
        k ∈ IKEv2.keywordSet.found (IKEv2.keywordSet.prepare t)) ∧
    (((∀ k ∈ WireGuard.keywordSet.keywords,
        (k ∈ WireGuard.keywordSet.found (WireGuard.keywordSet.prepare t) ↔
          ∃ l ∈ Text.lines t, (Assignment.valueOf? (· == ·) k.toList l).isSome = true)) ∧
      (∀ k ∈ IKEv2.keywordSet.keywords,
        (k ∈ IKEv2.keywordSet.found (IKEv2.keywordSet.prepare t) ↔
          ∃ l ∈ Text.lines t, (Assignment.valueOf? Text.sameLetter k.toList l).isSome = true))) ↔
    ((∀ k ∈ WireGuard.keywordSet.keywords,
        (∃ l ∈ Text.lines t, WireGuard.keywordSet.Names k l) →
          ∃ l ∈ Text.lines t,
            WireGuard.keywordSet.Names k l ∧ WireGuard.keywordSet.PlainName l) ∧
      (∀ k ∈ IKEv2.keywordSet.keywords,
        (∃ l ∈ Text.lines t, IKEv2.keywordSet.Names k l) →
          ∃ l ∈ Text.lines t, IKEv2.keywordSet.Names k l ∧ IKEv2.keywordSet.PlainName l))) := by
  refine ⟨fun k hk => KeywordSet.mem_found_of_valueOf? WireGuard.ofNames hk
      (WireGuard.valueOf?_isSome_iff hk),
    fun k hk => KeywordSet.mem_found_of_valueOf? IKEv2.ofNames hk (IKEv2.valueOf?_isSome_iff hk),
    and_congr ?_ ?_⟩
  · exact forall₂_congr fun k hk =>
      KeywordSet.agree_iff WireGuard.ofNames hk (WireGuard.valueOf?_isSome_iff hk)
  · exact forall₂_congr fun k hk =>
      KeywordSet.agree_iff IKEv2.ofNames hk (IKEv2.valueOf?_isSome_iff hk)

/-- An endpoint whose name is set off by a space that is not a plain one makes the
text a WireGuard text, and is then reported as missing. -/
theorem endpoint_scored_not_looked_up :
    let t : Text := ("[Interface]\nPrivateKey = abc=\n[Peer]\nPublicKey = def=\n" ++
      "Endpoint\u00a0= vpn.example.com:51820\n").toList
    "Endpoint" ∈ WireGuard.keywordSet.found (WireGuard.keywordSet.prepare t) ∧
      (∀ l ∈ Text.lines t, Assignment.valueOf? (· == ·) "Endpoint".toList l = none) ∧
      classify t = .wireGuard ∧
      importText t = .error (.parsingFailed .wireGuard
        (ExtractError.missingField "Endpoint" "[Peer]").message) := by
  decide +kernel

/-- The same happens to a parameter that is written with a sign for kelvin. -/
example :
    let t : Text := "\u212Aeyexchange = ikev2\n".toList
    "keyexchange" ∈ IKEv2.keywordSet.found (IKEv2.keywordSet.prepare t) ∧
      IKEv2.value t "keyexchange" = [] := by
  decide +kernel

end VpnImport
