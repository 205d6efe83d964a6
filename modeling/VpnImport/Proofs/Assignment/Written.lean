import VpnImport.Comment
import VpnImport.Proofs.Assignment
import VpnImport.Proofs.Text.Case

/-!
# Looking up what has been written

A document is written row by row: assignments, and between them blank rows, comments
and headers.  A row answers to a key only if it assigns to that key
(`valueOf?_entry`, `valueOf?_passive`), so a lookup in the document is a search through
its assignments, and each way to read a value takes back what one way to write it has
put down: `lookup_document`.
-/

namespace VpnImport
namespace Assignment

/-! ## What is written -/

/-- A character of the names that are assigned to. -/
def isNameChar (c : Char) : Bool :=
  c.isAlphanum || c == '_' || c == '-' || c == '%'

/-- A row that assigns a value to a key, and how the value has been written there. -/
structure Entry where
  indent : Text
  key : Text
  gap : Text
  space : Text
  value : Text
  written : Text
  indent_pads : indent.all Text.isPad = true
  key_ne_nil : key ≠ []
  key_name : key.all isNameChar = true
  gap_pads : gap.all Text.isPad = true
  space_blank : Text.allBlank space = true
  noFeed : '\n' ∉ line indent key gap (space ++ written)

/-- Whether a row is blank, a comment or a header. -/
def isPassive (row : Text) : Bool :=
  (Text.trimStart row).head?.all fun c => Comment.isMark c || c == '['

/-- A row of a document. -/
inductive Row where
  | entry (e : Entry)
  | passive (row : Text) (hpassive : isPassive row = true) (noFeed : '\n' ∉ row)

def Row.text : Row → Text
  | .entry e => line e.indent e.key e.gap (e.space ++ e.written)
  | .passive row _ _ => row

def Row.entry? : Row → Option Entry
  | .entry e => some e
  | .passive _ _ _ => none

/-- The text of a document.  A carriage return may stand at the end of each row, and a
blank row at the end is a line feed behind the row before it. -/
def document (rows : List Row) : Text :=
  List.intercalate ['\n'] (rows.map Row.text)

def entries (rows : List Row) : List Entry :=
  rows.filterMap Row.entry?

def isQuote (c : Char) : Bool :=
  c == '"' || c == '\''

/-- The ways to write a value so that it ends before the line does: between quotes that
it does not hold, or as a word. -/
inductive TokenWritten (value : Text) : Text → Prop where
  | quoted {quote : Char} (hquote : isQuote quote = true) (hvalue : quote ∉ value)
      (behind : Text) : TokenWritten value (quote :: (value ++ quote :: behind))
  | word (hne : value ≠ []) (hvisible : ∀ c ∈ value, Text.isBlank c = false)
      (hbare : value.head?.any isQuote = false) {behind : Text}
      (hbehind : behind.head?.all Text.isBlank = true) : TokenWritten value (value ++ behind)

/-- The way to write a value that goes up to the end of the line. -/
inductive LineWritten (value : Text) : Text → Prop where
  | line (hne : value ≠ []) (htrim : Text.trim value = value)
      (hbare : ∀ quote inner, isQuote quote = true → value ≠ quote :: (inner ++ [quote]))
      {behind : Text} (hbehind : Text.allBlank behind = true) : LineWritten value (value ++ behind)

/-! ## Names -/

theorem toNat_of_isAlphanum {c : Char} (h : c.isAlphanum = true) : c.toNat < 0x80 := by
  have hbound : ∀ last < 0x80, c.val ≤ last → c.toNat < 0x80 := fun last hlast hle =>
    Nat.lt_of_le_of_lt (UInt32.le_iff_toNat_le.mp hle) (UInt32.lt_iff_toNat_lt.mp hlast)
  rcases Bool.or_eq_true_iff.mp h with hletter | hdigit
  · rcases Bool.or_eq_true_iff.mp hletter with hupper | hlower
    · exact hbound 'Z'.val (by decide) (of_decide_eq_true hupper).2
    · exact hbound 'z'.val (by decide) (of_decide_eq_true (Bool.and_eq_true_iff.mp hlower).2)
  · exact hbound '9'.val (by decide) (of_decide_eq_true (Bool.and_eq_true_iff.mp hdigit).2)

theorem toNat_of_isNameChar {c : Char} (h : isNameChar c = true) : c.toNat < 0x80 := by
  simp only [isNameChar, Bool.or_eq_true, beq_iff_eq] at h
  rcases h with ((h | rfl) | rfl) | rfl
  · exact toNat_of_isAlphanum h
  all_goals decide

theorem not_isBlank_of_isNameChar {c : Char} (h : isNameChar c = true) :
    Text.isBlank c = false := by
  have hascii : ∀ n < 0x80, isNameChar (Char.ofNat n) = true →
      Text.isBlank (Char.ofNat n) = false := by
    decide
  rw [← Char.ofNat_toNat c] at h ⊢
  exact hascii _ (by simpa using toNat_of_isNameChar h) h

theorem isNameChar_of_isBlank {c : Char} (h : Text.isBlank c = true) : isNameChar c = false := by
  rw [← Bool.not_eq_true]
  intro hname
  rw [not_isBlank_of_isNameChar hname] at h
  contradiction

theorem blindToCase_isNameChar : Text.BlindToCase isNameChar :=
  Text.blindToCase_of_letters (by decide)

/-! ## Rows -/

theorem Entry.isKey (e : Entry) : IsKey e.key where
  ne_nil := e.key_ne_nil
  visible c hc := not_isBlank_of_isNameChar (List.all_eq_true.mp e.key_name c hc)
  noEquals h := absurd (List.all_eq_true.mp e.key_name '=' h) (by decide)

/-- What stands behind the key of an assignment starts with a character that belongs to
no name. -/
theorem Entry.exists_behind_key (e : Entry) (value : Text) :
    ∃ c rest, e.gap ++ '=' :: value = c :: rest ∧ isNameChar c = false := by
  cases hgap : e.gap with
  | nil => exact ⟨'=', value, rfl, by decide⟩
  | cons c gap =>
    have hpad : Text.isPad c = true :=
      List.all_eq_true.mp e.gap_pads c (hgap ▸ List.mem_cons_self)
    exact ⟨c, gap ++ '=' :: value, rfl, isNameChar_of_isBlank (Text.isBlank_of_isPad hpad)⟩

theorem skipPads_passive {row : Text} (h : isPassive row = true) :
    Text.skipPads row = [] ∨
      ∃ c rest, Text.skipPads row = c :: rest ∧ Text.isPad c = false ∧ c ≠ '=' ∧
        isNameChar c = false := by
  obtain ⟨pads, hrow, hpads⟩ := Text.exists_skipPads row
  rw [isPassive, hrow, Text.trimStart_blank_append (Text.allBlank_of_all_isPad hpads)] at h
  rcases Text.skipPads_cases row with hskip | ⟨c, rest, hskip, hpad⟩
  · exact .inl hskip
  · refine .inr ⟨c, rest, hskip, hpad, ?_⟩
    by_cases hblank : Text.isBlank c = true
    · exact ⟨fun e => absurd hblank (e ▸ by decide), isNameChar_of_isBlank hblank⟩
    · rw [hskip, Text.trimStart_of_head (Bool.not_eq_true _ ▸ hblank), List.head?_cons,
        Option.all_some] at h
      simp only [Comment.isMark, Bool.or_eq_true, beq_iff_eq] at h
      rcases h with (rfl | rfl) | rfl <;> decide

section Lookup
variable {same : Char → Char → Bool} (hsame : Text.StaysIn isNameChar same) {key : Text}
  (hkey : key.all isNameChar = true)
include hsame hkey

/-- A row whose first visible character belongs to no name assigns to no key. -/
theorem valueOf?_passive {row : Text} (hrow : isPassive row = true) :
    valueOf? same key row = none := by
  rw [valueOf?]
  rcases skipPads_passive hrow with hskip | ⟨c, rest, hskip, hpad, heq, hc⟩
  · rw [hskip]
    cases key <;> rfl
  · rw [hskip]
    cases key with
    | nil =>
      dsimp only [Text.after?]
      rw [Text.skipPads_of_head hpad]
      simp [heq]
    | cons a key =>
      rw [Text.after?, hsame.not_same hkey hc a List.mem_cons_self]
      rfl

/-- A row that assigns to a key answers to what matches the key as a whole, and not to
what matches only the start of it. -/
theorem valueOf?_entry (e : Entry) (value : Text) :
    valueOf? same key (line e.indent e.key e.gap value) =
      if Text.after? same key e.key = some [] then some value else none := by
  obtain ⟨c, rest, hrest, hc⟩ := e.exists_behind_key value
  rw [valueOf?, e.isKey.skipPads_line e.indent_pads, hrest,
    Text.after?_append_cons (hsame.not_same hkey hc)]
  cases hafter : Text.after? same key e.key with
  | none => rfl
  | some s =>
    dsimp only [Option.map_some]
    cases s with
    | nil =>
      rw [List.nil_append, ← hrest, skipPads_gap e.gap_pads]
      rfl
    | cons x s =>
      have hx : isNameChar x = true :=
        List.all_eq_true.mp e.key_name x (Text.subset_of_after? hafter List.mem_cons_self)
      have heq : x ≠ '=' := fun e => absurd hx (e ▸ by decide)
      rw [List.cons_append,
        Text.skipPads_of_head (Text.not_isPad_of_not_isBlank (not_isBlank_of_isNameChar hx))]
      simp [heq]

/-- A lookup in a document is a search through its assignments, if every value is read as
it has been written. -/
theorem firstValue?_document (read : Text → Text) {rows : List Row}
    (hread : ∀ e ∈ entries rows, read (Text.trim (e.space ++ e.written)) = e.value) :
    (firstValue? same key (document rows)).map (fun rest => read (Text.trim rest)) =
      ((entries rows).find? fun e => Text.after? same key e.key = some []).map Entry.value := by
  have hreturn : ∀ row, (valueOf? same key (row ++ ['\r'])).map (fun r => read (Text.trim r)) =
      (valueOf? same key row).map fun r => read (Text.trim r) := by
    intro row
    rw [valueOf?_append_cons (hsame.not_same hkey (by decide)) (by decide) (by decide),
      Option.map_map]
    congr 1
    funext rest
    exact congrArg read (Text.trim_append_blank (by decide) rest)
  have hnil : (valueOf? same key []).map (fun r => read (Text.trim r)) = none := by
    rw [valueOf?_passive hsame hkey rfl]
    rfl
  have hfeed : ∀ row ∈ rows.map Row.text, '\n' ∉ row := by
    intro text htext
    obtain ⟨row, -, rfl⟩ := List.mem_map.mp htext
    cases row with
    | entry e => exact e.noFeed
    | passive row hpassive noFeed => exact noFeed
  rw [firstValue?, List.map_findSome?, document,
    Text.findSome?_lines_intercalate hreturn hnil hfeed, List.findSome?_map]
  clear hfeed
  induction rows with
  | nil => rfl
  | cons row rows ih =>
    rw [List.findSome?_cons]
    cases row with
    | passive row hpassive noFeed =>
      have hnone : valueOf? same key row = none := valueOf?_passive hsame hkey hpassive
      simp only [Function.comp_apply, Row.text, hnone, Option.map_none]
      exact ih hread
    | entry e =>
      have he : e ∈ entries (.entry e :: rows) := List.mem_cons_self
      have hrest : ∀ e' ∈ entries rows, read (Text.trim (e'.space ++ e'.written)) = e'.value :=
        fun e' he' => hread e' (List.mem_cons_of_mem e he')
      have hcons : entries (.entry e :: rows) = e :: entries rows := rfl
      simp only [Function.comp_apply, Row.text, valueOf?_entry hsame hkey, hcons]
      by_cases hmatch : Text.after? same key e.key = some []
      · simp [hmatch, hread e he]
      · simp only [hmatch, if_false, Option.map_none, decide_false, List.find?_cons]
        exact ih hrest

end Lookup

/-! ## Values -/

theorem isQuote_iff {c : Char} : isQuote c = true ↔ c = '"' ∨ c = '\'' := by
  rw [isQuote, Bool.or_eq_true, beq_iff_eq, beq_iff_eq]

theorem not_isBlank_of_isQuote {c : Char} (h : isQuote c = true) : Text.isBlank c = false := by
  rcases isQuote_iff.mp h with rfl | rfl <;> decide

theorem wrapped_of_head {quote : Char} {t : Text} (h : t.head? ≠ some quote) :
    wrapped quote t = false := by
  simp [wrapped, h]

/-- What starts with no quote is read as it stands. -/
theorem trimQuotes_of_head {t : Text} (h : t.head?.any isQuote = false) : trimQuotes t = t := by
  have hquote : ∀ quote, isQuote quote = true → wrapped quote t = false := by
    intro quote hquote
    refine wrapped_of_head fun hhead => ?_
    rw [hhead, Option.any_some, hquote] at h
    contradiction
  rw [trimQuotes, hquote '"' rfl, hquote '\'' rfl]
  rfl

theorem wrapped_iff {quote : Char} {t : Text} :
    wrapped quote t = true ↔ ∃ inner, t = quote :: (inner ++ [quote]) := by
  rw [wrapped, Bool.and_eq_true, Bool.and_eq_true, decide_eq_true_eq, beq_iff_eq, beq_iff_eq]
  constructor
  · rintro ⟨⟨hlen, hhead⟩, hlast⟩
    obtain ⟨rest, rfl⟩ := List.head?_eq_some_iff.mp hhead
    cases rest with
    | nil => simp at hlen
    | cons c rest =>
      rw [List.getLast?_cons_cons] at hlast
      obtain ⟨inner, hinner⟩ := List.getLast?_eq_some_iff.mp hlast
      exact ⟨inner, by rw [hinner]⟩
  · rintro ⟨inner, rfl⟩
    rw [← List.cons_append, List.getLast?_concat]
    simp

theorem trimQuotes_quoted {quote : Char} (h : isQuote quote = true) (value : Text) :
    trimQuotes (quote :: (value ++ [quote])) = value := by
  have hwrapped : wrapped quote (quote :: (value ++ [quote])) = true := wrapped_iff.mpr ⟨value, rfl⟩
  rw [trimQuotes, if_pos]
  · simp
  · rcases isQuote_iff.mp h with rfl | rfl <;> simp [hwrapped]

theorem quoted?_of_head {quote : Char} {t : Text} (h : t.head? ≠ some quote) :
    quoted? quote t = none := by
  cases t with
  | nil => rfl
  | cons c t =>
    have hc : (c == quote) = false := beq_false_of_ne fun e => h (by rw [e]; rfl)
    rw [quoted?, hc]
    rfl

theorem quoted?_cons {quote : Char} {value : Text} (h : quote ∉ value) (behind : Text) :
    quoted? quote (quote :: (value ++ quote :: behind)) = some (quote :: (value ++ [quote])) := by
  rw [quoted?, if_pos (by simp), Text.takeWhile_bne_append h]

theorem firstToken_quoted {quote : Char} (hquote : isQuote quote = true) {value : Text}
    (hvalue : quote ∉ value) (behind : Text) :
    firstToken (quote :: (value ++ quote :: behind)) = quote :: (value ++ [quote]) := by
  rcases isQuote_iff.mp hquote with rfl | rfl
  · rw [firstToken, quoted?_cons hvalue]
  · rw [firstToken, quoted?_of_head (by simp), quoted?_cons hvalue]

theorem firstToken_of_head {t : Text} (h : t.head?.any isQuote = false) :
    firstToken t = Text.firstWord t := by
  have hquote : ∀ quote, isQuote quote = true → quoted? quote t = none := by
    intro quote hquote
    refine quoted?_of_head fun hhead => ?_
    rw [hhead, Option.any_some, hquote] at h
    contradiction
  rw [firstToken, hquote '"' rfl, hquote '\'' rfl]

theorem TokenWritten.read {value written : Text} (h : TokenWritten value written) {space : Text}
    (hspace : Text.allBlank space = true) :
    trimQuotes (firstToken (Text.trim (space ++ written))) = value := by
  have htrim : Text.trim (space ++ written) = Text.trim written := by
    rw [Text.trim, Text.trimStart_blank_append hspace, Text.trim]
  rw [htrim]
  cases h with
  | quoted hquote hvalue behind =>
    have hblank : Text.isBlank _ = false := not_isBlank_of_isQuote hquote
    rw [Text.trim, Text.trimStart_of_head hblank, ← List.cons_append,
      Text.trimEnd_append_cons hblank, List.cons_append, firstToken_quoted hquote hvalue,
      trimQuotes_quoted hquote]
  | @word hne hvisible hbare behind hbehind =>
    obtain ⟨c, rest, hvalue⟩ := List.exists_cons_of_ne_nil hne
    have hhead : (Text.trim (value ++ behind)).head? = value.head? := by
      rw [Text.head?_trim, hvalue, List.cons_append,
        Text.trimStart_of_head (hvisible c (hvalue ▸ List.mem_cons_self))]
      rfl
    have hword : Text.firstWord (Text.trim (value ++ behind)) = value := by
      rw [Text.firstWord, Text.words_trim, Text.words_append hne hvisible hbehind]
      rfl
    rw [firstToken_of_head (hhead ▸ hbare), hword, trimQuotes_of_head hbare]

theorem LineWritten.read {value written : Text} (h : LineWritten value written) {space : Text}
    (hspace : Text.allBlank space = true) :
    trimQuotes (Text.trim (space ++ written)) = value := by
  obtain @⟨-, htrim, hbare, behind, hbehind⟩ := h
  have hread : Text.trim (space ++ (value ++ behind)) = value := by
    rw [← List.append_assoc, Text.trim_append_blank hbehind, Text.trim,
      Text.trimStart_blank_append hspace]
    exact htrim
  have hwrapped : ∀ quote, isQuote quote = true → wrapped quote value = false := by
    intro quote hquote
    rw [← Bool.not_eq_true, wrapped_iff]
    rintro ⟨inner, hinner⟩
    exact hbare quote inner hquote hinner
  rw [hread, trimQuotes, hwrapped '"' rfl, hwrapped '\'' rfl]
  rfl

/-! ## Lookups -/

theorem tokenValue_eq (t key : Text) :
    tokenValue t key = ((firstValue? Text.sameLetter key t).map fun rest =>
      trimQuotes (firstToken (Text.trim rest))).getD [] := by
  rw [tokenValue]
  cases firstValue? Text.sameLetter key t <;> rfl

theorem lineValue_eq (t key : Text) :
    lineValue t key = ((firstValue? (· == ·) key t).map fun rest =>
      trimQuotes (Text.trim rest)).getD [] := by
  rw [lineValue]
  cases firstValue? (· == ·) key t <;> rfl

/-- A lookup gives the value of the first assignment to its key, as the value was before
it was written, and the empty text if the key is assigned nothing: by `tokenValue` for
keys that are the same up to the case of letters, and by `lineValue` for keys that are the
same. -/
theorem lookup_document (rows : List Row) :
    ((∀ e ∈ entries rows, TokenWritten e.value e.written) →
      ∀ key : Text, key.all isNameChar = true →
        tokenValue (document rows) key =
          (((entries rows).find? fun e => Text.sameLetters e.key key).map Entry.value).getD []) ∧
    ((∀ e ∈ entries rows, LineWritten e.value e.written) →
      ∀ key : Text, key.all isNameChar = true →
        lineValue (document rows) key =
          (((entries rows).find? fun e => e.key == key).map Entry.value).getD []) := by
  constructor
  · intro hwritten key hkey
    have hmatch : ∀ e : Entry, decide (Text.after? Text.sameLetter key e.key = some []) =
        Text.sameLetters e.key key := by
      intro e
      rw [Bool.eq_iff_iff, decide_eq_true_eq, Text.after?_sameLetter_iff]
    rw [tokenValue_eq, firstValue?_document blindToCase_isNameChar.staysIn_sameLetter hkey
      (fun t => trimQuotes (firstToken t)) fun e he => (hwritten e he).read e.space_blank]
    simp only [hmatch]
  · intro hwritten key hkey
    have hmatch : ∀ e : Entry, decide (Text.after? (· == ·) key e.key = some []) =
        (e.key == key) := by
      intro e
      rw [Bool.eq_iff_iff, decide_eq_true_eq, beq_iff_eq, Text.after?_eq_some_iff,
        List.append_nil]
    rw [lineValue_eq, firstValue?_document (Text.staysIn_beq _) hkey trimQuotes
      fun e he => (hwritten e he).read e.space_blank]
    simp only [hmatch]

/-- A header and a comment, then a longer key before a key that starts it. -/
def peerRows : List Row :=
  [.passive "[peer]\r".toList (by decide) (by decide),
    .passive "  # both ends".toList (by decide) (by decide),
    .entry ⟨['\t'], "leftid".toList, [' '], [' '], "alice".toList, "alice".toList ++ [],
      by decide, by decide, by decide, by decide, by decide, by decide⟩,
    .entry ⟨[], "LEFT".toList, [], [], "10.0.0.1".toList, "10.0.0.1".toList ++ [' ', '\r'],
      by decide, by decide, by decide, by decide, by decide, by decide⟩]

theorem lookup_document_peer :
    ((∀ e ∈ entries peerRows, TokenWritten e.value e.written) ∧
        tokenValue (document peerRows) "left".toList = "10.0.0.1".toList) ∧
      (∀ e ∈ entries peerRows, LineWritten e.value e.written) ∧
        lineValue (document peerRows) "left".toList = [] := by
  have hbare : ∀ value : Text, value.head?.any isQuote = false →
      ∀ quote inner, isQuote quote = true → value ≠ quote :: (inner ++ [quote]) := by
    rintro value h quote inner hquote rfl
    rw [List.head?_cons, Option.any_some, hquote] at h
    contradiction
  have hvisible : ∀ value : Text, value.any Text.isBlank = false →
      ∀ c ∈ value, Text.isBlank c = false :=
    fun value h c hc => Bool.eq_false_iff.mpr (List.any_eq_false.mp h c hc)
  have htoken : ∀ e ∈ entries peerRows, TokenWritten e.value e.written := by
    simp only [peerRows, entries, List.filterMap_cons, Row.entry?, List.filterMap_nil,
      List.forall_mem_cons]
    exact ⟨.word (by decide) (hvisible _ (by decide)) (by decide) (by decide),
      .word (by decide) (hvisible _ (by decide)) (by decide) (by decide), by simp⟩
  have hline : ∀ e ∈ entries peerRows, LineWritten e.value e.written := by
    simp only [peerRows, entries, List.filterMap_cons, Row.entry?, List.filterMap_nil,
      List.forall_mem_cons]
    exact ⟨.line (by decide) (by decide) (hbare _ (by decide)) (by decide),
      .line (by decide) (by decide) (hbare _ (by decide)) (by decide), by simp⟩
  refine ⟨⟨htoken, ?_⟩, hline, ?_⟩
  · rw [(lookup_document peerRows).1 htoken _ (by decide)]
    decide
  · rw [(lookup_document peerRows).2 hline _ (by decide)]
    decide

example : tokenValue "leftid = 'a \"b' # c".toList "LeftID".toList = "a \"b".toList := by decide

end Assignment
end VpnImport
