import VpnImport.OpenVPN.Settings
import VpnImport.Section
import VpnImport.Proofs.Assignment.Written
import VpnImport.Proofs.Section
import VpnImport.Proofs.Text.Bytes
import VpnImport.Proofs.Text.Case
import VpnImport.Proofs.Text.Line

/-!
# Reading by byte offsets

The lookups, the cut of a section and the name that a comment gives can be read with byte
offsets: a head is as long as its key, a quotation ends a byte behind its closing quote, a
section starts at the sum of the lines before it.  Read in this way they cut slices out of
untrusted text, and a slice that is not there would be the end of the program.  None of
them fails, and what they read is what is read character by character: `slices_stand`.
-/

namespace VpnImport
namespace Sliced
open Text (BadSlice byteSize slice slice?)

/-! ## The readings -/

/-- What follows a key, if the bytes that the key takes at the start of a text are whole
characters and match it. -/
def behind (same : Text → Text → Bool) (key t : Text) : Except BadSlice (Option Text) :=
  match slice? t 0 (byteSize key) with
  | none => .ok none
  | some head =>
    if same head key then (slice t (byteSize key) (byteSize t)).map some else .ok none

def afterEquals? (t : Text) : Option Text :=
  match Text.skipPads t with
  | '=' :: value => some value
  | _ => none

def valueOf (same : Text → Text → Bool) (key line : Text) : Except BadSlice (Option Text) := do
  let rest ← behind same key (Text.skipPads line)
  return rest.bind afterEquals?

def firstValue (same : Text → Text → Bool) (key t : Text) : Except BadSlice (Option Text) :=
  (Text.lines t).findSomeM? (valueOf same key)

/-- The bytes before the first place where a character stands. -/
def offsetOf? (c : Char) : Text → Option Nat
  | [] => none
  | d :: t => if d == c then some 0 else (offsetOf? c t).map (d.utf8Size + ·)

/-- A quotation, if one starts here and is closed.  Its quotes take a byte each. -/
def quoted (quote : Char) : Text → Except BadSlice (Option Text)
  | [] => .ok none
  | c :: inner =>
    if c == quote then
      match offsetOf? quote inner with
      | none => .ok none
      | some stop => (slice (c :: inner) 0 (stop + 2)).map some
    else .ok none

def firstToken (t : Text) : Except BadSlice Text := do
  match ← quoted '"' t with
  | some q => return q
  | none =>
    match ← quoted '\'' t with
    | some q => return q
    | none => return Text.firstWord t

def wrapped (quote : Char) (t : Text) : Bool :=
  2 ≤ byteSize t && t.head? == some quote && t.getLast? == some quote

def trimQuotes (t : Text) : Except BadSlice Text :=
  if wrapped '"' t || wrapped '\'' t then slice t 1 (byteSize t - 1) else .ok t

def tokenValue (t key : Text) : Except BadSlice Text := do
  match ← firstValue Text.sameLetters key t with
  | none => return []
  | some rest => trimQuotes (← firstToken (Text.trim rest))

def lineValue (t key : Text) : Except BadSlice Text := do
  match ← firstValue (· == ·) key t with
  | none => return []
  | some rest => trimQuotes (Text.trim rest)

/-- Goes through the lines from an offset on.  The section, once its header has been met,
starts where the next line does. -/
def scanSection (t header : Text) : Nat → Option Nat → List Text → Except BadSlice (Option Text)
  | _, none, [] => .ok none
  | _, some start, [] => (slice t start (byteSize t)).map some
  | offset, none, line :: lines =>
    let next := offset + byteSize line
    scanSection t header next (if Section.isHeader header line then some next else none) lines
  | offset, some start, line :: lines =>
    if Section.opens line then (slice t start offset).map some
    else scanSection t header (offset + byteSize line) (some start) lines

def body (t header : Text) : Except BadSlice (Option Text) :=
  scanSection t header 0 none (Text.endedLines t)

open OpenVPN (Line Reading Settings)

def profileName (content : Text) : Except BadSlice (Option Text) := do
  let rest ← behind Text.sameLetters Settings.nameMark content
  return rest.bind fun rest =>
    let name := Text.trim rest
    if name.isEmpty then none else some name

def step (r : Reading) (line : Text) : Except BadSlice Reading :=
  match r.block, Comment.content? line with
  | none, some content => do
    let name ← profileName content
    return { r with settings := { r.settings with profileName := r.settings.profileName <|> name } }
  | _, _ => .ok (r.step line)

def settings (t : Text) : Except BadSlice Settings := do
  let r ← (Text.lines t).foldlM step Reading.start
  return r.settings

/-! ## Heads -/

/-- A way to compare texts that comes to comparing their characters one by one, those that
are taken for the same having the same size. -/
structure Compares (same : Text → Text → Bool) (letters : Char → Char → Bool) : Prop where
  iff : ∀ {w key}, same w key = true ↔ Text.after? letters key w = some []
  byteSize : ∀ {w key}, same w key = true → byteSize w = byteSize key

theorem compares_beq : Compares (· == ·) (· == ·) where
  iff := by
    intro w key
    rw [Text.after?_eq_some_iff, List.append_nil, beq_iff_eq]
  byteSize h := congrArg byteSize (eq_of_beq h)

theorem compares_sameLetters : Compares Text.sameLetters Text.sameLetter where
  iff := Text.after?_sameLetter_iff.symm
  byteSize h := Text.ignoresCase_byteSize.eq h

section Compares
variable {same : Text → Text → Bool} {letters : Char → Char → Bool} (h : Compares same letters)
include h

theorem behind_eq (key t : Text) : behind same key t = .ok (Text.after? letters key t) := by
  have hmatch : ∀ rest, Text.after? letters key t = some rest →
      ∃ w, same w key = true ∧ byteSize w = byteSize key ∧ t = w ++ rest := by
    intro rest hrest
    obtain ⟨w, hw, ht⟩ := Text.after?_eq_some_iff_exists.mp hrest
    exact ⟨w, h.iff.mpr hw, h.byteSize (h.iff.mpr hw), ht⟩
  rw [behind]
  cases hhead : slice? t 0 (byteSize key) with
  | none =>
    -- Had the key matched, the slice would be what it matched.
    cases hrest : Text.after? letters key t with
    | none => rfl
    | some rest =>
      obtain ⟨w, -, hsize, ht⟩ := hmatch rest hrest
      rw [Text.slice?_zero_eq_some_iff.mpr ⟨rest, ht, hsize⟩] at hhead
      contradiction
  | some head =>
    obtain ⟨b, rfl, hsize⟩ := Text.slice?_zero_eq_some_iff.mp hhead
    dsimp only
    by_cases hsame : same head key = true
    · have hrest : Text.after? letters key (head ++ b) = some b :=
        Text.after?_eq_some_iff_exists.mpr ⟨head, h.iff.mp hsame, rfl⟩
      rw [if_pos hsame, ← hsize, Text.slice_to_end, hrest]
      rfl
    · rw [if_neg hsame]
      cases hrest : Text.after? letters key (head ++ b) with
      | none => rfl
      | some rest =>
        obtain ⟨w, hw, hwsize, ht⟩ := hmatch rest hrest
        obtain ⟨rfl, -⟩ := Text.append_inj_byteSize ht (hsize.trans hwsize.symm)
        exact absurd hw hsame

theorem valueOf_eq (key line : Text) :
    valueOf same key line = .ok (Assignment.valueOf? letters key line) := by
  rw [valueOf, behind_eq h, Assignment.valueOf?]
  show Except.ok _ = Except.ok _
  cases Text.after? letters key (Text.skipPads line) <;> rfl

theorem firstValue_eq (key t : Text) :
    firstValue same key t = .ok (Assignment.firstValue? letters key t) := by
  have hvalue : valueOf same key = fun line => pure (Assignment.valueOf? letters key line) :=
    funext fun line => valueOf_eq h key line
  rw [firstValue, hvalue, List.findSomeM?_pure]
  rfl

end Compares

/-! ## Quotations -/

theorem offsetOf?_eq (c : Char) (t : Text) :
    offsetOf? c t = if t.contains c then some (byteSize (t.takeWhile (· != c))) else none := by
  induction t with
  | nil => rfl
  | cons d t ih =>
    rw [offsetOf?, ih]
    by_cases hd : d = c
    · simp [hd]
    · by_cases hmem : c ∈ t
      · simp [hd, hmem, Ne.symm hd]
      · simp [hd, hmem, Ne.symm hd]

section Quote
variable {quote : Char} (hquote : quote.utf8Size = 1)
include hquote

theorem quoted_eq (t : Text) : quoted quote t = .ok (Assignment.quoted? quote t) := by
  cases t with
  | nil => rfl
  | cons c inner =>
    rw [quoted, Assignment.quoted?, offsetOf?_eq]
    by_cases hc : c = quote
    · by_cases hmem : quote ∈ inner
      · obtain ⟨pre, post, rfl, hpre⟩ := List.eq_append_cons_of_mem hmem
        subst hc
        have hslice : slice (c :: (pre ++ c :: post)) 0 (byteSize pre + 2) =
            .ok (c :: (pre ++ [c])) := by
          refine Text.slice_of_append (a := []) (b := post) (by simp) rfl ?_
          simp [hquote]
          omega
        simp [Text.takeWhile_bne_append hpre, hslice]
        rfl
      · simp [hc, hmem]
    · simp [hc]

/-- Two quotes at the two ends of a text take two bytes and are two characters. -/
theorem wrapped_eq (t : Text) : wrapped quote t = Assignment.wrapped quote t := by
  cases t with
  | nil => rfl
  | cons c t =>
    by_cases hc : c = quote
    · have hsize : 2 ≤ byteSize (c :: t) ↔ 2 ≤ (c :: t).length := by
        cases t with
        | nil => simp [hc, hquote]
        | cons d t =>
          have hd := d.utf8Size_pos
          simp [hc, hquote]
          omega
      rw [wrapped, Assignment.wrapped, decide_eq_decide.mpr hsize]
    · have hhead : ((c :: t).head? == some quote) = false := by simpa using hc
      rw [wrapped, Assignment.wrapped, hhead, Bool.and_false, Bool.and_false]

end Quote

theorem firstToken_eq (t : Text) : firstToken t = .ok (Assignment.firstToken t) := by
  rw [firstToken, quoted_eq (by decide), quoted_eq (by decide), Assignment.firstToken]
  cases Assignment.quoted? '"' t with
  | some q => rfl
  | none => cases Assignment.quoted? '\'' t <;> rfl

theorem trimQuotes_eq (t : Text) : trimQuotes t = .ok (Assignment.trimQuotes t) := by
  rw [trimQuotes, wrapped_eq (by decide), wrapped_eq (by decide)]
  by_cases hwrapped : (Assignment.wrapped '"' t || Assignment.wrapped '\'' t) = true
  · obtain ⟨quote, inner, hquote, hsize, rfl⟩ : ∃ quote inner, Assignment.isQuote quote = true ∧
        quote.utf8Size = 1 ∧ t = quote :: (inner ++ [quote]) := by
      rcases Bool.or_eq_true_iff.mp hwrapped with h | h
      · obtain ⟨inner, ht⟩ := Assignment.wrapped_iff.mp h
        exact ⟨'"', inner, by decide, by decide, ht⟩
      · obtain ⟨inner, ht⟩ := Assignment.wrapped_iff.mp h
        exact ⟨'\'', inner, by decide, by decide, ht⟩
    rw [if_pos hwrapped, Assignment.trimQuotes_quoted hquote]
    refine Text.slice_of_append (a := [quote]) (b := [quote]) rfl (by simp [hsize]) ?_
    simp [hsize, Nat.add_comm]
  · rw [if_neg hwrapped, Assignment.trimQuotes, if_neg hwrapped]

theorem tokenValue_eq (t key : Text) : tokenValue t key = .ok (Assignment.tokenValue t key) := by
  rw [tokenValue, firstValue_eq compares_sameLetters, Assignment.tokenValue]
  cases Assignment.firstValue? Text.sameLetter key t with
  | none => rfl
  | some rest =>
    show (firstToken (Text.trim rest) >>= trimQuotes) = _
    rw [firstToken_eq]
    exact trimQuotes_eq _

theorem lineValue_eq (t key : Text) : lineValue t key = .ok (Assignment.lineValue t key) := by
  rw [lineValue, firstValue_eq compares_beq, Assignment.lineValue]
  cases Assignment.firstValue? (· == ·) key t with
  | none => rfl
  | some rest => exact trimQuotes_eq _

/-! ## Sections -/

section Section
variable {t header : Text} {lines : List Text}

/-- Behind the header the section goes from where it starts up to the offset. -/
theorem scanSection_some {before sofar : Text} (ht : t = before ++ (sofar ++ lines.flatten)) :
    scanSection t header (byteSize (before ++ sofar)) (some (byteSize before)) lines =
      .ok (some (sofar ++ (lines.takeWhile fun l => !Section.opens l).flatten)) := by
  induction lines generalizing sofar with
  | nil =>
    have hend : t = before ++ sofar := by simpa using ht
    rw [scanSection, hend, Text.slice_to_end]
    simp
    rfl
  | cons line lines ih =>
    rw [scanSection]
    by_cases hopens : Section.opens line = true
    · rw [if_pos hopens, Text.slice_of_append ht rfl rfl]
      simp [hopens]
      rfl
    · have hnext : byteSize (before ++ sofar) + byteSize line =
          byteSize (before ++ (sofar ++ line)) := by
        simp only [Text.byteSize_append, Nat.add_assoc]
      rw [if_neg hopens, hnext, ih (by simpa using ht)]
      simp [hopens]

/-- Up to the header the offset is the size of the lines that have been passed. -/
theorem scanSection_none {before : Text} (ht : t = before ++ lines.flatten) :
    scanSection t header (byteSize before) none lines =
      .ok ((Section.bodyLines? header lines).map List.flatten) := by
  induction lines generalizing before with
  | nil => rfl
  | cons line lines ih =>
    have ht' : t = (before ++ line) ++ lines.flatten := by simpa using ht
    rw [scanSection, ← Text.byteSize_append, Section.bodyLines?_cons]
    by_cases hheader : Section.isHeader header line = true
    · rw [if_pos hheader, if_pos hheader]
      have hbody := @scanSection_some t header lines (before ++ line) [] ht'
      rw [List.append_nil, List.nil_append] at hbody
      exact hbody
    · rw [if_neg hheader, if_neg hheader]
      exact ih ht'

theorem body_eq (t header : Text) : body t header = .ok (Section.body? t header) := by
  have hbody : Section.body? t header =
      (Section.bodyLines? header (Text.endedLines t)).map List.flatten := by
    rw [Section.body?, Section.bodyLines?]
    cases (Text.endedLines t).dropWhile (fun l => !Section.isHeader header l) <;> rfl
  rw [body, hbody]
  exact @scanSection_none t header _ [] (Text.flatten_endedLines t).symm

end Section

/-! ## Names in comments -/

theorem profileName_eq (content : Text) :
    profileName content = .ok (Settings.profileName? content) := by
  rw [profileName, behind_eq compares_sameLetters, Settings.profileName?]
  cases Text.after? Text.sameLetter Settings.nameMark content <;> rfl

theorem step_eq (r : Reading) (line : Text) : step r line = .ok (r.step line) := by
  obtain ⟨s, block⟩ := r
  cases block with
  | some tag => rfl
  | none =>
    rw [step]
    cases hcontent : Comment.content? line with
    | none => rfl
    | some content =>
      dsimp only
      rw [profileName_eq, Reading.step, Line.ofText, hcontent]
      rfl

theorem settings_eq (t : Text) : settings t = .ok (Settings.ofText t) := by
  have hstep : step = fun r line => pure (r.step line) :=
    funext fun r => funext fun line => step_eq r line
  rw [settings, hstep, List.foldlM_pure]
  rfl

/-- No slice fails: each reading by byte offsets gives what is read character by character,
whatever stands in the text, the key and the header.  A slice that does not fail goes from
one place of its text to another that is not before it. -/
theorem slices_stand :
    (∀ t i j, (∃ s, slice t i j = .ok s) ↔
      i ≤ j ∧ j ≤ byteSize t ∧ Text.IsPlace t i ∧ Text.IsPlace t j) ∧
    (∀ t key, tokenValue t key = .ok (Assignment.tokenValue t key)) ∧
    (∀ t key, lineValue t key = .ok (Assignment.lineValue t key)) ∧
    (∀ rest, firstToken rest = .ok (Assignment.firstToken rest)) ∧
    (∀ value, trimQuotes value = .ok (Assignment.trimQuotes value)) ∧
    (∀ t header, body t header = .ok (Section.body? t header)) ∧
    (∀ content, profileName content = .ok (Settings.profileName? content)) ∧
    ∀ t, settings t = .ok (Settings.ofText t) :=
  ⟨fun _ _ _ => Text.exists_slice_iff, tokenValue_eq, lineValue_eq, firstToken_eq, trimQuotes_eq,
    body_eq, profileName_eq, settings_eq⟩

-- The key ends inside a character.
example : behind (· == ·) "port".toList "poré = 1".toList = .ok none := by rfl

end Sliced
end VpnImport
