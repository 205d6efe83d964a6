import Mathlib.Data.List.Forall2
import VpnImport.OpenVPN.Extraction
import VpnImport.Proofs.IKEv2.Extraction
import VpnImport.Proofs.KeyCase.Lookup
import VpnImport.Proofs.OpenVPN.Blocks
import VpnImport.Proofs.UpToEquals

/-!
# Extractions do not see the case of key words

The key word of an OpenVPN line is its first word, be it a directive or a tag.  That
of an IKEv2 line stands before the first equals sign, or is the word that starts a
section.  An OpenVPN file is read line by line, and the reading takes the same step
for both cases of a key word; an IKEv2 file is read through lookups, which find the
same in both.
-/

namespace VpnImport
open Text (IgnoresCase sameLetter sameLetters)

/-- Two texts with the same letters whose lines differ as `R` allows. -/
structure SameButCase (R : Text → Text → Prop) (t t' : Text) : Prop where
  letters : sameLetters t t' = true
  lines : List.Forall₂ R (Text.lines t) (Text.lines t')

/-! ## OpenVPN -/

namespace OpenVPN

/-- Two lines that are the same but for the case of the letters in the first word of
a line that is no comment. -/
inductive KeyCase : Text → Text → Prop where
  | same (line : Text) : KeyCase line line
  | word {before w w' after : Text} (hbefore : Text.allBlank before = true) (hw : w ≠ [])
      (hvisible : ∀ c ∈ w, Text.isBlank c = false) (hafter : after.head?.all Text.isBlank = true)
      (hcomment : Comment.content? (before ++ (w ++ after)) = none)
      (h : sameLetters w w' = true) :
      KeyCase (before ++ (w ++ after)) (before ++ (w' ++ after))

theorem KeyCase.letters {l l' : Text} (h : KeyCase l l') : sameLetters l l' = true := by
  cases h with
  | same => exact beq_self_eq_true _
  | word _ _ _ _ _ h => exact Text.sameLetters_middle _ h _

theorem InlineTag.ignoresCase_opened? : IgnoresCase opened? := by
  intro l
  cases l with
  | nil => rfl
  | cons c rest =>
    have hopen : c.toLower = '<' ↔ c = '<' := Text.toLower_eq_iff (by decide)
    have hclose : (rest.map Char.toLower).getLast? = some '>' ↔ rest.getLast? = some '>' := by
      have hlow : ∀ d : Char, d.toLower = '>' ↔ d = '>' := fun d => Text.toLower_eq_iff (by decide)
      rw [List.getLast?_map]
      cases rest.getLast? <;> simp [hlow]
    by_cases hc : c = '<'
    · subst hc
      simp only [List.map_cons, hopen.mpr rfl, opened?, hclose, ← List.map_dropLast,
        Text.ignoresCase_lower _]
    · simp [opened?, hc, hopen]

theorem InlineTag.ignoresCase_closes (tag : InlineTag) : IgnoresCase tag.closes :=
  Text.ignoresCase_sameLetters _

theorem Directive.named?_eq {w w' : Text} (h : sameLetters w w' = true) : named? w = named? w' := by
  rw [named?, named?, Text.ignoresCase_lower.eq h]

namespace Reading
variable (r : Reading) {l l' : Text} (h : KeyCase l l')
include h

/-- A line says the same in both cases of its key word. -/
theorem readLine_ofText_eq : r.readLine (.ofText l) = r.readLine (.ofText l') := by
  have hletters := h.letters
  cases h with
  | same => rfl
  | @word before w w' after hbefore hw hvisible hafter hcomment h =>
    have hcomment' := Comment.ignoresCase_isSome_content?.eq_none hletters hcomment
    have hopen := InlineTag.ignoresCase_opened?.eq (Text.sameLetters_trim hletters)
    have hw' : w' ≠ [] := Text.ne_nil_of_sameLetters h hw
    have hvisible' := Text.visible_of_sameLetters h hvisible
    rw [Line.ofText, Line.ofText, hcomment, hcomment', hopen,
      Text.words_blank_append hbefore, Text.words_blank_append hbefore,
      Text.words_append hw hvisible hafter, Text.words_append hw' hvisible' hafter]
    cases InlineTag.opened? (Text.trim (before ++ (w' ++ after))) with
    | some tag => rfl
    | none =>
      dsimp only
      rw [readLine, readLine, Directive.named?_eq h]

theorem step_eq : r.step l = r.step l' := by
  have htrim := Text.sameLetters_trim h.letters
  unfold step
  cases r.block with
  | some tag =>
    dsimp only
    rw [(tag.ignoresCase_closes).eq htrim]
  | none => exact r.readLine_ofText_eq h

end Reading

theorem extract_eq_of_keyCase {t t' : Text} (h : SameButCase KeyCase t t') :
    extract t = extract t' := by
  have hrun : Reading.start.run (Text.lines t) = Reading.start.run (Text.lines t') :=
    foldl_eq_of_forall₂ h.lines (fun r _ _ hl => r.step_eq hl) _
  rw [extract, extract, Settings.ofText, Settings.ofText, hrun]

end OpenVPN

/-! ## IKEv2 -/

namespace IKEv2

/-- Two lines that are the same but for the case of the letters that stand before the
first equals sign of a line that is no comment and starts no connection, or for the
case of the word that starts one. -/
inductive KeyCase : Text → Text → Prop where
  | same (line : Text) : KeyCase line line
  | name {a a' rest : Text} (ha : '=' ∉ a)
      (hfirst : sameLetters (Text.firstWord (a ++ rest)) "conn".toList = false)
      (hcomment : Comment.content? (a ++ rest) = none) (h : sameLetters a a' = true) :
      KeyCase (a ++ rest) (a' ++ rest)
  | conn {before w w' after : Text} (hbefore : Text.allBlank before = true)
      (hw : sameLetters w "conn".toList = true) (hw' : sameLetters w' "conn".toList = true)
      (hafter : after.head?.all Text.isBlank = true) :
      KeyCase (before ++ (w ++ after)) (before ++ (w' ++ after))

theorem exists_cons_of_conn {w : Text} (hw : sameLetters w "conn".toList = true) :
    ∃ c s, w = c :: s ∧ c.toLower = 'c' := by
  have hlow := isLowWord_conn.sameLetters_iff.mp hw
  cases w with
  | nil => contradiction
  | cons c s => exact ⟨c, s, rfl, (List.cons.inj hlow).1⟩

/-! ### Sections -/

theorem isSome_sectionName? (l : Text) :
    (sectionName? l).isSome =
      (Text.after? sameLetter "conn".toList (Text.skipPads l)).any fun rest =>
        rest.head?.any Text.isPad && !(Text.upToBlank (Text.skipPads rest)).isEmpty := by
  unfold sectionName?
  cases Text.after? sameLetter "conn".toList (Text.skipPads l) with
  | none => rfl
  | some rest =>
    rw [Option.any_some]
    dsimp only
    split
    · rename_i h
      exact h.symm
    · rename_i h
      exact (Bool.eq_false_iff.mpr h).symm

theorem ignoresCase_isSome_sectionName? : IgnoresCase fun l => (sectionName? l).isSome := by
  intro l
  dsimp only
  rw [isSome_sectionName?, isSome_sectionName?, Text.skipPads_map_toLower, Text.after?_map_toLower,
    Option.any_map]
  congr 1
  funext rest
  rw [Text.blindToCase_isPad.any_head?, Text.skipPads_map_toLower,
    Text.upToBlank_map_toLower, List.isEmpty_map]

/-- A line that starts a section has the word that starts a connection first. -/
theorem sameLetters_firstWord_of_sectionName? {l name : Text} (h : sectionName? l = some name) :
    sameLetters (Text.firstWord l) "conn".toList = true := by
  obtain ⟨rest, hrest, hpad, -, -⟩ := sectionName?_eq_some_iff.mp h
  obtain ⟨pads, hl, hpads⟩ := Text.exists_skipPads l
  obtain ⟨w, hw, hskip⟩ := Text.after?_eq_some_iff_exists.mp hrest
  rw [Text.after?_sameLetter_iff] at hw
  have hafter : rest.head?.all Text.isBlank = true := by
    cases rest with
    | nil => rfl
    | cons c rest => exact Text.isBlank_of_isPad hpad
  have hne : w ≠ [] := Text.ne_nil_of_sameLetters (Text.sameLetters_symm hw) (by decide)
  have hwords : Text.words l = w :: Text.words rest := by
    rw [hl, hskip, Text.words_blank_append (Text.allBlank_of_all_isPad hpads),
      Text.words_append hne (isLowWord_conn.visible_of_sameLetters hw) hafter]
  rw [Text.firstWord, hwords, List.headD_cons]
  exact hw

/-- The word that starts a connection is passed over in either case. -/
theorem after?_conn {before w after : Text} (hbefore : Text.allBlank before = true)
    (hw : sameLetters w "conn".toList = true) :
    Text.after? sameLetter "conn".toList (Text.skipPads (before ++ (w ++ after))) =
      if Text.skipPads before = [] then some after else none := by
  have hmatch := Text.after?_sameLetter_iff.mpr hw
  obtain ⟨c, s, rfl, hlow⟩ := exists_cons_of_conn hw
  have hpad : Text.isPad c = false := by
    rw [← Text.blindToCase_isPad, hlow]
    decide
  rw [List.cons_append, Text.skipPads_append_cons hpad]
  cases hskip : Text.skipPads before with
  | nil =>
    rw [if_pos rfl]
    exact Text.after?_eq_some_iff_exists.mpr ⟨c :: s, hmatch, rfl⟩
  | cons x pads =>
    have hx : Text.isBlank x = true :=
      Text.allBlank_iff.mp hbefore x (Text.skipPads_subset before (hskip ▸ List.mem_cons_self))
    have hc : sameLetter 'c' x = false := by
      rw [sameLetter, Text.toLower_of_isBlank hx]
      exact beq_false_of_ne fun e => absurd (e ▸ hx) (by decide)
    rw [if_neg (List.cons_ne_nil x pads)]
    exact if_neg (Bool.eq_false_iff.mp hc)

theorem content?_conn {before w after : Text} (hbefore : Text.allBlank before = true)
    (hw : sameLetters w "conn".toList = true) :
    Comment.content? (before ++ (w ++ after)) = none := by
  have hvisible := isLowWord_conn.visible_of_sameLetters hw
  obtain ⟨c, s, rfl, hlow⟩ := exists_cons_of_conn hw
  have hmark : Comment.isMark c = false := by
    rw [← Comment.blindToCase_isMark, hlow]
    decide
  rw [← Option.isNone_iff_eq_none, ← Option.not_isSome, Comment.isSome_content?, Text.head?_trim,
    Text.trimStart_blank_append hbefore, List.cons_append,
    Text.trimStart_of_head (hvisible c List.mem_cons_self)]
  simpa using hmark

/-! ### Ports -/

theorem ignoresCase_portAfterColon? : IgnoresCase portAfterColon? := by
  intro t
  induction t with
  | nil => rfl
  | cons c t ih =>
    have hcolon : (c.toLower == ':') = (c == ':') := Text.toLower_beq (by decide)
    have hdigits : (t.map Char.toLower).takeWhile Text.isDecimal = t.takeWhile Text.isDecimal := by
      rw [Text.blindToCase_isDecimal.takeWhile]
      refine (List.map_congr_left fun d hd => ?_).trans (List.map_id' _)
      exact Text.toLower_of_isDecimal (List.all_eq_true.mp List.all_takeWhile d hd)
    rw [List.map_cons, portAfterColon?, portAfterColon?, hcolon, hdigits, ih]

/-! ### Lines -/

section Lines
variable {l l' : Text} (h : KeyCase l l')
include h

theorem KeyCase.sectionName?_eq : sectionName? l = sectionName? l' := by
  cases h with
  | same => rfl
  | @name a a' rest ha hfirst hcomment h =>
    have hletters := Text.sameLetters_append h rest
    have hnone : sectionName? (a ++ rest) = none := by
      rw [Option.eq_none_iff_forall_ne_some]
      intro name hname
      rw [sameLetters_firstWord_of_sectionName? hname] at hfirst
      contradiction
    rw [hnone, ignoresCase_isSome_sectionName?.eq_none hletters hnone]
  | conn hbefore hw hw' hafter =>
    unfold sectionName?
    rw [after?_conn hbefore hw, after?_conn hbefore hw']

theorem KeyCase.content?_eq : Comment.content? l = Comment.content? l' := by
  cases h with
  | same => rfl
  | @name a a' rest ha hfirst hcomment h =>
    have hletters := Text.sameLetters_append h rest
    rw [hcomment, Comment.ignoresCase_isSome_content?.eq_none hletters hcomment]
  | conn hbefore hw hw' hafter =>
    rw [content?_conn hbefore hw, content?_conn hbefore hw']

theorem KeyCase.valueOf?_eq {key : Text} (hkey : '=' ∉ key) :
    Assignment.valueOf? sameLetter key l = Assignment.valueOf? sameLetter key l' := by
  cases h with
  | same => rfl
  | @name a a' rest ha hfirst hcomment h =>
    exact Assignment.valueOf?_eq_of_sameLetters hkey h ha rest
  | @conn before w w' after hbefore hw hw' hafter =>
    have hletters : sameLetters (before ++ w) (before ++ w') = true := by
      have h := Text.sameLetters_middle before
        (Text.sameLetters_trans hw (Text.sameLetters_symm hw')) []
      simpa using h
    have hequals : '=' ∉ before ++ w := by
      rw [List.mem_append, not_or]
      refine ⟨fun hmem => absurd (Text.allBlank_iff.mp hbefore _ hmem) (by decide), fun hmem => ?_⟩
      have hlow : '='.toLower ∈ "conn".toList :=
        isLowWord_conn.sameLetters_iff.mp hw ▸ List.mem_map_of_mem hmem
      exact absurd hlow (by decide)
    rw [← List.append_assoc, ← List.append_assoc]
    exact Assignment.valueOf?_eq_of_sameLetters hkey hletters hequals after

end Lines

theorem lookupsAgree_of_keyCase {t t' : Text} (h : SameButCase KeyCase t t') :
    LookupsAgree t t' where
  value := fun key hkey => by
    have hfirst : Assignment.firstValue? sameLetter key.toList t =
        Assignment.firstValue? sameLetter key.toList t' :=
      findSome?_eq_of_forall₂ h.lines fun _ _ hl => hl.valueOf?_eq hkey
    rw [value, value, Assignment.tokenValue, Assignment.tokenValue, hfirst]
  connection := by
    rw [connectionName?, connectionName?,
      filterMap_eq_of_forall₂ h.lines fun _ _ hl => hl.sectionName?_eq]
  comment := by
    rw [Comment.firstUsable?, Comment.firstUsable?,
      filterMap_eq_of_forall₂ h.lines fun _ _ hl => hl.content?_eq]
  port := ignoresCase_portAfterColon?.eq h.letters

end IKEv2
end VpnImport
