import Mathlib.Data.List.Nodup
import VpnImport.Proofs.OpenVPN.Blocks
import VpnImport.Proofs.Text.Words

/-!
# What the lines of a file set

Outside the inline blocks a line sets a field by its first word, by the tag it
opens or, in a comment, by the name it announces.  Each field of the settings is
the outcome of the lines that write to it: of the last of them, of the first, or of
all of them in order.
-/

namespace VpnImport
namespace OpenVPN

/-! ## Directives -/

/-- Whether a line is neither blank nor a comment nor the opening of a block. -/
def isActive (l : Text) : Bool :=
  !Text.allBlank l && (Comment.content? l).isNone && (InlineTag.opened? (Text.trim l)).isNone

/-- The arguments of an active line whose first word, in lower case, is one of the
names. -/
def arguments? (names : List String) (l : Text) : Option (List Text) :=
  if isActive l then
    match Text.words l with
    | [] => none
    | name :: args => if Text.lower name ∈ names.map String.toList then some args else none
  else none

/-- The arguments of every active line of a text with one of the names. -/
def uses (names : List String) (t : Text) : List (List Text) :=
  (outside (Text.lines t)).filterMap (arguments? names)

/-- The first argument of the last active line with one of the names.  There is
none when that line has no argument. -/
def lastArgument (names : List String) (t : Text) : Option Text :=
  (uses names t).getLast?.bind List.head?

/-! ## Comments, blocks and lines of several kinds -/

/-- The name that the comments outside the blocks announce, the first of them. -/
def announcedName? (t : Text) : Option Text :=
  (outside (Text.lines t)).findSome? fun l => (Comment.content? l).bind Settings.profileName?

/-- The blocks of a text, in the order in which they first open. -/
def openedTags (t : Text) : List InlineTag :=
  ((outside (Text.lines t)).filterMap fun l => InlineTag.opened? (Text.trim l)).eraseDups

/-- Whether a line turns compression on or off. -/
def compression? (l : Text) : Option Bool :=
  ((arguments? ["comp-lzo"] l).map fun args =>
      !args.head?.any fun v => Text.sameLetters v "no".toList).or
    ((arguments? ["compress"] l).map fun args =>
      args.head?.any fun v => !"stub".toList.isPrefixOf (Text.lower v))

/-- How a line says that the control channel is secured, by a block or by a
directive. -/
def tlsMode? (l : Text) : Option TlsMode :=
  match InlineTag.opened? (Text.trim l) with
  | some .tlsAuth => some .auth
  | some .tlsCrypt => some .crypt
  | _ =>
    if (arguments? ["tls-auth"] l).isSome then some .auth
    else if (arguments? ["tls-crypt"] l).isSome then some .crypt
    else none

/-! ## The kinds of lines -/

namespace Directive

/-- The names of a directive. -/
def names (d : Directive) : List String :=
  (spellings.filter fun s => s.2 = d).map Prod.fst

theorem nodup_spellings : (spellings.map Prod.fst).Nodup := by decide

theorem mem_names_iff {d : Directive} {word : Text} :
    word ∈ d.names.map String.toList ↔ ∃ s ∈ spellings, s.1.toList = word ∧ s.2 = d := by
  simp only [names, List.map_map, List.mem_map, List.mem_filter, decide_eq_true_iff,
    Function.comp]
  constructor
  · rintro ⟨s, ⟨hs, hd⟩, hword⟩
    exact ⟨s, hs, hword, hd⟩
  · rintro ⟨s, hs, hword, hd⟩
    exact ⟨s, ⟨hs, hd⟩, hword⟩

theorem named?_eq_some_iff {word : Text} {d : Directive} :
    named? word = some d ↔ Text.lower word ∈ d.names.map String.toList := by
  rw [mem_names_iff, named?, Option.map_eq_some_iff]
  constructor
  · rintro ⟨s, hfind, hd⟩
    have hword : s.1.toList = Text.lower word := by simpa using List.find?_some hfind
    exact ⟨s, List.mem_of_find?_eq_some hfind, hword, hd⟩
  · rintro ⟨s, hs, hword, hd⟩
    refine ⟨s, ?_, hd⟩
    obtain ⟨s', hfind⟩ : ∃ s',
        (spellings.find? fun s => s.1.toList == Text.lower word) = some s' := by
      rw [← Option.isSome_iff_exists, List.find?_isSome]
      exact ⟨s, hs, by simpa using hword⟩
    have hword' : s'.1.toList = Text.lower word := by simpa using List.find?_some hfind
    -- A name belongs to one spelling only, so the first match is this one.
    have hsame : s' = s := List.inj_on_of_nodup_map nodup_spellings
      (List.mem_of_find?_eq_some hfind) hs (String.ext (hword'.trans hword.symm))
    rw [hfind, hsame]

end Directive

theorem Line.ofText_eq_directive_iff {l name : Text} {args : List Text} :
    ofText l = .directive name args ↔ isActive l = true ∧ Text.words l = name :: args := by
  unfold ofText isActive
  cases Comment.content? l with
  | some content => simp
  | none =>
    cases InlineTag.opened? (Text.trim l) with
    | some tag => simp
    | none =>
      cases hwords : Text.words l with
      | nil => simp
      | cons word rest =>
        have hl : Text.allBlank l = false := by
          rw [← Bool.not_eq_true, ← Text.words_eq_nil_iff, hwords]
          exact List.cons_ne_nil word rest
        simp [hl]

/-- The arguments of a line that is an occurrence of a directive. -/
def Line.arguments? (d : Directive) : Line → Option (List Text)
  | .directive name args => if Directive.named? name = some d then some args else none
  | _ => none

theorem Line.arguments?_ofText (d : Directive) (l : Text) :
    (ofText l).arguments? d = OpenVPN.arguments? d.names l := by
  by_cases hactive : isActive l = true
  · rw [OpenVPN.arguments?, if_pos hactive]
    cases hwords : Text.words l with
    | nil =>
      rw [Text.words_eq_nil_iff] at hwords
      rw [isActive, hwords] at hactive
      contradiction
    | cons name args =>
      rw [ofText_eq_directive_iff.mpr ⟨hactive, hwords⟩]
      simp only [arguments?, Directive.named?_eq_some_iff]
  · rw [OpenVPN.arguments?, if_neg hactive]
    cases hline : ofText l with
    | directive name args => exact absurd (ofText_eq_directive_iff.mp hline).1 hactive
    | blank => rfl
    | comment content => rfl
    | opening tag => rfl

/-- What a comment line says. -/
def Line.content? : Line → Option Text
  | .comment content => some content
  | _ => none

theorem Line.content?_ofText (l : Text) : (ofText l).content? = Comment.content? l := by
  unfold ofText
  cases hcontent : Comment.content? l with
  | some content => rfl
  | none =>
    cases InlineTag.opened? (Text.trim l) with
    | some tag => rfl
    | none => cases Text.words l <;> rfl

/-- The tag that a line opens. -/
def Line.tag? : Line → Option InlineTag
  | .opening tag => some tag
  | _ => none

theorem Line.tag?_ofText (l : Text) : (ofText l).tag? = InlineTag.opened? (Text.trim l) := by
  cases hopen : InlineTag.opened? (Text.trim l) with
  | some tag =>
    rw [ofText_eq_opening_iff.mpr hopen]
    rfl
  | none =>
    cases hline : ofText l with
    | opening tag =>
      rw [ofText_eq_opening_iff, hopen] at hline
      contradiction
    | blank => rfl
    | comment content => rfl
    | directive name args => rfl

/-! ## Arguments -/

/-- An argument is a word of some line. -/
theorem exists_mem_words {names : List String} {t arg : Text} {args : List Text}
    (hargs : args ∈ uses names t) (harg : arg ∈ args) : ∃ l, arg ∈ Text.words l := by
  obtain ⟨l, -, hl⟩ := List.mem_filterMap.mp hargs
  rw [arguments?] at hl
  split at hl
  · cases hwords : Text.words l with
    | nil =>
      rw [hwords] at hl
      contradiction
    | cons name rest =>
      rw [hwords] at hl
      dsimp only at hl
      split at hl
      · exact ⟨l, hwords ▸ List.mem_cons_of_mem name (Option.some.inj hl ▸ harg)⟩
      · contradiction
  · contradiction

theorem not_allBlank_of_mem_uses {names : List String} {t arg : Text} {args : List Text}
    (hargs : args ∈ uses names t) (harg : arg ∈ args) : Text.allBlank arg = false := by
  obtain ⟨l, hl⟩ := exists_mem_words hargs harg
  exact Text.not_allBlank_of_mem_words hl

theorem ne_nil_of_mem_uses {names : List String} {t arg : Text} {args : List Text}
    (hargs : args ∈ uses names t) (harg : arg ∈ args) : arg ≠ [] := by
  obtain ⟨l, hl⟩ := exists_mem_words hargs harg
  exact Text.ne_nil_of_mem_words hl

theorem ne_nil_of_lastArgument {names : List String} {t arg : Text}
    (h : lastArgument names t = some arg) : arg ≠ [] := by
  obtain ⟨args, hlast, hhead⟩ := Option.bind_eq_some_iff.mp h
  exact ne_nil_of_mem_uses (List.mem_of_getLast? hlast) (List.mem_of_head? hhead)

end OpenVPN
end VpnImport
