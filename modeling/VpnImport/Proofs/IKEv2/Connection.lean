import VpnImport.IKEv2.Markers
import VpnImport.Proofs.Comment
import VpnImport.Proofs.IKEv2.Extraction
import VpnImport.Proofs.LineShape.Lower
import VpnImport.Proofs.Text.Case
import VpnImport.Proofs.Text.Pattern

/-!
# The name of a connection

The heading of a section can be looked for with a pattern or line by line, in the text as
it stands or in lower case.  All four see the same headings: `captures_heading` and
`gate_lower_iff`.  Hence a text that passes the gate of the detector has a connection for
the extractor, if only the section of defaults, and the profile is named after the first
other one: `connection_naming`.
-/

namespace VpnImport
namespace IKEv2

/-! ## The heading as a pattern -/

def isVisible (c : Char) : Bool :=
  !Text.isBlank c

/-- The heading of a section: the word behind at most spaces and tabs, at least one of
these, and the name up to white space. -/
def heading (same : Char → Char → Bool) : Text.Pattern where
  lead := [.run Text.isPad] ++ ("conn".toList.map fun a => .one (same a)) ++
    [.one Text.isPad, .run Text.isPad]
  group := [.one isVisible, .run isVisible]

/-- What is captured behind the heading, in the order in which it is tried. -/
def names (t : Text) : List Text :=
  (Text.splits [.one isVisible, .run isVisible] t).map Prod.fst

theorem head?_names (t : Text) :
    (names t).head? = if (Text.upToBlank t).isEmpty then none else some (Text.upToBlank t) := by
  cases t with
  | nil => rfl
  | cons c t =>
    by_cases hc : Text.isBlank c = true
    · simp [names, Text.splits, Text.Piece.splits, isVisible, Text.upToBlank, hc]
    · obtain ⟨rest, hrest⟩ := List.head?_eq_some_iff.mp (Text.head?_splits_run isVisible t)
      simp [names, Text.splits, Text.Piece.splits, hrest, isVisible, Text.upToBlank, hc]
      rfl

theorem names_pad {c : Char} (hc : Text.isPad c = true) (t : Text) : names (c :: t) = [] := by
  simp [names, Text.splits, Text.Piece.splits, isVisible, Text.isBlank_of_isPad hc]

/-- At least one space or tab, and behind all of them the name. -/
def gapped (t : Text) : List Text :=
  if t.head?.any Text.isPad then names (Text.skipPads t) else []

/-- The word of the heading, and behind it the name. -/
def headed (same : Char → Char → Bool) (t : Text) : List Text :=
  match Text.after? same "conn".toList t with
  | none => []
  | some rest => gapped rest

theorem flatMap_splits_gap (t : Text) :
    (Text.splits [.one Text.isPad, .run Text.isPad] t).flatMap (fun m => names m.2) =
      gapped t := by
  cases t with
  | nil => rfl
  | cons c t =>
    have hrun := Text.flatMap_splits_run (k := names) (fun c t hc => names_pad hc t) t
    rw [Text.splits, Text.Piece.splits, gapped]
    by_cases hc : Text.isPad c = true
    · simpa [hc, List.flatMap_map, Text.skipPads] using hrun
    · simp [hc]

theorem flatMap_splits_word (same : Char → Char → Bool) (t : Text) :
    (Text.splits ("conn".toList.map fun a => .one (same a)) t).flatMap (fun m => gapped m.2) =
      headed same t :=
  Text.flatMap_splits_letters same "conn".toList t

theorem isVisible_conn : "conn".toList.all isVisible = true := by decide

theorem isVisible_of_isBlank {c : Char} (h : Text.isBlank c = true) : isVisible c = false := by
  rw [isVisible, h]
  rfl

section Heading
variable {same : Char → Char → Bool} (hsame : Text.StaysIn isVisible same)
include hsame

/-- No part of the pattern takes white space, if it does not indent. -/
theorem heading_not_takes {c : Char} (hpad : Text.isPad c = false)
    (hblank : Text.isBlank c = true) :
    ∀ a ∈ (heading same).lead ++ (heading same).group, a.takes c = false := by
  have hvisible := isVisible_of_isBlank hblank
  intro a ha
  simp only [heading, List.mem_append, List.mem_map, List.mem_cons, List.not_mem_nil,
    or_false] at ha
  rcases ha with ((rfl | ⟨x, hx, rfl⟩) | rfl | rfl) | rfl | rfl
  · exact hpad
  · exact hsame.not_same isVisible_conn hvisible x (by simpa using hx)
  · exact hpad
  · exact hpad
  · exact hvisible
  · exact hvisible

theorem inLine_heading : (heading same).InLine where
  feed := heading_not_takes hsame (by decide) (by decide)
  ret := heading_not_takes hsame (by decide) (by decide)
  nil := rfl

theorem headed_pad {c : Char} (hc : Text.isPad c = true) (t : Text) :
    headed same (c :: t) = [] := by
  have hnot : same 'c' c = false :=
    hsame.not_same isVisible_conn (isVisible_of_isBlank (Text.isBlank_of_isPad hc)) 'c' (by decide)
  have hnone : Text.after? same "conn".toList (c :: t) = none := by
    rw [show "conn".toList = ['c', 'o', 'n', 'n'] from rfl, Text.after?, hnot]
    rfl
  rw [headed, hnone]

/-- The indent of the heading is as long as can be. -/
theorem flatMap_splits_lead (l : Text) :
    (Text.splits (heading same).lead l).flatMap (fun m => names m.2) =
      headed same (Text.skipPads l) := by
  rw [heading, Text.flatMap_splits_append]
  simp only [flatMap_splits_gap]
  rw [Text.flatMap_splits_append (k := gapped)]
  simp only [flatMap_splits_word]
  exact Text.flatMap_splits_run (fun c t hc => headed_pad hsame hc t) l

theorem captured?_heading (l : Text) :
    (heading same).captured? l =
      match Text.after? same "conn".toList (Text.skipPads l) with
      | none => none
      | some rest =>
        if rest.head?.any Text.isPad && !(Text.upToBlank (Text.skipPads rest)).isEmpty then
          some (Text.upToBlank (Text.skipPads rest))
        else none := by
  have hcaptured : (heading same).captured? l = (headed same (Text.skipPads l)).head? := by
    rw [Text.Pattern.captured?_eq, ← flatMap_splits_lead hsame]
    rfl
  rw [hcaptured]
  dsimp only [headed, gapped]
  cases Text.after? same "conn".toList (Text.skipPads l) with
  | none => rfl
  | some rest =>
    dsimp only
    by_cases hgap : rest.head?.any Text.isPad = true
    · rw [hgap, if_pos rfl, head?_names]
      cases (Text.upToBlank (Text.skipPads rest)).isEmpty <;> rfl
    · simp [hgap]

end Heading

theorem captured?_heading_sameLetter : (heading Text.sameLetter).captured? = sectionName? :=
  funext fun l => captured?_heading Text.blindToCase_visible.staysIn_sameLetter l

/-- The pattern captures the names on the lines that start a section, in their order. -/
theorem captures_heading (t : Text) :
    (heading Text.sameLetter).captures t = (Text.lines t).filterMap sectionName? := by
  rw [(inLine_heading Text.blindToCase_visible.staysIn_sameLetter).captures_eq,
    captured?_heading_sameLetter]

example : (heading Text.sameLetter).captures "conn a\nconnect\n\tCONN \tb c\nconn\n".toList =
    ["a".toList, "b".toList] := by
  decide

/-! ## The heading in lower case -/

theorem isEmpty_upToBlank (t : Text) :
    (Text.upToBlank t).isEmpty = !t.head?.any fun c => !Text.isBlank c := by
  cases t with
  | nil => rfl
  | cons c t => cases hc : Text.isBlank c <;> simp [Text.upToBlank, hc]

theorem isSome_captured?_heading_beq (l : Text) :
    ((heading (· == ·)).captured? l).isSome = LineShape.hasArgument "conn".toList l := by
  rw [captured?_heading (Text.staysIn_beq _),
    LineShape.hasArgument, LineShape.afterWord?, Text.isPrefixOf?_eq_after?]
  cases Text.after? (· == ·) "conn".toList (Text.skipPads l) with
  | none => rfl
  | some rest =>
    dsimp only
    rw [isEmpty_upToBlank, Bool.not_not]
    split <;> simp_all

theorem isSome_sectionName?_eq (l : Text) :
    (sectionName? l).isSome = LineShape.states "conn".toList l := by
  rw [sectionName?, LineShape.states]
  cases Text.after? Text.sameLetter "conn".toList (Text.skipPads l) with
  | none => rfl
  | some rest =>
    dsimp only
    rw [isEmpty_upToBlank, Bool.not_not]
    split <;> simp_all

/-- The gate is a search for the heading, the letters being compared exactly. -/
theorem gate_iff_matches (t : Text) : gate t = true ↔ (heading (· == ·)).Matches t := by
  rw [(inLine_heading (Text.staysIn_beq _)).matches_iff, gate, List.any_eq_true]
  simp only [isSome_captured?_heading_beq]

/-- The lower case of a text has a heading where the text has one, the case of letters
apart. -/
theorem gate_lower_iff (t : Text) :
    gate t.lower = true ↔ (heading Text.sameLetter).Matches t := by
  rw [(inLine_heading Text.blindToCase_visible.staysIn_sameLetter).matches_iff,
    captured?_heading_sameLetter, gate, Text.lines_lower, List.any_map, List.any_eq_true]
  simp only [Function.comp_apply, LineShape.hasArgument_lower isLowWord_conn (by decide),
    isSome_sectionName?_eq]

/-! ## The lines that name a connection -/

/-- A line that names a connection: the word behind at most spaces and tabs, at least one
of these, and the name up to white space. -/
inductive Names : Text → Text → Prop where
  | line {indent word gap name behind : Text} (hindent : indent.all Text.isPad = true)
      (hword : Text.sameLetters word "conn".toList = true) (hgap_ne : gap ≠ [])
      (hgap : gap.all Text.isPad = true) (hname : name ≠ [])
      (hvisible : ∀ c ∈ name, Text.isBlank c = false)
      (hbehind : behind.head?.all Text.isBlank = true) :
      Names (indent ++ (word ++ (gap ++ (name ++ behind)))) name

theorem sectionName?_eq_some_iff_names {l name : Text} :
    sectionName? l = some name ↔ Names l name := by
  rw [sectionName?_eq_some_iff]
  constructor
  · rintro ⟨rest, hrest, hpad, hne, hname⟩
    obtain ⟨indent, hl, hindent⟩ := Text.exists_skipPads l
    obtain ⟨word, hword, hskip⟩ := Text.after?_eq_some_iff_exists.mp hrest
    obtain ⟨gap, hrestEq, hgap⟩ := Text.exists_skipPads rest
    obtain ⟨behind, hsplit, hvisible, hbehind⟩ := Text.exists_upToBlank (Text.skipPads rest)
    rw [hname] at hsplit hvisible
    rw [hsplit] at hrestEq
    have hgap_ne : gap ≠ [] := by
      rintro rfl
      obtain ⟨c, s, rfl⟩ := List.exists_cons_of_ne_nil hne
      rw [hrestEq] at hpad
      have hblank := Text.isBlank_of_isPad hpad
      rw [hvisible c List.mem_cons_self] at hblank
      contradiction
    rw [hskip, hrestEq] at hl
    rw [hl]
    exact .line hindent (Text.after?_sameLetter_iff.mp hword) hgap_ne hgap hne hvisible hbehind
  · rintro @⟨indent, word, gap, _, behind, hindent, hword, hgap_ne, hgap, hname, hvisible,
      hbehind⟩
    have hvisibleWord := isLowWord_conn.visible_of_sameLetters hword
    have hwordNe : word ≠ [] := by
      rintro rfl
      contradiction
    refine ⟨gap ++ (name ++ behind), ?_, ?_, hname, ?_⟩
    · rw [Text.skipPads_append_visible hindent hwordNe hvisibleWord]
      exact Text.after?_eq_some_iff_exists.mpr ⟨word, Text.after?_sameLetter_iff.mpr hword, rfl⟩
    · obtain ⟨c, s, rfl⟩ := List.exists_cons_of_ne_nil hgap_ne
      exact List.all_eq_true.mp hgap c List.mem_cons_self
    · rw [Text.skipPads_append_visible hgap hname hvisible, Text.upToBlank_append hvisible hbehind]

/-- The name on the first line that names a connection and not the defaults. -/
def IsFirstName (t name : Text) : Prop :=
  ∃ before l after, Text.lines t = before ++ l :: after ∧ Names l name ∧
    Text.sameLetters name "%default".toList = false ∧
    ∀ x ∈ before, ∀ other, Names x other → Text.sameLetters other "%default".toList = true

theorem connectionName?_eq_some_iff {t name : Text} :
    connectionName? t = some name ↔ IsFirstName t name := by
  rw [IsFirstName, connectionName?, Text.find?_filterMap_eq_some_iff]
  simp only [sectionName?_eq_some_iff_names, isDefault, Bool.not_eq_true', Bool.not_eq_false']

theorem connectionName?_eq_none_iff {t : Text} :
    connectionName? t = none ↔ ∀ l ∈ Text.lines t, ∀ name, Names l name →
      Text.sameLetters name "%default".toList = true := by
  rw [connectionName?, Text.find?_filterMap_eq_none_iff]
  simp only [sectionName?_eq_some_iff_names, isDefault, Bool.not_eq_false']

/-! ## The name of the profile -/

theorem name_profile (t server : Text) :
    (profile t server).name = String.ofList (profileName t server) := by
  rw [profile, Profile.recordAll_name]

theorem server_profile (t server : Text) : (profile t server).server = String.ofList server := by
  rw [profile, Profile.recordAll_server]
  rfl

theorem detail?_conn_name (t server : Text) :
    (profile t server).detail? "conn_name" = (connectionName? t).map String.ofList := by
  rw [detail?_profile, detailTable, List.lookup_cons_self]
  rfl

/-- How a profile is named: after the connection, which it records, or else after a comment,
or else after the server. -/
structure NamedFrom (t : Text) (p : Profile) : Prop where
  connection : ∀ name, connectionName? t = some name →
    p.name = String.ofList name ∧ p.detail? "conn_name" = some (String.ofList name)
  unrecorded : connectionName? t = none → p.detail? "conn_name" = none
  comment : connectionName? t = none → ∀ comment, Comment.IsFirst t comment →
    p.name = String.ofList comment
  server : connectionName? t = none →
    (∀ l ∈ Text.lines t, ∀ comment, Comment.Says l comment → ¬ Comment.MayName comment) →
    p.name = "IKEv2 - " ++ p.server

theorem namedFrom_of_extract {t : Text} {p : Profile} (h : extract t = .ok p) :
    NamedFrom t p := by
  obtain ⟨server, -, rfl⟩ := extract_eq_ok_iff.mp h
  constructor
  · intro name hname
    rw [name_profile, detail?_conn_name, profileName, hname]
    exact ⟨rfl, rfl⟩
  · intro hnone
    rw [detail?_conn_name, hnone]
    rfl
  · intro hnone comment hfirst
    rw [name_profile, profileName, hnone, Comment.firstUsable?_eq_some_iff.mpr hfirst]
    rfl
  · intro hnone hno
    rw [name_profile, profileName, hnone, Comment.firstUsable?_eq_none_iff.mpr hno,
      server_profile]
    exact String.ofList_append

/-- The gate of the detector looks for the heading in lower case, and is passed by the texts
in which the pattern of the extractor matches.  The name of the connection is the first that
the pattern captures, which is the name on the first line that names one, the section of
defaults apart, and the profile is named accordingly. -/
theorem connection_naming (t : Text) :
    (gate t.lower = true ↔ (heading (· == ·)).Matches t.lower) ∧
    (gate t.lower = true ↔ (heading Text.sameLetter).Matches t) ∧
    (connectionName? t = ((heading Text.sameLetter).captures t).find? fun name =>
      !Text.sameLetters name "%default".toList) ∧
    (∀ name, connectionName? t = some name ↔ IsFirstName t name) ∧
    (connectionName? t = none ↔ ∀ l ∈ Text.lines t, ∀ name, Names l name →
      Text.sameLetters name "%default".toList = true) ∧
    ∀ p, extract t = .ok p → NamedFrom t p := by
  refine ⟨gate_iff_matches t.lower, gate_lower_iff t, ?_, fun name => connectionName?_eq_some_iff,
    connectionName?_eq_none_iff, fun p hp => namedFrom_of_extract hp⟩
  rw [captures_heading]
  rfl

theorem connection_naming_fallbacks :
    let named := "conn %Default\n# site\n\tCONN office  # main\n  right=vpn.example.com".toList
    let commented := "; site \nconn %default\r\n right=vpn.example.com".toList
    let bare := "connect office\nright = vpn.example.com".toList
    (∃ p, extract named = .ok p ∧ p.name = "office" ∧ p.detail? "conn_name" = some "office") ∧
      (∃ p, extract commented = .ok p ∧ p.name = "site" ∧ p.detail? "conn_name" = none) ∧
      ∃ p, extract bare = .ok p ∧ p.name = "IKEv2 - " ++ p.server := by
  intro named commented bare
  have hserver : ∀ t ∈ [named, commented, bare], server? t = some "vpn.example.com".toList := by
    decide +kernel
  have hnaming : ∀ t ∈ [named, commented, bare],
      ∃ p, extract t = .ok p ∧ NamedFrom t p := fun t ht =>
    have hp := extract_eq_ok_iff.mpr ⟨_, hserver t ht, rfl⟩
    ⟨_, hp, (connection_naming t).2.2.2.2.2 _ hp⟩
  obtain ⟨p, hp, hnamed⟩ := hnaming named (by simp)
  obtain ⟨q, hq, hcommented⟩ := hnaming commented (by simp)
  obtain ⟨r, hr, hbare⟩ := hnaming bare (by simp)
  have hfirst : Comment.IsFirst commented "site".toList :=
    Comment.firstUsable?_eq_some_iff.mp (by decide +kernel)
  have hdefault : connectionName? commented = none := by decide +kernel
  have hno := Comment.firstUsable?_eq_none_iff.mp
    (show Comment.firstUsable? bare = none by decide +kernel)
  exact ⟨⟨p, hp, hnamed.connection "office".toList (by decide +kernel)⟩,
    ⟨q, hq, hcommented.comment hdefault _ hfirst, hcommented.unrecorded hdefault⟩,
    r, hr, hbare.server (by decide +kernel) hno⟩

end IKEv2
end VpnImport
