import VpnImport.Proofs.IKEv2.Extraction
import VpnImport.Proofs.Importer.Run
import VpnImport.Proofs.Layout.Detection
import VpnImport.Proofs.Text.Words
import VpnImport.Proofs.WireGuard.Extraction

/-!
# The layout of a text does not influence an import

Every extractor reads a text through lookups and scans of its lines.  Two texts
of the same content are therefore reported alike and imported alike, whatever
their line endings and blank lines are.
-/

namespace VpnImport
open Text (SameContent)

/-! ## OpenVPN -/

namespace OpenVPN

theorem Line.ofText_of_allBlank {l : Text} (hl : Text.allBlank l = true) : ofText l = .blank := by
  rw [ofText, Comment.content?_of_allBlank hl, Text.trim_eq_nil_iff.mpr hl,
    Text.words_eq_nil_iff.mpr hl]
  rfl

theorem InlineTag.closes_nil (tag : InlineTag) : tag.closes [] = false := by
  cases tag <;> rfl

/-- A blank line neither sets anything nor closes a block. -/
theorem Reading.step_of_allBlank (r : Reading) {l : Text} (hl : Text.allBlank l = true) :
    r.step l = r := by
  unfold step
  split
  · rw [Text.trim_eq_nil_iff.mpr hl, InlineTag.closes_nil, if_neg Bool.false_ne_true]
  · rw [Line.ofText_of_allBlank hl]
    rfl

theorem extract_eq_of_sameContent {t t' : Text} (h : SameContent t t') :
    extract t = extract t' := by
  have hrun : Reading.start.run (Text.lines t) = Reading.start.run (Text.lines t') :=
    h.foldl (fun r _ hl => r.step_of_allBlank hl) _
  rw [extract, extract, Settings.ofText, Settings.ofText, hrun]

end OpenVPN

/-! ## IKEv2 -/

namespace IKEv2

theorem sectionName?_of_allBlank {l : Text} (hl : Text.allBlank l = true) :
    sectionName? l = none := by
  rw [Option.eq_none_iff_forall_ne_some]
  intro name hname
  have hblank : Text.allBlank name = true := Text.allBlank_iff.mpr fun c hc =>
    Text.allBlank_iff.mp hl c (subset_of_sectionName? hname hc)
  rw [not_allBlank_of_sectionName? hname] at hblank
  contradiction

/-- A run of digits ends at the end of its row. -/
theorem portAfterColon?_append_cons {c : Char} (hdigit : Text.isDecimal c = false)
    (hcolon : (c == ':') = false) (a t : Text) :
    portAfterColon? (a ++ c :: t) = (portAfterColon? a).or (portAfterColon? t) := by
  induction a with
  | nil =>
    show portAfterColon? (c :: t) = portAfterColon? t
    simp [portAfterColon?, hcolon]
  | cons x a ih =>
    have hrun : (a ++ c :: t).takeWhile Text.isDecimal = a.takeWhile Text.isDecimal := by
      rw [List.takeWhile_append, List.takeWhile_cons_of_neg (by simp [hdigit]), List.append_nil]
      split
      · rename_i hlen
        exact ((List.takeWhile_prefix _).eq_of_length hlen).symm
      · rfl
    rw [List.cons_append, portAfterColon?_cons, portAfterColon?_cons, hrun, ih, Option.or_assoc]

/-- The first port behind a colon stands on the first line that has one. -/
theorem portAfterColon?_eq_findSome? (t : Text) :
    portAfterColon? t = (Text.lines t).findSome? portAfterColon? := by
  induction t using Text.row_induction with
  | last row hrow =>
    rw [Text.lines_row hrow]
    by_cases hempty : row = []
    · rw [hempty]
      rfl
    · simp [hempty]
  | cons row t hrow ih =>
    have hreturn : portAfterColon? (Text.dropReturn row) = portAfterColon? row := by
      refine Text.dropReturn_congr (fun row => ?_) row
      rw [portAfterColon?_append_cons (by decide +kernel) (by decide), portAfterColon?,
        Option.or_none]
    rw [Text.lines_cons hrow, List.findSome?_cons, hreturn,
      portAfterColon?_append_cons (by decide +kernel) (by decide), ih]
    cases portAfterColon? row with
    | none => rfl
    | some port => rfl

theorem portAfterColon?_of_allBlank {l : Text} (hl : Text.allBlank l = true) :
    portAfterColon? l = none := by
  induction l with
  | nil => rfl
  | cons c l ih =>
    have hall := Text.allBlank_iff.mp hl
    have hcolon : (c == ':') = false :=
      beq_false_of_ne fun e => absurd (e ▸ hall c List.mem_cons_self) (by decide)
    have hrest : Text.allBlank l = true :=
      Text.allBlank_iff.mpr fun x hx => hall x (List.mem_cons_of_mem c hx)
    rw [portAfterColon?, hcolon, if_neg Bool.false_ne_true, ih hrest]

theorem lookupsAgree_of_sameContent {t t' : Text} (h : SameContent t t') : LookupsAgree t t' where
  value := fun key _ => h.tokenValue_eq key.toList
  connection := by
    rw [connectionName?, connectionName?, h.filterMap fun _ hl => sectionName?_of_allBlank hl]
  comment := h.firstUsable?_eq
  port := by
    rw [portAfterColon?_eq_findSome? t, portAfterColon?_eq_findSome? t',
      h.findSome? fun _ hl => portAfterColon?_of_allBlank hl]

end IKEv2

/-! ## WireGuard -/

namespace WireGuard
variable {t t' : Text}

/-- A profile is drawn from the sections through lookups alone. -/
theorem draw_eq_of_lineValue {s s' : Sections}
    (hinterface : Assignment.lineValue s.interface = Assignment.lineValue s'.interface)
    (hpeer : Assignment.lineValue s.peer = Assignment.lineValue s'.peer)
    (comment : Option Text) (peers : Nat) : draw comment peers s = draw comment peers s' := by
  have hendpoint : endpoint s.peer = endpoint s'.peer := by
    rw [endpoint, endpoint, hpeer]
  have hprivate : requiredKey s.interface "PrivateKey" "[Interface]" =
      requiredKey s'.interface "PrivateKey" "[Interface]" := by
    rw [requiredKey, requiredKey, hinterface]
  have hpublic : requiredKey s.peer "PublicKey" "[Peer]" =
      requiredKey s'.peer "PublicKey" "[Peer]" := by
    rw [requiredKey, requiredKey, hpeer]
  have hfields : parameters.mapM (·.read s) = parameters.mapM (·.read s') := by
    refine mapM_congr fun p hp => ?_
    rcases source_cases hp with hsource | hsource
    · rw [Parameter.read, Parameter.read, hsource, hinterface]
    · rw [Parameter.read, Parameter.read, hsource, hpeer]
  rw [draw, draw, hendpoint, hprivate, hpublic, hfields, hpeer]

theorem sections_cases (h : SameContent t t') :
    (∃ e, sections t = .error e ∧ sections t' = .error e) ∨
      ∃ s s', sections t = .ok s ∧ sections t' = .ok s' ∧
        SameContent s.interface s'.interface ∧ SameContent s.peer s'.peer := by
  unfold sections
  rcases Section.body?_cases (by decide : Text.allBlank interfaceHeader = false) h with
    ⟨hi, hi'⟩ | ⟨i, i', hi, hi', hinterface⟩
  · rw [hi, hi']
    exact .inl ⟨_, rfl, rfl⟩
  · rw [hi, hi']
    rcases Section.body?_cases (by decide : Text.allBlank peerHeader = false) h with
      ⟨hp, hp'⟩ | ⟨p, p', hp, hp', hpeer⟩
    · rw [hp, hp']
      exact .inl ⟨_, rfl, rfl⟩
    · rw [hp, hp']
      exact .inr ⟨⟨i, p⟩, ⟨i', p'⟩, rfl, rfl, hinterface, hpeer⟩

theorem extract_eq_of_sameContent (h : SameContent t t') : extract t = extract t' := by
  rw [extract_eq, extract_eq, h.firstUsable?_eq,
    Section.count_eq_of_sameContent (by decide : Text.allBlank peerHeader = false) h]
  rcases sections_cases h with ⟨e, hs, hs'⟩ | ⟨s, s', hs, hs', hinterface, hpeer⟩
  · rw [hs, hs']
  · rw [hs, hs']
    exact draw_eq_of_lineValue (funext hinterface.lineValue_eq) (funext hpeer.lineValue_eq) _ _

end WireGuard

/-! ## Imports -/

/-- An extractor does not see the layout, if none of an application does. -/
theorem Extractor.extract_eq_of_sameContent {x : Extractor} {t t' : Text} (h : SameContent t t')
    (hcustom : ∀ name protocol run, x = .custom name protocol run → run t = run t') :
    x.extract t = x.extract t' := by
  cases x with
  | openVPN => exact OpenVPN.extract_eq_of_sameContent h
  | ikev2 => exact (IKEv2.lookupsAgree_of_sameContent h).extract_eq
  | wireGuard => exact WireGuard.extract_eq_of_sameContent h
  | custom name protocol run => exact hcustom name protocol run rfl

theorem Importer.run_eq_of_sameContent {m : Importer} {t t' : Text} (h : SameContent t t')
    (hsize : ∀ limit ∈ m.maxContentSize, Text.byteSize t ≤ limit)
    (hsize' : ∀ limit ∈ m.maxContentSize, Text.byteSize t' ≤ limit)
    (hcustom : ∀ kind name protocol run,
      m.extractors.get? kind = some (.custom name protocol run) → run t = run t') :
    m.run t = m.run t' := by
  by_cases hblank : Text.allBlank t = true
  · have hblank' : Text.allBlank t' = true := h.allBlank_eq ▸ hblank
    rw [run, run, if_pos hblank, if_pos hblank']
  · rw [Bool.not_eq_true] at hblank
    have hblank' : Text.allBlank t' = false := h.allBlank_eq ▸ hblank
    have hevents : Log.Event.ofClassification t = Log.Event.ofClassification t' := by
      rw [Log.Event.ofClassification, Log.Event.ofClassification, h.examinations_eq, h.report_eq]
    rw [run_eq_dispatch hblank (exceeded?_eq_none_iff.mpr hsize),
      run_eq_dispatch hblank' (exceeded?_eq_none_iff.mpr hsize'), h.report_eq, hevents]
    cases hget : m.extractors.get? (Classification.report t').kind with
    | none =>
      rw [dispatch, dispatch, hget]
    | some x =>
      refine dispatch_congr hget (Extractor.extract_eq_of_sameContent h ?_) _
      intro name protocol run hx
      exact hcustom _ name protocol run (hx ▸ hget)

/-- Two texts of the same content have the same report, and the same result with
every importer whose limit neither exceeds, as long as the extractors that an
application brings see no difference.  The content does not change when line feeds
become line endings of two characters, when the last line is ended, and when blank
lines come in before, between and behind the others. -/
theorem layout_irrelevant :
    (∀ t t' : Text, SameContent t t' →
      Classification.report t = Classification.report t' ∧
      ∀ m : Importer,
        (∀ limit ∈ m.maxContentSize, Text.byteSize t ≤ limit ∧ Text.byteSize t' ≤ limit) →
        (∀ kind name protocol run,
          m.extractors.get? kind = some (.custom name protocol run) → run t = run t') →
        m.importText t = m.importText t') ∧
    (∀ t : Text, ¬ ['\r', '\n'] <:+: t → SameContent (Text.withReturns t) t) ∧
    (∀ t : Text, t.getLast? ≠ some '\r' → SameContent (t ++ ['\n']) t) ∧
    (∀ blank t : Text, Text.allBlank blank = true → SameContent (blank ++ '\n' :: t) t) ∧
    (∀ t blank t' : Text, Text.allBlank blank = true →
      SameContent (t ++ '\n' :: (blank ++ '\n' :: t')) (t ++ '\n' :: t')) ∧
    (∀ t blank : Text, Text.allBlank blank = true →
      SameContent (t ++ '\n' :: blank) (t ++ ['\n'])) := by
  refine ⟨fun t t' h => ⟨h.report_eq, fun m hsize hcustom => ?_⟩,
    fun t => Text.sameContent_withReturns, fun t => Text.sameContent_append_feed,
    fun blank t hblank => Text.sameContent_blank_append hblank t,
    fun t blank t' hblank => (Text.sameContent_blank_append hblank t').append t,
    fun t blank hblank => Text.sameContent_append_blank hblank t⟩
  have hrun := Importer.run_eq_of_sameContent h (fun limit hl => (hsize limit hl).1)
    (fun limit hl => (hsize limit hl).2) hcustom
  exact congrArg Importer.Run.result hrun

theorem layout_irrelevant_returns_and_blanks :
    let t : Text := "conn a\n  right=h\n  keyexchange=ikev2".toList
    let t' : Text := "\r\nconn a\r\n \t\r\n  right=h\r\n  keyexchange=ikev2\r\n\u3000".toList
    SameContent t t' ∧
      (∀ limit ∈ Importer.default.maxContentSize,
        Text.byteSize t ≤ limit ∧ Text.byteSize t' ≤ limit) ∧
      Classification.report t = Classification.report t' ∧
      Importer.default.importText t = Importer.default.importText t' := by
  intro t t'
  have h : SameContent t t' := by
    show Text.contentLines t = Text.contentLines t'
    decide +kernel
  have hsize : ∀ limit ∈ Importer.default.maxContentSize,
      Text.byteSize t ≤ limit ∧ Text.byteSize t' ≤ limit := by decide +kernel
  have hcustom : ∀ kind name protocol run,
      Importer.default.extractors.get? kind = some (.custom name protocol run) →
        run t = run t' := by
    intro kind name protocol run hget
    cases kind <;> cases hget
  obtain ⟨hreport, himport⟩ := layout_irrelevant.1 t t' h
  exact ⟨h, hsize, hreport, himport _ hsize hcustom⟩

end VpnImport
