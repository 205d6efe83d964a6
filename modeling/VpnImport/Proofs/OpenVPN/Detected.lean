import VpnImport.Proofs.Importer.Payload
import VpnImport.Proofs.LineShape.Lower

/-!
# A detected remote is extracted

The detector looks for a remote in the lower case of every line, the extractor
reads the lines themselves and passes over those that a block hides.  A line on
which the detector sees a remote states one to the extractor too
(`exists_arguments?`), so unless every such line is hidden the extraction finds a
server, and what it may still find fault with is the port.
-/

namespace VpnImport
namespace OpenVPN

/-- Whether a line states a remote: the word, ASCII case ignored, and behind it,
after spaces or tabs, something that is not white space. -/
def statesRemote (l : Text) : Bool :=
  match Text.after? Text.sameLetter "remote".toList (Text.skipPads l) with
  | none => false
  | some rest =>
    rest.head?.any Text.isPad && (Text.skipPads rest).head?.any fun c => !Text.isBlank c

theorem isLowWord_remote : Text.IsLowWord "remote".toList := by
  decide

/-! ## From lower case to the line -/

/-- Where the detector sees a remote, the line states it. -/
theorem statesRemote_of_hasArgument {l : Text}
    (h : LineShape.hasArgument "remote".toList l.lower = true) : statesRemote l = true := by
  rw [LineShape.hasArgument_lower isLowWord_remote (by decide)] at h
  exact h

/-! ## From the line to a remote -/

theorem exists_of_statesRemote {l : Text} (h : statesRemote l = true) :
    ∃ pads w p rest, l = pads ++ (w ++ p :: rest) ∧ Text.allBlank pads = true ∧
      Text.sameLetters w "remote".toList = true ∧ Text.isBlank p = true ∧
      Text.allBlank rest = false := by
  obtain ⟨w, p, rest, hskip, hw, hpad, hvisible⟩ := LineShape.states_iff.mp h
  obtain ⟨c, hc, hvisible⟩ := (Option.any_eq_true _ _).mp hvisible
  obtain ⟨pads, hl, hpads⟩ := Text.exists_skipPads l
  refine ⟨pads, w, p, rest, by rw [← hskip]; exact hl, Text.allBlank_of_all_isPad hpads, hw,
    Text.isBlank_of_isPad hpad, ?_⟩
  rw [Text.skipPads, List.dropWhile_cons_of_pos hpad] at hc
  rw [← Bool.not_eq_true]
  intro hblank
  have hmem : c ∈ rest := (List.dropWhile_sublist _).subset (List.mem_of_head? hc)
  rw [Text.allBlank_iff.mp hblank c hmem] at hvisible
  contradiction

theorem exists_trim_of_statesRemote {l : Text} (h : statesRemote l = true) :
    ∃ c s, Text.trim l = c :: s ∧ c.toLower = 'r' := by
  obtain ⟨pads, w, p, rest, rfl, hpads, hw, -, -⟩ := exists_of_statesRemote h
  have hvisible := isLowWord_remote.visible_of_sameLetters hw
  rw [isLowWord_remote.sameLetters_iff] at hw
  cases w with
  | nil => contradiction
  | cons c w =>
    have hhead : (Text.trim (pads ++ (c :: w ++ p :: rest))).head? = some c := by
      rw [Text.head?_trim, Text.trimStart_blank_append hpads, List.cons_append,
        Text.trimStart_of_head (hvisible c List.mem_cons_self)]
      rfl
    obtain ⟨s, hs⟩ := List.head?_eq_some_iff.mp hhead
    exact ⟨c, s, hs, (List.cons.inj hw).1⟩

theorem isActive_of_statesRemote {l : Text} (h : statesRemote l = true) : isActive l = true := by
  obtain ⟨c, s, htrim, hc⟩ := exists_trim_of_statesRemote h
  have hblank : Text.allBlank l = false := by
    rw [← Bool.not_eq_true, ← Text.trim_eq_nil_iff, htrim]
    exact List.cons_ne_nil c s
  have hcontent : Comment.content? l = none := by
    have hmark : Comment.isMark c = false := by
      rw [← Bool.not_eq_true, Comment.isMark, Bool.or_eq_true, beq_iff_eq, beq_iff_eq]
      rintro (rfl | rfl) <;> exact absurd hc (by decide)
    rw [Comment.content?, htrim]
    exact if_neg (Bool.eq_false_iff.mp hmark)
  have hopen : InlineTag.opened? (Text.trim l) = none := by
    rw [Option.eq_none_iff_forall_ne_some]
    intro tag htag
    obtain ⟨rest, hrest⟩ := InlineTag.exists_cons_of_opened? htag
    rw [htrim] at hrest
    rw [(List.cons.inj hrest).1] at hc
    exact absurd hc (by decide)
  rw [isActive, hblank, hcontent, hopen]
  rfl

theorem exists_arguments? {l : Text} (h : statesRemote l = true) :
    ∃ host args, arguments? ["remote"] l = some (host :: args) := by
  have hactive := isActive_of_statesRemote h
  obtain ⟨pads, w, p, rest, rfl, hpads, hw, hp, hrest⟩ := exists_of_statesRemote h
  have hne : w ≠ [] := by
    rintro rfl
    contradiction
  have hwords := Text.words_append_cons hne
    (isLowWord_remote.visible_of_sameLetters hw) hp rest
  obtain ⟨host, args, hargs⟩ : ∃ host args, Text.words rest = host :: args := by
    refine List.exists_cons_of_ne_nil fun hnil => ?_
    rw [Text.words_eq_nil_iff.mp hnil] at hrest
    contradiction
  refine ⟨host, args, ?_⟩
  rw [arguments?, if_pos hactive, Text.words_blank_append hpads, hwords]
  dsimp only
  rw [isLowWord_remote.lower_eq_of_sameLetters hw,
    if_pos (List.mem_map_of_mem List.mem_cons_self), hargs]

theorem not_closes_of_statesRemote {l : Text} (h : statesRemote l = true) (tag : InlineTag) :
    tag.closes (Text.trim l) = false := by
  obtain ⟨c, s, htrim, hc⟩ := exists_trim_of_statesRemote h
  rw [← Bool.not_eq_true, InlineTag.closes, htrim, Text.sameLetters, beq_iff_eq]
  intro hclose
  rw [(List.cons.inj hclose).1] at hc
  exact absurd hc (by decide)

/-! ## Reading the lines -/

namespace Reading

/-- Whether a line is inside the block that is open. -/
def hides (r : Reading) (l : Text) : Bool :=
  r.block.any fun tag => !tag.closes (Text.trim l)

/-- The lines that stand inside blocks when reading goes on with them. -/
def hidden (r : Reading) : List Text → List Text
  | [] => []
  | l :: ls => if r.hides l then l :: (r.step l).hidden ls else (r.step l).hidden ls

/-- No line takes a remote back. -/
theorem remotes_step (r : Reading) (l : Text) :
    r.settings.remotes.toList <+: (r.step l).settings.remotes.toList := by
  rw [settings_step]
  split
  · rw [Settings.remotes_applyLine]
    exact List.prefix_append _ _
  · exact List.prefix_rfl

theorem remotes_run (r : Reading) (ls : List Text) :
    r.settings.remotes.toList <+: (r.run ls).settings.remotes.toList := by
  induction ls generalizing r with
  | nil => exact List.prefix_rfl
  | cons l ls ih => exact (remotes_step r l).trans (ih (r.step l))

theorem remotes_step_ne_nil {r : Reading} {l : Text} (hr : r.block = none)
    (hl : statesRemote l = true) : (r.step l).settings.remotes.toList ≠ [] := by
  obtain ⟨host, args, hargs⟩ := exists_arguments? hl
  rw [settings_step, if_pos hr, Settings.remotes_applyLine, Line.arguments?_ofText]
  rw [show Directive.remote.names = ["remote"] from rfl, hargs]
  simp [Settings.remote?]

/-- A line that states a remote is hidden by a block, or else reading finds a
remote. -/
theorem remotes_run_ne_nil {r : Reading} {l : Text} {ls : List Text} (hl : l ∈ ls)
    (hstates : statesRemote l = true) (hhidden : ∀ x ∈ r.hidden ls, statesRemote x = false) :
    (r.run ls).settings.remotes.toList ≠ [] := by
  induction ls generalizing r with
  | nil => contradiction
  | cons x ls ih =>
    rcases List.mem_cons.mp hl with rfl | hl
    · cases hblock : r.block with
      | none =>
        intro hnil
        have hprefix := remotes_run (r.step l) ls
        rw [← run_cons, hnil, List.prefix_nil] at hprefix
        exact remotes_step_ne_nil hblock hstates hprefix
      | some tag =>
        have hhides : r.hides l = true := by
          rw [hides, hblock, Option.any_some, not_closes_of_statesRemote hstates, Bool.not_false]
        have hmem : l ∈ r.hidden (l :: ls) := by
          rw [hidden, if_pos hhides]
          exact List.mem_cons_self
        rw [hhidden l hmem] at hstates
        contradiction
    · rw [run_cons]
      refine ih hl fun y hy => hhidden y ?_
      rw [hidden]
      split
      · exact List.mem_cons_of_mem x hy
      · exact hy

end Reading

/-! ## Detected texts -/

theorem exists_statesRemote_of_classify {t : Text} (hkind : classify t = .openVPN) :
    ∃ l ∈ Text.lines t, statesRemote l = true := by
  have hdetects : detector.detects t = true :=
    (Classification.kind_eq_iff (d := detector) (by simp [Classification.detectors])).mp hkind
  have hremote : hasRemote t.lower = true :=
    (Bool.and_eq_true_iff.mp (Detector.gate_of_detects hdetects)).1
  rw [hasRemote, Text.lines_lower, List.any_map, List.any_eq_true] at hremote
  obtain ⟨l, hl, hargument⟩ := hremote
  exact ⟨l, hl, statesRemote_of_hasArgument hargument⟩

/-- A text that is taken for OpenVPN, and in which no block hides a line that states
a remote, is extracted, or its port is not valid: a remote is never missing.  Within
the limit it is imported, or cannot be parsed for that port. -/
theorem extract_of_detected {t : Text} (hkind : classify t = .openVPN)
    (hhidden : ∀ l ∈ Reading.start.hidden (Text.lines t), statesRemote l = false) :
    ((∃ p, extract t = .ok p) ∨ ∃ value, extract t = .error (.invalidValue "port" value)) ∧
    (Text.byteSize t ≤ defaultMaxContentSize →
      (∃ p, importText t = .ok p) ∨
        ∃ value, extract t = .error (.invalidValue "port" value) ∧
          importText t = .error
            (.parsingFailed .openVPN (ExtractError.invalidValue "port" value).message)) := by
  obtain ⟨l, hl, hstates⟩ := exists_statesRemote_of_classify hkind
  have hremotes : remoteArguments t ≠ [] := by
    intro hnil
    have hread := Reading.remotes_run_ne_nil hl hstates hhidden
    exact hread (by rw [← Settings.ofText, remotes_eq, hnil]; rfl)
  have hextract : (∃ p, extract t = .ok p) ∨
      ∃ value, extract t = .error (.invalidValue "port" value) := by
    rcases extract_cases t with ⟨hnil, -⟩ | ⟨stated, -, -, -, h⟩ | ⟨-, -, p, -, -, h, -⟩
    · exact absurd hnil hremotes
    · exact .inr ⟨_, h⟩
    · exact .inl ⟨p, h⟩
  refine ⟨hextract, fun hsize => ?_⟩
  have hknown : classify t ≠ .unknown := by
    rw [hkind]
    decide
  have himport : importText t = Importer.adopt .openVPN (extract t) := by
    have hlimit : Importer.default.exceeded? (Text.byteSize t) = none := by
      refine Importer.exceeded?_eq_none_iff.mpr fun limit h => ?_
      obtain rfl : defaultMaxContentSize = limit := Option.some.inj h
      exact hsize
    rw [importText, Importer.importText_of_known (Classification.not_allBlank_of_known hknown)
      hlimit hknown, hkind]
    exact Importer.result_deliver .openVPN .openVPN t _
  rcases hextract with ⟨p, hp⟩ | ⟨value, hvalue⟩
  · refine .inl ⟨{ p with kind := .openVPN }, ?_⟩
    rw [himport, hp, Importer.adopt, if_pos (hasPayload_of_extract hp)]
  · refine .inr ⟨value, hvalue, ?_⟩
    rw [himport, hvalue, Importer.adopt]

theorem extract_of_detected_beside_block :
    let t : Text := ("client\ndev tun\n<key>\n</ca>\nremotely a\n</KEY>\n" ++
      "\tReMote\t vpn.example.com\r\nport 0\n").toList
    classify t = .openVPN ∧
      (∀ l ∈ Reading.start.hidden (Text.lines t), statesRemote l = false) ∧
      ((∃ p, extract t = .ok p) ∨ ∃ value, extract t = .error (.invalidValue "port" value)) := by
  intro t
  have hkind : classify t = .openVPN := by decide +kernel
  have hhidden : ∀ l ∈ Reading.start.hidden (Text.lines t), statesRemote l = false := by
    decide +kernel
  exact ⟨hkind, hhidden, (extract_of_detected hkind hhidden).1⟩

/-- A remote that only a block states is not extracted. -/
example :
    let t : Text := "client\ndev tun\n<ca>\nremote a\n</ca>\n".toList
    classify t = .openVPN ∧
      extract t = .error (.missingField "'remote' directive" "OpenVPN configuration") := by
  decide +kernel

end OpenVPN
end VpnImport
