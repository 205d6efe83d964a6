import VpnImport.Proofs.Detection.Detector
import VpnImport.Proofs.Layout.Lookup

/-!
# Detectors see the content alone

Every gate, marker and keyword is found on a line, and none on a blank one.  So
the detectors of OpenVPN and IKEv2 say the same of two texts with the same lines,
in whatever order and however often: `outcome_eq_of_same_lines`.  The detector of
WireGuard looks a key up in a section besides, which is a matter of order, and says
the same of two texts of the same content.
-/

namespace VpnImport
open Text (SameContent SameLines)

/-! ## Blank lines -/

namespace LineShape
variable {word : Text} (hword : Text.allBlank word = false)
include hword

theorem afterWord?_of_allBlank {l : Text} (hl : Text.allBlank l = true) :
    afterWord? word l = none := by
  rw [afterWord?, Text.isPrefixOf?_eq_after?, Option.eq_none_iff_forall_ne_some]
  intro rest hrest
  have hblank := Text.allBlank_skipPads hl
  rw [Text.after?_eq_some_iff.mp hrest] at hblank
  rw [(Text.allBlank_append.mp hblank).1] at hword
  contradiction

theorem hasArgument_of_allBlank {l : Text} (hl : Text.allBlank l = true) :
    hasArgument word l = false := by
  rw [hasArgument, afterWord?_of_allBlank hword hl]

theorem isCommand_of_allBlank {l : Text} (hl : Text.allBlank l = true) :
    isCommand word l = false := by
  rw [isCommand, afterWord?_of_allBlank hword hl]

end LineShape

theorem KeywordSet.lineHas_of_allBlank {mode : KeywordMode} {keyword : Text} (hk : keyword ≠ [])
    {l : Text} (hl : Text.allBlank l = true) : lineHas mode keyword l = false := by
  obtain ⟨c, s, rfl⟩ := List.exists_cons_of_ne_nil hk
  rw [lineHas, Text.trimStart_eq_nil_iff.mpr hl]
  rfl

namespace IKEv2

theorem keyExchange?_of_allBlank {l : Text} (hl : Text.allBlank l = true) :
    keyExchange? l = none := by
  rw [keyExchange?, Assignment.valueOf?_of_allBlank hl]
  rfl

theorem isConfigSetup_of_allBlank {l : Text} (hl : Text.allBlank l = true) :
    isConfigSetup l = false := by
  rw [isConfigSetup, LineShape.afterWord?_of_allBlank (by decide) hl]

end IKEv2

/-! ## Gates, markers and keywords -/

namespace Text.SameLines
variable {t t' : Text} (h : SameLines t t')
include h

theorem found_prepare_eq {s : KeywordSet} (hs : ∀ k ∈ s.keywords, k.toList ≠ []) :
    s.found (s.prepare t) = s.found (s.prepare t') := by
  refine List.filter_congr fun k hk => ?_
  have hblank : ∀ l, Text.allBlank l = true → KeywordSet.lineHas s.mode k.toList l = false :=
    fun l hl => KeywordSet.lineHas_of_allBlank (hs k hk) hl
  unfold KeywordSet.prepare
  split
  · exact h.any hblank
  · exact h.any_lower hblank

theorem hasSections_eq : WireGuard.hasSections t = WireGuard.hasSections t' := by
  show ((Text.lines t).any _ && (Text.lines t).any _) =
    ((Text.lines t').any _ && (Text.lines t').any _)
  rw [h.any fun _ hl => Section.isHeader_of_allBlank (by decide) hl,
    h.any fun _ hl => Section.isHeader_of_allBlank (by decide) hl]

theorem hasArgument_lower_eq {word : Text} (hword : Text.allBlank word = false) :
    (Text.lines t.lower).any (LineShape.hasArgument word) =
      (Text.lines t'.lower).any (LineShape.hasArgument word) :=
  h.any_lower fun _ hl => LineShape.hasArgument_of_allBlank hword hl

theorem hasVersion2_lower_eq : IKEv2.hasVersion2 t.lower = IKEv2.hasVersion2 t'.lower :=
  h.any_lower fun l hl => by
    rw [IKEv2.declaresVersion2, IKEv2.keyExchange?_of_allBlank hl]
    rfl

theorem hasVersion1_lower_eq : IKEv2.hasVersion1 t.lower = IKEv2.hasVersion1 t'.lower :=
  h.any_lower fun l hl => by
    rw [IKEv2.declaresVersion1, IKEv2.keyExchange?_of_allBlank hl]
    rfl

theorem hasConfigSetup_lower_eq : IKEv2.hasConfigSetup t.lower = IKEv2.hasConfigSetup t'.lower :=
  h.any_lower fun _ hl => IKEv2.isConfigSetup_of_allBlank hl

theorem gate_ikev2_eq : IKEv2.gate t.lower = IKEv2.gate t'.lower :=
  h.hasArgument_lower_eq (by decide)

theorem hasMarkers_ikev2_eq : IKEv2.hasMarkers t.lower = IKEv2.hasMarkers t'.lower := by
  rw [IKEv2.hasMarkers, IKEv2.hasMarkers, h.gate_ikev2_eq, h.hasVersion2_lower_eq]

theorem hasRemote_eq : OpenVPN.hasRemote t.lower = OpenVPN.hasRemote t'.lower :=
  h.hasArgument_lower_eq (by decide)

theorem hasCipher_eq : OpenVPN.hasCipher t.lower = OpenVPN.hasCipher t'.lower :=
  h.hasArgument_lower_eq (by decide)

theorem hasMode_eq : OpenVPN.hasMode t.lower = OpenVPN.hasMode t'.lower := by
  have hwords : ∀ w ∈ OpenVPN.modeCommands, Text.allBlank w.toList = false := by decide
  refine h.any_lower fun l hl => List.any_eq_false.mpr fun w hw => ?_
  rw [LineShape.isCommand_of_allBlank (hwords w hw) hl]
  exact Bool.false_ne_true

theorem hasInlineBlock_eq : OpenVPN.hasInlineBlock t.lower = OpenVPN.hasInlineBlock t'.lower := by
  have htags : ∀ w ∈ OpenVPN.markerTags,
      '\n' ∉ w.toList ∧ '\r' ∉ w.toList ∧ Text.allBlank w.toList = false := by decide
  rw [Bool.eq_iff_iff, OpenVPN.hasInlineBlock, OpenVPN.hasInlineBlock, List.any_eq_true,
    List.any_eq_true]
  refine exists_congr fun w => and_congr_right fun hw => ?_
  obtain ⟨hfeed, hreturn, hsolid⟩ := htags w hw
  rw [h.occurs_lower hfeed hreturn hsolid]

theorem hasFragments_eq : OpenVPN.hasFragments t.lower = OpenVPN.hasFragments t'.lower := by
  have hfragments : ∀ w ∈ OpenVPN.fragments,
      '\n' ∉ w.toList ∧ '\r' ∉ w.toList ∧ Text.allBlank w.toList = false := by decide
  rw [Bool.eq_iff_iff, OpenVPN.hasFragments, OpenVPN.hasFragments, List.all_eq_true,
    List.all_eq_true]
  refine forall_congr' fun w => imp_congr_right fun hw => ?_
  obtain ⟨hfeed, hreturn, hsolid⟩ := hfragments w hw
  rw [h.occurs_lower hfeed hreturn hsolid]

theorem hasMarkers_openVPN_eq : OpenVPN.hasMarkers t.lower = OpenVPN.hasMarkers t'.lower := by
  rw [OpenVPN.hasMarkers, OpenVPN.hasMarkers, h.hasRemote_eq, h.hasMode_eq, h.hasCipher_eq,
    h.hasInlineBlock_eq]

theorem foreign?_eq (own : Protocol) : Detection.foreign? t own = Detection.foreign? t' own := by
  have hmarked : Detection.marked t own = Detection.marked t' own := by
    funext p
    cases p with
    | wireGuard => exact h.hasSections_eq
    | ikev2 => exact h.hasMarkers_ikev2_eq
    | openVPN =>
      rw [Detection.marked, Detection.marked, h.hasMarkers_openVPN_eq, h.hasFragments_eq]
    | unknown => rfl
  rw [Detection.foreign?, Detection.foreign?, hmarked]

/-! ## Detectors -/

theorem examine_eq_of {d : Detector} (hgate : d.gate t = d.gate t')
    (hkeywords : ∀ k ∈ d.keywordSet.keywords, k.toList ≠ [])
    (hjudge : ∀ score, d.judge t score = d.judge t' score) : d.examine t = d.examine t' := by
  exact Detector.examine_congr hgate (h.found_prepare_eq hkeywords) fun score =>
    Detector.verdict_congr (h.foreign?_eq _) (hjudge score)

theorem examine_ikev2_eq : IKEv2.detector.examine t = IKEv2.detector.examine t' := by
  refine h.examine_eq_of h.gate_ikev2_eq (by decide) fun score => ?_
  show IKEv2.judge t score = IKEv2.judge t' score
  rw [IKEv2.judge, IKEv2.judge, h.hasVersion2_lower_eq, h.hasVersion1_lower_eq,
    h.hasConfigSetup_lower_eq]

theorem examine_openVPN_eq : OpenVPN.detector.examine t = OpenVPN.detector.examine t' := by
  have hgate : OpenVPN.gate t.lower = OpenVPN.gate t'.lower := by
    rw [OpenVPN.gate, OpenVPN.gate, h.hasRemote_eq, h.hasMode_eq]
  refine h.examine_eq_of hgate (by decide) fun score => ?_
  show OpenVPN.judge t score = OpenVPN.judge t' score
  rw [OpenVPN.judge, OpenVPN.judge, h.hasInlineBlock_eq]

/-! ## Detectors that look up a key -/

section Key
variable (hkey : WireGuard.privateKey t = WireGuard.privateKey t')
include hkey

theorem examine_wireGuard_eq : WireGuard.detector.examine t = WireGuard.detector.examine t' := by
  refine h.examine_eq_of h.hasSections_eq (by decide) fun score => ?_
  have hcontains : WireGuard.keywordSet.contains t "Endpoint" =
      WireGuard.keywordSet.contains t' "Endpoint" :=
    h.any fun _ hl => KeywordSet.lineHas_of_allBlank (by decide) hl
  show WireGuard.judge t score = WireGuard.judge t' score
  rw [WireGuard.judge, WireGuard.judge, hkey, hcontains]

theorem examinations_eq : Classification.examinations t = Classification.examinations t' := by
  refine List.map_congr_left fun d hd => ?_
  rcases Classification.mem_detectors_iff.mp hd with rfl | rfl | rfl
  · exact h.examine_wireGuard_eq hkey
  · exact h.examine_ikev2_eq
  · exact h.examine_openVPN_eq

theorem report_eq : Classification.report t = Classification.report t' := by
  rw [Classification.report, Classification.report, h.examinations_eq hkey]

end Key

end Text.SameLines

namespace Text.SameContent
variable {t t' : Text} (h : SameContent t t')
include h

/-- The private key is looked up in a section, which has the same content in both
texts. -/
theorem privateKey_eq : WireGuard.privateKey t = WireGuard.privateKey t' := by
  unfold WireGuard.privateKey
  rcases Section.body?_cases (by decide : Text.allBlank WireGuard.interfaceHeader = false) h with
    ⟨hb, hb'⟩ | ⟨b, b', hb, hb', hsame⟩
  · rw [hb, hb']
  · rw [hb, hb']
    exact hsame.lineValue_eq _

theorem examinations_eq : Classification.examinations t = Classification.examinations t' :=
  h.sameLines.examinations_eq h.privateKey_eq

theorem report_eq : Classification.report t = Classification.report t' :=
  h.sameLines.report_eq h.privateKey_eq

end Text.SameContent

/-- The detectors of OpenVPN and IKEv2 depend on the set of lines of a text and on
nothing else. -/
theorem outcome_eq_of_same_lines {t t' : Text}
    (h : ∀ l, l ∈ Text.lines t ↔ l ∈ Text.lines t') :
    OpenVPN.detector.outcome t = OpenVPN.detector.outcome t' ∧
      IKEv2.detector.outcome t = IKEv2.detector.outcome t' := by
  have hlines : SameLines t t' := Text.sameLines_of_lines h
  rw [Detector.outcome, Detector.outcome, Detector.outcome, Detector.outcome,
    hlines.examine_openVPN_eq, hlines.examine_ikev2_eq]
  exact ⟨rfl, rfl⟩

theorem outcome_eq_of_same_lines_shuffled :
    let t : Text := "# ΟΔΟΣ\nclient\nremote a 53\r\nconn x\n\nkeyexchange=ikev2".toList
    let t' : Text :=
      "keyexchange=ikev2\nremote a 53\n\r\nconn x\nremote a 53\nclient\r\n# ΟΔΟΣ".toList
    (∀ l, l ∈ Text.lines t ↔ l ∈ Text.lines t') ∧
      OpenVPN.detector.outcome t = OpenVPN.detector.outcome t' ∧
      IKEv2.detector.outcome t = IKEv2.detector.outcome t' ∧
      (OpenVPN.detector.outcome t').verdict = .excluded .ikev2 ∧
      (IKEv2.detector.outcome t').verdict = .excluded .openVPN := by
  intro t t'
  have hsub : ∀ l ∈ Text.lines t, l ∈ Text.lines t' := by decide +kernel
  have hsup : ∀ l ∈ Text.lines t', l ∈ Text.lines t := by decide +kernel
  have h : ∀ l, l ∈ Text.lines t ↔ l ∈ Text.lines t' := fun l => ⟨hsub l, hsup l⟩
  obtain ⟨hopenVPN, hikev2⟩ := outcome_eq_of_same_lines h
  exact ⟨h, hopenVPN, hikev2, by decide +kernel, by decide +kernel⟩

end VpnImport
