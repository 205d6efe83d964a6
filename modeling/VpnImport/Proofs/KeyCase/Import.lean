import VpnImport.Proofs.Importer.Run
import VpnImport.Proofs.KeyCase.Extraction

/-!
# The case of key words does not influence an import

The detectors of OpenVPN and IKEv2 read a text in lower case, and that of WireGuard
looks for its sections first.  So two texts with the same letters and without these
sections are reported alike, and if their lines differ in the case of key words
alone they are imported alike.
-/

namespace VpnImport
open Text (sameLetters)

/-! ## Detection -/

namespace Classification
variable {t t' : Text}

/-- A text of another dialect does not have the sections of WireGuard. -/
theorem not_hasSections_of_kind {d : Detector} (hd : d ∈ detectors) (hne : .wireGuard ≠ d.protocol)
    (hkind : classify t = d.protocol) : WireGuard.hasSections t = false := by
  have hdetects := (kind_eq_iff hd).mp hkind
  exact Detection.foreign?_eq_none_iff.mp (Detector.detects_iff.mp hdetects).2.1 _ hne

section Lower
variable (hlower : t.lower = t'.lower) (hsections : WireGuard.hasSections t = false)
  (hsections' : WireGuard.hasSections t' = false)
include hlower hsections hsections'

theorem foreign?_eq_of_lower (own : Protocol) :
    Detection.foreign? t own = Detection.foreign? t' own := by
  have hmarked : Detection.marked t own = Detection.marked t' own := by
    funext p
    cases p with
    | wireGuard => exact hsections.trans hsections'.symm
    | ikev2 => rw [Detection.marked, Detection.marked, hlower]
    | openVPN => rw [Detection.marked, Detection.marked, hlower]
    | unknown => rfl
  rw [Detection.foreign?, Detection.foreign?, hmarked]

theorem report_eq_of_lower : report t = report t' := by
  have hforeign := foreign?_eq_of_lower hlower hsections hsections'
  have hexaminations : examinations t = examinations t' := by
    refine List.map_congr_left fun d hd => ?_
    rcases mem_detectors_iff.mp hd with rfl | rfl | rfl
    · have hgate : WireGuard.detector.gate t = false := hsections
      have hgate' : WireGuard.detector.gate t' = false := hsections'
      rw [Detector.examine, Detector.examine, hgate, hgate']
      rfl
    · refine Detector.examine_congr (congrArg IKEv2.gate hlower)
        (congrArg IKEv2.keywordSet.found hlower) fun score => Detector.verdict_congr (hforeign _) ?_
      show IKEv2.judge t score = IKEv2.judge t' score
      rw [IKEv2.judge, IKEv2.judge, hlower]
    · refine Detector.examine_congr (congrArg OpenVPN.gate hlower)
        (congrArg OpenVPN.keywordSet.found hlower) fun score =>
          Detector.verdict_congr (hforeign _) ?_
      show OpenVPN.judge t score = OpenVPN.judge t' score
      rw [OpenVPN.judge, OpenVPN.judge, hlower]
  rw [report, report, hexaminations]

end Lower
end Classification

/-! ## Imports -/

/-- Two texts with the same letters are reported alike and imported alike, if neither
has the sections of WireGuard and the extractor of their dialect makes the same of
both. -/
theorem import_eq_of_sameLetters {t t' : Text} (h : sameLetters t t' = true) {d : Detector}
    (hd : d ∈ Classification.detectors) (hne : .wireGuard ≠ d.protocol)
    (hkind : classify t = d.protocol) (hsections' : WireGuard.hasSections t' = false)
    (hextract : ∀ x, Extractor.builtin? d.protocol = some x → x.extract t = x.extract t') :
    Classification.report t = Classification.report t' ∧
      ∀ limit, (⟨limit, .withDefaults⟩ : Importer).importText t =
        (⟨limit, .withDefaults⟩ : Importer).importText t' := by
  have hreport : Classification.report t = Classification.report t' :=
    Classification.report_eq_of_lower (Text.ignoresCase_lower.eq h)
      (Classification.not_hasSections_of_kind hd hne hkind) hsections'
  have hkind' : classify t' = d.protocol := by
    rw [← hkind, classify, classify, hreport]
  have hknown : classify t' ≠ .unknown := by
    have hisKnown := Classification.isKnown_protocol hd
    rintro hunknown
    rw [← hkind', hunknown] at hisKnown
    contradiction
  refine ⟨hreport, fun limit => ?_⟩
  refine Importer.importText_congr_of_size (hkind.trans hkind'.symm) hknown
    (Text.ignoresCase_byteSize.eq h) fun x hx => hextract x ?_
  rw [← hkind']
  exact hx

/-- An OpenVPN or IKEv2 text in which the letters of key words are written in another
case has the same report and the same import, unless the change makes the sections
of WireGuard. -/
theorem key_case_irrelevant {t t' : Text} (hsections : WireGuard.hasSections t' = false) :
    (classify t = .openVPN → SameButCase OpenVPN.KeyCase t t' →
      Classification.report t = Classification.report t' ∧
        ∀ limit, (⟨limit, .withDefaults⟩ : Importer).importText t =
          (⟨limit, .withDefaults⟩ : Importer).importText t') ∧
    (classify t = .ikev2 → SameButCase IKEv2.KeyCase t t' →
      Classification.report t = Classification.report t' ∧
        ∀ limit, (⟨limit, .withDefaults⟩ : Importer).importText t =
          (⟨limit, .withDefaults⟩ : Importer).importText t') := by
  constructor
  · intro hkind h
    refine import_eq_of_sameLetters h.letters (d := OpenVPN.detector)
      (by simp [Classification.detectors]) (by decide) hkind hsections fun x hx => ?_
    obtain rfl : Extractor.openVPN = x := Option.some.inj hx
    exact OpenVPN.extract_eq_of_keyCase h
  · intro hkind h
    refine import_eq_of_sameLetters h.letters (d := IKEv2.detector)
      (by simp [Classification.detectors]) (by decide) hkind hsections fun x hx => ?_
    obtain rfl : Extractor.ikev2 = x := Option.some.inj hx
    exact (IKEv2.lookupsAgree_of_keyCase h).extract_eq

theorem key_case_irrelevant_upper_case :
    let openVPN : Text := "client\n\tRemote a 53\n<ca>\n</ca>\n; Verb 3".toList
    let openVPN' : Text := "client\n\tREMOTE a 53\n<ca>\n</CA>\n; Verb 3".toList
    let ikev2 : Text := "config setup\nconn A\n  keyexchange=ikev2\nright = H:53".toList
    let ikev2' : Text := "Config SETUP\nCONN A\n  keyexchange=ikev2\nRIGHT = H:53".toList
    WireGuard.hasSections openVPN' = false ∧ WireGuard.hasSections ikev2' = false ∧
      classify openVPN = .openVPN ∧ classify ikev2 = .ikev2 ∧
      SameButCase OpenVPN.KeyCase openVPN openVPN' ∧ SameButCase IKEv2.KeyCase ikev2 ikev2' ∧
      (Classification.report openVPN = Classification.report openVPN' ∧
        importText openVPN = importText openVPN') ∧
      Classification.report ikev2 = Classification.report ikev2' ∧
      importText ikev2 = importText ikev2' := by
  intro openVPN openVPN' ikev2 ikev2'
  have hremote : OpenVPN.KeyCase ("\t".toList ++ ("Remote".toList ++ " a 53".toList))
      ("\t".toList ++ ("REMOTE".toList ++ " a 53".toList)) := by
    have hmem : "Remote".toList ∈ Text.words "Remote".toList := by decide +kernel
    refine .word ?_ ?_ (Text.visible_of_mem_words hmem) ?_ ?_ ?_ <;> decide +kernel
  have hclose : OpenVPN.KeyCase ([] ++ ("</ca>".toList ++ [])) ([] ++ ("</CA>".toList ++ [])) := by
    have hmem : "</ca>".toList ∈ Text.words "</ca>".toList := by decide +kernel
    refine .word ?_ ?_ (Text.visible_of_mem_words hmem) ?_ ?_ ?_ <;> decide +kernel
  have hopenVPN : SameButCase OpenVPN.KeyCase openVPN openVPN' := by
    have hlines : Text.lines openVPN = ["client".toList, "\tRemote a 53".toList, "<ca>".toList,
        "</ca>".toList, "; Verb 3".toList] := by decide +kernel
    have hlines' : Text.lines openVPN' = ["client".toList, "\tREMOTE a 53".toList, "<ca>".toList,
        "</CA>".toList, "; Verb 3".toList] := by decide +kernel
    refine ⟨by decide +kernel, ?_⟩
    rw [hlines, hlines']
    exact .cons (.same _) (.cons hremote (.cons (.same _) (.cons hclose (.cons (.same _) .nil))))
  have hsetup : IKEv2.KeyCase ("config setup".toList ++ []) ("Config SETUP".toList ++ []) := by
    apply IKEv2.KeyCase.name <;> decide +kernel
  have hconn : IKEv2.KeyCase ([] ++ ("conn".toList ++ " A".toList))
      ([] ++ ("CONN".toList ++ " A".toList)) := by
    apply IKEv2.KeyCase.conn <;> decide +kernel
  have hright : IKEv2.KeyCase ("right ".toList ++ "= H:53".toList)
      ("RIGHT ".toList ++ "= H:53".toList) := by
    apply IKEv2.KeyCase.name <;> decide +kernel
  have hikev2 : SameButCase IKEv2.KeyCase ikev2 ikev2' := by
    have hlines : Text.lines ikev2 = ["config setup".toList, "conn A".toList,
        "  keyexchange=ikev2".toList, "right = H:53".toList] := by decide +kernel
    have hlines' : Text.lines ikev2' = ["Config SETUP".toList, "CONN A".toList,
        "  keyexchange=ikev2".toList, "RIGHT = H:53".toList] := by decide +kernel
    refine ⟨by decide +kernel, ?_⟩
    rw [hlines, hlines']
    exact .cons hsetup (.cons hconn (.cons (.same _) (.cons hright .nil)))
  have hsections : WireGuard.hasSections openVPN' = false := by decide +kernel
  have hsections' : WireGuard.hasSections ikev2' = false := by decide +kernel
  have hkind : classify openVPN = .openVPN := by decide +kernel
  have hkind' : classify ikev2 = .ikev2 := by decide +kernel
  obtain ⟨hreport, himport⟩ := (key_case_irrelevant hsections).1 hkind hopenVPN
  obtain ⟨hreport', himport'⟩ := (key_case_irrelevant hsections').2 hkind' hikev2
  exact ⟨hsections, hsections', hkind, hkind', hopenVPN, hikev2, ⟨hreport, himport _⟩, hreport',
    himport' _⟩

end VpnImport
