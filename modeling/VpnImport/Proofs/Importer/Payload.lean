import VpnImport.Proofs.IKEv2.Extraction
import VpnImport.Proofs.Importer.Run
import VpnImport.Proofs.OpenVPN.Extraction
import VpnImport.Proofs.WireGuard.Extraction

/-!
# Profiles that are not usable

A profile is usable when it names a server and a port.  No extractor gives the
port zero, and two of them give no blank server: one takes the server from a word,
the other trims the host of an endpoint.  The IKEv2 extractor asks only that the
server is not empty, and a quotation can be blank without being empty.  This is
the one way in which the default importer fails for anything but the content of
the text.
-/

namespace VpnImport

theorem OpenVPN.hasPayload_of_extract {t : Text} {p : Profile} (h : extract t = .ok p) :
    p.hasPayload = true := by
  obtain ⟨first, others, hfirst, hp⟩ := exists_describes h
  refine Profile.hasPayload_iff.mpr ⟨hp.server_not_blank hfirst, hp.port_ne_zero, ?_⟩
  rw [hp.kind]
  decide

theorem WireGuard.hasPayload_of_extract {t : Text} {p : Profile} (h : extract t = .ok p) :
    p.hasPayload = true := by
  obtain ⟨s, -, hdraw⟩ := extract_eq_ok_iff.mp h
  obtain ⟨host, port, privateKey, publicKey, fields, he, -, -, -, rfl⟩ := draw_eq_ok_iff.mp hdraw
  obtain ⟨-, hsplit⟩ := endpoint_eq_ok_iff.mp he
  exact hasPayload_compose.mpr ⟨Endpoint.allBlank_of_split hsplit,
    Endpoint.ne_zero_of_split hsplit (by decide)⟩

theorem IKEv2.hasPayload_of_extract {t : Text} {p : Profile} (h : extract t = .ok p) :
    server? t = some p.server.toList ∧
      (p.hasPayload = true ↔ Text.allBlank p.server.toList = false) := by
  obtain ⟨server, hserver, rfl⟩ := extract_eq_ok_iff.mp h
  have htext : (profile t server).server.toList = server := by
    rw [profile, Profile.recordAll_server]
    exact String.toList_ofList
  rw [htext]
  exact ⟨hserver, hasPayload_profile t server⟩

/-- The default importer fails for the content of the text, or else for a server
of an IKEv2 text that is given and blank. -/
theorem importText_input_error {t : Text} {e : ImportError} (h : importText t = .error e) :
    e.isInputError = true ∨
      (e = .missingProfileData .ikev2 ∧ classify t = .ikev2 ∧
        ∃ server, IKEv2.server? t = some server ∧ Text.allBlank server = true) := by
  cases Importer.fails_of_importText h with
  | empty => exact .inl rfl
  | tooLarge => exact .inl rfl
  | unidentified => exact .inl rfl
  | rejected => exact .inl rfl
  | unsupported hkind hget =>
    cases hclass : classify t with
    | unknown => exact absurd hclass hkind
    | openVPN | ikev2 | wireGuard =>
      rw [hclass] at hget
      contradiction
  | unusable x q hkind hget hextract hpayload =>
    cases hclass : classify t with
    | unknown => exact absurd hclass hkind
    | openVPN =>
      rw [hclass] at hget
      obtain rfl : Extractor.openVPN = x := Option.some.inj hget
      rw [OpenVPN.hasPayload_of_extract hextract] at hpayload
      contradiction
    | wireGuard =>
      rw [hclass] at hget
      obtain rfl : Extractor.wireGuard = x := Option.some.inj hget
      rw [WireGuard.hasPayload_of_extract hextract] at hpayload
      contradiction
    | ikev2 =>
      rw [hclass] at hget
      obtain rfl : Extractor.ikev2 = x := Option.some.inj hget
      obtain ⟨hserver, hiff⟩ := IKEv2.hasPayload_of_extract hextract
      refine .inr ⟨rfl, rfl, q.server.toList, hserver, ?_⟩
      rw [hpayload] at hiff
      simpa using hiff

/-- Within the limit, a text of a known kind is imported or it fails to be parsed,
if no blank server is given. -/
theorem importText_cases {t : Text} (hserver : ∀ server, IKEv2.server? t = some server →
      Text.allBlank server = false) (hkind : classify t ≠ .unknown)
    (hsize : Text.byteSize t ≤ defaultMaxContentSize) :
    (∃ p, importText t = .ok p) ∨
      ∃ reason, importText t = .error (.parsingFailed (classify t) reason) := by
  cases h : importText t with
  | ok p => exact .inl ⟨p, rfl⟩
  | error e =>
    refine .inr ?_
    rcases importText_input_error h with hinput | ⟨-, -, server, hgiven, hblank⟩
    · cases Importer.fails_of_importText h with
      | empty hblank =>
        rw [Classification.not_allBlank_of_known hkind] at hblank
        contradiction
      | tooLarge limit hlimit hlt =>
        obtain rfl : defaultMaxContentSize = limit := Option.some.inj hlimit
        omega
      | unidentified hunknown => contradiction
      | unsupported => contradiction
      | rejected x fault => exact ⟨fault.message, rfl⟩
      | unusable => contradiction
    · rw [hserver server hgiven] at hblank
      contradiction

/-- A text gives no blank server for IKEv2 exactly when every extractor gives
usable profiles only, and the default importer fails for the content of the text
alone: a text of a known kind is then imported or cannot be parsed. -/
theorem usable_iff_no_blank_server (t : Text) :
    ((∀ p, OpenVPN.extract t = .ok p → p.hasPayload = true) ∧
      (∀ p, IKEv2.extract t = .ok p → p.hasPayload = true) ∧
      (∀ p, WireGuard.extract t = .ok p → p.hasPayload = true) ∧
      (∀ e, importText t = .error e → e.isInputError = true) ∧
      (classify t ≠ .unknown → Text.byteSize t ≤ defaultMaxContentSize →
        (∃ p, importText t = .ok p) ∨
          ∃ reason, importText t = .error (.parsingFailed (classify t) reason))) ↔
    ∀ server, IKEv2.server? t = some server → Text.allBlank server = false := by
  constructor
  · intro h server hserver
    obtain ⟨-, hikev2, -⟩ := h
    have hextract : IKEv2.extract t = .ok (IKEv2.profile t server) :=
      IKEv2.extract_eq_ok_iff.mpr ⟨server, hserver, rfl⟩
    exact (IKEv2.hasPayload_profile t server).mp (hikev2 _ hextract)
  · intro hserver
    refine ⟨fun p h => OpenVPN.hasPayload_of_extract h, fun p h => ?_,
      fun p h => WireGuard.hasPayload_of_extract h, fun e h => ?_, importText_cases hserver⟩
    · obtain ⟨hgiven, hiff⟩ := IKEv2.hasPayload_of_extract h
      exact hiff.mpr (hserver _ hgiven)
    · rcases importText_input_error h with hinput | ⟨-, -, server, hgiven, hblank⟩
      · exact hinput
      · rw [hserver server hgiven] at hblank
        contradiction

/-- A quotation of white space is taken for a server. -/
theorem importText_blank_server :
    let t : Text := "conn a\n  keyexchange=ikev2\n  right=\"  \"\n".toList
    (∃ p, IKEv2.extract t = .ok p ∧ p.hasPayload = false) ∧
      importText t = .error (.missingProfileData .ikev2) ∧
      (ImportError.missingProfileData .ikev2).isInputError = false := by
  intro t
  have hserver : IKEv2.server? t = some "  ".toList := by decide +kernel
  have hextract := IKEv2.extract_eq_ok_iff.mpr ⟨_, hserver, rfl⟩
  refine ⟨⟨_, hextract, ?_⟩, ?_, rfl⟩
  · rw [← Bool.not_eq_true, IKEv2.hasPayload_profile]
    decide
  · decide +kernel

end VpnImport
