import VpnImport.Proofs.Detection.Markers
import VpnImport.Proofs.Importer.Run
import VpnImport.Proofs.Keyword
import VpnImport.Proofs.WireGuard.Extraction

/-!
# Which texts are imported as WireGuard

The detector looks at the whole text and the extractor at two sections of it.  A
key that is found in a section stands on a line of the text, so whatever the
extractor needs the keyword table counts as well: a text from which a profile can
be drawn never fails on its score.  Neither can the profile fail afterwards, as
an endpoint gives a host that is not blank and a port that is not zero.
-/

namespace VpnImport
namespace WireGuard
open Assignment (lineValue)

/-- What a text must have to be imported as WireGuard: the two sections `s`, no
markers of another dialect, usable keys, an endpoint that splits into `host` and
`port`, and numbers where numbers are asked for. -/
structure Acceptable (t : Text) (s : Sections) (host : Text) (port : UInt16) : Prop where
  interface : Section.body? t interfaceHeader = some s.interface
  peer : Section.body? t peerHeader = some s.peer
  native : Detection.foreign? t .wireGuard = none
  privateKey_shaped : isKeyShaped (lineValue s.interface "PrivateKey".toList) = true
  privateKey_real : isPlaceholderKey (lineValue s.interface "PrivateKey".toList) = false
  publicKey_given : lineValue s.peer "PublicKey".toList ≠ []
  publicKey_real : isPlaceholderKey (lineValue s.peer "PublicKey".toList) = false
  endpoint_given : lineValue s.peer "Endpoint".toList ≠ []
  endpoint_split :
    Endpoint.split (lineValue s.peer "Endpoint".toList) defaultPort = .ok (host, port)
  listenPort :
    lineValue s.interface "ListenPort".toList = [] ∨
      (parsePort? (lineValue s.interface "ListenPort".toList)).isSome = true
  mtu :
    lineValue s.interface "MTU".toList = [] ∨
      (Text.toWord16? (lineValue s.interface "MTU".toList)).isSome = true
  keepalive :
    lineValue s.peer "PersistentKeepalive".toList = [] ∨
      (Text.toWord16? (lineValue s.peer "PersistentKeepalive".toList)).isSome = true

theorem privateKey_eq {t interface : Text}
    (h : Section.body? t interfaceHeader = some interface) :
    privateKey t = lineValue interface "PrivateKey".toList := by
  rw [privateKey, h]

theorem judge_eq_matched_iff {t : Text} {score : Nat} :
    judge t score = .matched ↔
      isKeyShaped (privateKey t) = true ∧ keywordSet.contains t "Endpoint" = true ∧
        minScore ≤ score := by
  rw [judge]
  split
  · rename_i h
    rw [Bool.and_eq_true, Bool.and_eq_true, decide_eq_true_eq, and_assoc] at h
    exact ⟨fun _ => h, fun _ => rfl⟩
  · rename_i h
    rw [Bool.and_eq_true, Bool.and_eq_true, decide_eq_true_eq, and_assoc] at h
    exact ⟨fun hj => by contradiction, fun hj => absurd hj h⟩

/-- A private key that looks like one is given by a line of the text. -/
theorem contains_privateKey {t : Text} (h : isKeyShaped (privateKey t) = true) :
    keywordSet.contains t "PrivateKey" = true := by
  unfold privateKey at h
  split at h
  · contradiction
  · rename_i body hbody
    exact KeywordSet.contains_of_lineValue rfl (isKey_of_mem (by decide))
      (Section.lines_subset_of_body? hbody) (ne_nil_of_isKeyShaped h)

/-- The two headers and the two keys that a text must have are enough of a
score. -/
theorem minScore_le_score {t : Text} (hkey : isKeyShaped (privateKey t) = true)
    (hendpoint : keywordSet.contains t "Endpoint" = true) : minScore ≤ detector.score t := by
  have hsub : List.Sublist ["PrivateKey", "Endpoint"] (keywordSet.found t) := by
    refine KeywordSet.sublist_found (by decide) fun k hk => ?_
    simp only [List.mem_cons, List.not_mem_nil, or_false] at hk
    rcases hk with rfl | rfl
    · exact contains_privateKey hkey
    · exact hendpoint
  have hlen : 2 ≤ (keywordSet.found t).length := hsub.length_le
  show 4 ≤ 2 + (keywordSet.found t).length
  omega

namespace Acceptable
variable {t : Text} {s : Sections} {host : Text} {port : UInt16} (h : Acceptable t s host port)
include h

theorem isKeyShaped_privateKey : isKeyShaped (privateKey t) = true := by
  rw [privateKey_eq h.interface]
  exact h.privateKey_shaped

theorem contains_endpoint : keywordSet.contains t "Endpoint" = true :=
  KeywordSet.contains_of_lineValue rfl (isKey_of_mem (by decide))
    (Section.lines_subset_of_body? h.peer) h.endpoint_given

theorem minScore_le_score : minScore ≤ detector.score t :=
  WireGuard.minScore_le_score h.isKeyShaped_privateKey h.contains_endpoint

theorem detects : detector.detects t = true := by
  refine Detector.detects_iff.mpr ⟨?_, h.native, judge_eq_matched_iff.mpr ⟨?_, ?_, ?_⟩⟩
  · show hasSections t = true
    rw [hasSections_iff, ← Section.isSome_body?, ← Section.isSome_body?, h.interface, h.peer]
    exact ⟨rfl, rfl⟩
  · exact h.isKeyShaped_privateKey
  · exact h.contains_endpoint
  · exact h.minScore_le_score

theorem exists_extract :
    ∃ p, extract t = .ok p ∧ p.hasPayload = true ∧ p.server = String.ofList host ∧
      p.port = port := by
  obtain ⟨fields, hfields⟩ := exists_fields_iff.mpr ⟨h.listenPort, h.mtu, h.keepalive⟩
  have hprivate := ne_nil_of_isKeyShaped h.privateKey_shaped
  have hdraw : draw (Comment.firstUsable? t) (Section.count t peerHeader) s = .ok _ :=
    draw_eq_ok_iff.mpr ⟨host, port, _, _, fields,
      endpoint_eq_ok_iff.mpr ⟨h.endpoint_given, h.endpoint_split⟩,
      requiredKey_eq_ok_iff.mpr ⟨rfl, hprivate, h.privateKey_real⟩,
      requiredKey_eq_ok_iff.mpr ⟨rfl, h.publicKey_given, h.publicKey_real⟩, hfields, rfl⟩
  have hextract := extract_eq_ok_iff.mpr ⟨s, sections_eq_ok_iff.mpr ⟨h.interface, h.peer⟩, hdraw⟩
  refine ⟨_, hextract, ?_, compose_server, compose_port⟩
  exact hasPayload_compose.mpr ⟨Endpoint.allBlank_of_split h.endpoint_split,
    Endpoint.ne_zero_of_split h.endpoint_split (by decide)⟩

end Acceptable

/-- A text that the detector matches and from which a profile can be drawn has
all it needs. -/
theorem exists_acceptable {t : Text} {p : Profile} (hdetects : detector.detects t = true)
    (hextract : extract t = .ok p) : ∃ s host port, Acceptable t s host port := by
  obtain ⟨-, hnative, hjudge⟩ := Detector.detects_iff.mp hdetects
  obtain ⟨s, hs, hdraw⟩ := extract_eq_ok_iff.mp hextract
  obtain ⟨hinterface, hpeer⟩ := sections_eq_ok_iff.mp hs
  obtain ⟨host, port, privateKey, publicKey, fields, he, hprivate, hpublic, hfields, -⟩ :=
    draw_eq_ok_iff.mp hdraw
  obtain ⟨hgiven, hsplit⟩ := endpoint_eq_ok_iff.mp he
  obtain ⟨rfl, -, hreal⟩ := requiredKey_eq_ok_iff.mp hprivate
  obtain ⟨rfl, hpublicGiven, hpublicReal⟩ := requiredKey_eq_ok_iff.mp hpublic
  obtain ⟨hlisten, hmtu, hkeepalive⟩ := exists_fields_iff.mp ⟨fields, hfields⟩
  have hshaped := (judge_eq_matched_iff.mp hjudge).1
  rw [privateKey_eq hinterface] at hshaped
  exact ⟨s, host, port, hinterface, hpeer, hnative, hshaped, hreal, hpublicGiven, hpublicReal,
    hgiven, hsplit, hlisten, hmtu, hkeepalive⟩

/-- A text within the limit is imported as WireGuard when it has what it must
have, and only then.  The server and the port are those of its endpoint, and
neither the score nor the search for an endpoint rejects such a text. -/
theorem importText_wireGuard_iff {t : Text} (hsize : Text.byteSize t ≤ defaultMaxContentSize) :
    ((∃ p, importText t = .ok p ∧ p.kind = .wireGuard) ↔
      ∃ s host port, Acceptable t s host port) ∧
    ∀ s host port, Acceptable t s host port →
      (∃ p, importText t = .ok p ∧ p.kind = .wireGuard ∧ p.server = String.ofList host ∧
        p.port = port) ∧
      (∀ name written,
        Endpoint.cut (Text.trim (lineValue s.peer "Endpoint".toList)) = .ok (name, written) →
        (∀ w ∈ written, Text.allBlank w = true) → port = 51820) ∧
      keywordSet.contains t "Endpoint" = true ∧ minScore ≤ detector.score t := by
  have hmem : detector ∈ Classification.detectors := by simp [Classification.detectors]
  have hfits : Importer.default.exceeded? (Text.byteSize t) = none := by
    rw [Importer.exceeded?_eq_none_iff]
    intro limit hlimit
    exact Option.some.inj hlimit ▸ hsize
  have hback : ∀ s host port, Acceptable t s host port →
      ∃ p, importText t = .ok p ∧ p.kind = .wireGuard ∧ p.server = String.ofList host ∧
        p.port = port := by
    intro s host port h
    have hkind : classify t = .wireGuard := (Classification.kind_eq_iff hmem).mpr h.detects
    obtain ⟨q, hextract, hpayload, hserver, hport⟩ := h.exists_extract
    refine ⟨{ q with kind := .wireGuard }, ?_, rfl, hserver, hport⟩
    rw [importText, Importer.importText_eq_ok_iff, hkind]
    exact ⟨not_allBlank_of_hasSections (Detector.gate_of_detects h.detects), hfits, by decide,
      .wireGuard, q, rfl, hextract, hpayload, rfl⟩
  refine ⟨⟨?_, ?_⟩, fun s host port h => ⟨hback s host port h, ?_, h.contains_endpoint,
    h.minScore_le_score⟩⟩
  · intro h
    obtain ⟨p, hp, hkind⟩ := h
    obtain ⟨-, -, -, x, q, hget, hextract, -, rfl⟩ := Importer.importText_eq_ok_iff.mp hp
    have hclass : classify t = .wireGuard := hkind
    rw [hclass] at hget
    obtain rfl : Extractor.wireGuard = x := Option.some.inj hget
    exact exists_acceptable ((Classification.kind_eq_iff hmem).mp hclass) hextract
  · intro h
    obtain ⟨s, host, port, h⟩ := h
    obtain ⟨p, hp, hkind, -⟩ := hback s host port h
    exact ⟨p, hp, hkind⟩
  · exact fun name written hcut hblank => Endpoint.port_of_split h.endpoint_split hcut hblank

theorem importText_wireGuard_iff_without_port :
    let t : Text := "[Interface]\nPrivateKey = a\n[Peer]\nPublicKey = b\nEndpoint = [::1]:".toList
    Text.byteSize t ≤ defaultMaxContentSize ∧
      ∃ p, importText t = .ok p ∧ p.kind = .wireGuard ∧ p.server = "::1" ∧ p.port = 51820 := by
  intro t
  have hsize : Text.byteSize t ≤ defaultMaxContentSize := by decide +kernel
  have h : Acceptable t
      ⟨"PrivateKey = a\n".toList, "PublicKey = b\nEndpoint = [::1]:".toList⟩
      "::1".toList 51820 :=
    { interface := by decide +kernel
      peer := by decide +kernel
      native := by decide +kernel
      privateKey_shaped := by decide +kernel
      privateKey_real := by decide +kernel
      publicKey_given := by decide +kernel
      publicKey_real := by decide +kernel
      endpoint_given := by decide +kernel
      endpoint_split := by rfl
      listenPort := .inl (by decide +kernel)
      mtu := .inl (by decide +kernel)
      keepalive := .inl (by decide +kernel) }
  exact ⟨hsize, ((importText_wireGuard_iff hsize).2 _ _ _ h).1⟩

end WireGuard
end VpnImport
