import VpnImport.Proofs.Importer.Payload
import VpnImport.Proofs.OpenVPN.Details
import VpnImport.Proofs.WireGuard.Details

/-!
# Delivered profiles are well-formed

Whatever the text, a profile that the default importer delivers has the kind of
the text, a name, a server, a port and an encryption, no password, and fields that
are all filled and that follow the scheme of its kind.
-/

namespace VpnImport

/-- The scheme of OpenVPN profiles. -/
structure OpenVPN.WellFormed (p : Profile) : Prop where
  username : p.username = ""
  authMethod : p.authMethod = .certificate ∨ p.authMethod = .usernamePassword
  protocol : p.protocol = "OpenVPN (UDP)" ∨ p.protocol = "OpenVPN (TCP)"
  always : ∀ key ∈ ["transport", "auth_digest", "device", "tls_mode", "remote_count"],
    (p.detail? key).isSome = true
  keys : ∀ key, (p.detail? key).isSome = true → key ∈ ["transport", "auth_digest", "device",
    "tls_mode", "remote_count", "fallback_remotes", "inline_blocks", "data_ciphers",
    "remote_cert_tls", "key_direction", "verb", "tls_client", "persist_key", "persist_tun"]
  remotes : ∃ n : Nat, 1 ≤ n ∧ p.detail? "remote_count" = some (toString n) ∧
    ((p.detail? "fallback_remotes").isSome = true ↔ 1 < n)

/-- The scheme of IKEv2 profiles. -/
structure IKEv2.WellFormed (t : Text) (p : Profile) : Prop where
  username : p.username = String.ofList (Assignment.tokenValue t "eap_identity".toList)
  authMethod : p.authMethod ∈ [AuthMethod.preSharedKey, .certificate, .eap]
  protocol : p.protocol = "IKEv2/IPSec"
  keys : ∀ key, (p.detail? key).isSome = true → key ∈ ["conn_name", "keyexchange", "ike", "esp",
    "left", "leftid", "rightid", "leftsubnet", "rightsubnet", "leftsourceip", "auto", "dpdaction",
    "charon_debug", "fragmentation"]

/-- The scheme of WireGuard profiles. -/
structure WireGuard.WellFormed (p : Profile) : Prop where
  username : p.username = ""
  authMethod : p.authMethod = .keyPair ∨ p.authMethod = .keyPairWithPreSharedKey
  protocol : p.protocol = "WireGuard"
  keys : ∀ key, (p.detail? key).isSome = true ↔ key ∈ ["address", "dns", "listen_port", "mtu",
    "allowed_ips", "persistent_keepalive", "peer_public_key", "has_preshared_key", "peer_count"]
  shared : p.detail? "has_preshared_key" =
    some (if p.authMethod = .keyPairWithPreSharedKey then "true" else "false")
  listenPort : ∃ value, p.detail? "listen_port" = some value ∧
    (parsePort? value.toList).isSome = true
  peers : ∃ n : Nat, 1 ≤ n ∧ p.detail? "peer_count" = some (toString n)

/-- A profile follows the scheme of its kind. -/
def FollowsScheme (t : Text) (p : Profile) : Prop :=
  match p.kind with
  | .openVPN => OpenVPN.WellFormed p
  | .ikev2 => IKEv2.WellFormed t p
  | .wireGuard => WireGuard.WellFormed p
  | .unknown => False

/-- What every delivered profile has. -/
structure WellFormed (t : Text) (p : Profile) : Prop where
  kind : p.kind = classify t
  known : p.kind ≠ .unknown
  name : Text.allBlank p.name.toList = false
  server : Text.allBlank p.server.toList = false
  port : 1 ≤ p.port.toNat ∧ p.port.toNat ≤ 65535
  password : p.password = ""
  encryption : p.encryption ≠ ""
  filled : ∀ key, p.detail? key ≠ some ""
  scheme : FollowsScheme t p

/-! ## Names -/

/-- A name that a text does not give is made of the server. -/
theorem not_allBlank_getD_append {name : Option Text} {front server : Text}
    (hname : ∀ n ∈ name, Text.allBlank n = false) (hfront : Text.allBlank front = false) :
    Text.allBlank (name.getD (front ++ server)) = false := by
  cases h : name with
  | none =>
    rw [Option.getD_none, ← Bool.not_eq_true, Text.allBlank_append, hfront]
    exact fun hall => Bool.false_ne_true hall.1
  | some n => exact hname n h

theorem Comment.not_allBlank_of_firstUsable? {t name : Text} (h : firstUsable? t = some name) :
    Text.allBlank name = false := by
  rw [firstUsable?] at h
  have husable := List.find?_some h
  obtain ⟨l, -, hl⟩ := List.mem_filterMap.mp (List.mem_of_find?_eq_some h)
  unfold content? at hl
  dsimp only at hl
  split at hl
  · rw [← Option.some.inj hl] at husable ⊢
    refine Text.not_allBlank_trim fun hnil => ?_
    rw [hnil] at husable
    contradiction
  · contradiction

theorem OpenVPN.not_allBlank_of_announcedName? {t name : Text} (h : announcedName? t = some name) :
    Text.allBlank name = false := by
  obtain ⟨l, -, hl⟩ := List.exists_of_findSome?_eq_some h
  obtain ⟨content, -, hname⟩ := Option.bind_eq_some_iff.mp hl
  unfold Settings.profileName? at hname
  split at hname
  · contradiction
  · dsimp only at hname
    split at hname
    · contradiction
    · rename_i hne
      rw [← Option.some.inj hname]
      exact Text.not_allBlank_trim (by simpa using hne)

/-! ## The three kinds -/

theorem OpenVPN.wellFormed_of_extract {t : Text} {p : Profile} (h : extract t = .ok p) :
    OpenVPN.WellFormed p := by
  obtain ⟨first, others, -, hp⟩ := exists_describes h
  refine
    { username := hp.username
      authMethod := ?_
      protocol := ?_
      always := ?_
      keys := ?_
      remotes := ⟨others.length + 1, by omega, hp.details "remote_count", ?_⟩ }
  · rw [hp.authMethod]
    split
    · exact .inl rfl
    · exact .inr rfl
  · rw [hp.protocol]
    split
    · exact .inr rfl
    · exact .inl rfl
  · intro key hkey
    rw [hp.details]
    simp only [List.mem_cons, List.not_mem_nil, or_false] at hkey
    rcases hkey with rfl | rfl | rfl | rfl | rfl <;> rfl
  · intro key hkey
    rw [hp.details] at hkey
    exact Details.mem_keys_of_join hkey
  · have hfallback : p.detail? "fallback_remotes" =
        if others = [] then none else some (",".intercalate (others.map listed)) :=
      hp.details "fallback_remotes"
    rw [hfallback]
    cases others with
    | nil => simp
    | cons args others => simp

theorem IKEv2.wellFormed_profile (t server : Text) : IKEv2.WellFormed t (profile t server) := by
  refine
    { username := ?_
      authMethod := ?_
      protocol := ?_
      keys := fun key hkey => ?_ }
  · rw [profile, Profile.recordAll_username]
    rfl
  · rw [profile, Profile.recordAll_authMethod]
    show authMethod t ∈ _
    unfold authMethod
    dsimp only
    split
    · simp
    · split
      · simp
      · split <;> simp
  · rw [profile, Profile.recordAll_protocol]
    rfl
  · rw [detail?_profile] at hkey
    have hmem := Details.mem_keys_of_join hkey
    rw [detailTable_keys] at hmem
    exact hmem

theorem WireGuard.wellFormed_compose {s : Sections} {fields : List (String × String)}
    (h : parameters.mapM (·.read s) = .ok fields) {comment : Option Text} {peers : Nat}
    (hpeers : 1 ≤ peers) {server : Text} {port : UInt16} {publicKey : Text} {shared : Bool} :
    WireGuard.WellFormed (compose comment peers server port publicKey shared fields) := by
  have hauth : (compose comment peers server port publicKey shared fields).authMethod =
      if shared then .keyPairWithPreSharedKey else .keyPair := by
    rw [compose, Profile.recordAll_authMethod]
    rfl
  refine
    { username := ?_
      authMethod := ?_
      protocol := ?_
      keys := fun key => ?_
      shared := ?_
      listenPort := ?_
      peers := ⟨peers, hpeers, ?_⟩ }
  · rw [compose, Profile.recordAll_username]
    rfl
  · rw [hauth]
    cases shared
    · exact .inl rfl
    · exact .inr rfl
  · rw [compose, Profile.recordAll_protocol]
    rfl
  · rw [detail?_compose h, Details.isSome_lookup_iff, recorded_keys h]
  · rw [hauth]
    refine (detail?_of_mem h (e := ("has_preshared_key", if shared then "true" else "false"))
      (by simp [recorded])).trans ?_
    cases shared <;> rfl
  · obtain ⟨value, hvalue, haccepts⟩ := listenPort_accepted h
    refine ⟨value, ?_, haccepts⟩
    exact detail?_of_mem h (List.mem_append_left _ (Details.mem_of_lookup hvalue))
  · exact detail?_of_mem h (e := ("peer_count", toString peers)) (by simp [recorded])

/-! ## Delivery -/

section Extracted
variable {t : Text} {p : Profile} (hpayload : p.hasPayload = true)
include hpayload

/-- A usable profile has a server, a port and a known kind. -/
theorem wellFormed_of_hasPayload (hkind : p.kind = classify t)
    (hname : Text.allBlank p.name.toList = false) (hpassword : p.password = "")
    (hencryption : p.encryption ≠ "") (hfilled : ∀ key, p.detail? key ≠ some "")
    (hscheme : FollowsScheme t p) : WellFormed t p := by
  obtain ⟨hserver, -, hknown⟩ := Profile.hasPayload_iff.mp hpayload
  exact ⟨hkind, hknown, hname, hserver, Profile.port_bounds hpayload, hpassword, hencryption,
    hfilled, hscheme⟩

theorem OpenVPN.wellFormed (hclass : classify t = .openVPN) (h : extract t = .ok p) :
    VpnImport.WellFormed t p := by
  obtain ⟨first, others, hfirst, hp⟩ := exists_describes h
  refine wellFormed_of_hasPayload hpayload (hp.kind.trans hclass.symm) ?_ hp.password ?_
    (fun key => ?_) ?_
  · rw [hp.name, String.toList_ofList]
    exact not_allBlank_getD_append (fun n hn => not_allBlank_of_announcedName? hn) (by decide)
  · rw [hp.encryption]
    exact mt String.ofList_eq_empty_iff.mp (selectedCipher_ne_nil t)
  · rw [hp.details]
    exact Details.join_lookup_ne_empty (statedDetails_ne_empty hfirst) key
  · rw [FollowsScheme, hp.kind]
    exact wellFormed_of_extract h

theorem IKEv2.wellFormed (hclass : classify t = .ikev2) (h : extract t = .ok p) :
    VpnImport.WellFormed t p := by
  obtain ⟨server, -, rfl⟩ := extract_eq_ok_iff.mp h
  have hkind : (profile t server).kind = .ikev2 := by
    rw [profile, Profile.recordAll_kind]
    rfl
  have hpassword : (profile t server).password = "" := by
    rw [profile, Profile.recordAll_password]
    rfl
  refine wellFormed_of_hasPayload hpayload (hkind.trans hclass.symm) ?_ hpassword ?_
    (fun key => ?_) ?_
  · rw [profile, Profile.recordAll_name, String.toList_ofList]
    refine not_allBlank_getD_append (fun n hn => ?_) (by decide)
    cases hconn : connectionName? t with
    | some name =>
      rw [hconn] at hn
      exact not_allBlank_of_connectionName? (hconn.trans hn)
    | none =>
      rw [hconn] at hn
      exact Comment.not_allBlank_of_firstUsable? hn
  · rw [profile, Profile.recordAll_encryption]
    show encryptionLabel (value t "ike") ≠ ""
    unfold encryptionLabel
    dsimp only
    split_ifs <;> decide
  · rw [detail?_profile]
    exact Details.join_lookup_ne_empty (detailTable_ne_empty t) key
  · rw [FollowsScheme, hkind]
    exact wellFormed_profile t server

theorem WireGuard.wellFormed (hclass : classify t = .wireGuard) (h : extract t = .ok p) :
    VpnImport.WellFormed t p := by
  obtain ⟨s, hs, hdraw⟩ := extract_eq_ok_iff.mp h
  obtain ⟨host, port, privateKey, publicKey, fields, -, -, hpublic, hfields, rfl⟩ :=
    draw_eq_ok_iff.mp hdraw
  obtain ⟨-, hpeer⟩ := sections_eq_ok_iff.mp hs
  obtain ⟨-, hgiven, -⟩ := requiredKey_eq_ok_iff.mp hpublic
  refine wellFormed_of_hasPayload hpayload ?_ ?_ ?_ ?_ (detail?_compose_ne_empty hfields hgiven) ?_
  · rw [hclass, compose, Profile.recordAll_kind]
    rfl
  · rw [compose, Profile.recordAll_name, String.toList_ofList]
    exact not_allBlank_getD_append (fun n hn => Comment.not_allBlank_of_firstUsable? hn)
      (by decide)
  · rw [compose, Profile.recordAll_password]
    rfl
  · rw [compose, Profile.recordAll_encryption]
    show "ChaCha20-Poly1305" ≠ ""
    decide
  · rw [FollowsScheme, compose, Profile.recordAll_kind]
    exact wellFormed_compose hfields (one_le_count hpeer)

end Extracted

/-- Every profile that the default importer delivers is well-formed. -/
theorem importText_wellFormed {t : Text} {p : Profile} (h : importText t = .ok p) :
    WellFormed t p := by
  obtain ⟨-, -, hknown, x, q, hget, hextract, hpayload, rfl⟩ := Importer.importText_eq_ok_iff.mp h
  have hwell : WellFormed t q := by
    cases hclass : classify t with
    | unknown => contradiction
    | openVPN =>
      rw [hclass] at hget
      obtain rfl : Extractor.openVPN = x := Option.some.inj hget
      exact OpenVPN.wellFormed hpayload hclass hextract
    | ikev2 =>
      rw [hclass] at hget
      obtain rfl : Extractor.ikev2 = x := Option.some.inj hget
      exact IKEv2.wellFormed hpayload hclass hextract
    | wireGuard =>
      rw [hclass] at hget
      obtain rfl : Extractor.wireGuard = x := Option.some.inj hget
      exact WireGuard.wellFormed hpayload hclass hextract
  -- The importer sets the kind that the extractor has already set.
  rw [← hwell.kind]
  exact hwell

theorem importText_wellFormed_two_remotes :
    let t : Text := "client\ndev tun\nremote a 53 TCP\nremote b\ncipher AES-128-GCM".toList
    ∃ p, importText t = .ok p ∧ p.detail? "fallback_remotes" = some "b" ∧ WellFormed t p := by
  intro t
  have himport : (importText t).map (·.detail? "fallback_remotes") = .ok (some "b") := by
    decide +kernel
  cases h : importText t with
  | error e =>
    rw [h] at himport
    contradiction
  | ok p =>
    rw [h] at himport
    exact ⟨p, rfl, Except.ok.inj himport, importText_wellFormed h⟩

end VpnImport
