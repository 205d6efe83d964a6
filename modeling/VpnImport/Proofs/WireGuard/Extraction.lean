import VpnImport.WireGuard.Extraction
import VpnImport.Proofs.Assignment
import VpnImport.Proofs.Endpoint
import VpnImport.Proofs.Profile

/-!
# When the extraction of a WireGuard profile succeeds

Each reading of a section succeeds on a condition of its own, and an extraction
succeeds when all of them do: `extract_eq_ok_iff`.  The text enters an extraction
through its two sections, its first usable comment and its number of peers and
through nothing else, which `extract_eq` states.
-/

namespace VpnImport

namespace WireGuard
open Assignment (lineValue)

theorem isKey_of_mem {k : String} (h : k ∈ keywordSet.keywords) : Assignment.IsKey k.toList where
  ne_nil := (by decide : ∀ k ∈ keywordSet.keywords, k.toList ≠ []) k h
  visible c hc := by
    have hnone : ∀ k ∈ keywordSet.keywords, k.toList.any Text.isBlank = false := by decide
    exact Bool.eq_false_iff.mpr (List.any_eq_false.mp (hnone k h) c hc)
  noEquals := (by decide : ∀ k ∈ keywordSet.keywords, '=' ∉ k.toList) k h

theorem ne_nil_of_isKeyShaped {value : Text} (h : isKeyShaped value = true) : value ≠ [] := by
  intro hnil
  rw [hnil] at h
  contradiction

/-- The profile for a server, a port and what else has been read. -/
def compose (comment : Option Text) (peers : Nat) (server : Text) (port : UInt16)
    (publicKey : Text) (shared : Bool) (fields : List (String × String)) : Profile :=
  Profile.recordAll
    { Profile.start .wireGuard (String.ofList server)
        (if shared then .keyPairWithPreSharedKey else .keyPair) with
      name := String.ofList (comment.getD ("WireGuard - ".toList ++ server))
      port := port }
    (fields ++
      [("peer_public_key", String.ofList publicKey),
       ("has_preshared_key", if shared then "true" else "false"),
       ("peer_count", toString peers)])

section Compose
variable {comment : Option Text} {peers : Nat} {server : Text} {port : UInt16}
  {publicKey : Text} {shared : Bool} {fields : List (String × String)}

theorem compose_server :
    (compose comment peers server port publicKey shared fields).server = String.ofList server := by
  rw [compose, Profile.recordAll_eq]
  rfl

theorem compose_port :
    (compose comment peers server port publicKey shared fields).port = port := by
  rw [compose, Profile.recordAll_eq]

theorem hasPayload_compose :
    (compose comment peers server port publicKey shared fields).hasPayload = true ↔
      Text.allBlank server = false ∧ port ≠ 0 := by
  rw [compose, Profile.hasPayload_recordAll, Profile.hasPayload_iff]
  simp [Profile.start]

end Compose

/-- Draws a profile from two sections, given the comment that names it and the
number of peers. -/
def draw (comment : Option Text) (peers : Nat) (s : Sections) : Except ExtractError Profile := do
  let e ← endpoint s.peer
  let _ ← requiredKey s.interface "PrivateKey" "[Interface]"
  let publicKey ← requiredKey s.peer "PublicKey" "[Peer]"
  let fields ← parameters.mapM (·.read s)
  return compose comment peers e.1 e.2 publicKey
    (!(lineValue s.peer "PresharedKey".toList).isEmpty) fields

theorem extract_eq (t : Text) :
    extract t =
      sections t >>= draw (Comment.firstUsable? t) (Section.count t peerHeader) := rfl

theorem sections_eq_ok_iff {t : Text} {s : Sections} :
    sections t = .ok s ↔
      Section.body? t interfaceHeader = some s.interface ∧
        Section.body? t peerHeader = some s.peer := by
  unfold sections
  split
  · rename_i h
    simp [h]
  · rename_i interface h
    split
    · rename_i h'
      simp [h']
    · rename_i peer h'
      rw [h, h', Option.some_inj, Option.some_inj]
      constructor
      · intro heq
        cases heq
        exact ⟨rfl, rfl⟩
      · intro h
        obtain ⟨rfl, rfl⟩ := h
        rfl

theorem endpoint_eq_ok_iff {peer : Text} {e : Text × UInt16} :
    endpoint peer = .ok e ↔
      lineValue peer "Endpoint".toList ≠ [] ∧
        Endpoint.split (lineValue peer "Endpoint".toList) defaultPort = .ok e := by
  unfold endpoint
  dsimp only
  generalize lineValue peer "Endpoint".toList = written
  cases written with
  | nil => simp
  | cons c written =>
    rw [if_neg (by simp), Endpoint.extract]
    split
    · rename_i e' h
      simp [h]
    · rename_i f h
      simp [h]

theorem requiredKey_eq_ok_iff {body key : Text} {field part : String} :
    requiredKey body field part = .ok key ↔
      lineValue body field.toList = key ∧ key ≠ [] ∧ isPlaceholderKey key = false := by
  unfold requiredKey
  dsimp only
  generalize lineValue body field.toList = written
  cases written with
  | nil =>
    constructor
    · intro h
      contradiction
    · intro h
      obtain ⟨rfl, hne, -⟩ := h
      exact absurd rfl hne
  | cons c written =>
    rw [if_neg (by simp)]
    by_cases hplaceholder : isPlaceholderKey (c :: written) = true
    · rw [if_pos hplaceholder]
      constructor
      · intro h
        contradiction
      · intro h
        obtain ⟨rfl, -, hreal⟩ := h
        rw [hplaceholder] at hreal
        contradiction
    · rw [if_neg hplaceholder, Except.ok.injEq]
      constructor
      · intro h
        subst h
        exact ⟨rfl, List.cons_ne_nil c written, Bool.eq_false_iff.mpr hplaceholder⟩
      · exact fun h => h.1

/-- A parameter can be read when it is left out or is what it must be. -/
theorem exists_read_eq_ok_iff {p : Parameter} {s : Sections} :
    (∃ f, p.read s = .ok f) ↔
      lineValue (p.source s) p.key.toList = [] ∨
        p.check.accepts (lineValue (p.source s) p.key.toList) = true := by
  unfold Parameter.read
  dsimp only
  generalize lineValue (p.source s) p.key.toList = value
  cases value with
  | nil => simp
  | cons c value =>
    rw [if_neg (by simp)]
    by_cases haccepts : p.check.accepts (c :: value) = true
    · simp [haccepts]
    · simp [haccepts]

/-- Every parameter is looked up in one of the two sections. -/
theorem source_cases {p : Parameter} (hp : p ∈ parameters) :
    p.source = Sections.interface ∨ p.source = Sections.peer := by
  simp only [parameters, List.mem_cons, List.not_mem_nil, or_false] at hp
  rcases hp with rfl | rfl | rfl | rfl | rfl | rfl <;> simp

/-- All parameters can be read when the three that are numbers can. -/
theorem exists_fields_iff {s : Sections} :
    (∃ fields, parameters.mapM (·.read s) = .ok fields) ↔
      (lineValue s.interface "ListenPort".toList = [] ∨
        (parsePort? (lineValue s.interface "ListenPort".toList)).isSome = true) ∧
      (lineValue s.interface "MTU".toList = [] ∨
        (Text.toWord16? (lineValue s.interface "MTU".toList)).isSome = true) ∧
      (lineValue s.peer "PersistentKeepalive".toList = [] ∨
        (Text.toWord16? (lineValue s.peer "PersistentKeepalive".toList)).isSome = true) := by
  rw [exists_mapM_eq_ok_iff]
  constructor
  · intro h
    have hread : ∀ p ∈ parameters, _ := fun p hp => exists_read_eq_ok_iff.mp (h p hp)
    refine ⟨?_, ?_, ?_⟩
    · exact hread ⟨Sections.interface, "ListenPort", "listen_port", "51820", .port⟩
        (by simp [parameters])
    · exact hread ⟨Sections.interface, "MTU", "mtu", "1420", .number⟩ (by simp [parameters])
    · exact hread ⟨Sections.peer, "PersistentKeepalive", "persistent_keepalive", "25", .number⟩
        (by simp [parameters])
  · intro h p hp
    obtain ⟨hport, hmtu, hkeepalive⟩ := h
    rw [exists_read_eq_ok_iff]
    simp only [parameters, List.mem_cons, List.not_mem_nil, or_false] at hp
    rcases hp with rfl | rfl | rfl | rfl | rfl | rfl
    · exact .inr rfl
    · exact .inr rfl
    · exact hport
    · exact hmtu
    · exact .inr rfl
    · exact hkeepalive

theorem draw_eq_ok_iff {comment : Option Text} {peers : Nat} {s : Sections} {p : Profile} :
    draw comment peers s = .ok p ↔
      ∃ server port privateKey publicKey fields,
        endpoint s.peer = .ok (server, port) ∧
        requiredKey s.interface "PrivateKey" "[Interface]" = .ok privateKey ∧
        requiredKey s.peer "PublicKey" "[Peer]" = .ok publicKey ∧
        parameters.mapM (·.read s) = .ok fields ∧
        p = compose comment peers server port publicKey
          (!(lineValue s.peer "PresharedKey".toList).isEmpty) fields := by
  simp only [draw, bind_eq_ok_iff]
  constructor
  · intro h
    obtain ⟨⟨server, port⟩, he, privateKey, hprivate, publicKey, hpublic, fields, hfields, hp⟩ := h
    exact ⟨server, port, privateKey, publicKey, fields, he, hprivate, hpublic, hfields,
      (Except.ok.inj hp).symm⟩
  · intro h
    obtain ⟨server, port, privateKey, publicKey, fields, he, hprivate, hpublic, hfields, rfl⟩ := h
    exact ⟨(server, port), he, privateKey, hprivate, publicKey, hpublic, fields, hfields, rfl⟩

theorem extract_eq_ok_iff {t : Text} {p : Profile} :
    extract t = .ok p ↔
      ∃ s, sections t = .ok s ∧
        draw (Comment.firstUsable? t) (Section.count t peerHeader) s = .ok p := by
  rw [extract_eq, bind_eq_ok_iff]

end WireGuard
end VpnImport
