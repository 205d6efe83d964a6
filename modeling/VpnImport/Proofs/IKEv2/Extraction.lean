import VpnImport.IKEv2.Extraction
import VpnImport.Proofs.Endpoint
import VpnImport.Proofs.Profile
import VpnImport.Proofs.Text.Letters

/-!
# What an IKEv2 extraction gives

An extraction fails only for want of a server, and its port is never zero.  The
server is whatever the first given parameter says.  A quoted value may hold white
space, so a profile can be drawn up for a server that is blank, and it is the only
profile no tunnel can be set up from: `hasPayload_profile`.
-/

namespace VpnImport
namespace IKEv2

/-- What the first of the parameters for the server says that says anything. -/
def server? (t : Text) : Option Text :=
  (serverKeys.map (value t)).find? fun v => !v.isEmpty

theorem extract_eq_ok_iff {t : Text} {p : Profile} :
    extract t = .ok p ↔ ∃ server, server? t = some server ∧ p = profile t server := by
  rw [extract, ← server?]
  cases server? t with
  | none => simp
  | some server => simp [eq_comm]

theorem extract_eq_error_iff {t : Text} {e : ExtractError} :
    extract t = .error e ↔
      server? t = none ∧
        e = .missingField "server address (right, rightid or server)" "conn section" := by
  rw [extract, ← server?]
  cases server? t with
  | none => simp [eq_comm]
  | some server => simp

/-- The port at the start of a text comes before any other. -/
theorem portAfterColon?_cons (c : Char) (t : Text) :
    portAfterColon? (c :: t) =
      (if c == ':' then parsePort? (t.takeWhile Text.isDecimal) else none).or
        (portAfterColon? t) := by
  rw [portAfterColon?]
  generalize (if c == ':' then parsePort? (t.takeWhile Text.isDecimal) else none) = port
  cases port <;> rfl

theorem portAfterColon?_ne_zero {t : Text} {port : UInt16} (h : portAfterColon? t = some port) :
    port ≠ 0 := by
  induction t with
  | nil => contradiction
  | cons c t ih =>
    rw [portAfterColon?_cons, Option.or_eq_some_iff] at h
    rcases h with hhere | ⟨-, hrest⟩
    · exact parsePort?_ne_zero (Option.ite_none_right_eq_some.mp hhere).2
    · exact ih hrest

theorem resolvePort_ne_zero (t : Text) : resolvePort t ≠ 0 := by
  unfold resolvePort
  split
  · rename_i port hport
    exact parsePort?_ne_zero hport
  · cases hcolon : portAfterColon? t with
    | none => decide
    | some port => exact portAfterColon?_ne_zero hcolon

theorem hasPayload_profile (t server : Text) :
    (profile t server).hasPayload = true ↔ Text.allBlank server = false := by
  rw [profile, Profile.hasPayload_recordAll, Profile.hasPayload_iff]
  simp [Profile.start, resolvePort_ne_zero t]

/-! ## Lookups -/

/-- Two texts in which an extraction finds the same, whatever it looks up. -/
structure LookupsAgree (t t' : Text) : Prop where
  value : ∀ key : String, '=' ∉ key.toList → value t key = value t' key
  connection : connectionName? t = connectionName? t'
  comment : Comment.firstUsable? t = Comment.firstUsable? t'
  port : portAfterColon? t = portAfterColon? t'

namespace LookupsAgree
variable {t t' : Text} (h : LookupsAgree t t')
include h

theorem resolvePort_eq : resolvePort t = resolvePort t' := by
  rw [resolvePort, resolvePort, h.value "port" (by decide), h.port]

theorem authMethod_eq : authMethod t = authMethod t' := by
  rw [authMethod, authMethod, h.value "leftauth" (by decide), h.value "rightauth" (by decide),
    h.value "authby" (by decide)]

theorem profileName_eq (server : Text) : profileName t server = profileName t' server := by
  rw [profileName, profileName, h.connection, h.comment]

theorem details_eq : details t = details t' := by
  have hkeys : ∀ k ∈ recordedKeys, '=' ∉ k.1.toList := by decide
  rw [details, details, h.connection]
  congr 1
  refine List.filterMap_congr fun k hk => ?_
  rw [h.value k.1 (hkeys k hk)]

theorem profile_eq (server : Text) : profile t server = profile t' server := by
  rw [profile, profile, h.authMethod_eq, h.profileName_eq, h.resolvePort_eq, h.details_eq,
    h.value "eap_identity" (by decide), h.value "ike" (by decide), h.value "compress" (by decide)]

/-- An extraction reads a text through its lookups alone. -/
theorem extract_eq : extract t = extract t' := by
  have hkeys : ∀ k ∈ serverKeys, '=' ∉ k.toList := by decide
  have hservers : serverKeys.map (IKEv2.value t) = serverKeys.map (IKEv2.value t') :=
    List.map_congr_left fun k hk => h.value k (hkeys k hk)
  have hprofile : profile t = profile t' := funext h.profile_eq
  rw [extract, extract, hservers, hprofile]

end LookupsAgree

/-! ## Recorded fields -/

/-- The recorded fields as a table. -/
def detailTable (t : Text) : List (String × Option String) :=
  ("conn_name", (connectionName? t).map String.ofList) ::
    recordedKeys.map fun k =>
      (k.2, if (value t k.1).isEmpty then none else some (String.ofList (value t k.1)))

theorem details_eq_present (t : Text) : details t = Details.present (detailTable t) := by
  have hrecorded : ∀ keys : List (String × String),
      (keys.filterMap fun k =>
        let v := value t k.1
        if v.isEmpty then none else some (k.2, String.ofList v)) =
      Details.present (keys.map fun k =>
        (k.2, if (value t k.1).isEmpty then none else some (String.ofList (value t k.1)))) := by
    intro keys
    rw [Details.present, List.filterMap_map]
    congr 1
    funext k
    dsimp only [Function.comp]
    split <;> rfl
  rw [details, detailTable, Details.present_cons, hrecorded, Option.map_map]
  rfl

theorem detailTable_keys (t : Text) :
    (detailTable t).map Prod.fst = "conn_name" :: recordedKeys.map Prod.snd := by
  rw [detailTable, List.map_cons, List.map_map]
  rfl

theorem detail?_profile (t server : Text) (k : String) :
    (profile t server).detail? k = ((detailTable t).lookup k).join := by
  rw [profile, details_eq_present]
  refine Profile.detail?_recordAll_present rfl ?_ k
  rw [detailTable_keys]
  decide

/-! ## Sections -/

theorem isLowWord_conn : Text.IsLowWord "conn".toList := by decide

/-- A line starts the section of the connection that it names behind a space or a
tab. -/
theorem sectionName?_eq_some_iff {l name : Text} :
    sectionName? l = some name ↔
      ∃ rest, Text.after? Text.sameLetter "conn".toList (Text.skipPads l) = some rest ∧
        rest.head?.any Text.isPad = true ∧ name ≠ [] ∧
        Text.upToBlank (Text.skipPads rest) = name := by
  unfold sectionName?
  cases hrest : Text.after? Text.sameLetter "conn".toList (Text.skipPads l) with
  | none => simp
  | some rest =>
    dsimp only
    rw [Option.ite_none_right_eq_some, Bool.and_eq_true, Bool.not_eq_true',
      List.isEmpty_eq_false_iff, Option.some_inj]
    constructor
    · rintro ⟨⟨hpad, hne⟩, rfl⟩
      exact ⟨rest, rfl, hpad, hne, rfl⟩
    · rintro ⟨rest', hrest', hpad, hne, rfl⟩
      cases hrest'
      exact ⟨⟨hpad, hne⟩, rfl⟩

section Section
variable {l name : Text} (h : sectionName? l = some name)
include h

theorem subset_of_sectionName? : name ⊆ l := by
  obtain ⟨rest, hrest, -, -, rfl⟩ := sectionName?_eq_some_iff.mp h
  intro c hc
  exact Text.skipPads_subset l (Text.subset_of_after? hrest
    (Text.skipPads_subset rest (Text.upToBlank_subset _ hc)))

/-- The name of a connection is a run of characters that are not white space. -/
theorem not_allBlank_of_sectionName? : Text.allBlank name = false := by
  obtain ⟨rest, -, -, hne, rfl⟩ := sectionName?_eq_some_iff.mp h
  exact Text.not_allBlank_upToBlank hne

end Section

theorem not_allBlank_of_connectionName? {t name : Text} (h : connectionName? t = some name) :
    Text.allBlank name = false := by
  obtain ⟨l, -, hl⟩ := List.mem_filterMap.mp (List.mem_of_find?_eq_some h)
  exact not_allBlank_of_sectionName? hl

theorem detailTable_ne_empty (t : Text) : ∀ e ∈ detailTable t, e.2 ≠ some "" := by
  intro e he
  rcases List.mem_cons.mp he with rfl | he
  · intro hempty
    obtain ⟨name, hname, hnil⟩ := Option.map_eq_some_iff.mp hempty
    have hblank := not_allBlank_of_connectionName? hname
    rw [String.ofList_eq_empty_iff.mp hnil] at hblank
    contradiction
  · obtain ⟨k, -, rfl⟩ := List.mem_map.mp he
    by_cases hempty : (value t k.1).isEmpty = true
    · rw [if_pos hempty]
      exact Option.some_ne_none "" |>.symm
    · rw [if_neg hempty]
      simpa using hempty

end IKEv2
end VpnImport
