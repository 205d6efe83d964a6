import VpnImport.OpenVPN.Extraction
import VpnImport.Proofs.Endpoint
import VpnImport.Proofs.OpenVPN.Settings
import VpnImport.Proofs.Profile

/-!
# What an OpenVPN text says

An extraction can be read off the active lines of a text without following the
parser through them.  The arguments of the remotes tell whether there is a server
and which port is selected, and every field of the profile is a directive, a block
or a comment found among the lines, or a default.
-/

namespace VpnImport
namespace OpenVPN

/-- The arguments of the remotes that have any. -/
def remoteArguments (t : Text) : List (List Text) :=
  (uses ["remote"] t).filter fun args => !args.isEmpty

/-- The port that is selected: the second argument of the first remote, or else
the argument of the last directive for the port. -/
def selectedPort? (t : Text) : Option Text :=
  (remoteArguments t).head?.bind fun first => first[1]?.or (lastArgument ["port"] t)

/-- The transport of a remote, by its third argument or the directive for the
transport. -/
def selectedTransport (t : Text) (first : List Text) : Text :=
  ((first[2]?.or (lastArgument ["proto"] t)).map Text.lower).getD "udp".toList

/-- The cipher of a text, or else the first of its data ciphers. -/
def selectedCipher (t : Text) : Text :=
  ((lastArgument ["cipher"] t).or
    (((lastArgument ["data-ciphers", "ncp-ciphers"] t).map fun list =>
      list.takeWhile (· != ':')).filter fun cipher => !cipher.isEmpty)).getD "AES-256-CBC".toList

/-- How a further remote is listed, by its first two arguments. -/
def listed (args : List Text) : String :=
  ":".intercalate ((args.take 2).map String.ofList)

/-- The fields that belong to the protocol alone, those that a text need not give
with a value if it gives them. -/
def statedDetails (t : Text) (first : List Text) (others : List (List Text)) :
    List (String × Option String) :=
  [("transport", some (String.ofList (selectedTransport t first))),
   ("auth_digest", some (String.ofList ((lastArgument ["auth"] t).getD "SHA1".toList))),
   ("device", some (String.ofList ((lastArgument ["dev"] t).getD "tun".toList))),
   ("tls_mode", some ((((outside (Text.lines t)).filterMap tlsMode?).getLast?.map
      TlsMode.name).getD "none")),
   ("remote_count", some (toString (others.length + 1))),
   ("fallback_remotes",
      if others = [] then none else some (",".intercalate (others.map listed))),
   ("inline_blocks",
      if openedTags t = [] then none
      else some (",".intercalate ((openedTags t).map InlineTag.name))),
   ("data_ciphers", (lastArgument ["data-ciphers", "ncp-ciphers"] t).map String.ofList),
   ("remote_cert_tls", (lastArgument ["remote-cert-tls"] t).map String.ofList),
   ("key_direction", (lastArgument ["key-direction"] t).map String.ofList),
   ("verb", (lastArgument ["verb"] t).map String.ofList),
   ("tls_client", if uses ["tls-client"] t = [] then none else some "true"),
   ("persist_key", if uses ["persist-key"] t = [] then none else some "true"),
   ("persist_tun", if uses ["persist-tun"] t = [] then none else some "true")]

/-- What the lines of a text say of a profile, given the arguments of its first
remote and those of the others. -/
structure Describes (t : Text) (first : List Text) (others : List (List Text)) (p : Profile) :
    Prop where
  kind : p.kind = .openVPN
  server : first.head? = some p.server.toList
  port : match selectedPort? t with
    | none => p.port = 1194
    | some stated => parsePort? stated = some p.port
  protocol : p.protocol =
    if "tcp".toList <+: selectedTransport t first then "OpenVPN (TCP)" else "OpenVPN (UDP)"
  name : p.name = String.ofList
    ((announcedName? t).getD ("OpenVPN - ".toList ++ p.server.toList))
  username : p.username = ""
  password : p.password = ""
  authMethod : p.authMethod =
    if uses ["auth-user-pass"] t = [] then .certificate else .usernamePassword
  encryption : p.encryption = String.ofList (selectedCipher t)
  compression : p.compression =
    ((outside (Text.lines t)).filterMap compression?).getLast?.getD false
  details : ∀ key, p.detail? key = ((statedDetails t first others).lookup key).join

/-! ## From the settings to the lines -/

/-- The remote of some arguments. -/
def remoteOf (args : List Text) : Remote :=
  ⟨args.headD [], args[1]?, args[2]?.map Text.lower⟩

theorem filterMap_remote? (l : List (List Text)) :
    l.filterMap Settings.remote? = (l.filter fun args => !args.isEmpty).map remoteOf := by
  induction l with
  | nil => rfl
  | cons args l ih =>
    cases args with
    | nil => exact ih
    | cons host rest =>
      have hremote : Settings.remote? (host :: rest) = some (remoteOf (host :: rest)) := by
        rcases rest with _ | ⟨port, _ | ⟨transport, more⟩⟩ <;> rfl
      rw [List.filterMap_cons, hremote, ih]
      rfl

theorem remotes_eq (t : Text) :
    (Settings.ofText t).remotes.toList = (remoteArguments t).map remoteOf := by
  rw [Settings.remotes_ofText, filterMap_remote?, remoteArguments]

theorem fallback_remoteOf {args : List Text} (h : args ≠ []) :
    fallback (remoteOf args) = listed args := by
  rcases args with _ | ⟨host, _ | ⟨port, more⟩⟩
  · contradiction
  · rfl
  · rfl

theorem transport_eq (t : Text) (first : List Text) :
    transport (Settings.ofText t) (remoteOf first) = selectedTransport t first := by
  rw [transport, Settings.proto_ofText, selectedTransport, remoteOf]
  cases first[2]? <;> rfl

theorem encryption_eq (t : Text) : encryption (Settings.ofText t) = selectedCipher t := by
  have hcipher : (Settings.ofText t).cipher = lastArgument ["cipher"] t :=
    Settings.scalar_ofText (d := .cipher) rfl t
  have hdata : (Settings.ofText t).dataCiphers = lastArgument ["data-ciphers", "ncp-ciphers"] t :=
    Settings.scalar_ofText (d := .dataCiphers) rfl t
  rw [encryption, firstDataCipher?, hcipher, hdata, selectedCipher]
  cases lastArgument ["cipher"] t <;> rfl

/-! ### Recorded fields -/

/-- The recorded fields as a table, in the order in which they are recorded. -/
def detailTable (s : Settings) (remote : Remote) : List (String × Option String) :=
  [("transport", some (String.ofList (transport s remote))),
   ("auth_digest", some (String.ofList (s.auth.getD "SHA1".toList))),
   ("device", some (String.ofList (s.dev.getD "tun".toList))),
   ("tls_mode", some ((s.tlsMode.map TlsMode.name).getD "none")),
   ("remote_count", some (toString s.remotes.size)),
   ("fallback_remotes",
      if s.remotes.toList.tail = [] then none
      else some (",".intercalate (s.remotes.toList.tail.map fallback))),
   ("inline_blocks",
      if s.inlineBlocks = [] then none
      else some (",".intercalate (s.inlineBlocks.map InlineTag.name))),
   ("data_ciphers", s.dataCiphers.map String.ofList),
   ("remote_cert_tls", s.remoteCertTls.map String.ofList),
   ("key_direction", s.keyDirection.map String.ofList),
   ("verb", s.verb.map String.ofList),
   ("tls_client", if s.tlsClient then some "true" else none),
   ("persist_key", if s.persistKey then some "true" else none),
   ("persist_tun", if s.persistTun then some "true" else none)]

theorem given_eq (key : String) (value : Option Text) :
    given key value = ((value.map String.ofList).map fun v => (key, v)).toList := by
  cases value <;> rfl

theorem flag_eq (key : String) (holds : Bool) :
    flag key holds = ((if holds then some "true" else none).map fun v => (key, v)).toList := by
  cases holds <;> rfl

theorem details_eq_present (s : Settings) (remote : Remote) :
    details s remote = Details.present (detailTable s remote) := by
  unfold details detailTable
  simp only [Details.present_cons, given_eq, flag_eq]
  generalize s.remotes.toList.tail = others
  generalize s.inlineBlocks = tags
  cases others <;> cases tags <;> simp [Details.present]

theorem resolvePort_eq_ok_iff {s : Settings} {remote : Remote} {port : UInt16} :
    resolvePort s remote = .ok port ↔
      match statedPort? s remote with
      | none => port = defaultPort
      | some stated => parsePort? stated = some port := by
  rw [resolvePort]
  cases statedPort? s remote with
  | none => exact ⟨fun h => (Except.ok.inj h).symm, fun h => congrArg Except.ok h.symm⟩
  | some stated =>
    dsimp only
    cases parsePort? stated with
    | none => simp
    | some n => simp

theorem resolvePort_eq_error_iff {s : Settings} {remote : Remote} {e : ExtractError} :
    resolvePort s remote = .error e ↔
      ∃ stated, statedPort? s remote = some stated ∧ parsePort? stated = none ∧
        e = .invalidValue "port" (String.ofList stated) := by
  rw [resolvePort]
  cases statedPort? s remote with
  | none => simp
  | some stated =>
    dsimp only
    cases hport : parsePort? stated with
    | none => simp [hport, eq_comm]
    | some n => simp [hport]

section First
variable {t : Text} {first : List Text} {others : List (List Text)}
  (h : remoteArguments t = first :: others)
include h

theorem remotes_cons :
    (Settings.ofText t).remotes.toList = remoteOf first :: others.map remoteOf := by
  rw [remotes_eq, h, List.map_cons]

theorem fallbacks_eq : (others.map remoteOf).map fallback = others.map listed := by
  rw [List.map_map]
  refine List.map_congr_left fun args hargs => fallback_remoteOf ?_
  have hmem : args ∈ remoteArguments t := h ▸ List.mem_cons_of_mem first hargs
  simpa using (List.mem_filter.mp hmem).2

theorem detailTable_eq :
    detailTable (Settings.ofText t) (remoteOf first) = statedDetails t first others := by
  have hcount : (Settings.ofText t).remotes.size = others.length + 1 := by
    rw [← Array.length_toList, remotes_cons h, List.length_cons, List.length_map]
  rw [detailTable, transport_eq, hcount, remotes_cons h, List.tail_cons, fallbacks_eq h,
    Settings.tlsMode_ofText, Settings.inlineBlocks_ofText,
    Settings.scalar_ofText (d := .auth) rfl, Settings.scalar_ofText (d := .dev) rfl,
    Settings.scalar_ofText (d := .dataCiphers) rfl,
    Settings.scalar_ofText (d := .remoteCertTls) rfl,
    Settings.scalar_ofText (d := .keyDirection) rfl, Settings.scalar_ofText (d := .verb) rfl,
    Settings.flag_ofText (d := .tlsClient) rfl, Settings.flag_ofText (d := .persistKey) rfl,
    Settings.flag_ofText (d := .persistTun) rfl]
  simp only [List.map_eq_nil_iff, Bool.not_eq_true', List.isEmpty_eq_false_iff, ite_not]
  rfl

theorem statedPort?_eq :
    statedPort? (Settings.ofText t) (remoteOf first) = selectedPort? t := by
  rw [statedPort?, Settings.scalar_ofText (d := .port) rfl, selectedPort?, h]
  show (first[1]? <|> lastArgument ["port"] t) = first[1]?.or (lastArgument ["port"] t)
  cases first[1]? <;> rfl

theorem extract_cons :
    extract t = (resolvePort (Settings.ofText t) (remoteOf first)).map
      (profile (Settings.ofText t) (remoteOf first)) := by
  rw [extract, remotes_cons h]

/-- The profile that is drawn up is the one the lines describe. -/
theorem describes_profile {port : UInt16}
    (hport : resolvePort (Settings.ofText t) (remoteOf first) = .ok port) :
    Describes t first others (profile (Settings.ofText t) (remoteOf first) port) := by
  have hfirst : first ≠ [] := by
    have hmem : first ∈ remoteArguments t := h ▸ List.mem_cons_self
    simpa using (List.mem_filter.mp hmem).2
  have hauth : (Settings.ofText t).authUserPass = !(uses ["auth-user-pass"] t).isEmpty :=
    Settings.flag_ofText (d := .authUserPass) rfl t
  exact
    { kind := by simp [profile, Profile.start]
      server := by
        cases first with
        | nil => contradiction
        | cons host rest => simp [profile, Profile.start, remoteOf]
      port := by
        rw [resolvePort_eq_ok_iff, statedPort?_eq h] at hport
        rw [profile, Profile.recordAll_port]
        exact hport
      protocol := by simp [profile, label, transport_eq]
      name := by
        simp [profile, profileName, Settings.profileName_ofText, Profile.start]
      username := by simp [profile, Profile.start]
      password := by simp [profile, Profile.start]
      authMethod := by
        simp [profile, Profile.start, hauth]
      encryption := by simp [profile, encryption_eq]
      compression := by simp [profile, Settings.compression_ofText]
      details := fun key => by
        rw [profile, details_eq_present, detailTable_eq h]
        exact Profile.detail?_recordAll_present rfl (by simp [statedDetails]) key }

end First

theorem extract_nil {t : Text} (h : remoteArguments t = []) :
    extract t = .error (.missingField "'remote' directive" "OpenVPN configuration") := by
  rw [extract, remotes_eq, h]
  rfl

/-- An extraction has no remote, or a port that is none, or it gives the profile
that the lines describe. -/
theorem extract_cases (t : Text) :
    (remoteArguments t = [] ∧ selectedPort? t = none ∧
      extract t = .error (.missingField "'remote' directive" "OpenVPN configuration")) ∨
    (∃ stated, remoteArguments t ≠ [] ∧ selectedPort? t = some stated ∧
      parsePort? stated = none ∧
      extract t = .error (.invalidValue "port" (String.ofList stated))) ∨
    ∃ first others p, remoteArguments t = first :: others ∧
      (∀ stated, selectedPort? t = some stated → parsePort? stated ≠ none) ∧
      extract t = .ok p ∧ Describes t first others p := by
  cases h : remoteArguments t with
  | nil =>
    have hport : selectedPort? t = none := by
      rw [selectedPort?, h]
      rfl
    exact .inl ⟨rfl, hport, extract_nil h⟩
  | cons first others =>
    have hextract := extract_cons h
    cases hport : resolvePort (Settings.ofText t) (remoteOf first) with
    | ok port =>
      rw [hport] at hextract
      have hdescribes := describes_profile h hport
      rw [resolvePort_eq_ok_iff, statedPort?_eq h] at hport
      refine .inr (.inr ⟨first, others, _, rfl, fun stated hstated => ?_, hextract, hdescribes⟩)
      rw [hstated] at hport
      rw [show parsePort? stated = some port from hport]
      exact Option.some_ne_none port
    | error e =>
      rw [hport] at hextract
      rw [resolvePort_eq_error_iff, statedPort?_eq h] at hport
      obtain ⟨stated, hstated, hnone, rfl⟩ := hport
      exact .inr (.inl ⟨stated, List.cons_ne_nil first others, hstated, hnone, hextract⟩)

/-- A profile that is extracted is described by the lines. -/
theorem exists_describes {t : Text} {p : Profile} (hextract : extract t = .ok p) :
    ∃ first others, remoteArguments t = first :: others ∧ Describes t first others p := by
  rcases extract_cases t with ⟨-, -, h⟩ | ⟨stated, -, -, -, h⟩ |
    ⟨first, others, p', hfirst, -, h, hp⟩
  · rw [hextract] at h
    contradiction
  · rw [hextract] at h
    contradiction
  · rw [hextract] at h
    obtain rfl : p = p' := Except.ok.inj h
    exact ⟨first, others, hfirst, hp⟩

theorem mem_uses_of_remoteArguments {t : Text} {args : List Text} (h : args ∈ remoteArguments t) :
    args ∈ uses ["remote"] t :=
  (List.mem_filter.mp h).1

theorem Describes.port_ne_zero {t : Text} {first : List Text} {others : List (List Text)}
    {p : Profile} (h : Describes t first others p) : p.port ≠ 0 := by
  have hport := h.port
  cases hstated : selectedPort? t with
  | none =>
    rw [hstated] at hport
    rw [hport]
    decide
  | some stated =>
    rw [hstated] at hport
    exact parsePort?_ne_zero hport

theorem Describes.server_not_blank {t : Text} {first : List Text} {others : List (List Text)}
    {p : Profile} (h : Describes t first others p) (hfirst : remoteArguments t = first :: others) :
    Text.allBlank p.server.toList = false :=
  not_allBlank_of_mem_uses (mem_uses_of_remoteArguments (hfirst ▸ List.mem_cons_self))
    (List.mem_of_head? h.server)

theorem remoteArguments_eq_nil_iff {t : Text} :
    remoteArguments t = [] ↔ ∀ args ∈ uses ["remote"] t, args = [] := by
  rw [remoteArguments, List.filter_eq_nil_iff]
  simp

/-- An extraction fails for want of a remote when no active remote has an argument,
it fails on the port when one is selected that is no port, and in no other way.
Otherwise it gives the profile that the active lines, the opening lines and the
comments outside the blocks describe. -/
theorem extract_reads_active_lines (t : Text) :
    (∀ field part, extract t = .error (.missingField field part) ↔
      (∀ args ∈ uses ["remote"] t, args = []) ∧
        field = "'remote' directive" ∧ part = "OpenVPN configuration") ∧
    (∀ field value, extract t = .error (.invalidValue field value) ↔
      ∃ stated, selectedPort? t = some stated ∧ parsePort? stated = none ∧
        field = "port" ∧ value = String.ofList stated) ∧
    ((∀ args ∈ uses ["remote"] t, args = []) ∨
      (∃ stated, selectedPort? t = some stated ∧ parsePort? stated = none) ∨
      ∃ first others p, remoteArguments t = first :: others ∧ extract t = .ok p ∧
        Describes t first others p) := by
  rw [← remoteArguments_eq_nil_iff]
  rcases extract_cases t with ⟨hnil, hport, h⟩ | ⟨stated, hremotes, hstated, hnone, h⟩ |
    ⟨first, others, p, hfirst, hvalid, h, hp⟩
  · rw [h, hport]
    refine ⟨fun field part => ?_, fun field value => ?_, .inl hnil⟩
    · simp [hnil, @eq_comm String field, @eq_comm String part]
    · simp
  · rw [h]
    refine ⟨fun field part => ?_, fun field value => ?_, .inr (.inl ⟨stated, hstated, hnone⟩)⟩
    · simp [hremotes]
    · simp [hstated, hnone, @eq_comm String field, @eq_comm String value]
  · rw [h]
    refine ⟨fun field part => ?_, fun field value => ?_,
      .inr (.inr ⟨first, others, p, hfirst, rfl, hp⟩)⟩
    · simp [hfirst]
    · constructor
      · intro he
        contradiction
      · intro he
        obtain ⟨stated, hstated, hnone, -⟩ := he
        exact absurd hnone (hvalid stated hstated)

/-- A directive without an argument takes the value of an earlier one back, and a
block hides the directives inside. -/
example :
    (extract ("cipher BF-CBC\nremote a 53\n<ca>\nremote b\n</ca>\ncipher\n").toList).map
      (fun p => (p.server, p.port, p.encryption, p.detail? "remote_count")) =
      .ok ("a", 53, "AES-256-CBC", some "1") := by
  decide +kernel

end OpenVPN
end VpnImport
