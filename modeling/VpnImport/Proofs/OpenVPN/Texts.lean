import VpnImport.Proofs.OpenVPN.Extraction
import VpnImport.Proofs.Texts

/-!
# The texts of an OpenVPN profile

What a line sets is a word of the line or the rest of a comment, in lower case
perhaps.  A property of the lines that is kept by cutting and lowering is therefore
a property of all that a file sets (`Settings.All.run`), and the profile adds to it
only texts of its own.
-/

namespace VpnImport
namespace OpenVPN

/-- Every text of a remote has a property. -/
structure Remote.All (P : Text → Prop) (r : Remote) : Prop where
  host : P r.host
  port : ∀ w ∈ r.port, P w
  transport : ∀ w ∈ r.transport, P w

/-- Every text that is set has a property. -/
structure Settings.All (P : Text → Prop) (s : Settings) : Prop where
  profileName : ∀ w ∈ s.profileName, P w
  remotes : ∀ r ∈ s.remotes.toList, r.All P
  proto : ∀ w ∈ s.proto, P w
  port : ∀ w ∈ s.port, P w
  cipher : ∀ w ∈ s.cipher, P w
  dataCiphers : ∀ w ∈ s.dataCiphers, P w
  auth : ∀ w ∈ s.auth, P w
  dev : ∀ w ∈ s.dev, P w
  remoteCertTls : ∀ w ∈ s.remoteCertTls, P w
  keyDirection : ∀ w ∈ s.keyDirection, P w
  verb : ∀ w ∈ s.verb, P w

theorem Settings.subset_of_profileName? {content name : Text}
    (h : profileName? content = some name) : name ⊆ content := by
  unfold profileName? at h
  split at h
  · contradiction
  · rename_i rest hrest
    dsimp only at h
    split at h
    · contradiction
    · rw [← Option.some.inj h]
      exact List.Subset.trans (Text.trim_subset rest) (Text.subset_of_after? hrest)

namespace Settings.All
variable {P : Text → Prop} {s : Settings}

theorem empty : Settings.empty.All P := by
  constructor <;> simp [Settings.empty]

section Step
variable (hs : s.All P) (hlower : ∀ w, P w → P w.lower)
include hs hlower

theorem applyDirective {args : List Text} (hargs : ∀ a ∈ args, P a) (d : Directive) :
    (s.applyDirective args d).All P := by
  have hhead : ∀ w ∈ args.head?, P w := fun w hw => hargs w (List.mem_of_head? hw)
  cases d with
  | remote =>
    cases args with
    | nil => exact hs
    | cons host rest =>
      obtain ⟨hhost, hrest⟩ := List.forall_mem_cons.mp hargs
      refine { hs with remotes := fun r hr => ?_ }
      change r ∈ (s.remotes.push _).toList at hr
      rw [Array.toList_push, List.mem_append, List.mem_singleton] at hr
      rcases hr with hr | rfl
      · exact hs.remotes r hr
      · refine ⟨hhost, fun w hw => hrest w (List.mem_of_head? hw), fun w hw => ?_⟩
        obtain ⟨v, hv, rfl⟩ := Option.map_eq_some_iff.mp hw
        exact hlower v (hrest v (List.mem_of_mem_tail (List.mem_of_head? hv)))
  | proto =>
    refine { hs with proto := fun w hw => ?_ }
    obtain ⟨v, hv, rfl⟩ := Option.map_eq_some_iff.mp hw
    exact hlower v (hhead v hv)
  | port => exact { hs with port := hhead }
  | cipher => exact { hs with cipher := hhead }
  | dataCiphers => exact { hs with dataCiphers := hhead }
  | auth => exact { hs with auth := hhead }
  | dev => exact { hs with dev := hhead }
  | remoteCertTls => exact { hs with remoteCertTls := hhead }
  | keyDirection => exact { hs with keyDirection := hhead }
  | verb => exact { hs with verb := hhead }
  | authUserPass | compLzo | compress | tlsAuth | tlsCrypt | tlsClient | persistKey | persistTun =>
    exact { hs with }

/-- A line sets only texts that are cut out of it. -/
theorem applyLine {l : Text} (hcut : ∀ w, w ⊆ l → P w) : (s.applyLine (.ofText l)).All P := by
  cases hline : Line.ofText l with
  | blank => exact hs
  | opening tag => exact { hs with }
  | comment content =>
    have hcontent : Comment.content? l = some content := by
      rw [← Line.content?_ofText, hline]
      rfl
    refine { hs with profileName := fun w hw => ?_ }
    rcases Option.or_eq_some_iff.mp ((Option.orElse_eq_or ..).symm.trans hw) with hold | ⟨-, hname⟩
    · exact hs.profileName w hold
    · exact hcut w
        (List.Subset.trans (subset_of_profileName? hname) (Comment.subset_of_content? hcontent))
  | directive name args =>
    rw [applyLine_directive]
    cases Directive.named? name with
    | none => exact hs
    | some d =>
      have hwords := (Line.ofText_eq_directive_iff.mp hline).2
      refine hs.applyDirective hlower (fun a ha => hcut a ?_) d
      exact Text.subset_of_mem_words (hwords ▸ List.mem_cons_of_mem name ha)

end Step

/-- What is set while lines are read is cut out of them. -/
theorem run (hlower : ∀ w, P w → P w.lower) {r : Reading} (hr : r.settings.All P)
    {ls : List Text} (hcut : ∀ l ∈ ls, ∀ w, w ⊆ l → P w) : (r.run ls).settings.All P := by
  induction ls generalizing r with
  | nil => exact hr
  | cons l ls ih =>
    obtain ⟨hl, hls⟩ := List.forall_mem_cons.mp hcut
    refine ih ?_ hls
    rw [Reading.settings_step]
    split
    · exact hr.applyLine hlower hl
    · exact hr

end Settings.All

/-! ## The profile -/

section Foreign
variable {t : Text} {d : Char} (h : Text.Foreign t d)
include h

theorem all_ofText : (Settings.ofText t).All fun w => d ∉ w :=
  Settings.All.run (P := fun w => d ∉ w) (fun _ => h.not_mem_lower) Settings.All.empty
    fun _ hl _ hw => h.not_mem_of_subset hl hw

variable {s : Settings} (hs : s.All fun w => d ∉ w) {remote : Remote}
  (hremote : remote.All fun w => d ∉ w)
include hs hremote

theorem not_mem_transport : d ∉ transport s remote :=
  getD_of_forall_mem (p := fun w => d ∉ w) (forall_mem_orElse hremote.transport hs.proto)
    (h.not_mem_of_isPrintable rfl)

omit hremote in
theorem not_mem_encryption : d ∉ encryption s := by
  have hfirst : ∀ w ∈ firstDataCipher? s, d ∉ w := by
    intro w hw
    obtain ⟨list, hlist, rfl⟩ := Option.map_eq_some_iff.mp (Option.filter_eq_some_iff.mp hw).1
    exact fun hmem => hs.dataCiphers list hlist ((List.takeWhile_sublist _).subset hmem)
  exact getD_of_forall_mem (p := fun w => d ∉ w) (forall_mem_orElse hs.cipher hfirst)
    (h.not_mem_of_isPrintable rfl)

omit hs in
theorem not_mem_fallback : d ∉ (fallback remote).toList := by
  have hhost := not_mem_toList_ofList.mpr hremote.host
  unfold fallback
  split
  · rename_i port hport
    rw [not_mem_toList_append, not_mem_toList_append]
    exact ⟨⟨hhost, h.not_mem_of_isPrintable rfl⟩,
      not_mem_toList_ofList.mpr (hremote.port port hport)⟩
  · exact hhost

omit h hs hremote in
theorem detailTable_keys_printable (s : Settings) (remote : Remote) :
    ∀ e ∈ detailTable s remote, Text.isPrintable e.1.toList = true := by
  have hkeys : ∀ key ∈ (detailTable s remote).map Prod.fst,
      Text.isPrintable key.toList = true := by
    simp only [detailTable, List.map_cons, List.map_nil]
    decide
  exact fun e he => hkeys e.1 (List.mem_map_of_mem he)

omit hs hremote in
theorem not_mem_mode (mode : Option TlsMode) :
    d ∉ ((mode.map TlsMode.name).getD "none").toList := by
  cases mode with
  | none => exact h.not_mem_of_isPrintable rfl
  | some mode => cases mode <;> exact h.not_mem_of_isPrintable rfl

omit hs hremote in
theorem not_mem_joined {α : Type} [DecidableEq α] {f : α → String} {l : List α}
    (hl : ∀ a ∈ l, d ∉ (f a).toList) :
    ∀ v ∈ (if l = [] then none else some (",".intercalate (l.map f))), d ∉ v.toList := by
  intro v hv
  split at hv
  · contradiction
  · rw [← Option.some.inj hv]
    exact not_mem_toList_intercalate (h.not_mem_of_isPrintable rfl) (List.forall_mem_map.mpr hl)

omit hs hremote in
theorem not_mem_flag (holds : Bool) :
    ∀ v ∈ (if holds then some "true" else none), d ∉ v.toList := by
  intro v hv
  split at hv
  · rw [← Option.some.inj hv]
    exact h.not_mem_of_isPrintable rfl
  · contradiction

theorem not_mem_detailTable : ∀ e ∈ detailTable s remote, ∀ v ∈ e.2, d ∉ v.toList := by
  simp only [detailTable, List.forall_mem_cons, Option.forall_mem_map, Option.mem_some_iff,
    forall_eq', not_mem_toList_ofList]
  refine ⟨not_mem_transport h hs hremote,
    getD_of_forall_mem (p := fun w => d ∉ w) hs.auth (h.not_mem_of_isPrintable rfl),
    getD_of_forall_mem (p := fun w => d ∉ w) hs.dev (h.not_mem_of_isPrintable rfl),
    not_mem_mode h s.tlsMode, h.not_mem_toString s.remotes.size,
    not_mem_joined h fun r hr => not_mem_fallback h (hs.remotes r (List.mem_of_mem_tail hr)),
    not_mem_joined h fun tag _ => ?_, hs.dataCiphers, hs.remoteCertTls, hs.keyDirection, hs.verb,
    not_mem_flag h s.tlsClient, not_mem_flag h s.persistKey, not_mem_flag h s.persistTun,
    fun _ hx => absurd hx List.not_mem_nil⟩
  cases tag <;> exact h.not_mem_of_isPrintable rfl

theorem without_profile (port : UInt16) : (profile s remote port).Without d := by
  rw [profile, details_eq_present]
  refine Profile.without_recordAll (Profile.without_iff.mpr ⟨⟨?_, ?_, ?_, ?_, ?_, ?_⟩, ?_⟩)
    fun f hf => ?_
  · refine not_mem_toList_ofList.mpr (getD_of_forall_mem (p := fun w => d ∉ w) hs.profileName ?_)
    rw [List.mem_append, not_or]
    exact ⟨h.not_mem_of_isPrintable rfl, hremote.host⟩
  · exact not_mem_toList_ofList.mpr hremote.host
  · show d ∉ (label _).toList
    unfold label
    split <;> exact h.not_mem_of_isPrintable rfl
  · exact List.not_mem_nil
  · exact List.not_mem_nil
  · exact not_mem_toList_ofList.mpr (not_mem_encryption h hs)
  · exact fun e he => absurd he List.not_mem_nil
  · have hmem := Details.mem_of_mem_present hf
    exact ⟨h.not_mem_of_isPrintable (detailTable_keys_printable s remote _ hmem),
      not_mem_detailTable h hs hremote _ hmem f.2 rfl⟩

omit hs hremote in
/-- No text of an extraction has a control character that no line has. -/
theorem yields_extract : Yields (ExtractError.Without d) (Profile.Without d) (extract t) := by
  have hall := all_ofText h
  unfold extract
  dsimp only
  split
  · exact forall_mem_pair.mpr
      ⟨h.not_mem_of_isPrintable rfl, h.not_mem_of_isPrintable rfl⟩
  · rename_i remote rest hremotes
    have hremote : remote.All fun w => d ∉ w :=
      hall.remotes remote (hremotes ▸ List.mem_cons_self)
    have hport : Yields (ExtractError.Without d) (fun _ => True)
        (resolvePort (Settings.ofText t) remote) := by
      cases hresult : resolvePort (Settings.ofText t) remote with
      | ok port => trivial
      | error e =>
        obtain ⟨stated, hstated, -, rfl⟩ := resolvePort_eq_error_iff.mp hresult
        refine forall_mem_pair.mpr ⟨h.not_mem_of_isPrintable rfl, ?_⟩
        exact not_mem_toList_ofList.mpr
          (forall_mem_orElse (p := fun w => d ∉ w) hremote.port hall.port stated hstated)
    exact hport.map fun port _ => without_profile h hall hremote port

end Foreign
end OpenVPN
end VpnImport
