import VpnImport.Proofs.Texts
import VpnImport.Proofs.WireGuard.Extraction

/-!
# The texts of a WireGuard profile

Each step of the extraction looks a value up in a section, and hands it on or
quotes it in an error.  Both are pieces of a line, so what one step yields is free
of the characters that no line has, and the steps together yield nothing else.
-/

namespace VpnImport

namespace Endpoint
variable {t : Text} {d : Char} (h : Text.Foreign t d) {endpoint : Text}

theorem subset_of_cutAtLastColon {host port : Text}
    (hcut : cutAtLastColon endpoint = some (host, port)) : host ⊆ endpoint ∧ port ⊆ endpoint := by
  unfold cutAtLastColon at hcut
  split at hcut
  · contradiction
  · rename_i c rest hdrop
    cases hcut
    refine ⟨fun x hx => ?_, fun x hx => ?_⟩
    · have hmem : x ∈ endpoint.reverse.dropWhile (· != ':') :=
        hdrop ▸ List.mem_cons_of_mem c (List.mem_reverse.mp hx)
      exact List.mem_reverse.mp ((List.dropWhile_sublist _).subset hmem)
    · exact List.mem_reverse.mp ((List.takeWhile_sublist _).subset (List.mem_reverse.mp hx))

/-- The host and the port are cut out of the endpoint, unless its brackets are at
fault. -/
theorem yields_cut (endpoint : Text) :
    Yields (fun f => f = Fault.unclosedBracket ∨ f = .trailingText)
      (fun e => e.1 ⊆ endpoint ∧ ∀ w ∈ e.2, w ⊆ endpoint) (cut endpoint) := by
  have hnone : ∀ w ∈ (none : Option Text), w ⊆ endpoint :=
    fun _ hw => absurd hw (Option.not_mem_none _)
  unfold cut
  split
  · rename_i rest
    have hhost : rest.takeWhile (· != ']') ⊆ '[' :: rest :=
      fun x hx => List.mem_cons_of_mem '[' ((List.takeWhile_sublist _).subset hx)
    split
    · exact .inl rfl
    · rename_i c after hdrop
      dsimp only
      split
      · exact ⟨hhost, hnone⟩
      · rename_i port
        refine ⟨hhost, fun w hw x hx => List.mem_cons_of_mem '[' ?_⟩
        obtain rfl : port = w := Option.some.inj hw
        have hmem : x ∈ rest.dropWhile (· != ']') :=
          hdrop ▸ List.mem_cons_of_mem c (List.mem_cons_of_mem ':' hx)
        exact (List.dropWhile_sublist _).subset hmem
      · exact .inr rfl
  · split
    · rename_i host port hcolon
      obtain ⟨hhost, hport⟩ := subset_of_cutAtLastColon hcolon
      exact ⟨hhost, fun w hw => Option.some.inj hw ▸ hport⟩
    · exact ⟨List.Subset.refl _, hnone⟩

include h

theorem yields_portOr (default : UInt16) {written : Option Text} (hd : ∀ w ∈ written, d ∉ w) :
    Yields (fun f : Fault => d ∉ f.reason.toList) (fun _ => True) (portOr default written) := by
  unfold portOr
  split
  · trivial
  · rename_i w
    dsimp only
    split
    · trivial
    · split
      · trivial
      · show d ∉ ("invalid port '" ++ String.ofList (Text.trim w) ++ "'").toList
        rw [not_mem_toList_append, not_mem_toList_append]
        exact ⟨⟨h.not_mem_of_isPrintable rfl,
          not_mem_toList_ofList.mpr fun hmem => hd w rfl (Text.trim_subset w hmem)⟩,
          h.not_mem_of_isPrintable rfl⟩

theorem yields_split (default : UInt16) (hd : d ∉ endpoint) :
    Yields (fun f : Fault => d ∉ f.reason.toList) (fun e => d ∉ e.1) (split endpoint default) := by
  have htrim : d ∉ Text.trim endpoint := fun hmem => hd (Text.trim_subset endpoint hmem)
  have hcut : Yields (fun f : Fault => d ∉ f.reason.toList)
      (fun e => d ∉ e.1 ∧ ∀ w ∈ e.2, d ∉ w) (cut (Text.trim endpoint)) := by
    have hparts := yields_cut (Text.trim endpoint)
    cases hresult : cut (Text.trim endpoint) with
    | ok e =>
      rw [hresult] at hparts
      obtain ⟨hhost, hport⟩ := hparts
      exact ⟨fun hmem => htrim (hhost hmem), fun w hw hmem => htrim (hport w hw hmem)⟩
    | error f =>
      rw [hresult] at hparts
      rcases hparts with rfl | rfl <;> exact h.not_mem_of_isPrintable rfl
  unfold split
  by_cases hempty : (Text.trim endpoint).isEmpty = true
  · dsimp only
    rw [if_pos hempty]
    exact h.not_mem_of_isPrintable rfl
  · dsimp only
    rw [if_neg hempty]
    refine hcut.bind fun e he => ?_
    split
    · exact h.not_mem_of_isPrintable rfl
    · exact (yields_portOr h default he.2).bind fun port _ =>
        fun hmem => he.1 (Text.trim_subset _ hmem)

theorem yields_extract (default : UInt16) (hd : d ∉ endpoint) :
    Yields (ExtractError.Without d) (fun e => d ∉ e.1) (extract endpoint default) := by
  have hsplit := yields_split h default hd
  unfold extract
  cases hresult : split endpoint default with
  | ok e =>
    rw [hresult] at hsplit
    exact hsplit
  | error f =>
    rw [hresult] at hsplit
    refine forall_mem_pair.mpr ⟨not_mem_toList_ofList.mpr fun hmem => ?_, hsplit⟩
    exact hd (Text.trim_subset endpoint hmem)

end Endpoint

namespace WireGuard
open Assignment (lineValue)
variable {t : Text} {d : Char} (h : Text.Foreign t d)
include h

theorem yields_sections :
    Yields (ExtractError.Without d)
      (fun s => Text.Foreign s.interface d ∧ Text.Foreign s.peer d) (sections t) := by
  unfold sections
  split
  · exact forall_mem_pair.mpr
      ⟨h.not_mem_of_isPrintable rfl, h.not_mem_of_isPrintable rfl⟩
  · rename_i interface hinterface
    split
    · exact forall_mem_pair.mpr
        ⟨h.not_mem_of_isPrintable rfl, h.not_mem_of_isPrintable rfl⟩
    · rename_i peer hpeer
      exact ⟨h.of_body? hinterface, h.of_body? hpeer⟩

theorem yields_requiredKey {field part : String} (hfield : Text.isPrintable field.toList = true)
    (hpart : Text.isPrintable part.toList = true) :
    Yields (ExtractError.Without d) (fun key => d ∉ key) (requiredKey t field part) := by
  unfold requiredKey
  dsimp only
  split
  · exact forall_mem_pair.mpr
      ⟨h.not_mem_of_isPrintable hfield, h.not_mem_of_isPrintable hpart⟩
  · split
    · exact forall_mem_pair.mpr
        ⟨h.not_mem_of_isPrintable hfield, not_mem_toList_ofList.mpr (h.not_mem_lineValue _)⟩
    · exact h.not_mem_lineValue _

theorem yields_endpoint : Yields (ExtractError.Without d) (fun e => d ∉ e.1) (endpoint t) := by
  unfold endpoint
  dsimp only
  split
  · exact forall_mem_pair.mpr
      ⟨h.not_mem_of_isPrintable rfl, h.not_mem_of_isPrintable rfl⟩
  · exact Endpoint.yields_extract h defaultPort (h.not_mem_lineValue _)

omit h in
theorem yields_read {s : Sections} (hs : Text.Foreign s.interface d ∧ Text.Foreign s.peer d)
    {p : Parameter} (hp : p ∈ parameters) :
    Yields (ExtractError.Without d) (fun f => d ∉ f.1.toList ∧ d ∉ f.2.toList) (p.read s) := by
  have hsource : Text.Foreign (p.source s) d := by
    rcases source_cases hp with hsource | hsource
    · exact hsource ▸ hs.1
    · exact hsource ▸ hs.2
  have hprintable : ∀ p ∈ parameters, Text.isPrintable p.key.toList = true ∧
      Text.isPrintable p.field.toList = true ∧ Text.isPrintable p.default.toList = true := by
    decide
  obtain ⟨hkey, hfield, hdefault⟩ := hprintable p hp
  have hvalue : d ∉ (String.ofList (lineValue (p.source s) p.key.toList)).toList :=
    not_mem_toList_ofList.mpr (hsource.not_mem_lineValue _)
  unfold Parameter.read
  dsimp only
  split
  · exact ⟨hsource.not_mem_of_isPrintable hfield, hsource.not_mem_of_isPrintable hdefault⟩
  · split
    · exact ⟨hsource.not_mem_of_isPrintable hfield, hvalue⟩
    · exact forall_mem_pair.mpr ⟨hsource.not_mem_of_isPrintable hkey, hvalue⟩

theorem without_compose {comment : Option Text} {peers : Nat} {server : Text} {port : UInt16}
    {publicKey : Text} {shared : Bool} {fields : List (String × String)}
    (hcomment : ∀ name ∈ comment, d ∉ name) (hserver : d ∉ server) (hpublicKey : d ∉ publicKey)
    (hfields : ∀ f ∈ fields, d ∉ f.1.toList ∧ d ∉ f.2.toList) :
    (compose comment peers server port publicKey shared fields).Without d := by
  refine Profile.without_recordAll (Profile.without_iff.mpr ⟨⟨?_, ?_, ?_, ?_, ?_, ?_⟩, ?_⟩) ?_
  · refine not_mem_toList_ofList.mpr (getD_of_forall_mem (p := fun w => d ∉ w) hcomment ?_)
    rw [List.mem_append, not_or]
    exact ⟨h.not_mem_of_isPrintable rfl, hserver⟩
  · exact not_mem_toList_ofList.mpr hserver
  · exact h.not_mem_of_isPrintable (w := (Protocol.label .wireGuard).toList) rfl
  · exact List.not_mem_nil
  · exact List.not_mem_nil
  · exact h.not_mem_of_isPrintable (w := (Protocol.defaultEncryption .wireGuard).toList) rfl
  · exact fun e he => absurd he List.not_mem_nil
  · rw [List.forall_mem_append, List.forall_mem_cons, List.forall_mem_cons,
      List.forall_mem_singleton]
    have hkeys : d ∉ "peer_public_key".toList ∧ d ∉ "has_preshared_key".toList ∧
        d ∉ "peer_count".toList :=
      ⟨h.not_mem_of_isPrintable rfl, h.not_mem_of_isPrintable rfl, h.not_mem_of_isPrintable rfl⟩
    refine ⟨hfields, ⟨hkeys.1, not_mem_toList_ofList.mpr hpublicKey⟩, ⟨hkeys.2.1, ?_⟩,
      ⟨hkeys.2.2, h.not_mem_toString peers⟩⟩
    cases shared <;> exact h.not_mem_of_isPrintable rfl

/-- No text of an extraction has a control character that no line has. -/
theorem yields_extract : Yields (ExtractError.Without d) (Profile.Without d) (extract t) := by
  rw [extract_eq]
  refine (yields_sections h).bind fun s hs => ?_
  refine (yields_endpoint hs.2).bind fun e he => ?_
  refine (yields_requiredKey hs.1 (by decide) (by decide)).bind fun _ _ => ?_
  refine (yields_requiredKey hs.2 (by decide) (by decide)).bind fun publicKey hpublicKey => ?_
  refine (yields_mapM fun p hp => yields_read hs hp).bind fun fields hfields => ?_
  exact without_compose h h.not_mem_firstUsable? he hpublicKey hfields

end WireGuard
end VpnImport
