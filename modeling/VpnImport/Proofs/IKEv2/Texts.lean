import VpnImport.Proofs.IKEv2.Extraction
import VpnImport.Proofs.Texts

/-!
# The texts of an IKEv2 profile

A parameter is read from one line, quoted or not, and so is the name of a
connection.  Beside them and a comment a profile holds only texts of its own.
-/

namespace VpnImport
namespace IKEv2

section Foreign
variable {t : Text} {d : Char} (h : Text.Foreign t d)
include h

theorem not_mem_value (key : String) : d ∉ value t key :=
  h.not_mem_tokenValue key.toList

theorem not_mem_connectionName? : ∀ name ∈ connectionName? t, d ∉ name := by
  intro name hname
  obtain ⟨l, hl, hsection⟩ := List.mem_filterMap.mp (List.mem_of_find?_eq_some hname)
  exact h.not_mem_of_subset hl (subset_of_sectionName? hsection)

theorem not_mem_of_server? : ∀ server ∈ server? t, d ∉ server := by
  intro server hserver
  obtain ⟨key, -, rfl⟩ := List.mem_map.mp (List.mem_of_find?_eq_some hserver)
  exact not_mem_value h key

theorem not_mem_profileName {server : Text} (hserver : d ∉ server) :
    d ∉ profileName t server := by
  refine getD_of_forall_mem (p := fun w => d ∉ w)
    (forall_mem_orElse (not_mem_connectionName? h) h.not_mem_firstUsable?) ?_
  rw [List.mem_append, not_or]
  exact ⟨h.not_mem_of_isPrintable rfl, hserver⟩

theorem not_mem_encryptionLabel (proposal : Text) : d ∉ (encryptionLabel proposal).toList := by
  unfold encryptionLabel
  dsimp only
  split
  · exact h.not_mem_of_isPrintable rfl
  · split
    · exact h.not_mem_of_isPrintable rfl
    · split <;> exact h.not_mem_of_isPrintable rfl

theorem not_mem_detailTable : ∀ e ∈ detailTable t, d ∉ e.1.toList ∧ ∀ v ∈ e.2, d ∉ v.toList := by
  rw [detailTable, List.forall_mem_cons, List.forall_mem_map]
  have hname : Text.isPrintable "conn_name".toList = true := rfl
  refine ⟨⟨h.not_mem_of_isPrintable hname, fun v hv => ?_⟩, fun k hk => ⟨?_, fun v hv => ?_⟩⟩
  · obtain ⟨name, hname, rfl⟩ := Option.map_eq_some_iff.mp hv
    exact not_mem_toList_ofList.mpr (not_mem_connectionName? h name hname)
  · have hkeys : ∀ k ∈ recordedKeys, Text.isPrintable k.2.toList = true := by decide
    exact h.not_mem_of_isPrintable (hkeys k hk)
  · split at hv
    · contradiction
    · rw [← Option.some.inj hv, not_mem_toList_ofList]
      exact not_mem_value h k.1

theorem without_profile {server : Text} (hserver : d ∉ server) :
    (profile t server).Without d := by
  rw [profile, details_eq_present]
  refine Profile.without_recordAll (Profile.without_iff.mpr ⟨⟨?_, ?_, ?_, ?_, ?_, ?_⟩, ?_⟩)
    fun f hf => ?_
  · exact not_mem_toList_ofList.mpr (not_mem_profileName h hserver)
  · exact not_mem_toList_ofList.mpr hserver
  · exact h.not_mem_of_isPrintable (w := (Protocol.label .ikev2).toList) rfl
  · exact not_mem_toList_ofList.mpr (not_mem_value h "eap_identity")
  · exact List.not_mem_nil
  · exact not_mem_encryptionLabel h _
  · exact fun e he => absurd he List.not_mem_nil
  · obtain ⟨hkey, hvalue⟩ := not_mem_detailTable h _ (Details.mem_of_mem_present hf)
    exact ⟨hkey, hvalue f.2 rfl⟩

/-- No text of an extraction has a control character that no line has. -/
theorem yields_extract : Yields (ExtractError.Without d) (Profile.Without d) (extract t) := by
  cases hresult : extract t with
  | error e =>
    obtain ⟨-, rfl⟩ := extract_eq_error_iff.mp hresult
    exact forall_mem_pair.mpr
      ⟨h.not_mem_of_isPrintable rfl, h.not_mem_of_isPrintable rfl⟩
  | ok p =>
    obtain ⟨server, hserver, rfl⟩ := extract_eq_ok_iff.mp hresult
    exact without_profile h (not_mem_of_server? h server hserver)

end Foreign
end IKEv2
end VpnImport
