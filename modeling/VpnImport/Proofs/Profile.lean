import VpnImport.Profile.Basic
import VpnImport.Proofs.Details

/-!
# Recorded fields

Recording fields changes the details of a profile and nothing else, so whether a
tunnel can be set up from it is settled before any field is recorded.  The
details come to hold the fields that were recorded, each under its key.
-/

namespace VpnImport
namespace Profile

theorem recordAll_eq (p : Profile) (fields : List (String × String)) :
    p.recordAll fields =
      { p with details := fields.foldl (fun d f => d.insert f.1 f.2) p.details } := by
  induction fields generalizing p with
  | nil => rfl
  | cons f fields ih =>
    show (p.record f.1 f.2).recordAll fields = _
    rw [ih]
    rfl

section RecordAll
variable (p : Profile) (fields : List (String × String))

@[simp] theorem recordAll_name : (p.recordAll fields).name = p.name := by rw [recordAll_eq]
@[simp] theorem recordAll_server : (p.recordAll fields).server = p.server := by rw [recordAll_eq]
@[simp] theorem recordAll_protocol : (p.recordAll fields).protocol = p.protocol := by
  rw [recordAll_eq]
@[simp] theorem recordAll_kind : (p.recordAll fields).kind = p.kind := by rw [recordAll_eq]
@[simp] theorem recordAll_port : (p.recordAll fields).port = p.port := by rw [recordAll_eq]
@[simp] theorem recordAll_username : (p.recordAll fields).username = p.username := by
  rw [recordAll_eq]
@[simp] theorem recordAll_password : (p.recordAll fields).password = p.password := by
  rw [recordAll_eq]
@[simp] theorem recordAll_authMethod : (p.recordAll fields).authMethod = p.authMethod := by
  rw [recordAll_eq]
@[simp] theorem recordAll_encryption : (p.recordAll fields).encryption = p.encryption := by
  rw [recordAll_eq]
@[simp] theorem recordAll_compression : (p.recordAll fields).compression = p.compression := by
  rw [recordAll_eq]

end RecordAll

/-- Nothing is recorded but the fields. -/
theorem mem_entries_recordAll {p : Profile} {fields : List (String × String)}
    {e : String × String} (h : e ∈ (p.recordAll fields).details.entries) :
    e ∈ fields ∨ e ∈ p.details.entries := by
  induction fields generalizing p with
  | nil => exact .inr h
  | cons f fields ih =>
    rcases ih (p := p.record f.1 f.2) h with hfield | hentry
    · exact .inl (List.mem_cons_of_mem f hfield)
    · rcases Details.mem_entries_insert hentry with rfl | hold
      · exact .inl List.mem_cons_self
      · exact .inr hold

theorem detail?_record (p : Profile) (key value k : String) :
    (p.record key value).detail? k = if k = key then some value else p.detail? k :=
  p.details.get?_insert key value k

/-- Fields that are recorded under keys of their own are found under them. -/
theorem detail?_recordAll {p : Profile} {fields : List (String × String)}
    (hkeys : (fields.map Prod.fst).Nodup) (k : String) :
    (p.recordAll fields).detail? k = (fields.lookup k).or (p.detail? k) := by
  induction fields generalizing p with
  | nil => rfl
  | cons f fields ih =>
    obtain ⟨key, value⟩ := f
    obtain ⟨hfresh, hkeys⟩ := List.nodup_cons.mp hkeys
    show ((p.record key value).recordAll fields).detail? k = _
    rw [ih hkeys, detail?_record, Details.lookup_cons_eq_ite]
    by_cases hk : k = key
    · have hnone : fields.lookup k = none := Details.lookup_eq_none_of_not_mem (hk ▸ hfresh)
      rw [hnone, if_pos hk, if_pos hk, Option.none_or, Option.some_or]
    · rw [if_neg hk, if_neg hk]

theorem detail?_recordAll_of_empty {p : Profile} {fields : List (String × String)}
    (hempty : p.details = .empty) (hkeys : (fields.map Prod.fst).Nodup) (k : String) :
    (p.recordAll fields).detail? k = fields.lookup k := by
  rw [detail?_recordAll hkeys, detail?, hempty, Details.get?_empty, Option.or_none]

/-- What a table gives is found in the profile that records it. -/
theorem detail?_recordAll_present {p : Profile} {table : List (String × Option String)}
    (hempty : p.details = .empty) (hkeys : (table.map Prod.fst).Nodup) (k : String) :
    (p.recordAll (Details.present table)).detail? k = (table.lookup k).join := by
  have hpresent : ((Details.present table).map Prod.fst).Nodup :=
    hkeys.sublist (Details.keys_present_sublist table)
  rw [detail?_recordAll_of_empty hempty hpresent, Details.lookup_present hkeys]

theorem hasPayload_recordAll (p : Profile) (fields : List (String × String)) :
    (p.recordAll fields).hasPayload = p.hasPayload := by
  rw [recordAll_eq]
  rfl

theorem hasPayload_iff {p : Profile} :
    p.hasPayload = true ↔
      Text.allBlank p.server.toList = false ∧ p.port ≠ 0 ∧ p.kind ≠ .unknown := by
  rw [hasPayload, Bool.and_eq_true, Bool.and_eq_true, Bool.not_eq_true', bne_iff_ne,
    Protocol.isKnown, bne_iff_ne, and_assoc]

theorem port_bounds {p : Profile} (h : p.hasPayload = true) :
    1 ≤ p.port.toNat ∧ p.port.toNat ≤ 65535 := by
  have hne : p.port.toNat ≠ 0 := fun hzero =>
    (hasPayload_iff.mp h).2.1 (UInt16.toNat_inj.mp hzero)
  have hlt : p.port.toNat < 65536 := p.port.toNat_lt
  omega

end Profile
end VpnImport
