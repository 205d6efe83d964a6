import VpnImport.Proofs.Section
import VpnImport.Proofs.WireGuard.Extraction

/-!
# The fields of a WireGuard profile

A parameter that is left out is recorded with its default, and a default passes
the check of its own parameter.  So every profile records the same keys, each with
a value that passes its check.
-/

namespace VpnImport
namespace WireGuard
open Assignment (lineValue)

/-- What a default must be for its parameter. -/
theorem default_accepted : ∀ p ∈ parameters,
    p.default ≠ "" ∧ p.check.accepts p.default.toList = true := by
  decide

/-- A parameter is read as its default, or as the value that passed its check. -/
theorem read_cases {p : Parameter} {s : Sections} {f : String × String} (h : p.read s = .ok f) :
    f = (p.field, p.default) ∨
      f.1 = p.field ∧ f.2 ≠ "" ∧ p.check.accepts f.2.toList = true := by
  unfold Parameter.read at h
  dsimp only at h
  by_cases hempty : (lineValue (p.source s) p.key.toList).isEmpty = true
  · rw [if_pos hempty] at h
    exact .inl (Except.ok.inj h).symm
  · rw [if_neg hempty] at h
    by_cases haccepts : p.check.accepts (lineValue (p.source s) p.key.toList) = true
    · rw [if_pos haccepts] at h
      cases h
      refine .inr ⟨rfl, by simpa using hempty, ?_⟩
      rw [String.toList_ofList]
      exact haccepts
    · rw [if_neg haccepts] at h
      contradiction

section Fields
variable {s : Sections} {fields : List (String × String)}
  (h : parameters.mapM (·.read s) = .ok fields)
include h

theorem fields_keys : fields.map Prod.fst = parameters.map Parameter.field := by
  rw [← List.forall₂_eq_eq_eq, List.forall₂_map_left_iff, List.forall₂_map_right_iff]
  refine ((forall₂_of_mapM h).imp fun p f hread => ?_).flip
  rcases read_cases hread with rfl | ⟨hkey, -⟩
  · rfl
  · exact hkey

/-- A field that is read belongs to a parameter, and its value is not empty and
passes the check of the parameter. -/
theorem exists_parameter {f : String × String} (hf : f ∈ fields) :
    ∃ p ∈ parameters, f.1 = p.field ∧ f.2 ≠ "" ∧ p.check.accepts f.2.toList = true := by
  obtain ⟨p, hp, hread⟩ := exists_of_mem_forall₂ (forall₂_of_mapM h) hf
  rcases read_cases hread with rfl | hvalue
  · exact ⟨p, hp, rfl, default_accepted p hp⟩
  · exact ⟨p, hp, hvalue⟩

/-- The port that is recorded is a port. -/
theorem listenPort_accepted : ∃ value, fields.lookup "listen_port" = some value ∧
    (parsePort? value.toList).isSome = true := by
  have hkey : (fields.lookup "listen_port").isSome = true := by
    rw [Details.isSome_lookup_iff, fields_keys h]
    decide
  obtain ⟨value, hvalue⟩ := Option.isSome_iff_exists.mp hkey
  obtain ⟨p, hp, hfield, -, haccepts⟩ := exists_parameter h (Details.mem_of_lookup hvalue)
  have hcheck : ∀ p ∈ parameters, "listen_port" = p.field → p.check = .port := by decide
  rw [hcheck p hp hfield] at haccepts
  exact ⟨value, hvalue, haccepts⟩

/-! ## The profile -/

variable {comment : Option Text} {peers : Nat} {server : Text} {port : UInt16}
  {publicKey : Text} {shared : Bool}

/-- What is recorded, in the order in which it is. -/
def recorded (fields : List (String × String)) (publicKey : Text) (shared : Bool) (peers : Nat) :
    List (String × String) :=
  fields ++ [("peer_public_key", String.ofList publicKey),
    ("has_preshared_key", if shared then "true" else "false"), ("peer_count", toString peers)]

theorem recorded_keys : (recorded fields publicKey shared peers).map Prod.fst =
    ["address", "dns", "listen_port", "mtu", "allowed_ips", "persistent_keepalive",
      "peer_public_key", "has_preshared_key", "peer_count"] := by
  rw [recorded, List.map_append, fields_keys h]
  rfl

theorem nodup_recorded : ((recorded fields publicKey shared peers).map Prod.fst).Nodup := by
  rw [recorded_keys h]
  decide

theorem detail?_compose (k : String) :
    (compose comment peers server port publicKey shared fields).detail? k =
      (recorded fields publicKey shared peers).lookup k :=
  Profile.detail?_recordAll_of_empty rfl (nodup_recorded h) k

theorem detail?_compose_ne_empty (hkey : publicKey ≠ []) (k : String) :
    (compose comment peers server port publicKey shared fields).detail? k ≠ some "" := by
  rw [detail?_compose h]
  intro hempty
  rcases List.mem_append.mp (Details.mem_of_lookup hempty) with hfield | hrest
  · obtain ⟨p, -, -, hne, -⟩ := exists_parameter h hfield
    contradiction
  · simp only [List.mem_cons, List.not_mem_nil, or_false, Prod.mk.injEq] at hrest
    rcases hrest with ⟨-, hvalue⟩ | ⟨-, hvalue⟩ | ⟨-, hvalue⟩
    · exact hkey (String.ofList_eq_empty_iff.mp hvalue.symm)
    · cases shared <;> contradiction
    · exact absurd hvalue.symm (by simp)

theorem detail?_of_mem {e : String × String} (he : e ∈ recorded fields publicKey shared peers) :
    (compose comment peers server port publicKey shared fields).detail? e.1 = some e.2 := by
  rw [detail?_compose h, Details.lookup_of_mem (nodup_recorded h) he]

end Fields

theorem one_le_count {t peer : Text} (h : Section.body? t peerHeader = some peer) :
    1 ≤ Section.count t peerHeader := by
  have hsome : (Text.lines t).any (Section.isHeader peerHeader) = true := by
    rw [← Section.isSome_body?, h]
    rfl
  obtain ⟨l, hl, hheader⟩ := List.any_eq_true.mp hsome
  exact List.countP_pos_iff.mpr ⟨l, hl, hheader⟩

end WireGuard
end VpnImport
