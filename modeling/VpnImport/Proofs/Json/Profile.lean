import VpnImport.Proofs.Details
import VpnImport.Proofs.Json.Objects

/-!
# Profiles

A profile is written as an object of its fields.  Read member by member they fill
the draft of the profile, and the complete draft is the profile itself.
-/

namespace VpnImport
namespace Json

/-- The members of a profile in their order. -/
def members (p : Profile) : List (String × Text) :=
  [("name", string p.name),
   ("server", string p.server),
   ("protocol", string p.protocol),
   ("kind", string p.kind.name),
   ("port", (toString p.port.toNat).toList),
   ("username", string p.username),
   ("password", string p.password),
   ("auth_method", string p.authMethod.label),
   ("encryption", string p.encryption),
   ("compression", (if p.compression then "true" else "false").toList),
   ("protocol_specific", object (p.details.entries.map (written string)))]

theorem object_entries (es : List (String × String)) :
    object (es.map (written string)) = '{' :: (entries es ++ ['}']) := by
  rw [object, entries, List.map_map]
  rfl

theorem profile_eq (p : Profile) : profile p = object (members p) := by
  rw [profile, object, members, object_entries]
  simp only [String.reduceToList, List.cons_append, List.nil_append, List.append_assoc,
    List.map_cons, List.map_nil, List.intercalate_cons_cons, List.intercalate_singleton, member]
  rfl

end Json
end VpnImport
