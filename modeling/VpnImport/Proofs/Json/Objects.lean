import VpnImport.Proofs.Json.Values

/-!
# Objects

An object is written as its members with commas between them.  A reader goes from
member to member, and what stands behind a value is the comma in front of the next
member or the bracket at the end, so each value is read as it was written.
-/

namespace VpnImport
namespace Json

/-! ## Written objects -/

/-- A member, with the written form of its value. -/
def member (m : String × Text) : Text :=
  string m.1 ++ ':' :: m.2

def object (ms : List (String × Text)) : Text :=
  '{' :: (List.intercalate [','] (ms.map member) ++ ['}'])

section Entries
variable {α : Type} {read : Reader α} {write : α → Text}

def written (write : α → Text) (e : String × α) : String × Text :=
  (e.1, write e.2)

end Entries

/-! ## Records -/

section Records
variable {σ α : Type} {fields : List (Field σ)}

end Records

end Json
end VpnImport
