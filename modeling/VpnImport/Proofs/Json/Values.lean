import VpnImport.Json.Domain
import VpnImport.Proofs.Except
import VpnImport.Proofs.Json.Numeral
import VpnImport.Proofs.Json.String

/-!
# Values inside an object

A value that is written inside an object has a comma or the closing bracket behind
it.  A reader reads a written value if it gives the value back and leaves what is
behind it, whatever that is.
-/

namespace VpnImport
namespace Json

/-- What may stand behind a value inside an object. -/
def Ends (rest : Text) : Prop :=
  ∀ c ∈ rest.head?, c = ',' ∨ c = '}'

/-- The reader takes the value off the front of a text that starts with `t` and goes on
as an object does. -/
def Reads {α : Type} (read : Reader α) (t : Text) (a : α) : Prop :=
  ∀ rest, Ends rest → read (t ++ rest) = .ok (a, rest)

theorem Reads.map {α β : Type} {read : Reader α} {t : Text} {a : α} (h : Reads read t a)
    (f : α → β) : Reads (fun t => (read t).map fun r => (f r.1, r.2)) t (f a) := by
  intro rest hrest
  show (read (t ++ rest)).map _ = _
  rw [h rest hrest]
  rfl

end Json
end VpnImport
