import VpnImport.Profile.Steps
import VpnImport.Proofs.Profile

/-!
# What the steps of a profile come to

A step writes to one slot of a profile and leaves the others alone, so what
stands in a slot is what the last step that writes to it has put there.  A profile
is known once its slots are, and with them the fields that no step writes to.
-/

namespace VpnImport
namespace Profile

end Profile
end VpnImport
