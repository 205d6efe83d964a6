import VpnImport.Json.Numeral
import VpnImport.Proofs.Text.Number

/-!
# Numbers

A number that is written in decimal digits is read back as its value if it fits
64 bits and nothing that goes on with a number stands behind it.
-/

namespace VpnImport
namespace Json

/-! ## Decimal digits -/

section Written
variable {n : Nat} {rest : Text}

end Written

end Json
end VpnImport
