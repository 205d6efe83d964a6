import VpnImport.Text.Blank

namespace VpnImport
namespace Text

/-- The value of a run of ASCII digits, or `limit` when the value is larger, so
that a long run costs no more than its length. -/
def digitsValue (limit : Nat) (digits : Text) : Nat :=
  digits.foldl (fun n d => min limit (10 * n + (d.toNat - '0'.toNat))) 0

/-- Reads an unsigned decimal below 65536.  One plus sign and any number of
leading zeros are accepted; a digit outside ASCII is not. -/
def toWord16? (t : Text) : Option UInt16 :=
  let digits :=
    match t with
    | '+' :: rest => rest
    | _ => t
  if digits.isEmpty || !digits.all Char.isDigit then none
  else
    let n := digitsValue 0x10000 digits
    if n < 0x10000 then some n.toUInt16 else none

end Text
end VpnImport
