import VpnImport.OpenVPN.Markers
import VpnImport.IKEv2.Markers
import VpnImport.WireGuard.Markers

/-!
Strong markers.  A text with the strong markers of one dialect is never taken
for another, whatever it scores there.
-/

namespace VpnImport
namespace Detection

/-- Whether the text has the strong markers of a dialect, from the point of view
of a text that may be in the dialect `own`.  For a WireGuard text the mere
fragments of OpenVPN are markers too. -/
def marked (t : Text) (own : Protocol) : Protocol → Bool
  | .wireGuard => WireGuard.hasSections t
  | .ikev2 => IKEv2.hasMarkers t.lower
  | .openVPN =>
    OpenVPN.hasMarkers t.lower || (own == .wireGuard && OpenVPN.hasFragments t.lower)
  | .unknown => false

/-- The first dialect other than `own` whose strong markers the text has. -/
def foreign? (t : Text) (own : Protocol) : Option Protocol :=
  Protocol.known.find? fun p => p != own && marked t own p

end Detection
end VpnImport
