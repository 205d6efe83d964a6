namespace VpnImport
namespace About

/- What the library says of itself. -/

def name : String := "vpnconf_detector"

def version : String := "0.1.0"

def description : String :=
  "VPN configuration import and protocol classification engine (OpenVPN, IKEv2, WireGuard)"

end About
end VpnImport
