import VpnImport.Detection.Detector
import VpnImport.Assignment

namespace VpnImport
namespace WireGuard

/-- The number of section headers and keywords that a text needs. -/
def minScore : Nat := 4

/-- The private key of the first interface section, empty when there is none. -/
def privateKey (t : Text) : Text :=
  match Section.body? t interfaceHeader with
  | none => []
  | some body => Assignment.lineValue body "PrivateKey".toList

/-- A text needs a private key that looks like one, an endpoint, and enough
headers and keywords. -/
def judge (t : Text) (score : Nat) : Verdict :=
  if isKeyShaped (privateKey t) && keywordSet.contains t "Endpoint" && minScore ≤ score then
    .matched
  else .belowThreshold

/-- The gate itself scores the two section headers. -/
def detector : Detector where
  name := "WireGuardDetector"
  protocol := .wireGuard
  gate := hasSections
  keywordSet := keywordSet
  gateScore := 2
  judge := judge

end WireGuard
end VpnImport
