import VpnImport.Detection.Detector

namespace VpnImport
namespace OpenVPN

/-- The number of keywords that an OpenVPN text needs. -/
def minKeywords : Nat := 3

/-- A text with an inline block needs no more; any other needs enough keywords. -/
def judge (t : Text) (score : Nat) : Verdict :=
  if minKeywords ≤ score || hasInlineBlock t.lower then .matched else .belowThreshold

def detector : Detector where
  name := "OpenVpnDetector"
  protocol := .openVPN
  gate t := gate t.lower
  keywordSet := keywordSet
  gateScore := 0
  judge := judge

end OpenVPN
end VpnImport
