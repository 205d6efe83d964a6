import VpnImport.Detection.Detector

namespace VpnImport
namespace IKEv2

/-- The number of keywords that a text needs. -/
def minKeywords : Nat := 4

/-- The number of keywords that suffices beside a section of general settings. -/
def minKeywordsWithSetup : Nat := 2

/-- A declared version 2 settles the matter, and so does version 1 declared
alone.  A text that declares neither needs enough keywords. -/
def judge (t : Text) (score : Nat) : Verdict :=
  let t := t.lower
  if hasVersion2 t then .matched
  else if hasVersion1 t then .incompatible
  else if minKeywords ≤ score || (hasConfigSetup t && minKeywordsWithSetup ≤ score) then .matched
  else .belowThreshold

def detector : Detector where
  name := "Ikev2Detector"
  protocol := .ikev2
  gate t := gate t.lower
  keywordSet := keywordSet
  gateScore := 0
  judge := judge

end IKEv2
end VpnImport
