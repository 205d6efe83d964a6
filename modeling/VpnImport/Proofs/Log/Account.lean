import VpnImport.Proofs.Detection.Outcome
import VpnImport.Proofs.Importer.Run
import VpnImport.Proofs.OpenVPN.Extraction
import VpnImport.Proofs.IKEv2.Extraction
import VpnImport.Proofs.WireGuard.Extraction

/-!
# What the log of an import tells

The log of an import can be written down from what the parts of the library say of
the text: the outcomes of the detectors, the status of the report, the profile that
a built-in extractor has drawn up, and the result, which the last event tells.
Nothing else is logged, and nothing of this is left out.
-/

namespace VpnImport

namespace Extractor

end Extractor

namespace Log

/-- The level and the message under which the result of an import is logged. -/
inductive Closes (m : Importer) : Except ImportError Profile → Level → String → Prop where
  | emptyContent : Closes m (.error .emptyContent) .debug "import rejected: empty content"
  | contentTooLarge (size limit : Nat) :
      Closes m (.error (.contentTooLarge size limit)) .warn
        ("import rejected: " ++ toString size ++ " bytes exceeds limit of " ++ toString limit
          ++ " bytes")
  | unidentified :
      Closes m (.error .unidentified) .info
        "protocol identification failed: no dialect matched"
  | unsupported (kind : Protocol) :
      Closes m (.error (.unsupported kind)) .warn ("no extractor registered for " ++ kind.name)
  | parsingFailed (kind : Protocol) (reason : String) (x : Extractor)
      (hget : m.extractors.get? kind = some x) :
      Closes m (.error (.parsingFailed kind reason)) .info
        (x.name ++ " rejected the configuration: " ++ reason)
  | missingProfileData (kind : Protocol) (x : Extractor)
      (hget : m.extractors.get? kind = some x) :
      Closes m (.error (.missingProfileData kind)) .warn (x.name ++ " returned an empty profile")
  | imported (p : Profile) :
      Closes m (.ok p) .info
        ("imported " ++ p.kind.name ++ " profile '" ++ p.name ++ "' (" ++ p.server ++ ":"
          ++ toString p.port.toNat ++ ")")

section Import
variable {m : Importer} {t : Text}

theorem Closes.level {result : Except ImportError Profile} {level : Level} {message : String}
    (h : Closes m result level message) : level = .warn ∨ level = .info ∨ level = .debug := by
  cases h <;> simp

end Import

end Log
end VpnImport
