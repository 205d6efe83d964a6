import VpnImport.Protocol

/-!
The errors of the library and their messages.
-/

namespace VpnImport

/-- Why the text of a known dialect gives no profile. -/
inductive ExtractError where
  | missingField (field part : String)
  | placeholderKey (field value : String)
  | invalidEndpoint (endpoint reason : String)
  | invalidValue (field value : String)
deriving DecidableEq, Repr

def ExtractError.message : ExtractError → String
  | missingField field part => "missing required " ++ field ++ " in " ++ part
  | placeholderKey field value =>
    field ++ " is a placeholder value (" ++ value ++ "); replace it with real key material"
  | invalidEndpoint endpoint reason => "invalid endpoint '" ++ endpoint ++ "': " ++ reason
  | invalidValue field value => "invalid value '" ++ value ++ "' for " ++ field

/-- Why an import fails, or why an importer cannot be built. -/
inductive ImportError where
  | emptyContent
  | contentTooLarge (size limit : Nat)
  | unidentified
  | unsupported (protocol : Protocol)
  | parsingFailed (protocol : Protocol) (reason : String)
  | missingProfileData (protocol : Protocol)
  | configuration (reason : String)
deriving DecidableEq, Repr

namespace ImportError

/-- The stable name of the kind of error. -/
def kind : ImportError → String
  | emptyContent => "EMPTY_CONTENT"
  | contentTooLarge _ _ => "CONTENT_TOO_LARGE"
  | unidentified => "PROTOCOL_IDENTIFICATION_FAILED"
  | unsupported _ => "UNSUPPORTED_PROTOCOL"
  | parsingFailed _ _ => "PARSING_FAILED"
  | missingProfileData _ => "MISSING_PROFILE_DATA"
  | configuration _ => "CONFIGURATION_ERROR"

/-- The stable number of the kind of error. -/
def code : ImportError → Nat
  | emptyContent => 2001
  | contentTooLarge _ _ => 2002
  | unidentified => 2003
  | unsupported _ => 2004
  | parsingFailed _ _ => 2005
  | missingProfileData _ => 2006
  | configuration _ => 2008

def message : ImportError → String
  | emptyContent => "Configuration content is empty"
  | contentTooLarge size limit =>
    "Configuration content too large: " ++ toString size ++ " bytes exceeds limit of "
      ++ toString limit ++ " bytes"
  | unidentified => "Unable to identify VPN protocol from configuration"
  | unsupported protocol => "Unsupported protocol: " ++ protocol.name
  | parsingFailed protocol reason =>
    "Failed to parse " ++ protocol.name ++ " configuration: " ++ reason
  | missingProfileData protocol =>
    protocol.name ++ " extraction produced no usable profile data"
  | configuration reason => "Configuration error: " ++ reason

/-- The kind the text had been found to have when the error arose. -/
def protocol? : ImportError → Option Protocol
  | unsupported p => some p
  | parsingFailed p _ => some p
  | missingProfileData p => some p
  | _ => none

/-- Whether the content of the text itself is at fault. -/
def isInputError : ImportError → Bool
  | emptyContent => true
  | contentTooLarge _ _ => true
  | unidentified => true
  | parsingFailed _ _ => true
  | _ => false

/-- Whether the set-up of the importer is at fault. -/
def isConfigError : ImportError → Bool
  | unsupported _ => true
  | configuration _ => true
  | _ => false

end ImportError
end VpnImport
