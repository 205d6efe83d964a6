import VpnImport.Fault
import VpnImport.Text.Number

/-!
Ports and endpoints.  An endpoint is a host, in brackets or not, with a port
behind a colon or without one.
-/

namespace VpnImport

/-- A port is a decimal from 1 to 65535, white space around it apart. -/
def parsePort? (t : Text) : Option UInt16 :=
  (Text.toWord16? (Text.trim t)).filter (· != 0)

namespace Endpoint

/-- Why a text is no endpoint. -/
inductive Fault where
  | empty
  | unclosedBracket
  | trailingText
  | emptyHost
  | invalidPort (port : Text)
deriving DecidableEq, Repr

def Fault.reason : Fault → String
  | empty => "endpoint is empty"
  | unclosedBracket => "missing closing bracket"
  | trailingText => "unexpected characters after bracketed host"
  | emptyHost => "host is empty"
  | invalidPort port => "invalid port '" ++ String.ofList port ++ "'"

/-- Cuts a text at the last colon. -/
def cutAtLastColon (t : Text) : Option (Text × Text) :=
  match t.reverse.dropWhile (· != ':') with
  | [] => none
  | _ :: host => some (host.reverse, (t.reverse.takeWhile (· != ':')).reverse)

/-- The host and the port, each as it is written.  A host in brackets ends at
the first closing bracket; any other host ends at the last colon. -/
def cut (t : Text) : Except Fault (Text × Option Text) :=
  match t with
  | '[' :: rest =>
    match rest.dropWhile (· != ']') with
    | [] => .error .unclosedBracket
    | _ :: after =>
      let host := rest.takeWhile (· != ']')
      match after with
      | [] => .ok (host, none)
      | ':' :: port => .ok (host, some port)
      | _ => .error .trailingText
  | _ =>
    match cutAtLastColon t with
    | some (host, port) => .ok (host, some port)
    | none => .ok (t, none)

/-- The port that is written, or the default when nothing is written. -/
def portOr (default : UInt16) : Option Text → Except Fault UInt16
  | none => .ok default
  | some written =>
    let port := Text.trim written
    if port.isEmpty then .ok default
    else
      match parsePort? port with
      | some n => .ok n
      | none => .error (.invalidPort port)

/-- The host and the port of an endpoint. -/
def split (endpoint : Text) (default : UInt16) : Except Fault (Text × UInt16) := do
  let endpoint := Text.trim endpoint
  if endpoint.isEmpty then throw .empty
  let (host, port) ← cut endpoint
  let host := Text.trim host
  if host.isEmpty then throw .emptyHost
  return (host, ← portOr default port)

/-- The host and the port of an endpoint in a configuration. -/
def extract (endpoint : Text) (default : UInt16) : Except ExtractError (Text × UInt16) :=
  match split endpoint default with
  | .ok e => .ok e
  | .error f => .error (.invalidEndpoint (String.ofList (Text.trim endpoint)) f.reason)

end Endpoint
end VpnImport
