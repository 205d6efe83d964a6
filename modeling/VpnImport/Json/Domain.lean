import VpnImport.Json.Typed
import VpnImport.Classification
import VpnImport.Fault
import VpnImport.Profile.Basic

/-!
The written form of a profile, and the readers of profiles, outcomes, verdicts
and reports.
-/

namespace VpnImport
namespace Json

/-- A kind, by its name. -/
def readProtocol : Reader Protocol :=
  readEnum (Protocol.all.map fun p => (p.name, .alone p))

/-- A way of authentication, by its label. -/
def readAuthMethod : Reader AuthMethod :=
  readEnum (AuthMethod.all.map fun a => (a.label, .alone a))

def readPort : Reader UInt16 := fun t =>
  (readNat 0xFFFF t).map fun r => (r.1.toUInt16, r.2)

def readDetails : Reader Details := fun t =>
  (readMap readString t).map fun r => (.ofList r.1, r.2)

/- Profiles. -/

/-- The entries of an object of strings, in their order. -/
def entries (es : List (String × String)) : Text :=
  List.intercalate [','] (es.map fun e => string e.1 ++ ':' :: string e.2)

/-- The written form of a profile: an object of all its fields in their order,
without spaces. -/
def profile (p : Profile) : Text :=
  List.intercalate [',']
    ["\x7b\"name\":".toList ++ string p.name,
     "\"server\":".toList ++ string p.server,
     "\"protocol\":".toList ++ string p.protocol,
     "\"kind\":".toList ++ string p.kind.name,
     "\"port\":".toList ++ (toString p.port.toNat).toList,
     "\"username\":".toList ++ string p.username,
     "\"password\":".toList ++ string p.password,
     "\"auth_method\":".toList ++ string p.authMethod.label,
     "\"encryption\":".toList ++ string p.encryption,
     "\"compression\":".toList ++ (if p.compression then "true" else "false").toList,
     "\"protocol_specific\":\x7b".toList ++ entries p.details.entries ++ "\x7d\x7d".toList]

/-- A profile of which only some fields have been read. -/
structure ProfileDraft where
  name : Option String
  server : Option String
  protocol : Option String
  kind : Option Protocol
  port : Option UInt16
  username : Option String
  password : Option String
  authMethod : Option AuthMethod
  encryption : Option String
  compression : Option Bool
  details : Option Details

namespace ProfileDraft

def empty : ProfileDraft :=
  ⟨none, none, none, none, none, none, none, none, none, none, none⟩

def fields : List (Field ProfileDraft) :=
  [.of "name" name (fun d v => { d with name := some v }) readString,
   .of "server" server (fun d v => { d with server := some v }) readString,
   .of "protocol" protocol (fun d v => { d with protocol := some v }) readString,
   .of "kind" kind (fun d v => { d with kind := some v }) readProtocol,
   .of "port" port (fun d v => { d with port := some v }) readPort,
   .of "username" username (fun d v => { d with username := some v }) readString,
   .of "password" password (fun d v => { d with password := some v }) readString,
   .of "auth_method" authMethod (fun d v => { d with authMethod := some v }) readAuthMethod,
   .of "encryption" encryption (fun d v => { d with encryption := some v }) readString,
   .of "compression" compression (fun d v => { d with compression := some v }) readBool,
   .of "protocol_specific" details (fun d v => { d with details := some v }) readDetails]

/-- The profile, once every field has been read. -/
def finish (d : ProfileDraft) : Option Profile := do
  return {
    name := ← d.name
    server := ← d.server
    protocol := ← d.protocol
    kind := ← d.kind
    port := ← d.port
    username := ← d.username
    password := ← d.password
    authMethod := ← d.authMethod
    encryption := ← d.encryption
    compression := ← d.compression
    details := ← d.details }

end ProfileDraft

def readProfile : Reader Profile :=
  readRecord ProfileDraft.fields .empty ProfileDraft.finish

/- Outcomes and reports. -/

def readVerdict : Reader Verdict :=
  readEnum
    [("Matched", .alone .matched), ("GateMissing", .alone .gateMissing),
     ("Excluded", .carrying fun t => (readProtocol t).map fun r => (.excluded r.1, r.2)),
     ("BelowThreshold", .alone .belowThreshold), ("Incompatible", .alone .incompatible)]

structure OutcomeDraft where
  kind : Option Protocol
  matched : Option Bool
  score : Option Nat
  verdict : Option Verdict

namespace OutcomeDraft

def empty : OutcomeDraft := ⟨none, none, none, none⟩

def fields : List (Field OutcomeDraft) :=
  [.of "kind" kind (fun d v => { d with kind := some v }) readProtocol,
   .of "matched" matched (fun d v => { d with matched := some v }) readBool,
   .of "score" score (fun d v => { d with score := some v }) (readNat maxWord64),
   .of "verdict" verdict (fun d v => { d with verdict := some v }) readVerdict]

def finish (d : OutcomeDraft) : Option Outcome := do
  return { kind := ← d.kind, matched := ← d.matched, score := ← d.score, verdict := ← d.verdict }

end OutcomeDraft

def readOutcome : Reader Outcome :=
  readRecord OutcomeDraft.fields .empty OutcomeDraft.finish

def readStatus : Reader Status :=
  readEnum [("Identified", .alone .identified), ("NoMatch", .alone .noMatch),
    ("Ambiguous", .alone .ambiguous)]

structure ReportDraft where
  kind : Option Protocol
  status : Option Status
  outcomes : Option (List Outcome)

namespace ReportDraft

def empty : ReportDraft := ⟨none, none, none⟩

def fields : List (Field ReportDraft) :=
  [.of "kind" kind (fun d v => { d with kind := some v }) readProtocol,
   .of "status" status (fun d v => { d with status := some v }) readStatus,
   .of "outcomes" outcomes (fun d v => { d with outcomes := some v }) (readList readOutcome)]

def finish (d : ReportDraft) : Option Report := do
  return { kind := ← d.kind, status := ← d.status, outcomes := ← d.outcomes }

end ReportDraft

def readReport : Reader Report :=
  readRecord ReportDraft.fields .empty ReportDraft.finish

end Json

/-- The text of a profile for export. -/
def Profile.toJson (p : Profile) : String :=
  String.ofList (Json.profile p)

/-- The error of a text that is not read, without the details of the place. -/
def Json.Fault.error (_ : Json.Fault) : ImportError :=
  .configuration "JSON error: "

/-- Reads a profile that has been exported. -/
def Profile.ofJson (t : Text) : Except Json.Fault Profile :=
  Json.read Json.readProfile t

end VpnImport
