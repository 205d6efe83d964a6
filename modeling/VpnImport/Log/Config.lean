import VpnImport.Log.Event
import VpnImport.Log.Plain

/-!
Which events are written, where, and in what form.
-/

namespace VpnImport
namespace Log

inductive Target where
  | stdout
  | stderr
deriving DecidableEq, Repr

/-- An event with the stamp of the time at which it is written. -/
structure Stamped where
  stamp : String
  event : Event

/-- How a log is written, and whether it is written at all. -/
structure Config where
  enabled : Bool
  level : Level
  showTimestamp : Bool
  showModule : Bool
  target : Target
deriving DecidableEq, Repr

namespace Config

def default : Config := ⟨true, .info, true, true, .stderr⟩

/-- No log at all. -/
def disabled : Config := { default with enabled := false }

/-- The log of a developer: everything. -/
def development : Config := { default with level := .trace }

/-- The log of a service. -/
def production : Config := { default with showModule := false, target := .stdout }

/-- The line of an event.  The line bears the time stamp if time stamps are
shown. -/
def line (c : Config) (r : Stamped) : String :=
  (if c.showTimestamp then r.stamp ++ " " else "")
    ++ r.event.level.column ++ " "
    ++ (if c.showModule then r.event.source.path ++ " " else "")
    ++ "| " ++ r.event.message

/-- What is written of an event to a target that shows no colours, such as a file
or a pipe: its line in plain text.  A string that the line leaves open takes in the
line feed behind it.  (A terminal that shows colours is given the line as it is.) -/
def entry (c : Config) (r : Stamped) : Text :=
  plain ((c.line r).toList ++ ['\n'])

/-- The events that pass the filter. -/
def recorded (c : Config) (log : List Stamped) : List Stamped :=
  log.filter fun r => r.event.level.passes c.level

/-- The lines that events leave at a target. -/
def output (c : Config) (target : Target) (log : List Stamped) : List String :=
  if c.enabled && c.target == target then
    (Text.lines ((c.recorded log).flatMap c.entry)).map String.ofList
  else []

/-- The lines of events that are written at the same time. -/
def written (c : Config) (stamp : String) (target : Target) (events : List Event) :
    List String :=
  c.output target (events.map (Stamped.mk stamp))

end Config

/-- Why a log cannot be installed. -/
inductive InstallError where
  | alreadyInstalled
deriving DecidableEq, Repr

def InstallError.message : InstallError → String
  | alreadyInstalled =>
    "attempted to set a logger after the logging system was already initialized"

/-- Installs a log beside the one that may be installed.  There can be only one,
be it disabled. -/
def install (installed : Option Config) (c : Config) : Except InstallError Config :=
  match installed with
  | some _ => .error .alreadyInstalled
  | none => .ok c

end Log
end VpnImport
