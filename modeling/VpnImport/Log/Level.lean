namespace VpnImport
namespace Log

/-- How weighty an event is, from the weightiest on. -/
inductive Level where
  | error
  | warn
  | info
  | debug
  | trace
deriving DecidableEq, Repr

namespace Level

def rank : Level → Nat
  | error => 0
  | warn => 1
  | info => 2
  | debug => 3
  | trace => 4

/-- Whether an event of this level passes a filter that is set to `limit`. -/
def passes (level limit : Level) : Bool :=
  level.rank ≤ limit.rank

def name : Level → String
  | error => "ERROR"
  | warn => "WARN"
  | info => "INFO"
  | debug => "DEBUG"
  | trace => "TRACE"

/-- The name, filled up with spaces to the width of the longest. -/
def column : Level → String
  | error => "ERROR"
  | warn => "WARN "
  | info => "INFO "
  | debug => "DEBUG"
  | trace => "TRACE"

end Level
end Log
end VpnImport
