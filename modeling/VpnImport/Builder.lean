import VpnImport.Importer

/-!
Setting an importer up step by step.
-/

namespace VpnImport

/-- An importer in the making: the dialects whose own extractors are switched
on, the limit on the size of a text, and the extractors an application adds. -/
structure Builder where
  enabled : Protocol → Bool
  maxContentSize : Option Nat
  custom : List Extractor

namespace Builder

/-- Nothing is switched on, and the limit is the default. -/
def start : Builder := ⟨fun _ => false, some defaultMaxContentSize, []⟩

/-- One step of setting an importer up. -/
inductive Step where
  | enable (p : Protocol)
  | enableAll
  | disable (p : Protocol)
  | maxSize (size : Nat)
  | unlimited
  | add (x : Extractor)

/-- Takes a step.  Only known dialects can be switched on. -/
def step (b : Builder) : Step → Builder
  | .enable p => { b with enabled := fun q => (q == p && p.isKnown) || b.enabled q }
  | .enableAll => { b with enabled := fun q => q.isKnown || b.enabled q }
  | .disable p => { b with enabled := fun q => q != p && b.enabled q }
  | .maxSize size => { b with maxContentSize := some size }
  | .unlimited => { b with maxContentSize := none }
  | .add x => { b with custom := b.custom ++ [x] }

/-- Takes steps from first to last. -/
def steps (b : Builder) (ss : List Step) : Builder :=
  ss.foldl step b

/-- Why no importer can be built. -/
inductive Fault where
  | nothingEnabled
  | zeroLimit
  | unknownTarget
deriving DecidableEq, Repr

def Fault.reason : Fault → String
  | nothingEnabled => "at least one protocol must be enabled"
  | zeroLimit => "max content size must be greater than 0"
  | unknownTarget => "custom extractors must target a known protocol"

def Fault.error (f : Fault) : ImportError :=
  .configuration f.reason

/-- The kinds whose own extractors are switched on. -/
def enabledProtocols (b : Builder) : List Protocol :=
  Protocol.all.filter b.enabled

/-- The first fault of the set-up. -/
def fault? (b : Builder) : Option Fault :=
  if b.enabledProtocols.isEmpty && b.custom.isEmpty then some .nothingEnabled
  else if b.maxContentSize == some 0 then some .zeroLimit
  else if b.custom.any fun x => !x.protocol.isKnown then some .unknownTarget
  else none

/-- The extractors: those of the dialects that are switched on, and over them
the added ones from first to last. -/
def registry (b : Builder) : Registry :=
  b.custom.foldl Registry.register
    ((b.enabledProtocols.filterMap Extractor.builtin?).foldl Registry.register .empty)

def build (b : Builder) : Except ImportError Importer :=
  match b.fault? with
  | some f => .error f.error
  | none => .ok ⟨b.maxContentSize, b.registry⟩

end Builder
end VpnImport
