import VpnImport.Extractor

/-!
Imports.  A text has to hold something, to be within the limit, to be of one
kind, to have an extractor and to give a usable profile; the first condition that
fails gives the error.  The events of a run are collected beside its result and
the last of them tells how it ended.
-/

namespace VpnImport

/-- The number of bytes up to which a text is looked at by default. -/
def defaultMaxContentSize : Nat := 1024 * 1024

/-- An importer: the extractors in use, and the number of bytes a text may have.
Without a limit any number will do. -/
structure Importer where
  maxContentSize : Option Nat
  extractors : Registry

namespace Importer

def default : Importer := ⟨some defaultMaxContentSize, .withDefaults⟩

/-- The result of an import, with the events on the way to it. -/
structure Run where
  result : Except ImportError Profile
  events : List Log.Event

/-- A run that ends here. -/
def Run.stop (events : List Log.Event) (last : Log.Event) (result : Except ImportError Profile) :
    Run :=
  ⟨result, events ++ [last]⟩

/-- Whether a size is above the limit, and the limit that it is above. -/
def exceeded? (m : Importer) (size : Nat) : Option Nat :=
  m.maxContentSize.filter fun limit => limit < size

/-- Takes over what an extractor has made of a text of the given kind. -/
def deliver (kind : Protocol) (x : Extractor) (t : Text) (events : List Log.Event) : Run :=
  match x.extract t with
  | .error e =>
    .stop events (.rejected x.name e) (.error (.parsingFailed kind e.message))
  | .ok p =>
    let events := events ++ x.announce p
    if p.hasPayload then
      let p := { p with kind := kind }
      .stop events (.imported p) (.ok p)
    else .stop events (.unusable x.name) (.error (.missingProfileData kind))

/-- Goes on with a text that has been classified. -/
def dispatch (m : Importer) (t : Text) (report : Report) (events : List Log.Event) : Run :=
  match report.status with
  | .noMatch => .stop events .unidentified (.error .unidentified)
  | .ambiguous => .stop events (.ambiguous report.matchedProtocols) (.error .unidentified)
  | .identified =>
    match m.extractors.get? report.kind with
    | none =>
      .stop events (.noExtractor report.kind) (.error (.unsupported report.kind))
    | some x => deliver report.kind x t events

/-- Imports a text: it is weighed, classified, handed to the extractor of its
kind, and the profile is checked. -/
def run (m : Importer) (t : Text) : Run :=
  if Text.allBlank t then .stop [] .emptyContent (.error .emptyContent)
  else
    match m.exceeded? (Text.byteSize t) with
    | some limit =>
      .stop [] (.contentTooLarge (Text.byteSize t) limit)
        (.error (.contentTooLarge (Text.byteSize t) limit))
    | none => m.dispatch t (Classification.report t) (Log.Event.ofClassification t)

/-- The profile of a text, or why there is none. -/
def importText (m : Importer) (t : Text) : Except ImportError Profile :=
  (m.run t).result

/-- The events of importing a text. -/
def events (m : Importer) (t : Text) : List Log.Event :=
  (m.run t).events

/-- The kinds whose texts the importer turns into profiles. -/
def supportedProtocols (m : Importer) : List Protocol :=
  m.extractors.protocols

def describeLimit : Option Nat → String
  | none => "None"
  | some n => "Some(" ++ toString n ++ ")"

def describe (m : Importer) : String :=
  "ImportManager \x7b classifier: Classifier, extractors: " ++ m.extractors.describe
    ++ ", config: ImportConfig \x7b max_content_size: " ++ describeLimit m.maxContentSize
    ++ " \x7d \x7d"

end Importer

/-- Imports a text with the default importer. -/
def importText (t : Text) : Except ImportError Profile :=
  Importer.default.importText t

end VpnImport
