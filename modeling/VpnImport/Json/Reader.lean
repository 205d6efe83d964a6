import VpnImport.Json.Escape

/-!
Readers, and the reading of strings.
-/

namespace VpnImport
namespace Json

/-- Why a text is not read. -/
inductive Fault where
  /-- The text breaks the grammar. -/
  | malformed
  /-- The text ends too early. -/
  | truncated
  /-- The grammar is kept, but a value is not what it should be. -/
  | mismatched
deriving DecidableEq, Repr

/-- A reader takes a value off the front of a text and leaves the rest.  Faults
are met in reading order, and the first one counts. -/
abbrev Reader (α : Type) := Text → Except Fault (α × Text)

def isSpace (c : Char) : Bool :=
  c == ' ' || c == '\n' || c == '\t' || c == '\r'

def skipSpace (t : Text) : Text :=
  t.dropWhile isSpace

/-- Takes a fixed word off the front of a text. -/
def expect : Text → Text → Except Fault Text
  | [], t => .ok t
  | _ :: _, [] => .error .truncated
  | w :: word, c :: t => if w == c then expect word t else .error .malformed

/- Strings are read by a machine that is in one of five states between two
characters. -/

/-- Where the reading of a string stands. -/
inductive StringState where
  | plain
  /-- Behind a backslash. -/
  | escaped
  /-- Among the four digits of an escape: how many are to come, the value of
  those read, and the leading surrogate that the escape is to complete. -/
  | digits (left value : Nat) (lead : Option Nat)
  /-- Behind a leading surrogate. -/
  | lead (value : Nat)
  /-- Behind a leading surrogate and a backslash. -/
  | leadEscaped (value : Nat)
deriving DecidableEq, Repr

def isLeadSurrogate (n : Nat) : Bool := 0xD800 ≤ n && n ≤ 0xDBFF

def isTrailSurrogate (n : Nat) : Bool := 0xDC00 ≤ n && n ≤ 0xDFFF

/-- The character of a surrogate pair. -/
def ofSurrogates (lead trail : Nat) : Char :=
  Char.ofNat (0x10000 + (lead - 0xD800) * 0x400 + (trail - 0xDC00))

/-- What the last digit of an escape leads to.  In a strict reading surrogates
have to come in pairs; otherwise they are let pass. -/
def closeEscape (strict : Bool) (done : Text) (value : Nat) :
    Option Nat → Except Fault (StringState × Text)
  | none =>
    if !strict then .ok (.plain, done)
    else if isTrailSurrogate value then .error .malformed
    else if isLeadSurrogate value then .ok (.lead value, done)
    else .ok (.plain, Char.ofNat value :: done)
  | some lead =>
    if isTrailSurrogate value then .ok (.plain, ofSurrogates lead value :: done)
    else .error .malformed

/-- Enters the digits of an escape, of which there must be room for four bytes. -/
def openEscape (done rest : Text) (lead : Option Nat) : Except Fault (StringState × Text) :=
  if Text.byteSize (rest.take 4) < 4 then .error .truncated
  else .ok (.digits 4 0 lead, done)

/-- One step of reading a string.  `done` holds the characters read so far, the
last one first. -/
def stringStep (strict : Bool) (state : StringState) (done : Text) (c : Char) (rest : Text) :
    Except Fault (StringState × Text) :=
  match state with
  | .plain =>
    if c == '\\' then .ok (.escaped, done)
    else if c.toNat < 0x20 then .error .malformed
    else .ok (.plain, c :: done)
  | .escaped =>
    if c == 'u' then openEscape done rest none
    else
      match unescape? c with
      | some d => .ok (.plain, d :: done)
      | none => .error .malformed
  | .digits left value lead =>
    match hexValue? c with
    | none => .error .malformed
    | some d =>
      if left ≤ 1 then closeEscape strict done (16 * value + d) lead
      else .ok (.digits (left - 1) (16 * value + d) lead, done)
  | .lead value => if c == '\\' then .ok (.leadEscaped value, done) else .error .malformed
  | .leadEscaped value =>
    if c == 'u' then openEscape done rest (some value) else .error .malformed

/-- Reads a string up to its closing quote, the opening quote being read. -/
def stringBody (strict : Bool) : StringState → Text → Reader Text
  | _, _, [] => .error .truncated
  | state, done, c :: t =>
    if state = .plain ∧ c = '"' then .ok (done.reverse, t)
    else
      match stringStep strict state done c t with
      | .error f => .error f
      | .ok (state, done) => stringBody strict state done t

/-- Reads a string behind its opening quote. -/
def quotedText : Reader String := fun t =>
  (stringBody true .plain [] t).map fun r => (String.ofList r.1, r.2)

end Json
end VpnImport
