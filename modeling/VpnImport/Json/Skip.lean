import VpnImport.Json.Numeral

namespace VpnImport
namespace Json

/- Passing over a value of any kind.  The brackets that are open are kept in a
list, so values may be nested to any depth. -/

/-- An open bracket. -/
inductive Bracket where
  | array
  | object
deriving DecidableEq, Repr

def Bracket.closing : Bracket → Char
  | array => ']'
  | object => '}'

/-- Passes over a value that is neither an array nor an object, the text being
at its first character. -/
def skipScalar (t : Text) : Except Fault Text :=
  match t with
  | [] => .error .truncated
  | 'n' :: t => expect "ull".toList t
  | 't' :: t => expect "rue".toList t
  | 'f' :: t => expect "alse".toList t
  | '-' :: t => skipNumeral t
  | '"' :: t => (stringBody false .plain [] t).map (·.2)
  | c :: _ => if c.isDigit then skipNumeral t else .error .malformed

/-- Passes over the key of a member and the colon behind it. -/
def skipKey (t : Text) : Except Fault Text :=
  match skipSpace t with
  | [] => .error .truncated
  | '"' :: t => do
    let (_, t) ← stringBody false .plain [] t
    match skipSpace t with
    | [] => .error .truncated
    | ':' :: t => .ok t
    | _ => .error .malformed
  | _ => .error .malformed

/-- Passes over what must stand before the next value inside a bracket. -/
def skipToElement (b : Bracket) (t : Text) : Except Fault Text :=
  match b with
  | .array => .ok t
  | .object => skipKey t

/-- Closes the brackets that are closed here, a value having just ended.  Either
no bracket is left, or a comma has been read and a value is to follow. -/
def closeBrackets : List Bracket → Text → Except Fault (List Bracket × Text)
  | [], t => .ok ([], t)
  | b :: bs, t =>
    match skipSpace t with
    | [] => .error .truncated
    | c :: t =>
      if c == ',' then .ok (b :: bs, t)
      else if c == b.closing then closeBrackets bs t
      else .error .malformed

/-- Passes over values until no bracket is open.  Each round reads at least one
character, so as many rounds as there are characters suffice. -/
def skipRounds : Nat → List Bracket → Text → Except Fault Text
  | 0, _, _ => .error .truncated
  | rounds + 1, bs, t =>
    match skipSpace t with
    | [] => .error .truncated
    | c :: t =>
      if c == '[' || c == '{' then do
        let b := if c == '[' then Bracket.array else .object
        -- An empty array or object is a value that has ended.
        if (skipSpace t).head? == some b.closing then
          let (bs, t) ← closeBrackets bs (skipSpace t).tail
          if bs.isEmpty then .ok t
          else skipRounds rounds bs (← skipToElement (bs.headD .array) t)
        else if (skipSpace t).isEmpty then .error .truncated
        else skipRounds rounds (b :: bs) (← skipToElement b t)
      else do
        let t ← skipScalar (c :: t)
        let (bs, t) ← closeBrackets bs t
        if bs.isEmpty then .ok t
        else skipRounds rounds bs (← skipToElement (bs.headD .array) t)

/-- Passes over one value. -/
def skipValue (t : Text) : Except Fault Text :=
  skipRounds (t.length + 1) [] t

end Json
end VpnImport
