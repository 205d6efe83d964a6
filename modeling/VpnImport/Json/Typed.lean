import VpnImport.Json.Skip

namespace VpnImport
namespace Json

/- Readers for values of a known type. -/

/-- The fault of a value of another kind, the text being at its first character.
The value is read as far as it takes to know that it is one. -/
def misfit (t : Text) : Fault :=
  let read : Except Fault Unit :=
    match t with
    | [] => .error .truncated
    | 'n' :: t => (expect "ull".toList t).map fun _ => ()
    | 't' :: t => (expect "rue".toList t).map fun _ => ()
    | 'f' :: t => (expect "alse".toList t).map fun _ => ()
    | '-' :: t => (numeral t).map fun _ => ()
    | '"' :: t => (quotedText t).map fun _ => ()
    | '[' :: _ => .ok ()
    | '{' :: _ => .ok ()
    | c :: _ => if c.isDigit then (numeral t).map fun _ => () else .error .malformed
  match read with
  | .error f => f
  | .ok _ => .mismatched

/-- A string. -/
def readString : Reader String := fun t =>
  match skipSpace t with
  | '"' :: t => quotedText t
  | t => .error (misfit t)

/-- A truth value. -/
def readBool : Reader Bool := fun t =>
  match skipSpace t with
  | 't' :: t => (expect "rue".toList t).map fun t => (true, t)
  | 'f' :: t => (expect "alse".toList t).map fun t => (false, t)
  | t => .error (misfit t)

/-- The null value. -/
def readNull : Reader Unit := fun t =>
  match skipSpace t with
  | 'n' :: t => (expect "ull".toList t).map fun t => ((), t)
  | t => .error (misfit t)

/-- A whole number from zero to `limit`. -/
def readNat (limit : Nat) : Reader Nat := fun t => do
  let t := skipSpace t
  let (value, rest) ←
    match t with
    | [] => .error .truncated
    | '-' :: t => (numeral t).map fun r => (none, r.2)
    | c :: _ => if c.isDigit then numeral t else .error (misfit t)
  match value with
  | none => .error .mismatched
  | some n => if n ≤ limit then .ok (n, rest) else .error .mismatched

/-- The colon behind a key. -/
def readColon (t : Text) : Except Fault Text :=
  match skipSpace t with
  | [] => .error .truncated
  | ':' :: t => .ok t
  | _ => .error .malformed

/-- Goes to the next element of an array, if there is one.  The text is left at
the element or at the closing bracket. -/
def nextElement (first : Bool) (t : Text) : Except Fault (Bool × Text) :=
  match skipSpace t with
  | [] => .error .truncated
  | c :: t =>
    if c == ']' then .ok (false, c :: t)
    else if first then .ok (true, c :: t)
    else if c == ',' then
      match skipSpace t with
      | [] => .error .truncated
      | d :: t => if d == ']' then .error .malformed else .ok (true, d :: t)
    else .error .malformed

/-- Goes to the next member of an object, if there is one.  The text is left
behind the opening quote of its key, or at the closing bracket. -/
def nextMember (first : Bool) (t : Text) : Except Fault (Bool × Text) :=
  match skipSpace t with
  | [] => .error .truncated
  | c :: t =>
    if c == '}' then .ok (false, c :: t)
    else if first then
      if c == '"' then .ok (true, t) else .error .malformed
    else if c == ',' then
      match skipSpace t with
      | [] => .error .truncated
      | d :: t => if d == '"' then .ok (true, t) else .error .malformed
    else .error .malformed

/-- The closing bracket of an array of which nothing more is wanted. -/
def endArray (t : Text) : Except Fault Text :=
  match skipSpace t with
  | [] => .error .truncated
  | ']' :: t => .ok t
  | _ => .error .malformed

/-- The closing bracket of an object of which nothing more is wanted. -/
def endObject (t : Text) : Except Fault Text :=
  match skipSpace t with
  | [] => .error .truncated
  | '}' :: t => .ok t
  | _ => .error .malformed

/- An element or a member takes at least one character, so as many rounds as
there are characters suffice to read them all. -/

/-- The elements of an array behind its opening bracket. -/
def readElements {α : Type} (read : Reader α) : Nat → Bool → List α → Reader (List α)
  | 0, _, _, _ => .error .truncated
  | rounds + 1, first, done, t => do
    let (more, t) ← nextElement first t
    if more then
      let (a, t) ← read t
      readElements read rounds false (a :: done) t
    else return (done.reverse, t)

/-- An array of values of one type. -/
def readList {α : Type} (read : Reader α) : Reader (List α) := fun t =>
  match skipSpace t with
  | '[' :: t => do
    let (as, t) ← readElements read (t.length + 1) true [] t
    return (as, ← endArray t)
  | t => .error (misfit t)

/-- The members of an object behind its opening bracket. -/
def readEntries {α : Type} (read : Reader α) :
    Nat → Bool → List (String × α) → Reader (List (String × α))
  | 0, _, _, _ => .error .truncated
  | rounds + 1, first, done, t => do
    let (more, t) ← nextMember first t
    if more then
      let (key, t) ← quotedText t
      let t ← readColon t
      let (a, t) ← read t
      readEntries read rounds false ((key, a) :: done) t
    else return (done.reverse, t)

/-- An object with values of one type under any keys. -/
def readMap {α : Type} (read : Reader α) : Reader (List (String × α)) := fun t =>
  match skipSpace t with
  | '{' :: t => do
    let (es, t) ← readEntries read (t.length + 1) true [] t
    return (es, ← endObject t)
  | t => .error (misfit t)

/-- A field of a record that is being read.  The draft `σ` holds what has been
read of the record. -/
structure Field (σ : Type) where
  name : String
  isSet : σ → Bool
  read : σ → Reader σ

/-- A field with a value of the given type. -/
def Field.of {σ α : Type} (name : String) (get : σ → Option α) (set : σ → α → σ)
    (read : Reader α) : Field σ where
  name := name
  isSet := fun d => (get d).isSome
  read := fun d t => (read t).map fun r => (set d r.1, r.2)

/-- The fields in their order, from an array. -/
def readFields {σ : Type} : List (Field σ) → Bool → σ → Reader σ
  | [], _, d, t => .ok (d, t)
  | f :: fs, first, d, t => do
    let (more, t) ← nextElement first t
    if more then
      let (d, t) ← f.read d t
      readFields fs false d t
    else .error .mismatched

/-- The fields in any order, from an object.  Other members are passed over; a
field that comes twice does not fit. -/
def readMembers {σ : Type} (fields : List (Field σ)) : Nat → Bool → σ → Reader σ
  | 0, _, _, _ => .error .truncated
  | rounds + 1, first, d, t => do
    let (more, t) ← nextMember first t
    if more then
      let (key, t) ← quotedText t
      match fields.find? fun f => f.name == key with
      | none =>
        let t ← readColon t
        readMembers fields rounds false d (← skipValue t)
      | some f =>
        if f.isSet d then .error .mismatched
        else
          let (d, t) ← f.read d (← readColon t)
          readMembers fields rounds false d t
    else return (d, t)

/-- A record, as an object of its fields or as an array of exactly its fields. -/
def readRecord {σ α : Type} (fields : List (Field σ)) (start : σ) (finish : σ → Option α) :
    Reader α := fun t =>
  match skipSpace t with
  | '[' :: t => do
    let (d, t) ← readFields fields true start t
    match finish d with
    | none => .error .mismatched
    | some a => return (a, ← endArray t)
  | '{' :: t => do
    let (d, t) ← readMembers fields (t.length + 1) true start t
    match finish d with
    | none => .error .mismatched
    | some a => return (a, ← endObject t)
  | t => .error (misfit t)

/-- A case of an enumeration: on its own, or with a payload. -/
inductive Case (α : Type) where
  | alone (value : α)
  | carrying (read : Reader α)

/-- The case of an enumeration that a name stands for. -/
def findCase {α : Type} (cases : List (String × Case α)) (name : String) :
    Except Fault (Case α) :=
  match cases.lookup name with
  | none => .error .mismatched
  | some c => .ok c

/-- A value of an enumeration behind the opening bracket of an object: the name
of the case as the only key, and the payload, null standing for none. -/
def readCase {α : Type} (cases : List (String × Case α)) : Reader α := fun t =>
  match skipSpace t with
  | [] => .error .truncated
  | '"' :: t => do
    let (name, t) ← quotedText t
    let found ← findCase cases name
    let t ← readColon t
    let (a, t) ←
      match found with
      | .alone a => (readNull t).map fun r => (a, r.2)
      | .carrying read => read t
    return (a, ← endObject t)
  | _ => .error .malformed

/-- A value of an enumeration: the name of the case, or an object that maps the
name to the payload. -/
def readEnum {α : Type} (cases : List (String × Case α)) : Reader α := fun t =>
  match skipSpace t with
  | [] => .error .truncated
  | '"' :: t => do
    let (name, t) ← quotedText t
    match ← findCase cases name with
    | .alone a => return (a, t)
    | .carrying _ => .error .mismatched
  | '{' :: t => readCase cases t
  | _ => .error .malformed

/-- Reads a text that holds one value and nothing else. -/
def read {α : Type} (reader : Reader α) (t : Text) : Except Fault α := do
  let (a, rest) ← reader t
  if (skipSpace rest).isEmpty then return a else .error .malformed

end Json
end VpnImport
