import VpnImport.Json.Reader

namespace VpnImport
namespace Json

/- Numbers.  Only whole numbers of 64 bits without a sign are kept as values.
Any other number is read for its form, and for whether it is too large for a
double precision float, which is a fault of form too. -/

/-- The largest number of 64 bits. -/
def maxWord64 : Nat := Nat.pow 2 64 - 1

/-- A natural number rounded to 53 significant bits, a half going to the even
neighbour. -/
def roundTo53Bits (n : Nat) : Nat :=
  let drop := n.log2 + 1 - 53
  let unit := Nat.pow 2 drop
  let q := n / unit
  let r := n % unit
  if unit < 2 * r || (2 * r == unit && q % 2 == 1 && drop != 0) then (q + 1) * unit else q * unit

/-- Whether `n * 10 ^ e` is beyond the range of a double precision float, both
factors being rounded first. -/
def beyondDouble (n : Nat) (e : Int) : Bool :=
  if n == 0 || e < 0 then false
  else if 308 < e then true
  else
    Nat.pow 2 1024 - Nat.pow 2 970 ≤ roundTo53Bits n * roundTo53Bits (Nat.pow 10 e.toNat)

/-- The value of the digits at the front that fit 64 bits, and the number of
digits behind them. -/
def significand (digits : Text) : Nat × Nat :=
  digits.foldl (fun (n, dropped) d =>
    let m := 10 * n + (d.toNat - 48)
    if dropped != 0 || maxWord64 < m then (n, dropped + 1) else (m, 0)) (0, 0)

/-- Goes on with the digits behind the point: the value, and how many of the
digits it takes in. -/
def fraction (n : Nat) (digits : Text) : Nat × Nat :=
  let r := digits.foldl (fun (n, taken, full) d =>
    let m := 10 * n + (d.toNat - 48)
    if full || maxWord64 < m then (n, taken, true) else (m, taken + 1, false)) (n, 0, false)
  (r.1, r.2.1)

/-- Reads the digits of an exponent behind its mark, and leaves the rest if
`n * 10 ^ e` with this exponent added is in range. -/
def exponent (n : Nat) (e : Int) (t : Text) : Except Fault Text :=
  let (negative, t) :=
    match t with
    | '+' :: t => (false, t)
    | '-' :: t => (true, t)
    | _ => (false, t)
  match t with
  | [] => .error .truncated
  | c :: _ =>
    if !c.isDigit then .error .malformed
    else
      let digits := t.takeWhile Char.isDigit
      let (x, dropped) := significand digits
      let e := if negative then e - x else e + x
      -- An exponent of more than 64 bits is beyond any range.
      if (if dropped == 0 then beyondDouble n e else n != 0 && !negative) then .error .malformed
      else .ok (t.dropWhile Char.isDigit)

/-- Goes on behind the whole part of a number, `n * 10 ^ e` being its value. -/
def afterWhole (n : Nat) (e : Nat) (t : Text) : Except Fault Text :=
  match t with
  | '.' :: t =>
    match t with
    | [] => .error .truncated
    | c :: _ =>
      if !c.isDigit then .error .malformed
      else
        let (m, taken) := fraction n (t.takeWhile Char.isDigit)
        let e := (e : Int) - taken
        match t.dropWhile Char.isDigit with
        | 'e' :: t => exponent m e t
        | 'E' :: t => exponent m e t
        | t => if beyondDouble m e then .error .malformed else .ok t
  | 'e' :: t => exponent n e t
  | 'E' :: t => exponent n e t
  | _ => if beyondDouble n e then .error .malformed else .ok t

/-- Reads a number without its sign.  The value is kept if it is a whole number
of 64 bits, written without a point or an exponent. -/
def numeral : Reader (Option Nat) := fun t =>
  match t with
  | [] => .error .truncated
  | c :: _ =>
    let digits := t.takeWhile Char.isDigit
    let rest := t.dropWhile Char.isDigit
    if !c.isDigit || (c == '0' && 1 < digits.length) then .error .malformed
    else
      let (n, dropped) := significand digits
      if dropped == 0 && !(rest.head?.any fun c => c == '.' || c == 'e' || c == 'E') then
        .ok (some n, rest)
      else (afterWhole n dropped rest).map fun rest => (none, rest)

/- A number inside a value that is passed over is read for its form only, and one
that ends too early breaks the grammar. -/

/-- Passes over the digits of an exponent behind its mark. -/
def skipExponent (t : Text) : Except Fault Text :=
  let t :=
    match t with
    | '+' :: t => t
    | '-' :: t => t
    | _ => t
  if t.head?.any Char.isDigit then .ok (t.dropWhile Char.isDigit) else .error .malformed

/-- Passes over a number without its sign. -/
def skipNumeral (t : Text) : Except Fault Text :=
  let digits := t.takeWhile Char.isDigit
  if digits.isEmpty || (digits.head? == some '0' && 1 < digits.length) then .error .malformed
  else
    match t.dropWhile Char.isDigit with
    | '.' :: t =>
      if !t.head?.any Char.isDigit then .error .malformed
      else
        match t.dropWhile Char.isDigit with
        | 'e' :: t => skipExponent t
        | 'E' :: t => skipExponent t
        | t => .ok t
    | 'e' :: t => skipExponent t
    | 'E' :: t => skipExponent t
    | t => .ok t

end Json
end VpnImport
