import VpnImport.Text.CaseTable

namespace VpnImport
namespace Text

/- Lower-casing is the full Unicode mapping.  One character maps to one, except
for U+0130, and no mapping depends on the surroundings, except for the capital
sigma, which becomes a final sigma at the end of a word. -/

/-- The mapping of one character on its own. -/
def lowerChar (c : Char) : Text :=
  if c.toNat < 0x80 then [c.toLower]
  else if c == '\u0130' then ['i', '\u0307']
  else
    match lowerRanges.find? (·.holds c.toNat) with
    | some r => [Char.ofNat (c.toNat + r.offset).toNat]
    | none => [c]

def isCased (c : Char) : Bool :=
  inRanges casedRanges c.toNat

def isCaseIgnorable (c : Char) : Bool :=
  inRanges caseIgnorableRanges c.toNat

/-- Whether the first character that is not case-ignorable is cased. -/
def meetsCased (t : Text) : Bool :=
  match t.dropWhile isCaseIgnorable with
  | [] => false
  | c :: _ => isCased c

/-- The mapping of a character between `before`, read backwards, and `after`. -/
def lowerAt (before : Text) (c : Char) (after : Text) : Text :=
  if c == '\u03A3' then
    [if meetsCased before && !meetsCased after then '\u03C2' else '\u03C3']
  else lowerChar c

/-- The mapping of a text that stands after `before`, read backwards. -/
def lowerAfter (before : Text) : Text → Text
  | [] => []
  | c :: t => lowerAt before c t ++ lowerAfter (c :: before) t

/-- The text in lower case. -/
def lower (t : Text) : Text :=
  go [] [] t
where
  /-- Collects the mapping in `done`, last character first. -/
  go (before done : Text) : Text → Text
    | [] => done.reverse
    | c :: t => go (c :: before) ((lowerAt before c t).reverse ++ done) t

theorem lower.go_eq (before done t : Text) :
    lower.go before done t = done.reverse ++ lowerAfter before t := by
  induction t generalizing before done with
  | nil => simp [lower.go, lowerAfter]
  | cons c t ih => simp [lower.go, lowerAfter, ih]

theorem lower_eq (t : Text) : lower t = lowerAfter [] t := by
  simp [lower, lower.go_eq]

end Text
end VpnImport
