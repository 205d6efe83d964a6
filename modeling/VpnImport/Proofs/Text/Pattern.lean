import VpnImport.Proofs.Text.Line

/-!
# Patterns

A pattern is a row of parts, each of which takes one character of a class or a run of
them.  `splits` lists the ways in which a pattern matches, a longer run before a shorter
one.  `captures` looks for a pattern wherever a line starts and `capturesAnywhere` at every
character, and both go on behind what they have found.  A character outside all classes
bounds every match (`splits_append_cons`), so a pattern that cannot take a line feed and is
looked for at the starts of lines is found line by line: `captures_eq` and `matches_iff`.
-/

namespace VpnImport
namespace Text

/-! ## Matching -/

/-- A part of a pattern: one character of a class, or any number of them. -/
inductive Piece where
  | one (p : Char → Bool)
  | run (p : Char → Bool)

/-- Whether a part can take a character. -/
def Piece.takes : Piece → Char → Bool
  | .one p, c => p c
  | .run p, c => p c

/-- The ways in which a part matches at the start of a text, as what it takes and what it
leaves. -/
def Piece.splits : Piece → Text → List (Text × Text)
  | .one _, [] => []
  | .one p, c :: t => if p c then [([c], t)] else []
  | .run _, [] => [([], [])]
  | .run p, c :: t =>
    (if p c then (Piece.splits (.run p) t).map fun m => (c :: m.1, m.2) else []) ++ [([], c :: t)]

/-- The ways in which one part after the other matches at the start of a text. -/
def splits : List Piece → Text → List (Text × Text)
  | [], t => [([], t)]
  | a :: ps, t =>
    (a.splits t).flatMap fun m => (splits ps m.2).map fun n => (m.1 ++ n.1, n.2)

/-- A pattern, of which what the second half takes is captured. -/
structure Pattern where
  lead : List Piece
  group : List Piece

namespace Pattern

/-- The ways in which a pattern matches at the start of a text, as all that it takes and
what it captures. -/
def candidates (p : Pattern) (t : Text) : List (Text × Text) :=
  (splits p.lead t).flatMap fun m => (splits p.group m.2).map fun n => (m.1 ++ n.1, n.1)

/-- The first way in which a pattern matches is the one that counts. -/
def match? (p : Pattern) (t : Text) : Option (Text × Text) :=
  (p.candidates t).head?

/-- What a pattern captures from here on.  It is tried where a line starts, unless the
last match goes on for some characters. -/
def scan (p : Pattern) : Bool → Nat → Text → List Text
  | _, _, [] => []
  | _, busy + 1, c :: t => scan p (c == '\n') busy t
  | start, 0, c :: t =>
    match if start then p.match? (c :: t) else none with
    | none => scan p (c == '\n') 0 t
    | some m => m.2 :: scan p (c == '\n') (m.1.length - 1) t

/-- What a pattern captures in a text, match by match. -/
def captures (p : Pattern) (t : Text) : List Text :=
  p.scan true 0 t

/-- What a pattern captures from here on if it is tried at every character, unless the last
match goes on for some characters. -/
def scanAnywhere (p : Pattern) : Nat → Text → List Text
  | _, [] => []
  | busy + 1, _ :: t => scanAnywhere p busy t
  | 0, c :: t =>
    match p.match? (c :: t) with
    | none => scanAnywhere p 0 t
    | some m => m.2 :: scanAnywhere p (m.1.length - 1) t

/-- What a pattern captures in a text, match by match, wherever it stands on its line. -/
def capturesAnywhere (p : Pattern) (t : Text) : List Text :=
  p.scanAnywhere 0 t

/-- A pattern matches somewhere in a text, at the start of a line. -/
def Matches (p : Pattern) (t : Text) : Prop :=
  ∃ before rest, t = before ++ rest ∧ (before = [] ∨ before.getLast? = some '\n') ∧
    (p.match? rest).isSome = true

/-- What a pattern captures at the start of a text. -/
def captured? (p : Pattern) (t : Text) : Option Text :=
  (p.match? t).map Prod.snd

end Pattern

/-! ## What is taken -/

theorem Piece.append_of_mem_splits {a : Piece} {t : Text} {m : Text × Text}
    (h : m ∈ a.splits t) : m.1 ++ m.2 = t := by
  induction t generalizing m with
  | nil =>
    cases a with
    | one p => contradiction
    | run p =>
      rw [Piece.splits, List.mem_singleton] at h
      rw [h]
      rfl
  | cons c t ih =>
    cases a with
    | one p =>
      rw [Piece.splits] at h
      split at h
      · rw [List.mem_singleton] at h
        rw [h]
        rfl
      · contradiction
    | run p =>
      rw [Piece.splits, List.mem_append, List.mem_singleton] at h
      rcases h with h | rfl
      · split at h
        · obtain ⟨n, hn, rfl⟩ := List.mem_map.mp h
          rw [List.cons_append, ih hn]
        · contradiction
      · rfl

theorem append_of_mem_splits {ps : List Piece} {t : Text} {m : Text × Text}
    (h : m ∈ splits ps t) : m.1 ++ m.2 = t := by
  induction ps generalizing t m with
  | nil =>
    rw [splits, List.mem_singleton] at h
    rw [h]
    rfl
  | cons a ps ih =>
    rw [splits, List.mem_flatMap] at h
    obtain ⟨n, hn, hm⟩ := h
    obtain ⟨x, hx, rfl⟩ := List.mem_map.mp hm
    rw [List.append_assoc, ih hx, Piece.append_of_mem_splits hn]

theorem Pattern.length_of_match? {p : Pattern} {t : Text} {m : Text × Text}
    (h : p.match? t = some m) : m.1.length ≤ t.length := by
  have hmem : m ∈ p.candidates t := List.mem_of_head? h
  obtain ⟨n, hn, hm⟩ := List.mem_flatMap.mp hmem
  obtain ⟨x, hx, rfl⟩ := List.mem_map.mp hm
  have ht : t = (n.1 ++ x.1) ++ x.2 := by
    rw [List.append_assoc, append_of_mem_splits hx, append_of_mem_splits hn]
  rw [ht]
  exact (List.prefix_append (n.1 ++ x.1) x.2).length_le

/-! ## What bounds a match -/

section Bound
variable {c : Char} (t : Text)

theorem Piece.splits_append_cons {a : Piece} (hc : a.takes c = false) (row : Text) :
    a.splits (row ++ c :: t) = (a.splits row).map fun m => (m.1, m.2 ++ c :: t) := by
  induction row with
  | nil =>
    cases a with
    | one p =>
      replace hc : p c = false := hc
      simp [Piece.splits, hc]
    | run p =>
      replace hc : p c = false := hc
      simp [Piece.splits, hc]
  | cons x row ih =>
    cases a with
    | one p =>
      rw [List.cons_append, Piece.splits, Piece.splits]
      split <;> rfl
    | run p =>
      rw [List.cons_append, Piece.splits, Piece.splits, ih]
      split <;> simp

theorem splits_append_cons {ps : List Piece} (hc : ∀ a ∈ ps, a.takes c = false) (row : Text) :
    splits ps (row ++ c :: t) = (splits ps row).map fun m => (m.1, m.2 ++ c :: t) := by
  induction ps generalizing row with
  | nil => rfl
  | cons a ps ih =>
    have hrest := ih fun b hb => hc b (List.mem_cons_of_mem a hb)
    rw [splits, splits, Piece.splits_append_cons t (hc a List.mem_cons_self), List.flatMap_map,
      List.map_flatMap]
    refine List.flatMap_congr fun m _ => ?_
    rw [hrest, List.map_map, List.map_map]
    rfl

/-- A character that no part can take bounds the matches before it. -/
theorem Pattern.match?_append_cons {p : Pattern}
    (hc : ∀ a ∈ p.lead ++ p.group, a.takes c = false) (row : Text) :
    p.match? (row ++ c :: t) = p.match? row := by
  have hlead : ∀ a ∈ p.lead, a.takes c = false := fun a ha => hc a (List.mem_append_left _ ha)
  have hgroup : ∀ a ∈ p.group, a.takes c = false := fun a ha => hc a (List.mem_append_right _ ha)
  rw [match?, match?, candidates, candidates, splits_append_cons t hlead, List.flatMap_map]
  congr 1
  refine List.flatMap_congr fun m _ => ?_
  rw [splits_append_cons t hgroup, List.map_map]
  rfl

end Bound

/-! ## Line by line -/

namespace Pattern

/-- A pattern that goes past no end of a line and takes something. -/
structure InLine (p : Pattern) : Prop where
  feed : ∀ a ∈ p.lead ++ p.group, a.takes '\n' = false
  ret : ∀ a ∈ p.lead ++ p.group, a.takes '\r' = false
  nil : p.match? [] = none

theorem not_mem_cons {c : Char} {row : Text} (h : '\n' ∉ c :: row) :
    (c == '\n') = false ∧ '\n' ∉ row := by
  rw [List.mem_cons, not_or] at h
  exact ⟨beq_false_of_ne (Ne.symm h.1), h.2⟩

theorem scan_of_not_mem {p : Pattern} {row : Text} (h : '\n' ∉ row) (busy : Nat) :
    p.scan false busy row = [] := by
  induction row generalizing busy with
  | nil => cases busy <;> rfl
  | cons c row ih =>
    obtain ⟨hstart, hrow⟩ := not_mem_cons h
    cases busy with
    | zero =>
      rw [scan, hstart]
      exact ih hrow 0
    | succ busy =>
      rw [scan, hstart]
      exact ih hrow busy

theorem scan_append_feed {p : Pattern} {row : Text} (h : '\n' ∉ row) {busy : Nat}
    (hbusy : busy ≤ row.length) (t : Text) :
    p.scan false busy (row ++ '\n' :: t) = p.scan true 0 t := by
  induction row generalizing busy with
  | nil =>
    obtain rfl : busy = 0 := Nat.le_zero.mp hbusy
    rfl
  | cons c row ih =>
    obtain ⟨hstart, hrow⟩ := not_mem_cons h
    rw [List.cons_append]
    cases busy with
    | zero =>
      rw [scan, hstart]
      exact ih hrow (Nat.zero_le _)
    | succ busy =>
      rw [scan, hstart]
      exact ih hrow (Nat.le_of_succ_le_succ hbusy)

theorem matches_row {p : Pattern} {row : Text} (h : '\n' ∉ row) :
    p.Matches row ↔ (p.match? row).isSome = true := by
  constructor
  · rintro ⟨before, rest, rfl, rfl | hlast, hmatch⟩
    · exact hmatch
    · exact absurd (List.mem_append_left rest (List.mem_of_getLast? hlast)) h
  · exact fun hmatch => ⟨[], row, rfl, .inl rfl, hmatch⟩

namespace InLine
variable {p : Pattern} (hp : p.InLine)
include hp

theorem scan_cons {row : Text} (h : '\n' ∉ row) (t : Text) :
    p.scan true 0 (row ++ '\n' :: t) = (p.captured? row).toList ++ p.scan true 0 t := by
  have hmatch := match?_append_cons t hp.feed row
  cases row with
  | nil =>
    rw [List.nil_append] at hmatch ⊢
    rw [scan, if_pos rfl, hmatch, captured?, hp.nil]
    rfl
  | cons c row =>
    obtain ⟨hstart, hrow⟩ := not_mem_cons h
    rw [List.cons_append] at hmatch ⊢
    rw [scan, if_pos rfl, hmatch, captured?, hstart]
    cases hrowMatch : p.match? (c :: row) with
    | none => exact scan_append_feed hrow (Nat.zero_le _) t
    | some m =>
      have hlength : m.1.length - 1 ≤ row.length :=
        Nat.sub_le_of_le_add (length_of_match? hrowMatch)
      dsimp only
      rw [scan_append_feed hrow hlength]
      rfl

theorem scan_row {row : Text} (h : '\n' ∉ row) : p.scan true 0 row = (p.captured? row).toList := by
  cases row with
  | nil =>
    rw [captured?, hp.nil]
    rfl
  | cons c row =>
    obtain ⟨hstart, hrow⟩ := not_mem_cons h
    rw [scan, if_pos rfl, captured?, hstart]
    cases p.match? (c :: row) with
    | none => exact scan_of_not_mem hrow 0
    | some m =>
      dsimp only
      rw [scan_of_not_mem hrow]
      rfl

theorem match?_return (row : Text) : p.match? (row ++ ['\r']) = p.match? row :=
  match?_append_cons [] hp.ret row

theorem captured?_return (row : Text) : p.captured? (row ++ ['\r']) = p.captured? row := by
  rw [captured?, captured?, hp.match?_return]

/-- A pattern captures once on each line that it matches. -/
theorem captures_eq (t : Text) : p.captures t = (lines t).filterMap p.captured? := by
  rw [captures]
  induction t using row_induction with
  | last row hrow =>
    rw [hp.scan_row hrow, lines_row hrow]
    cases row with
    | nil =>
      rw [captured?, hp.nil]
      rfl
    | cons c row =>
      rw [List.filter_cons_of_pos rfl, List.filterMap_cons]
      cases p.captured? (c :: row) <;> rfl
  | cons row t hrow ih =>
    rw [hp.scan_cons hrow, lines_cons hrow, List.filterMap_cons,
      dropReturn_congr hp.captured?_return, ih]
    cases p.captured? row <;> rfl

theorem matches_cons {row : Text} (h : '\n' ∉ row) (t : Text) :
    p.Matches (row ++ '\n' :: t) ↔ (p.match? row).isSome = true ∨ p.Matches t := by
  constructor
  · rintro ⟨before, rest, heq, rfl | hlast, hmatch⟩
    · rw [List.nil_append] at heq
      rw [← heq, match?_append_cons t hp.feed] at hmatch
      exact .inl hmatch
    · -- The match starts behind a line feed, and the first one ends the row.
      obtain ⟨init, rfl⟩ := List.getLast?_eq_some_iff.mp hlast
      rw [List.append_assoc, List.singleton_append] at heq
      rcases List.append_eq_append_iff.mp heq with ⟨s, hinit, hs⟩ | ⟨s, hrow, hs⟩
      · cases s with
        | nil => exact .inr ⟨[], rest, (List.cons.inj hs).2, .inl rfl, hmatch⟩
        | cons c s =>
          rw [List.cons_append] at hs
          exact .inr ⟨s ++ ['\n'], rest, by simp [(List.cons.inj hs).2], .inr (by simp), hmatch⟩
      · cases s with
        | nil => exact .inr ⟨[], rest, (List.cons.inj hs).2.symm, .inl rfl, hmatch⟩
        | cons c s =>
          rw [List.cons_append] at hs
          rw [hrow, ← (List.cons.inj hs).1] at h
          exact absurd (List.mem_append_right init List.mem_cons_self) h
  · rintro (hmatch | ⟨before, rest, rfl, hbefore, hmatch⟩)
    · refine ⟨[], row ++ '\n' :: t, rfl, .inl rfl, ?_⟩
      rw [match?_append_cons t hp.feed]
      exact hmatch
    · refine ⟨row ++ '\n' :: before, rest, by simp, .inr ?_, hmatch⟩
      rcases hbefore with rfl | hlast
      · simp
      · obtain ⟨init, rfl⟩ := List.getLast?_eq_some_iff.mp hlast
        rw [← List.cons_append, ← List.append_assoc, List.getLast?_concat]

/-- A pattern matches somewhere in a text if it matches at the start of a line. -/
theorem matches_iff (t : Text) : p.Matches t ↔ ∃ l ∈ lines t, (p.captured? l).isSome = true := by
  simp only [captured?, Option.isSome_map]
  induction t using row_induction with
  | last row hrow =>
    rw [matches_row hrow, lines_row hrow]
    cases row with
    | nil => simp [hp.nil]
    | cons c row => simp
  | cons row t hrow ih =>
    have hreturn : p.match? (dropReturn row) = p.match? row := dropReturn_congr hp.match?_return row
    rw [hp.matches_cons hrow, lines_cons hrow, ih]
    simp [hreturn]

end InLine
end Pattern

/-! ## What is found in the end -/

section Leaves
variable {α : Type} {k : Text → List α}

theorem flatMap_splits_append (ps qs : List Piece) (t : Text) :
    (splits (ps ++ qs) t).flatMap (fun m => k m.2) =
      (splits ps t).flatMap fun m => (splits qs m.2).flatMap fun n => k n.2 := by
  induction ps generalizing t with
  | nil => simp [splits]
  | cons a ps ih =>
    rw [List.cons_append, splits, splits, List.flatMap_assoc, List.flatMap_assoc]
    refine List.flatMap_congr fun m _ => ?_
    rw [List.flatMap_map, List.flatMap_map]
    exact ih m.2

/-- A run is as long as can be if nothing behind it starts with a character of the run. -/
theorem flatMap_splits_run {p : Char → Bool} (hk : ∀ c t, p c = true → k (c :: t) = [])
    (t : Text) : (splits [.run p] t).flatMap (fun m => k m.2) = k (t.dropWhile p) := by
  have hpiece : ((Piece.run p).splits t).flatMap (fun m => k m.2) = k (t.dropWhile p) := by
    induction t with
    | nil => simp [Piece.splits]
    | cons c t ih =>
      by_cases hc : p c = true
      · simp only [Piece.splits, hc, if_true, List.flatMap_append, List.flatMap_map,
          List.dropWhile_cons_of_pos, List.flatMap_cons, List.flatMap_nil, hk c t hc]
        simpa using ih
      · simp [Piece.splits, hc]
  rw [← hpiece, splits, List.flatMap_assoc]
  simp [splits]

/-- The letters of a word, one after the other. -/
theorem flatMap_splits_letters (same : Char → Char → Bool) (word t : Text) :
    (splits (word.map fun a => .one (same a)) t).flatMap (fun m => k m.2) =
      match after? same word t with
      | none => []
      | some rest => k rest := by
  induction word generalizing t with
  | nil => simp [splits, after?]
  | cons a word ih =>
    cases t with
    | nil => rfl
    | cons c t =>
      rw [List.map_cons, splits, Piece.splits, after?]
      by_cases hc : same a c = true
      · simp only [hc, if_true, List.flatMap_cons, List.flatMap_nil, List.append_nil,
          List.flatMap_map]
        exact ih t
      · simp [hc]

end Leaves

theorem Pattern.captured?_eq (p : Pattern) (t : Text) :
    p.captured? t =
      ((splits p.lead t).flatMap fun m => (splits p.group m.2).map Prod.fst).head? := by
  rw [captured?, match?, candidates, ← List.head?_map, List.map_flatMap]
  simp only [List.map_map]
  rfl

theorem head?_splits_run (p : Char → Bool) (t : Text) :
    ((Piece.run p).splits t).head? = some (t.takeWhile p, t.dropWhile p) := by
  induction t with
  | nil => rfl
  | cons c t ih =>
    by_cases hc : p c = true
    · obtain ⟨rest, hrest⟩ := List.head?_eq_some_iff.mp ih
      simp [Piece.splits, hc, hrest]
    · simp [Piece.splits, hc]

end Text
end VpnImport
