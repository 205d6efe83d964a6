import VpnImport.Proofs.IKEv2.Extraction
import VpnImport.Proofs.Text.Pattern

/-!
# The port of a connection

The port that has no parameter of its own is looked for behind the colons of the text.  A
search with a pattern goes on behind the digits it has taken, a search of all colons goes on
behind the colon.  No digit is a colon, so the two look at the same runs of digits:
`findSome?_captures`.  A run that is no port is passed over, whatever is wrong with it, and
`port_resolution` names the colon whose port is taken.
-/

namespace VpnImport
namespace IKEv2

/-! ## Runs of digits behind a colon -/

/-- A colon stands behind `before`, and behind it `run`, which is all the digits there. -/
def RunBehind (t before run : Text) : Prop :=
  ∃ after, t = before ++ ':' :: (run ++ after) ∧ (∀ d ∈ run, Text.isDecimal d = true) ∧
    after.head?.any Text.isDecimal = false

theorem runBehind_nil_iff {c : Char} {t run : Text} :
    RunBehind (c :: t) [] run ↔ c = ':' ∧ run = t.takeWhile Text.isDecimal := by
  constructor
  · rintro ⟨after, ht, hrun, hafter⟩
    obtain ⟨rfl, rfl⟩ := List.cons.inj ht
    refine ⟨rfl, ?_⟩
    rw [List.takeWhile_append_of_pos hrun]
    cases after with
    | nil => simp
    | cons d after =>
      rw [List.takeWhile_cons_of_neg (by simpa using hafter), List.append_nil]
  · rintro ⟨rfl, rfl⟩
    refine ⟨t.dropWhile Text.isDecimal, by simp, List.all_eq_true.mp List.all_takeWhile, ?_⟩
    have hnot := List.head?_dropWhile_not Text.isDecimal t
    cases hhead : (t.dropWhile Text.isDecimal).head? with
    | none => rfl
    | some d =>
      rw [hhead] at hnot
      simpa using hnot

theorem runBehind_cons_iff {c x : Char} {t before run : Text} :
    RunBehind (c :: t) (x :: before) run ↔ x = c ∧ RunBehind t before run := by
  constructor
  · rintro ⟨after, ht, hrun⟩
    obtain ⟨rfl, rfl⟩ := List.cons.inj ht
    exact ⟨rfl, after, rfl, hrun⟩
  · rintro ⟨rfl, after, rfl, hrun⟩
    exact ⟨after, rfl, hrun⟩

theorem not_runBehind_nil {before run : Text} : ¬ RunBehind [] before run := by
  rintro ⟨after, ht, -⟩
  simp at ht

/-! ## Runs that are ports -/

theorem not_isBlank_of_isDecimal {c : Char} (h : Text.isDecimal c = true) :
    Text.isBlank c = false := by
  have hapart : ∀ r ∈ Text.digitRanges, ∀ b ∈ Text.blankRanges, b.2 < r.1 ∨ r.2 < b.1 := by
    decide +kernel
  obtain ⟨r, hr, hin⟩ := List.any_eq_true.mp h
  rw [Text.isBlank, Text.inRanges, List.any_eq_false]
  intro b hb
  have hb' := hapart r hr b hb
  rw [Bool.and_eq_true, decide_eq_true_eq, decide_eq_true_eq] at hin ⊢
  omega

/-- A run of digits is a port if all of them are digits of ASCII and their value is one. -/
theorem parsePort?_run_eq_some_iff {run : Text} (hrun : ∀ d ∈ run, Text.isDecimal d = true)
    {n : UInt16} :
    parsePort? run = some n ↔
      run ≠ [] ∧ (∀ d ∈ run, d.isDigit = true) ∧ Nat.ofDigitChars 10 run 0 = n.toNat ∧ n ≠ 0 := by
  have htrim : Text.trim run = run :=
    Text.trim_eq_self (fun c hc => not_isBlank_of_isDecimal (hrun c (List.mem_of_head? hc)))
      fun c hc => not_isBlank_of_isDecimal (hrun c (List.mem_of_getLast? hc))
  rw [parsePort?_eq_some_iff, htrim]
  constructor
  · rintro ⟨⟨digits, rfl | rfl, hne, hdigits, hvalue⟩, hn⟩
    · exact ⟨hne, hdigits, hvalue, hn⟩
    · exact absurd (hrun '+' List.mem_cons_self) (by decide +kernel)
  · rintro ⟨hne, hdigits, hvalue, hn⟩
    exact ⟨⟨run, .inl rfl, hne, hdigits, hvalue⟩, hn⟩

/-- Any other run is refused: for a digit that is not one of ASCII, or for its value. -/
theorem parsePort?_run_eq_none_iff {run : Text} (hrun : ∀ d ∈ run, Text.isDecimal d = true) :
    parsePort? run = none ↔
      (∃ d ∈ run, d.isDigit = false) ∨ Nat.ofDigitChars 10 run 0 = 0 ∨
        65535 < Nat.ofDigitChars 10 run 0 := by
  rw [Option.eq_none_iff_forall_ne_some]
  constructor
  · intro hnone
    by_contra hport
    obtain ⟨hdigits, hpos, hmax⟩ :
        (∀ d ∈ run, d.isDigit = true) ∧ Nat.ofDigitChars 10 run 0 ≠ 0 ∧
          Nat.ofDigitChars 10 run 0 ≤ 65535 := by
      simpa using hport
    have hvalue : (Nat.ofDigitChars 10 run 0).toUInt16.toNat = Nat.ofDigitChars 10 run 0 :=
      UInt16.toNat_ofNat_of_lt' (Nat.lt_succ_of_le hmax)
    refine hnone _ ((parsePort?_run_eq_some_iff hrun).mpr ⟨?_, hdigits, hvalue.symm, ?_⟩)
    · rintro rfl
      exact hpos rfl
    · intro hzero
      rw [hzero] at hvalue
      exact hpos hvalue.symm
  · intro hbad n hn
    obtain ⟨-, hdigits, hvalue, hne⟩ := (parsePort?_run_eq_some_iff hrun).mp hn
    have hpos : n.toNat ≠ 0 := fun h => hne (UInt16.toNat_inj.mp h)
    have hlt : n.toNat < 65536 := n.toNat_lt
    rcases hbad with ⟨d, hd, hnot⟩ | hzero | hlarge
    · rw [hdigits d hd] at hnot
      contradiction
    · omega
    · omega

/-! ## The first port -/

/-- A colon has the port `n` behind it, and no colon before it has one. -/
def IsFirstPort (t : Text) (n : UInt16) : Prop :=
  ∃ before run, RunBehind t before run ∧ run ≠ [] ∧ parsePort? run = some n ∧
    ∀ before' run', RunBehind t before' run' → before'.length < before.length →
      parsePort? run' = none

theorem portHere_eq_some_iff {c : Char} {t : Text} {n : UInt16} :
    (if c == ':' then parsePort? (t.takeWhile Text.isDecimal) else none) = some n ↔
      ∃ run, RunBehind (c :: t) [] run ∧ parsePort? run = some n := by
  simp [runBehind_nil_iff]

theorem portHere_eq_none_iff {c : Char} {t : Text} :
    (if c == ':' then parsePort? (t.takeWhile Text.isDecimal) else none) = none ↔
      ∀ run, RunBehind (c :: t) [] run → parsePort? run = none := by
  simp [runBehind_nil_iff]

theorem isFirstPort_cons_iff {c : Char} {t : Text} {n : UInt16} :
    IsFirstPort (c :: t) n ↔
      (∃ run, RunBehind (c :: t) [] run ∧ parsePort? run = some n) ∨
        (∀ run, RunBehind (c :: t) [] run → parsePort? run = none) ∧ IsFirstPort t n := by
  constructor
  · rintro ⟨before, run, hrun, hne, hport, hfirst⟩
    cases before with
    | nil => exact .inl ⟨run, hrun, hport⟩
    | cons x before =>
      obtain ⟨rfl, hrest⟩ := runBehind_cons_iff.mp hrun
      refine .inr ⟨fun run' h => hfirst [] run' h (Nat.zero_lt_succ _), before, run, hrest, hne,
        hport, fun before' run' h hlt => ?_⟩
      exact hfirst (x :: before') run' (runBehind_cons_iff.mpr ⟨rfl, h⟩) (Nat.succ_lt_succ hlt)
  · rintro (⟨run, hrun, hport⟩ | ⟨hnone, before, run, hrun, hne, hport, hfirst⟩)
    · refine ⟨[], run, hrun, fun hnil => ?_, hport, fun _ _ _ hlt => absurd hlt (Nat.not_lt_zero _)⟩
      rw [hnil] at hport
      contradiction
    · refine ⟨c :: before, run, runBehind_cons_iff.mpr ⟨rfl, hrun⟩, hne, hport, ?_⟩
      intro before' run' h hlt
      cases before' with
      | nil => exact hnone run' h
      | cons x before' =>
        exact hfirst before' run' (runBehind_cons_iff.mp h).2 (Nat.lt_of_succ_lt_succ hlt)

theorem portAfterColon?_eq_some_iff {t : Text} {n : UInt16} :
    portAfterColon? t = some n ↔ IsFirstPort t n := by
  induction t with
  | nil =>
    constructor
    · intro h
      contradiction
    · rintro ⟨before, run, hrun, -⟩
      exact absurd hrun not_runBehind_nil
  | cons c t ih =>
    rw [portAfterColon?_cons, Option.or_eq_some_iff, portHere_eq_some_iff, portHere_eq_none_iff, ih,
      isFirstPort_cons_iff]

theorem portAfterColon?_eq_none_iff {t : Text} :
    portAfterColon? t = none ↔ ∀ before run, RunBehind t before run → parsePort? run = none := by
  induction t with
  | nil => exact iff_of_true rfl fun _ _ h => absurd h not_runBehind_nil
  | cons c t ih =>
    rw [portAfterColon?_cons, Option.or_eq_none_iff, portHere_eq_none_iff, ih]
    constructor
    · rintro ⟨hhere, hrest⟩ before run h
      cases before with
      | nil => exact hhere run h
      | cons x before => exact hrest before run (runBehind_cons_iff.mp h).2
    · intro h
      exact ⟨fun run hrun => h [] run hrun,
        fun before run hrun => h (c :: before) run (runBehind_cons_iff.mpr ⟨rfl, hrun⟩)⟩

/-! ## The port as a pattern -/

/-- A colon and the digits behind it, of which there is at least one. -/
def portPattern : Text.Pattern where
  lead := [.one (· == ':')]
  group := [.one Text.isDecimal, .run Text.isDecimal]

theorem match?_portPattern (c : Char) (t : Text) :
    portPattern.match? (c :: t) =
      if c == ':' && t.head?.any Text.isDecimal then
        some (c :: t.takeWhile Text.isDecimal, t.takeWhile Text.isDecimal)
      else none := by
  rw [Text.Pattern.match?, Text.Pattern.candidates, portPattern]
  by_cases hc : (c == ':') = true
  · cases t with
    | nil => simp [Text.splits, Text.Piece.splits]
    | cons d t =>
      by_cases hd : Text.isDecimal d = true
      · obtain ⟨rest, hrest⟩ := List.head?_eq_some_iff.mp (Text.head?_splits_run Text.isDecimal t)
        simp [Text.splits, Text.Piece.splits, hc, hd, hrest]
      · simp [Text.splits, Text.Piece.splits, hd]
  · simp [Text.splits, Text.Piece.splits, hc]

theorem not_mem_colon_takeWhile (t : Text) : ':' ∉ t.takeWhile Text.isDecimal := by
  intro h
  exact absurd (List.all_eq_true.mp List.all_takeWhile ':' h) (by decide +kernel)

/-- The digits of the last match hold no colon, so a search that skips them misses none. -/
theorem findSome?_scanAnywhere {busy : Nat} {t : Text} (h : ':' ∉ t.take busy) :
    (portPattern.scanAnywhere busy t).findSome? parsePort? = portAfterColon? t := by
  induction t generalizing busy with
  | nil => cases busy <;> rfl
  | cons c t ih =>
    rw [portAfterColon?_cons]
    cases busy with
    | succ busy =>
      rw [List.take_succ_cons, List.mem_cons, not_or] at h
      rw [Text.Pattern.scanAnywhere, ih h.2, if_neg (by simpa using Ne.symm h.1), Option.none_or]
    | zero =>
      rw [Text.Pattern.scanAnywhere, match?_portPattern]
      by_cases hmatch : (c == ':' && t.head?.any Text.isDecimal) = true
      · have hskip : ':' ∉ t.take (t.takeWhile Text.isDecimal).length := by
          rw [← List.prefix_iff_eq_take.mp (List.takeWhile_prefix _)]
          exact not_mem_colon_takeWhile t
        rw [if_pos hmatch, if_pos (Bool.and_eq_true_iff.mp hmatch).1, List.findSome?_cons,
          List.length_cons, Nat.add_sub_cancel, ih hskip]
        cases parsePort? (t.takeWhile Text.isDecimal) <;> rfl
      · -- A colon without digits behind it has no port.
        have hhere : ∀ run, RunBehind (c :: t) [] run → parsePort? run = none := by
          intro run hrun
          obtain ⟨rfl, rfl⟩ := runBehind_nil_iff.mp hrun
          cases t with
          | nil => rfl
          | cons d t =>
            rw [List.takeWhile_cons_of_neg (by simpa using hmatch)]
            rfl
        rw [if_neg hmatch, portHere_eq_none_iff.mpr hhere, Option.none_or]
        exact ih (by simp)

/-- The first port that the pattern captures is the first behind a colon. -/
theorem findSome?_captures (t : Text) :
    (portPattern.capturesAnywhere t).findSome? parsePort? = portAfterColon? t :=
  findSome?_scanAnywhere (by simp)

/-! ## The port of a connection -/

/-- Where the port of a connection comes from: its parameter, a colon, or the protocol. -/
inductive PortOf (t : Text) : UInt16 → Prop
  | stated {n : UInt16} (hport : parsePort? (value t "port") = some n) : PortOf t n
  | behindColon {n : UInt16} (hstated : parsePort? (value t "port") = none)
      (hfirst : IsFirstPort t n) : PortOf t n
  | default (hstated : parsePort? (value t "port") = none)
      (hnone : ∀ before run, RunBehind t before run → parsePort? run = none) : PortOf t 500

theorem portOf_resolvePort (t : Text) : PortOf t (resolvePort t) := by
  rw [resolvePort]
  cases hstated : parsePort? (value t "port") with
  | some n => exact .stated hstated
  | none =>
    cases hcolon : portAfterColon? t with
    | some n => exact .behindColon hstated (portAfterColon?_eq_some_iff.mp hcolon)
    | none => exact .default hstated (portAfterColon?_eq_none_iff.mp hcolon)

theorem resolvePort_eq_iff {t : Text} {n : UInt16} : resolvePort t = n ↔ PortOf t n := by
  constructor
  · exact fun h => h ▸ portOf_resolvePort t
  · intro h
    rw [resolvePort]
    cases h with
    | stated hport => rw [hport]
    | behindColon hstated hfirst =>
      rw [hstated, portAfterColon?_eq_some_iff.mpr hfirst]
      rfl
    | default hstated hnone =>
      rw [hstated, portAfterColon?_eq_none_iff.mpr hnone]
      rfl

/-- The port of a connection is the one its parameter states, if that is a port; otherwise
that of the first colon with a port behind it; otherwise 500.  The colons are those at which
the pattern matches.  A run of digits behind a colon is passed over when one of its digits
is not of ASCII, or when its value is zero or above 65535. -/
theorem port_resolution (t : Text) :
    (∀ n, resolvePort t = n ↔ PortOf t n) ∧
    resolvePort t = ((parsePort? (value t "port")).or
      ((portPattern.capturesAnywhere t).findSome? parsePort?)).getD 500 ∧
    (∀ before run, RunBehind t before run →
      (∀ n, parsePort? run = some n ↔ run ≠ [] ∧ (∀ d ∈ run, d.isDigit = true) ∧
        Nat.ofDigitChars 10 run 0 = n.toNat ∧ n ≠ 0) ∧
      (parsePort? run = none ↔ (∃ d ∈ run, d.isDigit = false) ∨ Nat.ofDigitChars 10 run 0 = 0 ∨
        65535 < Nat.ofDigitChars 10 run 0)) ∧
    1 ≤ (resolvePort t).toNat ∧ (resolvePort t).toNat ≤ 65535 := by
  refine ⟨fun n => resolvePort_eq_iff, ?_, fun before run hrun => ?_, ?_,
    Nat.le_of_lt_succ (resolvePort t).toNat_lt⟩
  · rw [findSome?_captures, resolvePort]
    cases parsePort? (value t "port") <;> rfl
  · obtain ⟨after, -, hdecimal, -⟩ := hrun
    exact ⟨fun n => parsePort?_run_eq_some_iff hdecimal, parsePort?_run_eq_none_iff hdecimal⟩
  · exact Nat.pos_of_ne_zero fun h => resolvePort_ne_zero t (UInt16.toNat_inj.mp h)

/-- A value that is no port, an address with two colons, zero, a number that is too large and
digits of another script are all passed over. -/
theorem port_resolution_passes_over :
    let before := "conn a\n port = abc\n right = [fe80::a]:0:70000".toList
    let t := before ++ ":٤٥٠٠:4500".toList
    PortOf t 4500 ∧ RunBehind t before "٤٥٠٠".toList ∧ parsePort? "٤٥٠٠".toList = none := by
  intro before t
  have hrun : RunBehind t before "٤٥٠٠".toList :=
    ⟨":4500".toList, rfl, List.all_eq_true.mp (by decide +kernel), by decide +kernel⟩
  exact ⟨((port_resolution t).1 4500).mp (by decide +kernel), hrun,
    ((port_resolution t).2.2.1 before _ hrun).2.mpr (.inl ⟨'٤', by decide, by decide⟩)⟩

end IKEv2
end VpnImport
