import VpnImport.Proofs.WireGuard.Acceptance

/-!
# What an outcome rests on

Whatever a detector says of a text can be checked against the text.  A score is
bounded by the table of keywords, and from below by what the gate has already
found there; an exclusion names the first foreign dialect whose markers the text
has.  The threshold of WireGuard decides nothing: a text that gives a key and an
endpoint has reached it.
-/

namespace VpnImport
namespace Detection

/-- The dialect that excludes a text is the first whose markers it has. -/
theorem foreign?_eq_some_iff {t : Text} {own k : Protocol} :
    foreign? t own = some k ↔
      k ≠ own ∧ marked t own k = true ∧
        ∃ before behind, Protocol.known = before ++ k :: behind ∧
          ∀ p ∈ before, p ≠ own → marked t own p = false := by
  rw [foreign?, List.find?_eq_some_iff_append, Bool.and_eq_true, bne_iff_ne, and_assoc]
  simp [or_iff_not_imp_left]

/-- An outcome that is well formed and that the text bears out, for a detector
whose texts score from `least` to `most` once they have passed the gate. -/
structure Justified (d : Detector) (least most : Nat) (t : Text) (o : Outcome) : Prop where
  kind : o.kind = d.protocol
  matched : o.matched = true ↔ o.verdict = .matched
  gateMissing : o.verdict = .gateMissing → o.score = 0
  score : o.verdict ≠ .gateMissing → least ≤ o.score ∧ o.score ≤ most
  excluded : ∀ k, o.verdict = .excluded k →
    k.isKnown = true ∧ k ≠ o.kind ∧ marked t o.kind k = true ∧
      ∃ before behind, [.wireGuard, .ikev2, .openVPN] = before ++ k :: behind ∧
        ∀ p ∈ before, p ≠ o.kind → marked t o.kind p = false
  incompatible : o.verdict = .incompatible → o.kind = .ikev2

/-- A judgement is none of the verdicts that are given before it, and refuses a
version for IKEv2 alone. -/
structure Judges (d : Detector) : Prop where
  not_gateMissing : ∀ t score, d.judge t score ≠ .gateMissing
  not_excluded : ∀ t score k, d.judge t score ≠ .excluded k
  incompatible : ∀ t score, d.judge t score = .incompatible → d.protocol = .ikev2

theorem justified_outcome {d : Detector} (hd : Judges d) {least most : Nat} {t : Text}
    (hleast : d.gate t = true → least ≤ d.score t)
    (hmost : d.gateScore + d.keywordSet.keywords.length = most) :
    Justified d least most t (d.outcome t) := by
  have hbounds : d.gate t = true → least ≤ d.score t ∧ d.score t ≤ most := by
    intro hgate
    have hlength := KeywordSet.length_found_le d.keywordSet (d.keywordSet.prepare t)
    refine ⟨hleast hgate, ?_⟩
    show d.gateScore + _ ≤ most
    omega
  have hmatched : ∀ score v, (Outcome.ofVerdict d.protocol score v).matched = true ↔
      v = .matched := by
    intro score v
    exact beq_iff_eq
  generalize ho : d.outcome t = o
  have hreach := d.reaches_outcome t
  rw [ho] at hreach
  cases hreach with
  | gateMissing hgate =>
    exact ⟨rfl, hmatched _ _, fun _ => rfl, fun h => absurd rfl h, fun k h => (by contradiction),
      fun h => (by contradiction)⟩
  | excluded hgate other hforeign =>
    obtain ⟨hne, hmarked, hfirst⟩ := foreign?_eq_some_iff.mp hforeign
    refine ⟨rfl, hmatched _ _, fun h => (by contradiction), fun _ => hbounds hgate, fun k h => ?_,
      fun h => (by contradiction)⟩
    obtain rfl : other = k := Verdict.excluded.inj h
    refine ⟨?_, hne, hmarked, hfirst⟩
    cases other
    case unknown => contradiction
    all_goals rfl
  | judged hgate hforeign =>
    exact ⟨rfl, hmatched _ _, fun h => absurd h (hd.not_gateMissing _ _), fun _ => hbounds hgate,
      fun k h => absurd h (hd.not_excluded _ _ k), fun h => hd.incompatible _ _ h⟩

theorem Judges.of_two {d : Detector}
    (h : ∀ t score, d.judge t score = .matched ∨ d.judge t score = .belowThreshold) :
    Judges d := by
  refine ⟨fun t score => ?_, fun t score k => ?_, fun t score hincompatible => ?_⟩
  · rcases h t score with hjudge | hjudge <;> simp [hjudge]
  · rcases h t score with hjudge | hjudge <;> simp [hjudge]
  · rcases h t score with hjudge | hjudge <;> simp [hjudge] at hincompatible

theorem judges_wireGuard : Judges WireGuard.detector := by
  refine .of_two fun t score => ?_
  show WireGuard.judge t score = _ ∨ WireGuard.judge t score = _
  unfold WireGuard.judge
  split <;> simp

theorem judges_openVPN : Judges OpenVPN.detector := by
  refine .of_two fun t score => ?_
  show OpenVPN.judge t score = _ ∨ OpenVPN.judge t score = _
  unfold OpenVPN.judge
  split <;> simp

theorem judges_ikev2 : Judges IKEv2.detector := by
  have hcases : ∀ t score, IKEv2.judge t score = .matched ∨
      IKEv2.judge t score = .incompatible ∨ IKEv2.judge t score = .belowThreshold := by
    intro t score
    unfold IKEv2.judge
    dsimp only
    split_ifs <;> simp
  refine ⟨fun t score => ?_, fun t score k => ?_, fun _ _ _ => rfl⟩
  · show IKEv2.judge t score ≠ _
    rcases hcases t score with h | h | h <;> simp [h]
  · show IKEv2.judge t score ≠ _
    rcases hcases t score with h | h | h <;> simp [h]

/-- The remote that the gate of OpenVPN asks for is a keyword of its own. -/
theorem one_le_score_openVPN {t : Text} (h : OpenVPN.detector.gate t = true) :
    1 ≤ OpenVPN.detector.score t := by
  have hremote : OpenVPN.hasRemote t.lower = true := (Bool.and_eq_true_iff.mp h).1
  have hcontains : OpenVPN.keywordSet.contains t.lower "remote" = true := by
    obtain ⟨l, hl, harg⟩ := List.any_eq_true.mp hremote
    refine List.any_eq_true.mpr ⟨l, hl, ?_⟩
    exact KeywordSet.lineHas_of_hasArgument (by decide) harg
  have hsub : List.Sublist ["remote"] (OpenVPN.keywordSet.found t.lower) := by
    refine KeywordSet.sublist_found (by decide) fun k hk => ?_
    rw [List.mem_singleton.mp hk]
    exact hcontains
  have hlength := hsub.length_le
  show 1 ≤ 0 + (OpenVPN.keywordSet.found t.lower).length
  simpa using hlength

/-- A WireGuard text fails the judgement only for want of a key or an endpoint. -/
theorem judge_wireGuard_eq_belowThreshold_iff {t : Text} :
    WireGuard.judge t (WireGuard.detector.score t) = .belowThreshold ↔
      WireGuard.isKeyShaped (WireGuard.privateKey t) = false ∨
        WireGuard.keywordSet.contains t "Endpoint" = false := by
  have hmatched : WireGuard.judge t (WireGuard.detector.score t) = .matched ↔ _ :=
    WireGuard.judge_eq_matched_iff
  have htwo : WireGuard.judge t (WireGuard.detector.score t) = .belowThreshold ↔
      ¬ WireGuard.judge t (WireGuard.detector.score t) = .matched := by
    unfold WireGuard.judge
    split <;> simp
  rw [htwo, hmatched, ← Bool.not_eq_true, ← Bool.not_eq_true, ← not_and_or]
  exact not_congr ⟨fun h => ⟨h.1, h.2.1⟩, fun h => ⟨h.1, h.2, WireGuard.minScore_le_score h.1 h.2⟩⟩

theorem verdict_wireGuard_eq_belowThreshold_iff {t : Text} :
    (WireGuard.detector.outcome t).verdict = .belowThreshold ↔
      WireGuard.hasSections t = true ∧ (∀ p, p ≠ .wireGuard → marked t .wireGuard p = false) ∧
        (WireGuard.isKeyShaped (WireGuard.privateKey t) = false ∨
          WireGuard.keywordSet.contains t "Endpoint" = false) := by
  rw [← foreign?_eq_none_iff, ← judge_wireGuard_eq_belowThreshold_iff]
  generalize ho : WireGuard.detector.outcome t = o
  have hreach := WireGuard.detector.reaches_outcome t
  rw [ho] at hreach
  cases hreach with
  | gateMissing hgate =>
    have hsections : WireGuard.hasSections t = false := hgate
    simp [Outcome.ofVerdict, hsections]
  | excluded hgate other hforeign =>
    have hsome : foreign? t .wireGuard = some other := hforeign
    simp [Outcome.ofVerdict, hsome]
  | judged hgate hforeign =>
    have hsections : WireGuard.hasSections t = true := hgate
    have hnone : foreign? t .wireGuard = none := hforeign
    simp only [hsections, hnone, true_and]
    exact Iff.rfl

/-- Every outcome of every detector is borne out by the text.  A WireGuard text
falls below the threshold when nothing foreign marks it and it has no usable
private key or no endpoint, whatever its score. -/
theorem outcomes_justified (t : Text) :
    Justified WireGuard.detector 2 16 t (WireGuard.detector.outcome t) ∧
    Justified IKEv2.detector 0 20 t (IKEv2.detector.outcome t) ∧
    Justified OpenVPN.detector 1 20 t (OpenVPN.detector.outcome t) ∧
    ((WireGuard.detector.outcome t).verdict = .belowThreshold ↔
      WireGuard.hasSections t = true ∧ (∀ p, p ≠ .wireGuard → marked t .wireGuard p = false) ∧
        (WireGuard.isKeyShaped (WireGuard.privateKey t) = false ∨
          WireGuard.keywordSet.contains t "Endpoint" = false)) := by
  refine ⟨?_, ?_, ?_, verdict_wireGuard_eq_belowThreshold_iff⟩
  · exact justified_outcome judges_wireGuard (fun _ => Nat.le_add_right _ _) rfl
  · exact justified_outcome judges_ikev2 (fun _ => Nat.zero_le _) rfl
  · exact justified_outcome judges_openVPN one_le_score_openVPN rfl

/-- The fragments of OpenVPN exclude a WireGuard text, even in a comment. -/
example :
    (WireGuard.detector.outcome "# remote client cipher \n[Interface]\n[Peer]".toList).verdict =
      .excluded .openVPN := by
  decide +kernel

end Detection
end VpnImport
