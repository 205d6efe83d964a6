import VpnImport.Endpoint
import VpnImport.Proofs.Except
import VpnImport.Proofs.Text.Number
import VpnImport.Proofs.Text.Trim

/-!
# What an endpoint splits into

`split_eq_ok_iff` takes a successful split apart.  The host it gives is not blank
and the port it gives is not zero, so a profile can be drawn up from both.
-/

namespace VpnImport

/-- A port is read from the decimals of its number, white space around them
apart. -/
theorem parsePort?_eq_some_iff {t : Text} {n : UInt16} :
    parsePort? t = some n ↔ Text.IsDecimalOf n.toNat (Text.trim t) ∧ n ≠ 0 := by
  rw [parsePort?, Option.filter_eq_some_iff, bne_iff_ne, Text.toWord16?_eq_some_iff]

theorem parsePort?_ne_zero {t : Text} {n : UInt16} (h : parsePort? t = some n) : n ≠ 0 :=
  (parsePort?_eq_some_iff.mp h).2

namespace Endpoint

/-- The default port stands for a port that is not written. -/
theorem portOr_of_blank {written : Option Text} (h : ∀ w ∈ written, Text.allBlank w = true)
    (default : UInt16) : portOr default written = .ok default := by
  cases written with
  | none => rfl
  | some w =>
    have hnil : Text.trim w = [] := Text.trim_eq_nil_iff.mpr (h w rfl)
    rw [portOr, hnil]
    rfl

theorem portOr_ne_zero {default port : UInt16} {written : Option Text} (hdefault : default ≠ 0)
    (h : portOr default written = .ok port) : port ≠ 0 := by
  unfold portOr at h
  split at h
  · exact Except.ok.inj h ▸ hdefault
  · dsimp only at h
    split at h
    · exact Except.ok.inj h ▸ hdefault
    · split at h
      · rename_i n hn
        exact Except.ok.inj h ▸ parsePort?_ne_zero hn
      · contradiction

theorem split_eq_ok_iff {endpoint host : Text} {default port : UInt16} :
    split endpoint default = .ok (host, port) ↔
      Text.trim endpoint ≠ [] ∧
        ∃ name written, cut (Text.trim endpoint) = .ok (name, written) ∧
          host = Text.trim name ∧ host ≠ [] ∧ portOr default written = .ok port := by
  unfold split
  by_cases htrim : Text.trim endpoint = []
  · rw [htrim]
    constructor
    · intro h
      cases h
    · intro h
      obtain ⟨h, -⟩ := h
      exact absurd rfl h
  · dsimp only
    rw [if_neg (by simpa using htrim), bind_eq_ok_iff]
    constructor
    · intro h
      obtain ⟨⟨name, written⟩, hcut, h⟩ := h
      dsimp only at h
      split at h
      · contradiction
      · rename_i hname
        obtain ⟨n, hn, heq⟩ := bind_eq_ok_iff.mp h
        cases heq
        exact ⟨htrim, name, written, hcut, rfl, by simpa using hname, hn⟩
    · intro h
      obtain ⟨-, name, written, hcut, rfl, hname, hport⟩ := h
      refine ⟨(name, written), hcut, ?_⟩
      dsimp only
      rw [if_neg (by simpa using hname)]
      exact bind_eq_ok_iff.mpr ⟨port, hport, rfl⟩

section Split
variable {endpoint host : Text} {default port : UInt16}
  (h : split endpoint default = .ok (host, port))
include h

theorem allBlank_of_split : Text.allBlank host = false := by
  obtain ⟨-, name, written, -, rfl, hne, -⟩ := split_eq_ok_iff.mp h
  rw [← Bool.not_eq_true, Text.allBlank_trim]
  exact hne

theorem ne_zero_of_split (hdefault : default ≠ 0) : port ≠ 0 := by
  obtain ⟨-, name, written, -, -, -, hport⟩ := split_eq_ok_iff.mp h
  exact portOr_ne_zero hdefault hport

/-- An endpoint without a port, or with nothing behind its colon, has the default
port. -/
theorem port_of_split {name : Text} {written : Option Text}
    (hcut : cut (Text.trim endpoint) = .ok (name, written))
    (hblank : ∀ w ∈ written, Text.allBlank w = true) : port = default := by
  obtain ⟨-, name', written', hcut', -, -, hport⟩ := split_eq_ok_iff.mp h
  rw [hcut] at hcut'
  cases hcut'
  rw [portOr_of_blank hblank] at hport
  exact (Except.ok.inj hport).symm

end Split

end Endpoint
end VpnImport
