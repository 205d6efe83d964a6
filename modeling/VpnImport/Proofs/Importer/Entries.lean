import VpnImport.Proofs.Importer.Run
import VpnImport.Proofs.Profile
import VpnImport.Proofs.Registry

/-!
# Imports with any extractors

An importer asks one extractor, the one registered for the kind that the text is
found to have, and does not trust it: a profile has to be usable, and it gets the
kind of the text whatever kind the extractor gave it.  No other entry of the
registry is looked at (`run_congr_entry`).
-/

namespace VpnImport
namespace Importer

/-- Two registries with the same entry for the kind of a text, or a text of no
kind. -/
theorem run_congr_entry (limit : Option Nat) {r r' : Registry} {t : Text}
    (h : classify t ≠ .unknown → r.get? (classify t) = r'.get? (classify t)) :
    (⟨limit, r⟩ : Importer).run t = (⟨limit, r'⟩ : Importer).run t := by
  have hdispatch : ∀ events, (⟨limit, r⟩ : Importer).dispatch t (Classification.report t) events =
      (⟨limit, r'⟩ : Importer).dispatch t (Classification.report t) events := by
    intro events
    rw [dispatch, dispatch, Classification.status_eq]
    by_cases hkind : (Classification.report t).kind = .unknown
    · rw [if_pos hkind]
    · rw [if_neg hkind]
      dsimp only
      rw [show r.get? (Classification.report t).kind = r'.get? (Classification.report t).kind from
        h hkind]
  rw [run, run, hdispatch]
  rfl

section Results
variable {m : Importer} {t : Text}

/-- What is delivered is usable, and it is the extractor's but for the kind. -/
theorem of_importText_ok {p : Profile} (h : m.importText t = .ok p) :
    classify t = p.kind ∧ p.kind ≠ .unknown ∧ Text.allBlank p.server.toList = false ∧
      p.port ≠ 0 ∧ ∃ x q, m.extractors.get? p.kind = some x ∧ x.extract t = .ok q ∧
        p = { q with kind := p.kind } := by
  obtain ⟨-, -, hkind, x, q, hget, hextract, hpayload, rfl⟩ := importText_eq_ok_iff.mp h
  obtain ⟨hserver, hport, -⟩ := Profile.hasPayload_iff.mp hpayload
  exact ⟨rfl, hkind, hserver, hport, x, q, hget, hextract, rfl⟩

/-- An error that names a kind names the kind of the text. -/
theorem kind_of_importText_error {e : ImportError} {k : Protocol} (h : m.importText t = .error e)
    (hk : e.protocol? = some k) : classify t = k := by
  cases fails_of_importText h with
  | empty | tooLarge | unidentified => contradiction
  | unsupported | rejected | unusable => exact Option.some.inj hk

theorem kind_of_unidentified (h : m.importText t = .error .unidentified) :
    classify t = .unknown := by
  cases fails_of_importText h with
  | unidentified hkind => exact hkind

end Results

end Importer

namespace Registry

/-- In a registry that changes have led to, the entry of a kind is the extractor
registered last for it and not unregistered since.  An importer with the registry
delivers usable profiles only, names no kind but that of the text, and looks at no
entry but the one for that kind. -/
theorem reached_contract {cs : List Change} {r : Registry} (h : Reached cs r) :
    (∀ p x, r.get? p = some x ↔ Standing cs p x) ∧
    r.protocols.Pairwise (fun p q => p.rank < q.rank) ∧
    (∀ p, p ∈ r.protocols ↔ ∃ x, Standing cs p x) ∧
    (r.isEmpty = true ↔ r.protocols = []) ∧
    (r.isEmpty = true ↔ ∀ p x, ¬ Standing cs p x) ∧
    ∀ (limit : Option Nat) (t : Text),
      (∀ p, (⟨limit, r⟩ : Importer).importText t = .ok p →
        classify t = p.kind ∧ p.kind ≠ .unknown ∧ Text.allBlank p.server.toList = false ∧
          p.port ≠ 0 ∧ ∃ x q, Standing cs p.kind x ∧ x.extract t = .ok q ∧
            p = { q with kind := p.kind }) ∧
      (∀ e k, (⟨limit, r⟩ : Importer).importText t = .error e → e.protocol? = some k →
        classify t = k) ∧
      ((⟨limit, r⟩ : Importer).importText t = .error .unidentified → classify t = .unknown) ∧
      ∀ r' : Registry, (classify t ≠ .unknown → r.get? (classify t) = r'.get? (classify t)) →
        (⟨limit, r⟩ : Importer).importText t = (⟨limit, r'⟩ : Importer).importText t := by
  refine ⟨fun p x => h.get?_eq_some_iff, pairwise_protocols r, fun p => h.mem_protocols,
    List.isEmpty_iff, h.isEmpty_iff,
    fun limit t => ⟨fun p hp => ?_, fun e k he => ?_, ?_, fun r' hr' => ?_⟩⟩
  · obtain ⟨hkind, hknown, hserver, hport, x, q, hget, hextract, heq⟩ :=
      Importer.of_importText_ok hp
    exact ⟨hkind, hknown, hserver, hport, x, q, h.get?_eq_some_iff.mp hget, hextract, heq⟩
  · exact Importer.kind_of_importText_error he
  · exact Importer.kind_of_unidentified
  · exact congrArg Importer.Run.result (Importer.run_congr_entry limit hr')

/-- An extractor that gives its profiles a kind of its own, and a kind that has
lost its extractor. -/
theorem reached_contract_wrong_kind :
    let x : Extractor := .custom "Other" .openVPN fun _ => .ok (.start .ikev2 "h" .eap)
    let cs := builtins ++ [.register x] ++ [.unregister .ikev2]
    let r := (withDefaults.change (.register x)).change (.unregister .ikev2)
    let t := "client\nremote a\nproto udp\n".toList
    Reached cs r ∧ Standing cs .openVPN x ∧ (¬ ∃ x, Standing cs .ikev2 x) ∧
      ∃ p, (⟨none, r⟩ : Importer).importText t = .ok p ∧ classify t = p.kind ∧
        p.kind = .openVPN := by
  intro x cs r t
  have h : Reached cs r := .change _ (.change _ .withDefaults)
  obtain ⟨hget, -, hmem, -, -, himport⟩ := reached_contract h
  obtain ⟨hok, -⟩ := himport none t
  have hresult : (⟨none, r⟩ : Importer).importText t =
      .ok { Profile.start .ikev2 "h" .eap with kind := .openVPN } := by decide +kernel
  obtain ⟨hkind, -⟩ := hok _ hresult
  have hgone : Protocol.ikev2 ∉ r.protocols := by decide
  exact ⟨h, (hget .openVPN x).mp rfl, fun hx => hgone ((hmem .ikev2).mpr hx), _, hresult, hkind,
    rfl⟩

end Registry
end VpnImport
