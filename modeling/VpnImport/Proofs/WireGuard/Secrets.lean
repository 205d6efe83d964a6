import VpnImport.Proofs.Detection.Values
import VpnImport.Proofs.Importer.Run
import VpnImport.Proofs.WireGuard.Extraction

/-!
# Secrets do not influence an import

Two WireGuard texts that differ in nothing but their private and pre-shared keys
are imported alike, and the log says the same of both.  The detectors do not see
values at all, since the texts agree up to equals signs.  The extraction looks up
each parameter on its own, and a lookup sees a secret only under its own key
(`lineValue_cases`); what is then asked of the secret is whether it is given and
whether it is a placeholder, and neither tells two secrets apart.
-/

namespace VpnImport
namespace WireGuard
open Assignment (lineValue)

/-- The keys whose values are secret. -/
def secretKeys : List String := ["PrivateKey", "PresharedKey"]

/-- A value that may be used as a secret.  A private key must not be a
placeholder. -/
structure IsSecret (key : String) (value : Text) : Prop where
  shaped : isKeyShaped value = true
  real : key = "PrivateKey" → isPlaceholderKey value = false

/-- Two lines that are the same but for the secret that both assign to the same
key. -/
inductive SameButSecret : Text → Text → Prop where
  | same (line : Text) : SameButSecret line line
  | secret {key : String} {indent gap value value' : Text} (hkey : key ∈ secretKeys)
      (hindent : Text.allBlank indent = true) (hgap : Text.allBlank gap = true)
      (h : IsSecret key (Assignment.trimQuotes (Text.trim value)))
      (h' : IsSecret key (Assignment.trimQuotes (Text.trim value'))) :
      SameButSecret (Assignment.line indent key.toList gap value)
        (Assignment.line indent key.toList gap value')

/-- Two values that a lookup of `key` gives: the same, or two secrets. -/
def SameOrSecret (key : String) (value value' : Text) : Prop :=
  value = value' ∨ key ∈ secretKeys ∧ IsSecret key value ∧ IsSecret key value'

theorem isKey_of_mem_secretKeys {key : String} (h : key ∈ secretKeys) :
    Assignment.IsKey key.toList :=
  isKey_of_mem ((by decide : ∀ k ∈ secretKeys, k ∈ keywordSet.keywords) key h)

/-! ## Lines -/

/-- A line with a secret is no comment. -/
theorem content?_line {key : String} (hkey : key ∈ secretKeys) {indent gap value : Text}
    (hindent : Text.allBlank indent = true) :
    Comment.content? (Assignment.line indent key.toList gap value) = none := by
  have hmark : key.toList.head?.any Comment.isMark = false :=
    (by decide : ∀ k ∈ secretKeys, k.toList.head?.any Comment.isMark = false) key hkey
  obtain ⟨c, s, hc, -⟩ := (isKey_of_mem_secretKeys hkey).exists_cons
  rw [Comment.content?, Text.head?_trim, (isKey_of_mem_secretKeys hkey).trimStart_line hindent]
  rw [hc] at hmark ⊢
  exact if_neg (by simpa using hmark)

section Lines
variable {l l' : Text} (h : SameButSecret l l')
include h

theorem SameButSecret.upToEquals : UpToEquals l l' := by
  cases h with
  | same => exact .refl _
  | secret =>
    rw [Assignment.line_eq, Assignment.line_eq]
    exact .equals _ _ _

theorem SameButSecret.content? : Comment.content? l = Comment.content? l' := by
  cases h with
  | same => rfl
  | secret hkey hindent =>
    rw [content?_line hkey hindent, content?_line hkey hindent]

theorem SameButSecret.valueOf? {key : String} (hkey : Assignment.IsKey key.toList) :
    Option.Rel (fun v v' => SameOrSecret key (Assignment.trimQuotes (Text.trim v))
        (Assignment.trimQuotes (Text.trim v')))
      (Assignment.valueOf? (· == ·) key.toList l) (Assignment.valueOf? (· == ·) key.toList l') := by
  cases h with
  | same =>
    cases Assignment.valueOf? (· == ·) key.toList l with
    | none => exact .none
    | some v => exact .some (.inl rfl)
  | @secret key' indent gap value value' hsecret hindent hgap h h' =>
    have hkey' := isKey_of_mem_secretKeys hsecret
    rw [Assignment.valueOf?_line hkey hkey' hindent hgap,
      Assignment.valueOf?_line hkey hkey' hindent hgap]
    split
    · rename_i heq
      obtain rfl : key' = key := String.toList_inj.mp heq.1
      exact .some (.inr ⟨hsecret, h, h'⟩)
    · exact .none

end Lines

/-! ## Lookups -/

/-- A lookup gives the same in both texts, unless it is for a secret. -/
theorem lineValue_cases {b b' : Text} {key : String} (hkey : Assignment.IsKey key.toList)
    (h : List.Forall₂ SameButSecret (Text.lines b) (Text.lines b')) :
    SameOrSecret key (lineValue b key.toList) (lineValue b' key.toList) := by
  have hrel := findSome?_of_forall₂ h fun _ _ hl => SameButSecret.valueOf? hl hkey
  rw [lineValue, lineValue, Assignment.firstValue?, Assignment.firstValue?]
  revert hrel
  generalize (Text.lines b).findSome? (Assignment.valueOf? (· == ·) key.toList) = x
  generalize (Text.lines b').findSome? (Assignment.valueOf? (· == ·) key.toList) = x'
  intro hrel
  cases hrel with
  | none => exact .inl rfl
  | some hv => exact hv

theorem lineValue_eq {b b' : Text} {key : String} (hkey : Assignment.IsKey key.toList)
    (hpublic : key ∉ secretKeys)
    (h : List.Forall₂ SameButSecret (Text.lines b) (Text.lines b')) :
    lineValue b key.toList = lineValue b' key.toList := by
  rcases lineValue_cases hkey h with heq | ⟨hsecret, -⟩
  · exact heq
  · exact absurd hsecret hpublic

/-- The private key is refused for the same reason in both sections, or it is
taken in both. -/
theorem requiredKey_cases {b b' : Text} (part : String)
    (h : List.Forall₂ SameButSecret (Text.lines b) (Text.lines b')) :
    requiredKey b "PrivateKey" part = requiredKey b' "PrivateKey" part ∨
      ∃ k k', requiredKey b "PrivateKey" part = .ok k ∧
        requiredKey b' "PrivateKey" part = .ok k' := by
  have hcases : SameOrSecret "PrivateKey" (lineValue b "PrivateKey".toList)
      (lineValue b' "PrivateKey".toList) := lineValue_cases (isKey_of_mem (by decide)) h
  rcases hcases with heq | ⟨-, hs, hs'⟩
  · rw [requiredKey, requiredKey, heq]
    exact .inl rfl
  · exact .inr ⟨_, _,
      requiredKey_eq_ok_iff.mpr ⟨rfl, ne_nil_of_isKeyShaped hs.shaped, hs.real rfl⟩,
      requiredKey_eq_ok_iff.mpr ⟨rfl, ne_nil_of_isKeyShaped hs'.shaped, hs'.real rfl⟩⟩

/-! ## The extraction -/

/-- Two pairs of sections whose lines are the same but for secrets. -/
structure SectionsAlike (s s' : Sections) : Prop where
  interface : List.Forall₂ SameButSecret (Text.lines s.interface) (Text.lines s'.interface)
  peer : List.Forall₂ SameButSecret (Text.lines s.peer) (Text.lines s'.peer)

section Sections
variable {s s' : Sections} (h : SectionsAlike s s')
include h

theorem endpoint_eq : endpoint s.peer = endpoint s'.peer := by
  rw [endpoint, endpoint, lineValue_eq (isKey_of_mem (by decide)) (by decide) h.peer]

theorem read_eq {p : Parameter} (hp : p ∈ parameters) : p.read s = p.read s' := by
  have hkeys : ∀ p ∈ parameters, p.key ∈ keywordSet.keywords ∧ p.key ∉ secretKeys := by decide
  have hlines : List.Forall₂ SameButSecret (Text.lines (p.source s))
      (Text.lines (p.source s')) := by
    rcases source_cases hp with heq | heq
    · rw [heq]
      exact h.interface
    · rw [heq]
      exact h.peer
  rw [Parameter.read, Parameter.read,
    lineValue_eq (isKey_of_mem (hkeys p hp).1) (hkeys p hp).2 hlines]

theorem shared_eq :
    (lineValue s.peer "PresharedKey".toList).isEmpty =
      (lineValue s'.peer "PresharedKey".toList).isEmpty := by
  have hcases : SameOrSecret "PresharedKey" (lineValue s.peer "PresharedKey".toList)
      (lineValue s'.peer "PresharedKey".toList) :=
    lineValue_cases (isKey_of_mem (by decide)) h.peer
  rcases hcases with heq | ⟨-, hs, hs'⟩
  · rw [heq]
  · rw [List.isEmpty_eq_false_iff.mpr (ne_nil_of_isKeyShaped hs.shaped),
      List.isEmpty_eq_false_iff.mpr (ne_nil_of_isKeyShaped hs'.shaped)]

theorem draw_eq (comment : Option Text) (peers : Nat) :
    draw comment peers s = draw comment peers s' := by
  have hpublic : requiredKey s.peer "PublicKey" "[Peer]" =
      requiredKey s'.peer "PublicKey" "[Peer]" := by
    rw [requiredKey, requiredKey, lineValue_eq (isKey_of_mem (by decide)) (by decide) h.peer]
  have hfields : parameters.mapM (·.read s) = parameters.mapM (·.read s') :=
    mapM_congr fun p hp => read_eq h hp
  rw [draw, draw, endpoint_eq h, hpublic, hfields, shared_eq h]
  rcases requiredKey_cases "[Interface]" h.interface with heq | ⟨k, k', hk, hk'⟩
  · rw [heq]
  · -- The key that is read is thrown away, so it does not matter which one it is.
    rw [hk, hk']
    rfl

end Sections

theorem sections_of_hasSections {t : Text} (h : hasSections t = true) :
    ∃ s, sections t = .ok s := by
  rw [hasSections_iff, ← Section.isSome_body?, ← Section.isSome_body?, Option.isSome_iff_exists,
    Option.isSome_iff_exists] at h
  obtain ⟨⟨interface, hinterface⟩, ⟨peer, hpeer⟩⟩ := h
  exact ⟨⟨interface, peer⟩, sections_eq_ok_iff.mpr ⟨hinterface, hpeer⟩⟩

section Texts
variable {t t' : Text} (h : List.Forall₂ SameButSecret (Text.lines t) (Text.lines t'))
include h

theorem alikeUpToEquals : AlikeUpToEquals t t' :=
  h.imp fun _ _ => SameButSecret.upToEquals

theorem firstUsable?_eq : Comment.firstUsable? t = Comment.firstUsable? t' := by
  rw [Comment.firstUsable?, Comment.firstUsable?,
    filterMap_eq_of_forall₂ h fun _ _ => SameButSecret.content?]

theorem count_eq : Section.count t peerHeader = Section.count t' peerHeader := by
  have hmap := map_eq_of_forall₂ h fun _ _ hl =>
    Section.isHeader_eq_of_related (fun _ _ => SameButSecret.upToEquals)
      (by decide : '=' ∉ peerHeader) hl
  simpa [Section.count, List.countP_map] using congrArg (List.countP id) hmap

theorem extract_eq_of_sections (hs : hasSections t = true) (hs' : hasSections t' = true) :
    extract t = extract t' := by
  obtain ⟨s, hsections⟩ := sections_of_hasSections hs
  obtain ⟨s', hsections'⟩ := sections_of_hasSections hs'
  obtain ⟨hinterface, hpeer⟩ := sections_eq_ok_iff.mp hsections
  obtain ⟨hinterface', hpeer'⟩ := sections_eq_ok_iff.mp hsections'
  have halike : SectionsAlike s s' := by
    constructor
    · exact Section.lines_body?_of_forall₂ (fun _ _ => SameButSecret.upToEquals) (by decide) h
        hinterface hinterface'
    · exact Section.lines_body?_of_forall₂ (fun _ _ => SameButSecret.upToEquals) (by decide) h
        hpeer hpeer'
  rw [extract_eq, extract_eq, hsections, hsections', firstUsable?_eq h, count_eq h]
  exact draw_eq halike _ _

end Texts

/-! ## The import -/

/-- Two WireGuard texts within the limit whose lines are the same but for secrets
have the same result, be it a profile or an error, and leave the same events in
the log at each level. -/
theorem secrets_not_observed (limit : Option Nat) {t t' : Text}
    (h : List.Forall₂ SameButSecret (Text.lines t) (Text.lines t'))
    (hkind : classify t = .wireGuard) (hkind' : classify t' = .wireGuard)
    (hsize : ∀ n ∈ limit, Text.byteSize t ≤ n) (hsize' : ∀ n ∈ limit, Text.byteSize t' ≤ n) :
    let m : Importer := ⟨limit, .withDefaults⟩
    m.importText t = m.importText t' ∧
      ∀ level, Log.record level (m.events t) = Log.record level (m.events t') := by
  intro m
  have halike : AlikeUpToEquals t t' := alikeUpToEquals h
  have hsections := Detector.gate_of_detects (Classification.detects_wireGuard_iff.mpr hkind)
  have hsections' := Detector.gate_of_detects (Classification.detects_wireGuard_iff.mpr hkind')
  have hreport : Classification.report t = Classification.report t' :=
    Classification.report_eq halike hkind hkind'
  have hget : m.extractors.get? (Classification.report t').kind = some .wireGuard := by
    rw [show (Classification.report t').kind = .wireGuard from hkind']
    rfl
  have hrun : m.run t = m.run t' := by
    rw [Importer.run_eq_dispatch (not_allBlank_of_hasSections hsections)
        (Importer.exceeded?_eq_none_iff.mpr hsize),
      Importer.run_eq_dispatch (not_allBlank_of_hasSections hsections')
        (Importer.exceeded?_eq_none_iff.mpr hsize'),
      hreport, Classification.ofClassification_eq halike hkind hkind']
    exact Importer.dispatch_congr hget (extract_eq_of_sections h hsections hsections') _
  refine ⟨congrArg Importer.Run.result hrun, fun level => ?_⟩
  rw [Importer.events, Importer.events, hrun]

theorem secrets_not_observed_two_keys :
    let t : Text :=
      "[Interface]\nPrivateKey = a\n[Peer]\nPublicKey = k\nEndpoint = h\nPresharedKey=x".toList
    let t' : Text :=
      "[Interface]\nPrivateKey = b\n[Peer]\nPublicKey = k\nEndpoint = h\nPresharedKey=yz".toList
    List.Forall₂ SameButSecret (Text.lines t) (Text.lines t') ∧
      classify t = .wireGuard ∧ classify t' = .wireGuard ∧
      importText t = importText t' ∧
      ∀ level, Log.record level (Importer.default.events t) =
        Log.record level (Importer.default.events t') := by
  intro t t'
  have hprivate : SameButSecret (Assignment.line [] "PrivateKey".toList " ".toList " a".toList)
      (Assignment.line [] "PrivateKey".toList " ".toList " b".toList) :=
    .secret (by decide) (by decide) (by decide) ⟨by decide, by decide⟩ ⟨by decide, by decide⟩
  have hshared : SameButSecret (Assignment.line [] "PresharedKey".toList [] "x".toList)
      (Assignment.line [] "PresharedKey".toList [] "yz".toList) :=
    .secret (by decide) (by decide) (by decide) ⟨by decide, by decide⟩ ⟨by decide, by decide⟩
  have h : List.Forall₂ SameButSecret (Text.lines t) (Text.lines t') := by
    have hlines : Text.lines t =
        ["[Interface]".toList, Assignment.line [] "PrivateKey".toList " ".toList " a".toList,
          "[Peer]".toList, "PublicKey = k".toList, "Endpoint = h".toList,
          Assignment.line [] "PresharedKey".toList [] "x".toList] := by decide +kernel
    have hlines' : Text.lines t' =
        ["[Interface]".toList, Assignment.line [] "PrivateKey".toList " ".toList " b".toList,
          "[Peer]".toList, "PublicKey = k".toList, "Endpoint = h".toList,
          Assignment.line [] "PresharedKey".toList [] "yz".toList] := by decide +kernel
    rw [hlines, hlines']
    exact .cons (.same _) (.cons hprivate (.cons (.same _) (.cons (.same _) (.cons (.same _)
      (.cons hshared .nil)))))
  have hkind : classify t = .wireGuard := by decide +kernel
  have hkind' : classify t' = .wireGuard := by decide +kernel
  have hsize : ∀ n ∈ some defaultMaxContentSize, Text.byteSize t ≤ n := by decide +kernel
  have hsize' : ∀ n ∈ some defaultMaxContentSize, Text.byteSize t' ≤ n := by decide +kernel
  exact ⟨h, hkind, hkind',
    secrets_not_observed (some defaultMaxContentSize) h hkind hkind' hsize hsize'⟩

end WireGuard
end VpnImport
