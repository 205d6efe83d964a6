import VpnImport.Proofs.Importer.Run
import VpnImport.Proofs.OpenVPN.Blocks

/-!
# What a block hides

Of a line inside a block the reading asks only whether it closes the block.  As
long as none does, the reading stays where it is, whatever the lines say
(`Reading.run_hidden`): directives, comments, and the tags of other blocks too.
Two files that differ only inside a block give the same profile.
-/

namespace VpnImport
namespace OpenVPN

/-- Whether the lines can stand inside a block of the tag: none of them closes
it. -/
def InlineTag.Hides (tag : InlineTag) (ls : List Text) : Prop :=
  ∀ l ∈ ls, tag.closes (Text.trim l) = false

namespace Reading

theorem run_append (r : Reading) (ls ls' : List Text) :
    r.run (ls ++ ls') = (r.run ls).run ls' :=
  List.foldl_append

theorem step_hidden (s : Settings) {tag : InlineTag} {l : Text}
    (h : tag.closes (Text.trim l) = false) : step ⟨s, some tag⟩ l = ⟨s, some tag⟩ := by
  show (if tag.closes (Text.trim l) then _ else _) = _
  rw [h, if_neg Bool.false_ne_true]

theorem run_hidden (s : Settings) {tag : InlineTag} {ls : List Text} (h : tag.Hides ls) :
    run ⟨s, some tag⟩ ls = ⟨s, some tag⟩ := by
  induction ls with
  | nil => rfl
  | cons l ls ih =>
    rw [run_cons, step_hidden s (h l List.mem_cons_self)]
    exact ih fun l' hl' => h l' (List.mem_cons_of_mem l hl')

/-- The lines that a block hides can be left out. -/
theorem run_opening {r : Reading} (hr : r.block = none) {opening : Text} {tag : InlineTag}
    (hopen : InlineTag.opened? (Text.trim opening) = some tag) {content : List Text}
    (hcontent : tag.Hides content) (behind : List Text) :
    r.run (opening :: (content ++ behind)) = r.run (opening :: behind) := by
  obtain ⟨s, block⟩ := r
  obtain rfl : block = none := hr
  rw [run_cons, run_cons, step_of_opened? s hopen, run_append, run_hidden _ hcontent]

end Reading

/-- What a file sets does not depend on the lines that a block hides, be the block
closed or not. -/
theorem Settings.ofText_of_hidden {t : Text} {before content behind : List Text}
    {opening : Text} {tag : InlineTag} (hbefore : (Reading.start.run before).block = none)
    (hopen : InlineTag.opened? (Text.trim opening) = some tag) (hcontent : tag.Hides content)
    (ht : Text.lines t = before ++ opening :: (content ++ behind)) :
    ofText t = (Reading.start.run (before ++ opening :: behind)).settings := by
  rw [ofText, ht, Reading.run_append, Reading.run_opening hbefore hopen hcontent,
    Reading.run_append]

/-- Two files whose lines are the same but for those that a block hides have the
same extraction, be it a profile or an error.  If both are taken for OpenVPN and are
within the limit, they are imported alike. -/
theorem block_hides_content {t t' : Text} {before content content' behind : List Text}
    {opening : Text} {tag : InlineTag} (hbefore : (Reading.start.run before).block = none)
    (hopen : InlineTag.opened? (Text.trim opening) = some tag)
    (hcontent : tag.Hides content) (hcontent' : tag.Hides content')
    (ht : Text.lines t = before ++ opening :: (content ++ behind))
    (ht' : Text.lines t' = before ++ opening :: (content' ++ behind)) :
    extract t = extract t' ∧
      ∀ limit : Option Nat, classify t = .openVPN → classify t' = .openVPN →
        (∀ n ∈ limit, Text.byteSize t ≤ n) → (∀ n ∈ limit, Text.byteSize t' ≤ n) →
        (⟨limit, .withDefaults⟩ : Importer).importText t =
          (⟨limit, .withDefaults⟩ : Importer).importText t' := by
  have hextract : extract t = extract t' := by
    rw [extract, extract, Settings.ofText_of_hidden hbefore hopen hcontent ht,
      Settings.ofText_of_hidden hbefore hopen hcontent' ht']
  refine ⟨hextract, fun limit hkind hkind' hsize hsize' => ?_⟩
  have hknown : classify t' ≠ .unknown := by
    rw [hkind']
    decide
  refine Importer.importText_congr (hkind.trans hkind'.symm) hknown
    (Importer.exceeded?_eq_none_iff.mpr hsize) (Importer.exceeded?_eq_none_iff.mpr hsize')
    fun x hx => ?_
  rw [hkind'] at hx
  obtain rfl : Extractor.openVPN = x := Option.some.inj hx
  exact hextract

theorem block_hides_content_nested :
    let before := ["client".toList, "<ca>".toList, "x".toList, "</ca>".toList]
    let opening := " <tls-auth>".toList
    let content := ["# Profile: y".toList, "<key>".toList, "remote b 1".toList, "</ca>".toList]
    let behind := ["</TLS-Auth>".toList, "remote a 53".toList, "verb 3".toList]
    let t : Text := (before ++ opening :: (content ++ behind)).flatMap (· ++ ['\n'])
    let t' : Text := (before ++ opening :: ([] ++ behind)).flatMap (· ++ ['\n'])
    (Reading.start.run before).block = none ∧
      InlineTag.opened? (Text.trim opening) = some .tlsAuth ∧
      InlineTag.tlsAuth.Hides content ∧ InlineTag.tlsAuth.Hides [] ∧
      Text.lines t = before ++ opening :: (content ++ behind) ∧
      Text.lines t' = before ++ opening :: ([] ++ behind) ∧
      extract t = extract t' ∧ classify t = .openVPN ∧ classify t' = .openVPN ∧
      importText t = importText t' := by
  intro before opening content behind t t'
  have hbefore : (Reading.start.run before).block = none := by decide +kernel
  have hopen : InlineTag.opened? (Text.trim opening) = some .tlsAuth := by decide +kernel
  have hcontent : InlineTag.tlsAuth.Hides content := by
    unfold InlineTag.Hides
    decide +kernel
  have hnone : InlineTag.tlsAuth.Hides [] := fun l hl => absurd hl List.not_mem_nil
  have ht : Text.lines t = before ++ opening :: (content ++ behind) := by decide +kernel
  have ht' : Text.lines t' = before ++ opening :: ([] ++ behind) := by decide +kernel
  have hkind : classify t = .openVPN := by decide +kernel
  have hkind' : classify t' = .openVPN := by decide +kernel
  obtain ⟨hextract, himport⟩ := block_hides_content hbefore hopen hcontent hnone ht ht'
  have hsize : ∀ n ∈ some defaultMaxContentSize, Text.byteSize t ≤ n := by decide +kernel
  have hsize' : ∀ n ∈ some defaultMaxContentSize, Text.byteSize t' ≤ n := by decide +kernel
  exact ⟨hbefore, hopen, hcontent, hnone, ht, ht', hextract, hkind, hkind',
    himport _ hkind hkind' hsize hsize'⟩

end OpenVPN
end VpnImport
