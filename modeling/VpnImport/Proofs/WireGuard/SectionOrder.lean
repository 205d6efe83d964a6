import VpnImport.Proofs.Importer.Run
import VpnImport.Proofs.Layout.Detection
import VpnImport.Proofs.Section.Blocks
import VpnImport.Proofs.WireGuard.Extraction

/-!
# The order of the sections

What is read for WireGuard is read in a section or counted over the lines, so a document
whose sections have different headers can be put in another order: `section_order_irrelevant`.
The other dialects read a whole text and go by what stands first in it, whether or not
there are headers in between, so their imports depend on the order:
`importText_sections_swapped`.
-/

namespace VpnImport
open Section (Block Document Reordered)

namespace Section.Reordered
variable {d d' : Document} (h : Reordered d d')
include h

theorem sameLines : Text.SameLines d.text d'.text :=
  Text.sameLines_of_lines fun _ => h.perm_lines.mem_iff

theorem privateKey_eq : WireGuard.privateKey d.text = WireGuard.privateKey d'.text := by
  rw [WireGuard.privateKey, WireGuard.privateKey, h.body?_eq rfl]

theorem sections_eq : WireGuard.sections d.text = WireGuard.sections d'.text := by
  rw [WireGuard.sections, WireGuard.sections, h.body?_eq rfl, h.body?_eq rfl]

theorem report_eq : Classification.report d.text = Classification.report d'.text :=
  h.sameLines.report_eq h.privateKey_eq

theorem extract_eq (hcomment : Comment.firstUsable? d.text = Comment.firstUsable? d'.text) :
    WireGuard.extract d.text = WireGuard.extract d'.text := by
  rw [WireGuard.extract_eq, WireGuard.extract_eq, h.sections_eq, hcomment, h.count_eq]

end Section.Reordered

/-- The extractor of WireGuard, its detector and the classification do not depend on the
order of the sections, and neither does the import of a text that is not taken for OpenVPN
or IKEv2. -/
theorem section_order_irrelevant {d d' : Document} (h : Reordered d d')
    (hcomment : Comment.firstUsable? d.text = Comment.firstUsable? d'.text) :
    WireGuard.extract d.text = WireGuard.extract d'.text ∧
      WireGuard.detector.outcome d.text = WireGuard.detector.outcome d'.text ∧
      Classification.report d.text = Classification.report d'.text ∧
      (classify d.text ≠ .openVPN → classify d.text ≠ .ikev2 →
        importText d.text = importText d'.text) := by
  have hextract := h.extract_eq hcomment
  have hkind : classify d.text = classify d'.text := congrArg Report.kind h.report_eq
  have hsize := Text.byteSize_eq_of_perm h.perm_text
  refine ⟨hextract, ?_, h.report_eq, fun hopenVPN hikev2 => ?_⟩
  · rw [Detector.outcome, Detector.outcome, h.sameLines.examine_wireGuard_eq h.privateKey_eq]
  · cases hwhich : classify d.text with
    | openVPN => exact absurd hwhich hopenVPN
    | ikev2 => exact absurd hwhich hikev2
    | unknown =>
      exact Importer.importText_eq_of_unknown (Text.allBlank_eq_of_perm h.perm_text) hsize hwhich
        (hkind ▸ hwhich)
    | wireGuard =>
      have hwireGuard : classify d'.text = .wireGuard := hkind ▸ hwhich
      refine Importer.importText_congr_of_size hkind (by rw [hwireGuard]; decide) hsize
        fun x hget => ?_
      rw [hwireGuard] at hget
      obtain rfl : Extractor.wireGuard = x := Option.some.inj hget
      exact hextract

/-- A name for the profile, then the peer before the interface. -/
def peerFirst : Document :=
  ⟨["# home\r".toList, []],
    [⟨"[Peer] ".toList, ["PublicKey = def=".toList, "Endpoint = vpn.example.com:51820".toList],
        by decide, by decide, by decide⟩,
      ⟨"[Interface]".toList, [" # me".toList, "PrivateKey = abc=".toList], by decide, by decide,
        by decide⟩],
    by decide, by decide⟩

theorem section_order_irrelevant_peer_first :
    Reordered peerFirst peerFirst.reverse ∧
      Comment.firstUsable? peerFirst.text = Comment.firstUsable? peerFirst.reverse.text ∧
      classify peerFirst.text ≠ .openVPN ∧ classify peerFirst.text ≠ .ikev2 ∧
      importText peerFirst.text = importText peerFirst.reverse.text ∧
      (importText peerFirst.text).toOption.map (·.name) = some "home" := by
  have hreordered : Reordered peerFirst peerFirst.reverse := Section.reordered_reverse (by decide)
  have hcomment : Comment.firstUsable? peerFirst.text =
      Comment.firstUsable? peerFirst.reverse.text := by
    decide +kernel
  have hkind : classify peerFirst.text = .wireGuard := by decide +kernel
  have hopenVPN : classify peerFirst.text ≠ .openVPN := by rw [hkind]; decide
  have hikev2 : classify peerFirst.text ≠ .ikev2 := by rw [hkind]; decide
  exact ⟨hreordered, hcomment, hopenVPN, hikev2,
    (section_order_irrelevant hreordered hcomment).2.2.2 hopenVPN hikev2, by decide +kernel⟩

/-- An import of the document in its order differs from one in the reverse order, though
the headers are different and the comment that may name the profile is the same. -/
def OrderMatters (d : Document) : Prop :=
  Reordered d d.reverse ∧ Comment.firstUsable? d.text = Comment.firstUsable? d.reverse.text ∧
    Text.byteSize d.text ≤ defaultMaxContentSize ∧ importText d.text ≠ importText d.reverse.text

/-- Directives of OpenVPN behind headers, a remote behind each. -/
def remotes : Document :=
  ⟨[], [⟨"[b]".toList, ["remote y 2".toList], by decide, by decide, by decide⟩,
      ⟨"[a]".toList, ["client".toList, "dev tun".toList, "remote x 1".toList], by decide,
        by decide, by decide⟩],
    by decide, by decide⟩

/-- Parameters of IKEv2 behind headers, a right side behind each. -/
def rights : Document :=
  ⟨[], [⟨"[b]".toList, ["right=y".toList], by decide, by decide, by decide⟩,
      ⟨"[a]".toList, ["conn home".toList, "keyexchange=ikev2".toList, "right=x".toList],
        by decide, by decide, by decide⟩],
    by decide, by decide⟩

theorem importText_ne_of_server {t t' : Text} {server server' : String}
    (h : (importText t).toOption.map (·.server) = some server)
    (h' : (importText t').toOption.map (·.server) = some server') (hne : server ≠ server') :
    importText t ≠ importText t' := by
  intro heq
  rw [heq, h', Option.some_inj] at h
  exact hne h.symm

/-- The first remote is the server for OpenVPN and the first right side for IKEv2, in
whatever section it stands. -/
theorem importText_sections_swapped : OrderMatters remotes ∧ OrderMatters rights := by
  have hremotes : importText remotes.text ≠ importText remotes.reverse.text :=
    importText_ne_of_server (show _ = some "y" by decide +kernel)
      (show _ = some "x" by decide +kernel) (by decide)
  have hrights : importText rights.text ≠ importText rights.reverse.text :=
    importText_ne_of_server (show _ = some "y" by decide +kernel)
      (show _ = some "x" by decide +kernel) (by decide)
  exact ⟨⟨Section.reordered_reverse (by decide), by decide +kernel, by decide +kernel, hremotes⟩,
    Section.reordered_reverse (by decide), by decide +kernel, by decide +kernel, hrights⟩

end VpnImport
