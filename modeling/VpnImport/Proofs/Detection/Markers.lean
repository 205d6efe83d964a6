import VpnImport.Detection.Foreign
import VpnImport.Proofs.Assignment
import VpnImport.Proofs.Section
import VpnImport.Proofs.Text.Lower

/-!
# Strong markers persist

Every marker is a line of a certain shape or a fragment that occurs somewhere.
None of the shapes sees a carriage return at the end of a line, so putting
further lines before or behind a text takes no marker from it.  A blank text has
no markers.
-/

namespace VpnImport

namespace WireGuard

theorem hasSections_iff {t : Text} :
    hasSections t = true ↔
      (Text.lines t).any (Section.isHeader interfaceHeader) = true ∧
        (Text.lines t).any (Section.isHeader peerHeader) = true := by
  rw [← Bool.and_eq_true]
  rfl

theorem hasSections_mono {t s : Text} (h : Text.Extends t s) (ht : hasSections t = true) :
    hasSections s = true := by
  obtain ⟨hi, hp⟩ := hasSections_iff.mp ht
  exact hasSections_iff.mpr
    ⟨h.any_lines (Section.isHeader_return _) hi, h.any_lines (Section.isHeader_return _) hp⟩

theorem not_allBlank_of_hasSections {t : Text} (h : hasSections t = true) :
    Text.allBlank t = false := by
  refine Text.not_allBlank_of_any_lines (fun line hline => ?_) (hasSections_iff.mp h).1
  rw [← Bool.not_eq_true]
  intro hblank
  have htrim : Text.trim line = interfaceHeader := eq_of_beq hline
  rw [Text.trim_eq_nil_iff.mpr hblank] at htrim
  exact absurd htrim (by decide)

end WireGuard

namespace IKEv2

theorem keyExchange?_return (row : Text) :
    keyExchange? (row ++ ['\r']) = (keyExchange? row).map (· ++ ['\r']) := by
  rw [keyExchange?, keyExchange?, Assignment.valueOf?_return (by decide)]
  cases Assignment.valueOf? (· == ·) "keyexchange".toList row with
  | none => rfl
  | some value => exact congrArg some (Text.skipPads_append_cons (by decide) value [])

theorem declaresVersion2_return (row : Text) :
    declaresVersion2 (row ++ ['\r']) = declaresVersion2 row := by
  rw [declaresVersion2, declaresVersion2, keyExchange?_return]
  cases keyExchange? row with
  | none => rfl
  | some value => exact LineShape.startsWithWord_return (by decide) value

theorem hasMarkers_mono {t s : Text} (h : Text.Extends t s) (ht : hasMarkers t = true) :
    hasMarkers s = true := by
  rw [hasMarkers, Bool.and_eq_true] at ht ⊢
  exact ⟨h.any_lines (LineShape.hasArgument_return (by decide)) ht.1,
    h.any_lines declaresVersion2_return ht.2⟩

theorem not_allBlank_of_hasMarkers {t : Text} (h : hasMarkers t = true) :
    Text.allBlank t = false := by
  rw [hasMarkers, Bool.and_eq_true] at h
  exact Text.not_allBlank_of_any_lines (fun _ => LineShape.not_allBlank_of_hasArgument) h.1

end IKEv2

namespace OpenVPN
variable {t s : Text}

theorem isMode_congr {l l' : Text}
    (h : ∀ w ∈ modeCommands, LineShape.isCommand w.toList l = LineShape.isCommand w.toList l') :
    (modeCommands.any fun w => LineShape.isCommand w.toList l) =
      modeCommands.any fun w => LineShape.isCommand w.toList l' := by
  rw [Bool.eq_iff_iff, List.any_eq_true, List.any_eq_true]
  refine exists_congr fun w => and_congr_right fun hw => ?_
  rw [h w hw]

theorem isMode_return (row : Text) :
    (modeCommands.any fun w => LineShape.isCommand w.toList (row ++ ['\r'])) =
      modeCommands.any fun w => LineShape.isCommand w.toList row := by
  have hfree : ∀ w ∈ modeCommands, '\r' ∉ w.toList := by decide
  exact isMode_congr fun w hw => LineShape.isCommand_return (hfree w hw) row

theorem isMode_equals (a t t' : Text) :
    (modeCommands.any fun w => LineShape.isCommand w.toList (a ++ '=' :: t)) =
      modeCommands.any fun w => LineShape.isCommand w.toList (a ++ '=' :: t') := by
  have hfree : ∀ w ∈ modeCommands, '=' ∉ w.toList := by decide
  exact isMode_congr fun w hw => LineShape.isCommand_equals (hfree w hw) a t t'

theorem hasInlineBlock_mono (h : Text.Extends t s) (ht : hasInlineBlock t = true) :
    hasInlineBlock s = true := by
  rw [hasInlineBlock, List.any_eq_true] at ht ⊢
  obtain ⟨tag, htag, hocc⟩ := ht
  exact ⟨tag, htag, h.occurs hocc⟩

theorem hasFragments_mono (h : Text.Extends t s) (ht : hasFragments t = true) :
    hasFragments s = true := by
  rw [hasFragments, List.all_eq_true] at ht ⊢
  exact fun f hf => h.occurs (ht f hf)

theorem hasMarkers_mono (h : Text.Extends t s) (ht : hasMarkers t = true) :
    hasMarkers s = true := by
  have hremote : hasRemote t = true → hasRemote s = true :=
    h.any_lines (LineShape.hasArgument_return (by decide))
  have hmode : hasMode t = true → hasMode s = true := h.any_lines isMode_return
  have hcipher : hasCipher t = true → hasCipher s = true :=
    h.any_lines (LineShape.hasArgument_return (by decide))
  rw [hasMarkers, Bool.or_eq_true, Bool.and_eq_true, Bool.or_eq_true] at ht ⊢
  rcases ht with ⟨hr, hm | hc⟩ | hb
  · exact .inl ⟨hremote hr, .inl (hmode hm)⟩
  · exact .inl ⟨hremote hr, .inr (hcipher hc)⟩
  · exact .inr (hasInlineBlock_mono h hb)

theorem not_allBlank_of_hasMarkers (h : hasMarkers t = true) : Text.allBlank t = false := by
  rw [hasMarkers, Bool.or_eq_true, Bool.and_eq_true] at h
  rcases h with ⟨hr, -⟩ | hb
  · exact Text.not_allBlank_of_any_lines (fun _ => LineShape.not_allBlank_of_hasArgument) hr
  · -- every tag begins with an angle bracket, which is then a character of the text
    rw [hasInlineBlock, List.any_eq_true] at hb
    obtain ⟨tag, htag, hocc⟩ := hb
    have hbracket : '<' ∈ tag.toList := by
      have hall : ∀ tag ∈ markerTags, '<' ∈ tag.toList := by decide
      exact hall tag htag
    have hmem : '<' ∈ t := (Text.occurs_iff_isInfix.mp hocc).subset hbracket
    rw [← Bool.not_eq_true]
    intro hblank
    exact absurd (Text.allBlank_iff.mp hblank '<' hmem) (by decide)

end OpenVPN
end VpnImport
