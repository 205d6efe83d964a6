import VpnImport.Proofs.Fold
import VpnImport.Proofs.OpenVPN.Directives

/-!
# The outcome of reading a file

A scalar is what the last of its lines says, a flag holds when one of its lines
occurs, the name is the first that is announced, and remotes and blocks are listed
in the order of their lines.
-/

namespace VpnImport
namespace OpenVPN

/-! ## Fields -/

namespace Settings

theorem applyLine_directive (s : Settings) (name : Text) (args : List Text) :
    s.applyLine (.directive name args) =
      match Directive.named? name with
      | none => s
      | some d => s.applyDirective args d := by
  rw [applyLine, Reading.readLine]
  cases Directive.named? name <;> rfl

/-- A field that the last of its lines decides: a directive writes to it what its
arguments say, or a tag that opens a block. -/
structure LastWins {β : Type} (field : Settings → β)
    (byDirective : Directive → List Text → Option β) (byTag : InlineTag → Option β) : Prop where
  comment (s : Settings) (content : Text) : field (s.applyComment content) = field s
  tag (s : Settings) (tag : InlineTag) : field (s.applyTag tag) = (byTag tag).getD (field s)
  directive (s : Settings) (args : List Text) (d : Directive) :
    field (s.applyDirective args d) = (byDirective d args).getD (field s)

/-- What a line writes to such a field. -/
def written? {β : Type} (byDirective : Directive → List Text → Option β)
    (byTag : InlineTag → Option β) : Line → Option β
  | .blank => none
  | .comment _ => none
  | .opening tag => byTag tag
  | .directive name args => (Directive.named? name).bind fun d => byDirective d args

theorem LastWins.ofText {β : Type} {field : Settings → β}
    {byDirective : Directive → List Text → Option β} {byTag : InlineTag → Option β}
    (h : LastWins field byDirective byTag) (t : Text) :
    field (ofText t) =
      ((outside (Text.lines t)).filterMap fun l =>
        written? byDirective byTag (.ofText l)).getLast?.getD (field .empty) := by
  rw [ofText_eq]
  refine foldl_last_wins field _ (fun s l => ?_) Settings.empty _
  cases Line.ofText l with
  | blank => rfl
  | comment content => exact h.comment s content
  | opening tag => exact h.tag s tag
  | directive name args =>
    rw [applyLine_directive, written?]
    cases Directive.named? name with
    | none => rfl
    | some d => exact h.directive s args d

/-- A line gives arguments to one directive, or it opens one tag, or neither. -/
theorem written?_ofText {β : Type} {byDirective : Directive → List Text → Option β}
    {byTag : InlineTag → Option β}
    (reads : (Directive → Option (List Text)) → Option InlineTag → Option β)
    (hnone : reads (fun _ => none) none = none)
    (htag : ∀ tag, reads (fun _ => none) (some tag) = byTag tag)
    (hdirective : ∀ d args,
      reads (fun d' => if d = d' then some args else none) none = byDirective d args) (l : Text) :
    written? byDirective byTag (.ofText l) =
      reads (fun d => arguments? d.names l) (InlineTag.opened? (Text.trim l)) := by
  simp only [← Line.tag?_ofText, ← Line.arguments?_ofText]
  cases Line.ofText l with
  | blank => exact hnone.symm
  | comment content => exact hnone.symm
  | opening tag => exact (htag tag).symm
  | directive name args =>
    show (Directive.named? name).bind (fun d => byDirective d args) =
      reads (fun d => if Directive.named? name = some d then some args else none) none
    cases Directive.named? name with
    | none => simpa using hnone.symm
    | some d => simpa using (hdirective d args).symm

/-- A field that one directive writes to. -/
theorem ofText_of_directive {β : Type} {field : Settings → β} {d : Directive}
    {value : List Text → β} (hcomment : ∀ s content, field (applyComment s content) = field s)
    (htag : ∀ s tag, field (applyTag s tag) = field s)
    (hdirective : ∀ s args d', field (applyDirective s args d') =
      if d' = d then value args else field s) (t : Text) :
    field (ofText t) = ((uses d.names t).getLast?.map value).getD (field Settings.empty) := by
  have h : LastWins field (fun d' args => if d' = d then some (value args) else none)
      fun _ => none := by
    refine ⟨hcomment, htag, fun s args d' => ?_⟩
    rw [hdirective]
    by_cases hd : d' = d
    · rw [if_pos hd, if_pos hd]
      rfl
    · rw [if_neg hd, if_neg hd]
      rfl
  rw [h.ofText, uses, ← List.getLast?_map, List.map_filterMap]
  congr 3
  funext l
  refine written?_ofText (fun args _ => (args d).map value) rfl (fun _ => rfl) (fun d' args => ?_) l
  dsimp only
  split
  · rfl
  · rfl

/-- The scalar that a directive sets to its first argument. -/
def scalar? : Directive → Option (Settings → Option Text)
  | .port => some port
  | .cipher => some cipher
  | .dataCiphers => some dataCiphers
  | .auth => some auth
  | .dev => some dev
  | .remoteCertTls => some remoteCertTls
  | .keyDirection => some keyDirection
  | .verb => some verb
  | _ => none

theorem scalar_ofText {d : Directive} {field : Settings → Option Text} (h : scalar? d = some field)
    (t : Text) : field (ofText t) = lastArgument d.names t := by
  have hfield : field (ofText t) = ((uses d.names t).getLast?.map List.head?).getD none := by
    cases d <;> cases h <;>
      exact ofText_of_directive (fun _ _ => rfl) (fun _ _ => rfl)
        (fun _ args d' => by cases args <;> cases d' <;> rfl) t
  rw [hfield, lastArgument]
  cases (uses d.names t).getLast? <;> rfl

/-- The flag that a directive sets, whatever its arguments. -/
def flag? : Directive → Option (Settings → Bool)
  | .authUserPass => some authUserPass
  | .tlsClient => some tlsClient
  | .persistKey => some persistKey
  | .persistTun => some persistTun
  | _ => none

theorem flag_ofText {d : Directive} {field : Settings → Bool} (h : flag? d = some field)
    (t : Text) : field (ofText t) = !(uses d.names t).isEmpty := by
  have hfield : field (ofText t) = ((uses d.names t).getLast?.map fun _ => true).getD false := by
    cases d <;> cases h <;>
      exact ofText_of_directive (fun _ _ => rfl) (fun _ _ => rfl)
        (fun _ args d' => by cases args <;> cases d' <;> rfl) t
  rw [hfield]
  cases huses : uses d.names t with
  | nil => rfl
  | cons args rest => simp [List.getLast?_cons]

theorem proto_ofText (t : Text) :
    (ofText t).proto = (lastArgument ["proto"] t).map Text.lower := by
  have hfield : (ofText t).proto =
      ((uses Directive.proto.names t).getLast?.map fun args => args.head?.map Text.lower).getD
        none :=
    ofText_of_directive (fun _ _ => rfl) (fun _ _ => rfl)
      (fun _ args d' => by cases args <;> cases d' <;> rfl) t
  rw [hfield]
  show _ = ((uses Directive.proto.names t).getLast?.bind List.head?).map Text.lower
  cases (uses Directive.proto.names t).getLast? <;> rfl

theorem profileName_applyLine (s : Settings) (line : Line) :
    (s.applyLine line).profileName = s.profileName.or (line.content?.bind profileName?) := by
  cases line with
  | comment content =>
    show (s.profileName <|> profileName? content) = s.profileName.or (profileName? content)
    cases s.profileName <;> rfl
  | directive name args =>
    rw [applyLine_directive]
    cases Directive.named? name with
    | none => exact (Option.or_none).symm
    | some d => cases args <;> cases d <;> exact (Option.or_none).symm
  | blank => exact (Option.or_none).symm
  | opening tag => exact (Option.or_none).symm

theorem profileName_ofText (t : Text) : (ofText t).profileName = announcedName? t := by
  have hstep : ∀ s l, (applyLine s (.ofText l)).profileName =
      s.profileName.or ((Comment.content? l).bind profileName?) := by
    intro s l
    rw [profileName_applyLine, Line.content?_ofText]
  rw [ofText_eq, foldl_first_wins profileName _ hstep]
  exact Option.none_or

theorem remotes_applyLine (s : Settings) (line : Line) :
    (s.applyLine line).remotes.toList =
      s.remotes.toList ++ ((line.arguments? .remote).bind remote?).toList := by
  cases line with
  | directive name args =>
    rw [applyLine_directive, Line.arguments?]
    cases Directive.named? name with
    | none => simp
    | some d =>
      by_cases hd : d = .remote
      · cases args <;> simp [hd, applyDirective, remote?]
      · cases d <;> simp [applyDirective] at hd ⊢
  | blank => exact (List.append_nil _).symm
  | comment content => exact (List.append_nil _).symm
  | opening tag => exact (List.append_nil _).symm

theorem remotes_ofText (t : Text) :
    (ofText t).remotes.toList = (uses ["remote"] t).filterMap remote? := by
  have hstep : ∀ s l, (applyLine s (.ofText l)).remotes.toList =
      s.remotes.toList ++ ((arguments? ["remote"] l).bind remote?).toList := by
    intro s l
    rw [remotes_applyLine, Line.arguments?_ofText]
    rfl
  rw [ofText_eq, uses, List.filterMap_filterMap]
  exact foldl_append (fun s : Settings => s.remotes.toList) _ hstep Settings.empty _

theorem inlineBlocks_applyLine (s : Settings) (line : Line) :
    (s.applyLine line).inlineBlocks =
      match line.tag? with
      | none => s.inlineBlocks
      | some tag => if tag ∈ s.inlineBlocks then s.inlineBlocks else s.inlineBlocks ++ [tag] := by
  cases line with
  | directive name args =>
    rw [applyLine_directive]
    cases Directive.named? name with
    | none => rfl
    | some d => cases args <;> cases d <;> rfl
  | blank => rfl
  | comment content => rfl
  | opening tag => rfl

theorem inlineBlocks_ofText (t : Text) : (ofText t).inlineBlocks = openedTags t := by
  rw [ofText_eq, openedTags]
  refine foldl_distinct inlineBlocks _ (fun s l => ?_) rfl _
  rw [inlineBlocks_applyLine, Line.tag?_ofText]
  cases InlineTag.opened? (Text.trim l) <;> rfl

theorem compression_ofText (t : Text) :
    (ofText t).compression =
      ((outside (Text.lines t)).filterMap compression?).getLast?.getD false := by
  have h : LastWins compression
      (fun d args => match d with
        | .compLzo => some (!args.head?.any fun v => Text.sameLetters v "no".toList)
        | .compress => some (args.head?.any fun v => !"stub".toList.isPrefixOf (Text.lower v))
        | _ => none)
      fun _ => none :=
    ⟨fun _ _ => rfl, fun _ _ => rfl, fun _ args d => by cases args <;> cases d <;> rfl⟩
  rw [h.ofText]
  congr 3
  funext l
  refine written?_ofText
    (fun args _ =>
      ((args .compLzo).map fun args => !args.head?.any fun v => Text.sameLetters v "no".toList).or
        ((args .compress).map fun args =>
          args.head?.any fun v => !"stub".toList.isPrefixOf (Text.lower v)))
    rfl (fun _ => rfl) (fun d _ => ?_) l
  cases d <;> rfl

/-- The mode that a directive sets. -/
def modeOfDirective? : Directive → Option TlsMode
  | .tlsAuth => some .auth
  | .tlsCrypt => some .crypt
  | _ => none

/-- The mode that the opening of a block sets. -/
def modeOfTag? : InlineTag → Option TlsMode
  | .tlsAuth => some .auth
  | .tlsCrypt => some .crypt
  | _ => none

/-- The mode that a line sets by its arguments to the directives or by its tag. -/
def modeOf? (args : Directive → Option (List Text)) : Option InlineTag → Option TlsMode
  | some .tlsAuth => some .auth
  | some .tlsCrypt => some .crypt
  | _ =>
    if (args .tlsAuth).isSome then some .auth
    else if (args .tlsCrypt).isSome then some .crypt
    else none

theorem tlsMode_ofText (t : Text) :
    (ofText t).tlsMode = ((outside (Text.lines t)).filterMap tlsMode?).getLast? := by
  have h : LastWins tlsMode (fun d _ => (modeOfDirective? d).map some)
      (fun tag => (modeOfTag? tag).map some) :=
    ⟨fun _ _ => rfl, fun _ tag => by cases tag <;> rfl,
      fun _ args d => by cases args <;> cases d <;> rfl⟩
  have hlines : ∀ ls : List Text,
      (ls.filterMap tlsMode?).getLast? =
        ((ls.filterMap fun l => (tlsMode? l).map some).getLast?).getD none := by
    intro ls
    rw [← List.map_filterMap, List.getLast?_map]
    cases (ls.filterMap tlsMode?).getLast? <;> rfl
  rw [h.ofText, hlines]
  congr 3
  funext l
  refine written?_ofText (fun args tag => (modeOf? args tag).map some) rfl (fun tag => ?_)
    (fun d _ => ?_) l
  · cases tag <;> rfl
  · cases d <;> rfl

end Settings
end OpenVPN
end VpnImport
