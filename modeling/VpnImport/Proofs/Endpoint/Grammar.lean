import VpnImport.Proofs.Endpoint
import VpnImport.Proofs.Text.Letters

/-!
# The grammar of endpoints

An endpoint is cut in one of four ways, or it is not cut at all: `cuts_cut`.  A host
in brackets goes up to the first closing bracket and any other host up to the last
colon, so a host that is written with its port is read back whatever other colons it
holds.  `extract_render_exact` says so in both directions, and which texts are no
endpoints.
-/

namespace VpnImport
namespace Endpoint

/-! ## The cut -/

/-- The ways to cut a text into a host and a port, and the ways to fail. -/
inductive Cuts : Text → Except Fault (Text × Option Text) → Prop where
  | bare {host : Text} (hopen : host.head? ≠ some '[') (hcolon : ':' ∉ host) :
      Cuts host (.ok (host, none))
  | port {host port : Text} (hopen : host.head? ≠ some '[') (hcolon : ':' ∉ port) :
      Cuts (host ++ ':' :: port) (.ok (host, some port))
  | bracketed {host : Text} (hclose : ']' ∉ host) : Cuts ('[' :: (host ++ [']'])) (.ok (host, none))
  | bracketedPort {host port : Text} (hclose : ']' ∉ host) :
      Cuts ('[' :: (host ++ ']' :: ':' :: port)) (.ok (host, some port))
  | unclosed {rest : Text} (hclose : ']' ∉ rest) : Cuts ('[' :: rest) (.error .unclosedBracket)
  | trailing {host rest : Text} {c : Char} (hclose : ']' ∉ host) (hcolon : c ≠ ':') :
      Cuts ('[' :: (host ++ ']' :: c :: rest)) (.error .trailingText)

theorem cutAtLastColon_append {port : Text} (h : ':' ∉ port) (host : Text) :
    cutAtLastColon (host ++ ':' :: port) = some (host, port) := by
  have hreverse : (host ++ ':' :: port).reverse = port.reverse ++ ':' :: host.reverse := by simp
  have hport : ':' ∉ port.reverse := fun hmem => h (List.mem_reverse.mp hmem)
  rw [cutAtLastColon, hreverse, Text.dropWhile_bne_append hport, Text.takeWhile_bne_append hport,
    List.reverse_reverse]
  dsimp only
  rw [List.reverse_reverse]

theorem cutAtLastColon_of_not_mem {t : Text} (h : ':' ∉ t) : cutAtLastColon t = none := by
  have hreverse : ':' ∉ t.reverse := fun hmem => h (List.mem_reverse.mp hmem)
  rw [cutAtLastColon, Text.dropWhile_bne_of_not_mem hreverse]

theorem exists_last_colon {t : Text} (h : ':' ∈ t) :
    ∃ host port, t = host ++ ':' :: port ∧ ':' ∉ port := by
  obtain ⟨port, host, hreverse, hport⟩ := List.eq_append_cons_of_mem (List.mem_reverse.mpr h)
  refine ⟨host.reverse, port.reverse, ?_, fun hmem => hport (List.mem_reverse.mp hmem)⟩
  rw [← List.reverse_reverse t, hreverse]
  simp

theorem cut_of_head {t : Text} (h : t.head? ≠ some '[') :
    cut t =
      match cutAtLastColon t with
      | some (host, port) => .ok (host, some port)
      | none => .ok (t, none) := by
  unfold cut
  split
  · exact absurd rfl h
  · rfl

theorem head?_append_colon {host : Text} (h : host.head? ≠ some '[') (port : Text) :
    (host ++ ':' :: port).head? ≠ some '[' := by
  cases host with
  | nil => simp
  | cons c host => exact h

theorem cut_of_cuts {t : Text} {r : Except Fault (Text × Option Text)} (h : Cuts t r) :
    cut t = r := by
  cases h with
  | bare hopen hcolon => rw [cut_of_head hopen, cutAtLastColon_of_not_mem hcolon]
  | port hopen hcolon => rw [cut_of_head (head?_append_colon hopen _), cutAtLastColon_append hcolon]
  | bracketed hclose =>
    rw [cut, Text.dropWhile_bne_append hclose, Text.takeWhile_bne_append hclose]
  | bracketedPort hclose =>
    rw [cut, Text.dropWhile_bne_append hclose, Text.takeWhile_bne_append hclose]
    rfl
  | unclosed hclose => rw [cut, Text.dropWhile_bne_of_not_mem hclose]
  | trailing hclose hcolon =>
    rw [cut, Text.dropWhile_bne_append hclose]
    dsimp only
    split
    · contradiction
    · rename_i heq
      exact absurd (List.cons.inj heq).1 hcolon
    · rfl

theorem cuts_cut (t : Text) : Cuts t (cut t) := by
  suffices h : ∃ r, Cuts t r by
    obtain ⟨r, hr⟩ := h
    rw [cut_of_cuts hr]
    exact hr
  by_cases hopen : t.head? = some '['
  · obtain ⟨rest, rfl⟩ := List.head?_eq_some_iff.mp hopen
    by_cases hclose : ']' ∈ rest
    · obtain ⟨host, after, rfl, hhost⟩ := List.eq_append_cons_of_mem hclose
      rcases after with _ | ⟨c, port⟩
      · exact ⟨_, .bracketed hhost⟩
      · by_cases hcolon : c = ':'
        · subst hcolon
          exact ⟨_, .bracketedPort hhost⟩
        · exact ⟨_, .trailing hhost hcolon⟩
    · exact ⟨_, .unclosed hclose⟩
  · by_cases hcolon : ':' ∈ t
    · obtain ⟨host, port, rfl, hport⟩ := exists_last_colon hcolon
      refine ⟨_, .port (fun hhead => hopen ?_) hport⟩
      rw [List.head?_append, hhead]
      rfl
    · exact ⟨_, .bare hopen hcolon⟩

theorem cut_eq_iff {t : Text} {r : Except Fault (Text × Option Text)} : cut t = r ↔ Cuts t r :=
  ⟨fun h => h ▸ cuts_cut t, cut_of_cuts⟩

/-! ## The port -/

theorem not_isDecimalOf_nil (n : Nat) : ¬ Text.IsDecimalOf n [] := by
  rintro ⟨digits, hdigits | hdigits, hne, -⟩
  · exact hne hdigits.symm
  · contradiction

/-- What is written for a port stands for the default if it is blank, and must
otherwise be the decimal of a port. -/
theorem portOr_eq_ok_iff {default port : UInt16} {written : Option Text} :
    portOr default written = .ok port ↔
      (port = default ∧ ∀ w ∈ written, Text.allBlank w = true) ∨
        ∃ w, written = some w ∧ Text.IsDecimalOf port.toNat (Text.trim w) ∧ port ≠ 0 := by
  have hdefault : (Except.ok default : Except Fault UInt16) = .ok port ↔ port = default := by
    rw [Except.ok.injEq, eq_comm]
  cases written with
  | none =>
    rw [show portOr default none = .ok default from rfl, hdefault]
    simp
  | some w =>
    by_cases hblank : Text.allBlank w = true
    · rw [portOr_of_blank (by simpa using hblank), hdefault]
      have hnot : ¬ Text.IsDecimalOf port.toNat (Text.trim w) := by
        rw [Text.trim_eq_nil_iff.mpr hblank]
        exact not_isDecimalOf_nil _
      simp [hblank, hnot]
    · have htrim : (Text.trim w).isEmpty = false := by
        rw [List.isEmpty_eq_false_iff, ne_eq, Text.trim_eq_nil_iff]
        exact hblank
      have hport : portOr default (some w) = .ok port ↔ parsePort? (Text.trim w) = some port := by
        rw [portOr, htrim, if_neg Bool.false_ne_true]
        cases parsePort? (Text.trim w) <;> simp
      rw [hport, parsePort?_eq_some_iff, Text.trim_trim]
      simp [hblank]

/-! ## Reading what has been rendered -/

/-- What an endpoint can have for a host: a text that is not empty, without white
space at its ends. -/
structure IsHost (host : Text) : Prop where
  ne_nil : host ≠ []
  trimmed : Text.trim host = host

/-- The host with the port behind a colon, the host being put in brackets or
not. -/
def render (brackets : Bool) (host : Text) (port : UInt16) : Text :=
  (if brackets then '[' :: (host ++ [']']) else host) ++ ':' :: Nat.toDigits 10 port.toNat

theorem visible_port (n : Nat) : ∀ c ∈ ':' :: Nat.toDigits 10 n, Text.isBlank c = false := by
  intro c hc
  rcases List.mem_cons.mp hc with rfl | hc
  · decide
  · exact Text.not_isBlank_of_isDigit (Text.isDigit_of_mem_toDigits c hc)

/-- There is nothing to trim in a text that starts and goes on visibly to its
end. -/
theorem trim_append_visible {a b : Text} (hhead : ∃ c ∈ a.head?, Text.isBlank c = false)
    (hb : b ≠ []) (hvisible : ∀ c ∈ b, Text.isBlank c = false) : Text.trim (a ++ b) = a ++ b := by
  obtain ⟨c, hc, hblank⟩ := hhead
  obtain ⟨rest, rfl⟩ := List.head?_eq_some_iff.mp hc
  refine Text.trim_eq_self (fun x hx => ?_) fun x hx => ?_
  · exact Option.some.inj hx ▸ hblank
  · rw [List.getLast?_append_of_ne_nil _ hb] at hx
    exact hvisible x (List.mem_of_getLast? hx)

theorem portOr_toDigits {port : UInt16} (h : port ≠ 0) (default : UInt16) :
    portOr default (some (Nat.toDigits 10 port.toNat)) = .ok port := by
  have hvisible : ∀ c ∈ Nat.toDigits 10 port.toNat, Text.isBlank c = false :=
    fun c hc => visible_port _ c (List.mem_cons_of_mem _ hc)
  refine portOr_eq_ok_iff.mpr (.inr ⟨_, rfl, ?_, h⟩)
  rw [Text.trim_eq_self (fun c hc => hvisible c (List.mem_of_head? hc))
    fun c hc => hvisible c (List.mem_of_getLast? hc)]
  exact Text.isDecimalOf_toDigits _

theorem portOr_nil (default : UInt16) : portOr default (some []) = .ok default := rfl

theorem not_colon_mem_toDigits (n : Nat) : ':' ∉ Nat.toDigits 10 n :=
  fun h => absurd (Text.isDigit_of_mem_toDigits ':' h) (by decide)

namespace IsHost
variable {host : Text} (hhost : IsHost host)
include hhost

theorem visible_head : ∃ c ∈ host.head?, Text.isBlank c = false := by
  obtain ⟨c, rest, h⟩ := List.exists_cons_of_ne_nil hhost.ne_nil
  have hc : c ∈ host.head? := by
    rw [h]
    rfl
  have hvisible := Text.visible_head_trim (t := host)
  rw [hhost.trimmed] at hvisible
  exact ⟨c, hc, hvisible c hc⟩

/-- A host is read off an endpoint that is cut into it and a port. -/
theorem extract_of_cuts {e : Text} {written : Option Text} {default port : UInt16}
    (htrim : Text.trim e = e) (hcut : Cuts e (.ok (host, written)))
    (hport : portOr default written = .ok port) : extract e default = .ok (host, port) := by
  have hne : e ≠ [] := by
    intro he
    rw [he] at hcut
    have hnil : cut [] = .ok (host, written) := cut_of_cuts hcut
    exact hhost.ne_nil (Prod.mk.inj (Except.ok.inj hnil)).1.symm
  have hsplit : split e default = .ok (host, port) := by
    rw [split_eq_ok_iff, htrim]
    exact ⟨hne, host, written, cut_of_cuts hcut, hhost.trimmed.symm, hhost.ne_nil, hport⟩
  rw [extract, hsplit]

theorem extract_render (brackets : Bool)
    (hwritten : if brackets then ']' ∉ host else host.head? ≠ some '[') {port : UInt16}
    (hport : port ≠ 0) (default : UInt16) :
    extract (render brackets host port) default = .ok (host, port) := by
  have hbehind : ':' :: Nat.toDigits 10 port.toNat ≠ [] := List.cons_ne_nil _ _
  cases brackets with
  | false =>
    exact hhost.extract_of_cuts
      (trim_append_visible hhost.visible_head hbehind (visible_port _))
      (.port hwritten (not_colon_mem_toDigits _)) (portOr_toDigits hport default)
  | true =>
    have hcut : Cuts ('[' :: (host ++ ']' :: ':' :: Nat.toDigits 10 port.toNat))
        (.ok (host, some (Nat.toDigits 10 port.toNat))) := .bracketedPort hwritten
    have heq : render true host port =
        '[' :: (host ++ ']' :: ':' :: Nat.toDigits 10 port.toNat) := by
      simp [render]
    rw [← heq] at hcut
    exact hhost.extract_of_cuts
      (trim_append_visible ⟨'[', rfl, by decide⟩ hbehind (visible_port _)) hcut
      (portOr_toDigits hport default)

theorem extract_bare (hopen : host.head? ≠ some '[') (hcolon : ':' ∉ host) (default : UInt16) :
    extract host default = .ok (host, default) :=
  hhost.extract_of_cuts hhost.trimmed (.bare hopen hcolon) rfl

theorem extract_colon (hopen : host.head? ≠ some '[') (default : UInt16) :
    extract (host ++ [':']) default = .ok (host, default) :=
  hhost.extract_of_cuts
    (trim_append_visible hhost.visible_head (List.cons_ne_nil _ _)
      (List.forall_mem_singleton.mpr (by decide)))
    (.port hopen (List.not_mem_nil)) (portOr_nil default)

theorem extract_brackets (hclose : ']' ∉ host) (default : UInt16) :
    extract ('[' :: (host ++ [']'])) default = .ok (host, default) :=
  hhost.extract_of_cuts
    (trim_append_visible (a := '[' :: host) ⟨'[', rfl, by decide⟩ (List.cons_ne_nil _ _)
      (List.forall_mem_singleton.mpr (by decide)))
    (.bracketed hclose) rfl

end IsHost

/-! ## What is read and what is not -/

/-- The texts that are no endpoints. -/
inductive Malformed (e : Text) : Prop where
  | blank (h : Text.allBlank e = true)
  | unclosed {rest : Text} (h : Text.trim e = '[' :: rest) (hclose : ']' ∉ rest)
  | trailing {host rest : Text} {c : Char} (h : Text.trim e = '[' :: (host ++ ']' :: c :: rest))
      (hclose : ']' ∉ host) (hcolon : c ≠ ':')
  | blankHost {host : Text} {written : Option Text}
      (h : Cuts (Text.trim e) (.ok (host, written))) (hblank : Text.allBlank host = true)
  | badPort {host port : Text} (h : Cuts (Text.trim e) (.ok (host, some port)))
      (hport : Text.allBlank port = false)
      (hvalue : ∀ n, 1 ≤ n → n ≤ 65535 → ¬ Text.IsDecimalOf n (Text.trim port))

theorem exists_port_iff {t : Text} :
    (∃ port : UInt16, Text.IsDecimalOf port.toNat t ∧ port ≠ 0) ↔
      ∃ n, 1 ≤ n ∧ n ≤ 65535 ∧ Text.IsDecimalOf n t := by
  constructor
  · rintro ⟨port, ht, hne⟩
    have hpos : port.toNat ≠ 0 := fun h => hne (UInt16.toNat_inj.mp h)
    have hlt := port.toNat_lt
    exact ⟨port.toNat, by omega, by omega, ht⟩
  · rintro ⟨n, hpos, hle, ht⟩
    have hn : (UInt16.ofNat n).toNat = n := UInt16.toNat_ofNat_of_lt' (by
      show n < 65536
      omega)
    refine ⟨UInt16.ofNat n, hn.symm ▸ ht, fun h => ?_⟩
    have hzero : (UInt16.ofNat n).toNat = 0 := h ▸ rfl
    omega

theorem not_split_of_malformed {e : Text} (h : Malformed e) (default : UInt16)
    (r : Text × UInt16) : split e default ≠ .ok r := by
  intro hok
  obtain ⟨htrim, name, written, hcut, hhost, hne, hport⟩ := split_eq_ok_iff.mp hok
  cases h with
  | blank h => exact htrim (Text.trim_eq_nil_iff.mpr h)
  | unclosed h hclose =>
    rw [h, cut_of_cuts (.unclosed hclose)] at hcut
    contradiction
  | trailing h hclose hcolon =>
    rw [h, cut_of_cuts (.trailing hclose hcolon)] at hcut
    contradiction
  | blankHost h hblank =>
    rw [cut_of_cuts h] at hcut
    obtain ⟨rfl, -⟩ := Prod.mk.inj (Except.ok.inj hcut)
    exact hne (hhost.trans (Text.trim_eq_nil_iff.mpr hblank))
  | badPort h hblank hvalue =>
    rw [cut_of_cuts h] at hcut
    obtain ⟨-, rfl⟩ := Prod.mk.inj (Except.ok.inj hcut)
    rcases portOr_eq_ok_iff.mp hport with ⟨-, hall⟩ | ⟨w, hw, hdecimal, hzero⟩
    · rw [hall _ rfl] at hblank
      contradiction
    · obtain rfl := Option.some.inj hw
      obtain ⟨n, hpos, hle, hn⟩ := exists_port_iff.mp ⟨r.2, hdecimal, hzero⟩
      exact hvalue n hpos hle hn

/-- A text is an endpoint unless it is malformed. -/
theorem malformed_or_split (e : Text) (default : UInt16) :
    Malformed e ∨ ∃ r, split e default = .ok r := by
  by_cases htrim : Text.trim e = []
  · exact .inl (.blank (Text.trim_eq_nil_iff.mp htrim))
  · have hcuts := cuts_cut (Text.trim e)
    cases hcut : cut (Text.trim e) with
    | error f =>
      rw [hcut] at hcuts
      generalize htext : Text.trim e = text at hcuts
      cases hcuts with
      | unclosed hclose => exact .inl (.unclosed htext hclose)
      | trailing hclose hcolon => exact .inl (.trailing htext hclose hcolon)
    | ok parts =>
      obtain ⟨name, written⟩ := parts
      rw [hcut] at hcuts
      by_cases hblank : Text.allBlank name = true
      · exact .inl (.blankHost hcuts hblank)
      · have hhost : Text.trim name ≠ [] := fun h => hblank (Text.trim_eq_nil_iff.mp h)
        have hsplit : ∀ port, portOr default written = .ok port →
            split e default = .ok (Text.trim name, port) := fun port hport =>
          split_eq_ok_iff.mpr ⟨htrim, name, written, hcut, rfl, hhost, hport⟩
        by_cases hdefault : ∀ w ∈ written, Text.allBlank w = true
        · exact .inr ⟨_, hsplit _ (portOr_of_blank hdefault default)⟩
        · obtain ⟨w, rfl, hw⟩ : ∃ w, written = some w ∧ Text.allBlank w = false := by
            cases written with
            | none => exact absurd (fun w hw => nomatch hw) hdefault
            | some w => exact ⟨w, rfl, by simpa using hdefault⟩
          by_cases hport : ∃ port : UInt16, Text.IsDecimalOf port.toNat (Text.trim w) ∧ port ≠ 0
          · obtain ⟨port, hdecimal, hzero⟩ := hport
            exact .inr ⟨_, hsplit port (portOr_eq_ok_iff.mpr (.inr ⟨w, rfl, hdecimal, hzero⟩))⟩
          · refine .inl (.badPort hcuts hw fun n hpos hle hn => hport ?_)
            exact exists_port_iff.mpr ⟨n, hpos, hle, hn⟩

theorem extract_eq_ok_iff {e : Text} {default : UInt16} {r : Text × UInt16} :
    extract e default = .ok r ↔ split e default = .ok r := by
  unfold extract
  split
  · rename_i parts h
    rw [h, Except.ok.injEq, Except.ok.injEq]
  · rename_i f h
    rw [h]
    constructor <;> exact fun h => nomatch h

theorem malformed_iff {e : Text} {default : UInt16} :
    Malformed e ↔
      ∃ reason, extract e default =
        .error (.invalidEndpoint (String.ofList (Text.trim e)) reason) := by
  constructor
  · intro h
    have hnot := not_split_of_malformed h default
    unfold extract
    cases hsplit : split e default with
    | ok r => exact absurd hsplit (hnot r)
    | error f => exact ⟨f.reason, rfl⟩
  · rintro ⟨reason, h⟩
    refine (malformed_or_split e default).resolve_right fun ⟨r, hr⟩ => ?_
    rw [extract_eq_ok_iff.mpr hr] at h
    contradiction

theorem head?_trim_of_prefix {name rest e : Text} (he : Text.trim e = name ++ rest)
    (hne : Text.trim name ≠ []) : (Text.trim name).head? = name.head? := by
  rw [Text.head?_trim]
  cases name with
  | nil => contradiction
  | cons c name =>
    have hc : Text.isBlank c = false := Text.visible_head_trim (t := e) c (he ▸ rfl)
    rw [Text.trimStart_of_head hc]

/-- What an endpoint gives can be rendered again, in brackets if the endpoint has
them. -/
theorem host_of_extract {e host : Text} {default port : UInt16}
    (h : extract e default = .ok (host, port)) :
    IsHost host ∧
      if (Text.trim e).head? == some '[' then ']' ∉ host else host.head? ≠ some '[' := by
  obtain ⟨-, name, written, hcut, rfl, hne, -⟩ := split_eq_ok_iff.mp (extract_eq_ok_iff.mp h)
  refine ⟨⟨hne, Text.trim_trim name⟩, ?_⟩
  have hcuts := cut_eq_iff.mp hcut
  generalize htext : Text.trim e = text at hcuts
  cases hcuts with
  | bare hopen hcolon =>
    rw [beq_false_of_ne hopen, if_neg Bool.false_ne_true,
      head?_trim_of_prefix (by rw [htext, List.append_nil]) hne]
    exact hopen
  | port hopen hcolon =>
    rw [beq_false_of_ne (head?_append_colon hopen _), if_neg Bool.false_ne_true,
      head?_trim_of_prefix htext hne]
    exact hopen
  | bracketed hclose => exact fun hmem => hclose (Text.trim_subset _ hmem)
  | bracketedPort hclose => exact fun hmem => hclose (Text.trim_subset _ hmem)

theorem port_of_extract {e host : Text} {default port : UInt16}
    (h : extract e default = .ok (host, port)) : port = default ∨ port ≠ 0 := by
  obtain ⟨-, name, written, -, -, -, hport⟩ := split_eq_ok_iff.mp (extract_eq_ok_iff.mp h)
  rcases portOr_eq_ok_iff.mp hport with ⟨heq, -⟩ | ⟨w, -, -, hzero⟩
  · exact .inl heq
  · exact .inr hzero

/-- Endpoints are read by their grammar.  A host that is rendered with its port, in
brackets or not, is read back, and without a port it has the default.  What any
endpoint gives is a host and a port that are rendered in the same way and read back.
All else is refused. -/
theorem extract_render_exact (default : UInt16) :
    (∀ host, IsHost host → host.head? ≠ some '[' →
      (∀ port, port ≠ 0 → extract (render false host port) default = .ok (host, port)) ∧
      (':' ∉ host → extract host default = .ok (host, default)) ∧
      extract (host ++ [':']) default = .ok (host, default)) ∧
    (∀ host, IsHost host → ']' ∉ host →
      (∀ port, port ≠ 0 → extract (render true host port) default = .ok (host, port)) ∧
      extract ('[' :: (host ++ [']'])) default = .ok (host, default)) ∧
    (∀ e host port, extract e default = .ok (host, port) →
      IsHost host ∧ (port = default ∨ port ≠ 0) ∧
      (port ≠ 0 →
        extract (render ((Text.trim e).head? == some '[') host port) default =
          .ok (host, port))) ∧
    (∀ e, Malformed e ↔
      ∃ reason, extract e default =
        .error (.invalidEndpoint (String.ofList (Text.trim e)) reason)) := by
  refine ⟨fun host hhost hopen => ⟨fun port hport => ?_, fun hcolon => ?_, ?_⟩,
    fun host hhost hclose => ⟨fun port hport => ?_, ?_⟩, fun e host port h => ?_,
    fun e => malformed_iff⟩
  · exact hhost.extract_render false hopen hport default
  · exact hhost.extract_bare hopen hcolon default
  · exact hhost.extract_colon hopen default
  · exact hhost.extract_render true hclose hport default
  · exact hhost.extract_brackets hclose default
  · obtain ⟨hhost, hwritten⟩ := host_of_extract h
    exact ⟨hhost, port_of_extract h, fun hport => hhost.extract_render _ hwritten hport default⟩

theorem extract_render_exact_link_local :
    let host : Text := "fe80::1".toList
    let name : Text := "[vpn".toList
    let e : Text := "\t[ fe80::1\u00a0]: +0053 ".toList
    IsHost host ∧ host.head? ≠ some '[' ∧ IsHost name ∧ ']' ∉ name ∧
      extract (render false host 53) 51820 = .ok (host, 53) ∧
      extract (host ++ [':']) 51820 = .ok (host, 51820) ∧
      extract (render true name 53) 51820 = .ok (name, 53) ∧
      extract ('[' :: (name ++ [']'])) 51820 = .ok (name, 51820) ∧
      extract e 51820 = .ok (host, 53) ∧
      extract (render ((Text.trim e).head? == some '[') host 53) 51820 = .ok (host, 53) ∧
      Malformed "h:65536".toList := by
  intro host name e
  have hhost : IsHost host := ⟨by decide, by decide +kernel⟩
  have hname : IsHost name := ⟨by decide, by decide +kernel⟩
  have hread : extract e 51820 = .ok (host, 53) := by decide +kernel
  have hrefused : extract "h:65536".toList 51820 =
      .error (.invalidEndpoint (String.ofList (Text.trim "h:65536".toList))
        "invalid port '65536'") := by decide +kernel
  obtain ⟨hbare, hbrackets, hagain, hmalformed⟩ := extract_render_exact 51820
  obtain ⟨hport, -, hcolon⟩ := hbare host hhost (by decide)
  obtain ⟨hport', halone⟩ := hbrackets name hname (by decide)
  exact ⟨hhost, by decide, hname, by decide, hport 53 (by decide), hcolon, hport' 53 (by decide),
    halone, hread, (hagain e host 53 hread).2.2 (by decide), (hmalformed _).mpr ⟨_, hrefused⟩⟩

end Endpoint
end VpnImport
