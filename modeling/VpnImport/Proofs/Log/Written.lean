import VpnImport.Log.Config
import VpnImport.Proofs.Log.Messages
import VpnImport.Proofs.Log.Plain

/-!
# The lines of a log

An event whose message has no line feed is written with at most one, behind
everything else.  So a log has at most as many lines as there are events, whatever
the texts they quote, and it has exactly as many when no event leaves a control
string open.
-/

namespace VpnImport

theorem Text.length_lines_append_le {row : Text} (hrow : '\n' ∉ row) (t : Text) :
    (lines (row ++ t)).length ≤ (lines t).length + 1 := by
  induction t using row_induction with
  | last only honly =>
    have hboth : '\n' ∉ row ++ only := by
      rw [List.mem_append, not_or]
      exact ⟨hrow, honly⟩
    rw [lines_row hboth]
    exact (List.length_filter_le _ _).trans (Nat.le_add_left 1 _)
  | cons first t hfirst _ =>
    have hboth : '\n' ∉ row ++ first := by
      rw [List.mem_append, not_or]
      exact ⟨hrow, hfirst⟩
    rw [← List.append_assoc, lines_cons hboth, lines_cons hfirst, List.length_cons,
      List.length_cons]
    exact Nat.le_succ _

namespace Log

theorem isPrintable_path (s : Source) : Text.isPrintable s.path.toList = true := by
  cases s with
  | detector p => cases p <;> decide
  | extractor p => cases p <;> decide
  | classifier => decide
  | importer => decide

theorem isPrintable_column (l : Level) : Text.isPrintable l.column.toList = true := by
  cases l <;> decide

namespace Config

theorem map_event_recorded (c : Config) (log : List Stamped) :
    (c.recorded log).map Stamped.event = record c.level (log.map Stamped.event) := by
  rw [recorded, record, List.filter_map]
  rfl

theorem not_mem_line {t : Text} {d : Char} (h : Text.Foreign t d) {r : Stamped}
    (hstamp : Text.isPrintable r.stamp.toList = true) (hmessage : d ∉ r.event.message.toList)
    (c : Config) : d ∉ (c.line r).toList := by
  have htime : d ∉ (if c.showTimestamp then r.stamp ++ " " else "").toList := by
    split
    · rw [not_mem_toList_append]
      exact ⟨h.not_mem_of_isPrintable hstamp, h.not_mem_of_isPrintable rfl⟩
    · exact List.not_mem_nil
  have hsource : d ∉ (if c.showModule then r.event.source.path ++ " " else "").toList := by
    split
    · rw [not_mem_toList_append]
      exact ⟨h.not_mem_of_isPrintable (isPrintable_path r.event.source),
        h.not_mem_of_isPrintable rfl⟩
    · exact List.not_mem_nil
  unfold line
  simp only [not_mem_toList_append, and_assoc]
  exact ⟨htime, h.not_mem_of_isPrintable (isPrintable_column r.event.level),
    h.not_mem_of_isPrintable rfl, hsource, h.not_mem_of_isPrintable rfl, hmessage⟩

theorem entry_eq (c : Config) (r : Stamped) :
    c.entry r = plain (c.line r).toList ++
      if leavesOpen (c.line r).toList then [] else ['\n'] :=
  plain_append_feed _

section Lines
variable {c : Config} {log : List Stamped}

theorem length_lines_flatMap_le (h : ∀ r ∈ log, '\n' ∉ (c.line r).toList) :
    (Text.lines (log.flatMap c.entry)).length ≤ log.length := by
  induction log with
  | nil => exact Nat.le_refl 0
  | cons r log ih =>
    obtain ⟨hr, hlog⟩ := List.forall_mem_cons.mp h
    have hplain : '\n' ∉ plain (c.line r).toList :=
      fun hmem => hr ((plain_sublist _).subset hmem)
    rw [List.flatMap_cons, List.length_cons, entry_eq]
    split
    · rw [List.append_nil]
      exact (Text.length_lines_append_le hplain _).trans (Nat.succ_le_succ (ih hlog))
    · rw [List.append_assoc, List.singleton_append, Text.lines_cons hplain, List.length_cons]
      exact Nat.succ_le_succ (ih hlog)

theorem lines_flatMap (h : ∀ r ∈ log, '\n' ∉ (c.line r).toList)
    (hclosed : ∀ r ∈ log, leavesOpen (c.line r).toList = false) :
    Text.lines (log.flatMap c.entry) =
      log.map fun r => Text.dropReturn (plain (c.line r).toList) := by
  induction log with
  | nil => rfl
  | cons r log ih =>
    obtain ⟨hr, hlog⟩ := List.forall_mem_cons.mp h
    obtain ⟨hend, hrest⟩ := List.forall_mem_cons.mp hclosed
    rw [List.flatMap_cons, entry_eq, hend, if_neg Bool.false_ne_true, List.append_assoc,
      List.singleton_append, Text.lines_cons fun hmem => hr ((plain_sublist _).subset hmem),
      ih hlog hrest, List.map_cons]

variable {target : Target} (h : ∀ r ∈ c.recorded log, '\n' ∉ (c.line r).toList)
include h

theorem length_output_le : (c.output target log).length ≤ (c.recorded log).length := by
  unfold output
  split
  · rw [List.length_map]
    exact length_lines_flatMap_le h
  · exact Nat.zero_le _

theorem output_eq_map (henabled : c.enabled = true) (htarget : c.target = target)
    (hclosed : ∀ r ∈ c.recorded log, leavesOpen (c.line r).toList = false) :
    c.output target log =
      (c.recorded log).map fun r =>
        String.ofList (Text.dropReturn (plain (c.line r).toList)) := by
  have hwritten : (c.enabled && c.target == target) = true := by
    rw [henabled, htarget, Bool.true_and, beq_self_eq_true]
  rw [output, if_pos hwritten, lines_flatMap h hclosed, List.map_map]
  rfl

end Lines
end Config
end Log

/-- No text of an extraction and no message of an import has a line feed.  So of an
event, whatever the time at which it is written, no line feed is written but the one
that ends it, and the events that pass leave at most one line each: exactly one,
unless the line of an event leaves a control string open.  A text without escape
characters opens none, and a terminal that shows colours is given the line itself, in
which there is no line feed either. -/
theorem single_line_outputs (t : Text) {log : List Log.Stamped}
    (hlog : log.map Log.Stamped.event = Importer.default.events t)
    (hstamps : ∀ r ∈ log, Text.isPrintable r.stamp.toList = true) :
    (∀ kind x, Extractor.builtin? kind = some x →
      (∀ p, x.extract t = .ok p → ∀ s ∈ p.texts, '\n' ∉ s.toList) ∧
      (∀ e, x.extract t = .error e → ∀ s ∈ e.texts, '\n' ∉ s.toList)) ∧
    (∀ e ∈ Importer.default.events t, '\n' ∉ e.message.toList) ∧
    ∀ c : Log.Config,
      (c.recorded log).map Log.Stamped.event =
        Log.record c.level (Importer.default.events t) ∧
      (∀ r ∈ log,
        '\n' ∉ (c.line r).toList ∧ '\n' ∉ Log.plain (c.line r).toList ∧
        c.entry r = Log.plain (c.line r).toList ++
          (if Log.leavesOpen (c.line r).toList then [] else ['\n']) ∧
        ('\x1b' ∉ t → Log.leavesOpen (c.line r).toList = false)) ∧
      ∀ target,
        (c.output target log).length ≤
          (Log.record c.level (Importer.default.events t)).length ∧
        (c.enabled = true → c.target = target →
          (∀ r ∈ c.recorded log, Log.leavesOpen (c.line r).toList = false) →
          c.output target log =
            (c.recorded log).map fun r =>
              String.ofList (Text.dropReturn (Log.plain (c.line r).toList))) := by
  have hmessages := Importer.not_mem_events (Text.foreign_feed t)
  have hevent : ∀ r ∈ log, r.event ∈ Importer.default.events t :=
    fun r hr => hlog ▸ List.mem_map_of_mem hr
  have hlines : ∀ (c : Log.Config), ∀ r ∈ log, '\n' ∉ (c.line r).toList := fun c r hr =>
    c.not_mem_line (Text.foreign_feed t) (hstamps r hr) (hmessages r.event (hevent r hr))
  have hpassing : ∀ (c : Log.Config), ∀ r ∈ c.recorded log, '\n' ∉ (c.line r).toList :=
    fun c r hr => hlines c r (List.mem_filter.mp hr).1
  have hrecorded : ∀ c : Log.Config, (c.recorded log).map Log.Stamped.event =
      Log.record c.level (Importer.default.events t) := fun c => hlog ▸ c.map_event_recorded log
  refine ⟨fun kind x hx => ?_, hmessages, fun c => ⟨hrecorded c,
    fun r hr => ⟨hlines c r hr, ?_, c.entry_eq r, ?_⟩, fun target => ⟨?_,
      Log.Config.output_eq_map (hpassing c)⟩⟩⟩
  · have hyields := Extractor.yields_extract (Text.foreign_feed t) hx
    refine ⟨fun p hp => ?_, fun e he => ?_⟩
    · rw [hp] at hyields
      exact hyields
    · rw [he] at hyields
      exact hyields
  · exact fun hmem => hlines c r hr ((Log.plain_sublist _).subset hmem)
  · intro hescape
    have hforeign : Text.Foreign t '\x1b' := Text.foreign_of_not_mem (by decide) hescape
    have hmessage := Importer.not_mem_events hforeign r.event (hevent r hr)
    exact Log.leavesOpen_of_not_mem (c.not_mem_line hforeign (hstamps r hr) hmessage)
  · rw [← hrecorded c, List.length_map]
    exact Log.Config.length_output_le (hpassing c)

theorem single_line_outputs_stamped :
    let t : Text := "client\ndev tun\nproto udp\nremote a 53\n".toList
    let c : Log.Config := { Log.Config.default with level := .debug }
    let log : List Log.Stamped := (Importer.default.events t).map fun e =>
      ⟨if e.level = .info then "2024-05-01T00:00:01Z" else "2024-05-01T00:00:00Z", e⟩
    log.map Log.Stamped.event = Importer.default.events t ∧
      (∀ r ∈ log, Text.isPrintable r.stamp.toList = true) ∧
      c.output .stderr log =
        ["2024-05-01T00:00:00Z DEBUG vpnconf_detector::extract::openvpn | "
          ++ "📦 EXTRACT: OpenVPN profile: server=a port=53 transport=udp auth=Certificate",
         "2024-05-01T00:00:01Z INFO  vpnconf_detector::importer | "
          ++ "imported OpenVPN profile 'OpenVPN - a' (a:53)"] := by
  intro t c log
  have hlog : log.map Log.Stamped.event = Importer.default.events t := by
    rw [List.map_map]
    exact List.map_id' _
  have hstamps : ∀ r ∈ log, Text.isPrintable r.stamp.toList = true := by
    intro r hr
    obtain ⟨e, -, rfl⟩ := List.mem_map.mp hr
    dsimp only
    split <;> rfl
  refine ⟨hlog, hstamps, ?_⟩
  have hescape : '\x1b' ∉ t := by decide
  obtain ⟨-, -, hconfig⟩ := single_line_outputs t hlog hstamps
  obtain ⟨-, hentries, houtput⟩ := hconfig c
  rw [(houtput .stderr).2 rfl rfl fun r hr => (hentries r (List.mem_filter.mp hr).1).2.2.2 hescape]
  decide +kernel

/-- The control string that the server opens takes in the line feed behind the
first event, and two events make one line. -/
theorem single_line_outputs_open_string :
    let c : Log.Config := ⟨true, .debug, false, false, .stderr⟩
    let events := Importer.default.events
      "client\ndev tun\nproto udp\nremote a\x1b]b 53\n".toList
    (Log.record c.level events).length = 2 ∧
      c.written "" .stderr events =
        ["DEBUG | 📦 EXTRACT: OpenVPN profile: server=aINFO  | "
          ++ "imported OpenVPN profile 'OpenVPN - a"] := by
  decide +kernel

end VpnImport
