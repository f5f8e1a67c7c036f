import TagEmulation.Proofs.CommandLine.Emulation
import TagEmulation.Proofs.CommandLine.Surroundings

/-!
# Proofs/CommandLine/Report — what a call of the program shows

Of all there is to log, only debug records read like an answer; so whatever else the log lets pass,
the lines of answers are those of the session (`Options.said_lines_shown`).  To ask for quiet takes
debug records out, whatever else the arguments ask for (`Surroundings.report_quiet`).
`arguments_tell_the_report` puts this together with the reading of the arguments.
-/

namespace TagEmulation.CommandLine

/-! ## Lines that do not read like an answer -/

/-- A line reads like its front as far as that goes. -/
theorem prefix_front {tag front rest : String} (h : tag.toList <+: (front ++ rest).toList)
    (hlength : tag.length ≤ front.length) : tag.toList <+: front.toList := by
  rw [String.toList_append] at h
  exact List.prefix_of_prefix_length_le h (List.prefix_append ..)
    (by rwa [String.length_toList, String.length_toList])

theorem not_said_prefix_message {e : Event} {front rest : String} (h : e.message = front ++ rest)
    (hlength : 3 ≤ front.length) (hfront : ¬ "T: ".toList <+: front.toList) :
    ¬ "T: ".toList <+: e.message.toList := fun hsaid =>
  hfront (prefix_front (h ▸ hsaid) hlength)

theorem not_said_prefix_of_mem_opening {o : Options} {e : Event} (he : e ∈ o.opening) :
    ¬ "T: ".toList <+: e.message.toList := by
  simp only [Options.opening, List.mem_cons, List.not_mem_nil, or_false] at he
  rcases he with rfl | rfl | rfl
  · have hmessage : (Event.firstCommand Script.ownedName Command.wupa.encode).message
        = Script.ownedName ++ (": received initiator command: " ++ Command.wupa.encode.text) :=
      String.append_assoc ..
    exact not_said_prefix_message hmessage (by decide) (by decide)
  · have hmessage : (Event.broughtUp o.uid true).message
        = "emulated tag initialized with UID " ++
            (o.uid.toUpperHex ++ (" (hardware parity: " ++ ("true" ++ ")"))) := by
      change "emulated tag initialized with UID " ++ o.uid.toUpperHex ++ " (hardware parity: " ++
        "true" ++ ")" = _
      rw [String.append_assoc, String.append_assoc, String.append_assoc]
    exact not_said_prefix_message hmessage (by decide) (by decide)
  · decide

theorem not_said_prefix_stopped (stats : Stats) :
    ¬ "T: ".toList <+: (Event.stopped stats).message.toList := by
  have hmessage : (Event.stopped stats).message = "emulation stopped: " ++ stats.text := rfl
  exact not_said_prefix_message hmessage (by decide) (by decide)

/-- Nor do the finest events. -/
theorem not_said_prefix_of_trace {e : Event} (h : e.level = .trace) :
    ¬ "T: ".toList <+: e.message.toList := by
  cases e with
  | parityRight frame =>
    have hmessage : (Event.parityRight frame).message = "R (parity): " ++ frame.text := rfl
    exact not_said_prefix_message hmessage (by decide) (by decide)
  | objected fault =>
    have hmessage : (Event.objected fault).message = "rejecting SELECT: " ++ fault.message := rfl
    exact not_said_prefix_message hmessage (by decide) (by decide)
  | ignored bits kind =>
    have hmessage : (Event.ignored bits kind).message
        = "ignoring " ++ (toString bits ++ ("-bit " ++ (kind.text ++ " frame"))) := by
      change "ignoring " ++ toString bits ++ "-bit " ++ kind.text ++ " frame" = _
      rw [String.append_assoc, String.append_assoc, String.append_assoc]
    exact not_said_prefix_message hmessage (by decide) (by decide)
  | _ => cases h

/-- **Of all there is to log, only debug records read like an answer.** -/
theorem Options.level_of_said_prefix {o : Options} {e : Event} (he : e ∈ o.log)
    (h : "T: ".toList <+: e.message.toList) : e.level = .debug := by
  rw [log, List.mem_append, List.mem_append, List.mem_singleton] at he
  rcases he with (hopening | hcourse) | rfl
  · exact absurd h (not_said_prefix_of_mem_opening hopening)
  · exact (Cue.level_of_mem_log rfl hcourse).resolve_right fun htrace =>
      not_said_prefix_of_trace htrace h
  · exact absurd h (not_said_prefix_stopped _)

/-! ## What is shown of a log -/

/-- If only debug records read like an answer, and they are shown, nothing else of what is shown
matters for the lines of answers. -/
theorem said_lines_filter {p : Event → Bool} {log : List Event}
    (hshown : ∀ e, e.level = .debug → p e)
    (hsaid : ∀ e ∈ log, "T: ".toList <+: e.message.toList → e.level = .debug) :
    startingWith "T: " ((log.filter p).map Event.message)
      = startingWith "T: " (debugLines log) := by
  rw [startingWith, startingWith, debugLines, List.filter_map, List.filter_map, List.filter_filter,
    List.filter_filter]
  refine congrArg (List.map Event.message) (List.filter_congr fun e he => ?_)
  by_cases h : "T: ".toList <+: e.message.toList
  · have hdebug : e.level = .debug := hsaid e he h
    simp [hdebug, hshown e hdebug]
  · simp only [Function.comp, decide_eq_false h, Bool.false_and]

/-- **The lines of answers tell of the replies to both selections**, and of no others. -/
theorem Options.said_lines_shown {o : Options} (hquiet : o.quiet = false) {p : Event → Bool}
    (hshown : ∀ e, e.level = .debug → p e) :
    startingWith "T: " ((o.log.filter p).map Event.message)
      = (selectionReplies o.tag.identity ++ selectionReplies o.tag.identity).map saidLine := by
  have hopening : debugLines o.opening = [] := rfl
  have hend : debugLines [.stopped finalStats] = [] := rfl
  rw [said_lines_filter hshown fun e he => level_of_said_prefix he, log, debugLines_append,
    debugLines_append, hopening, hend, List.nil_append, List.append_nil, course,
    Cue.said_lines_log _ _ _ hquiet, o.answers_readerCues]

/-! ## The report -/

namespace Surroundings

variable {s : Surroundings}

/-- **Wherever `-q` stands, it takes debug records out of what is shown**, and nothing else. -/
theorem report_quiet (hlog : s.LogsByLevel) (front rest : List String) :
    s.report (front ++ "-q" :: rest)
      = { s.report (front ++ rest) with log := withoutDebug (s.report (front ++ rest)).log } := by
  unfold report
  rw [Options.ofArguments_quiet]
  cases Options.ofArguments (front ++ rest) with
  | error refusal => cases refusal <;> rfl
  | ok o =>
    have hquiet := emulate_hushed o
    have hshown := hlog.filter_withoutDebug o.quiet (emulate o).log
    simp only [Except.map, present, hquiet, ← hshown]
    rfl

theorem report_of_refused {arguments : List String} {d : String} {refusal : Refusal}
    (h : firstRefused arguments = some d) (hread : ∀ o, Options.read o d = .error refusal) :
    s.report arguments = s.present false (refusal.call s.program) := by
  unfold report
  rw [Options.ofArguments_of_refused h hread]

theorem report_of_accepted {arguments : List String} (h : firstRefused arguments = none) :
    let o : Options := ⟨arguments.contains "-q", lastUid arguments default⟩
    s.report arguments
      = ⟨announcement o.uid ++ [arrival] ++ [summary finalStats], o.log.filter (s.shows o.quiet),
          [], 0⟩ := by
  unfold report
  rw [Options.ofArguments_of_accepted h]
  simp only [Options.emulate_eq]
  rfl

end Surroundings

theorem summary_finalStats :
    summary finalStats
      = "[+] Done: 8 frame(s) received, 6 answered, 2 ignored, 2 polling round(s)" := by
  decide +kernel

/-- The answers to a selection: ATQA, the UID with its block check, and SAK with its CRC_A. -/
theorem selectionReplies_default (uid : Uid) :
    selectionReplies { (default : Identity) with uid }
      = [[0x04, 0x00], uid.bytes ++ [uid.b0 ^^^ uid.b1 ^^^ uid.b2 ^^^ uid.b3],
          [0x08, 0xb6, 0xdd]].map Frame.ofBytes := by
  have hsak : (default : Identity).sak.checked = [0x08, 0xb6, 0xdd] := by decide +kernel
  rw [← uid.check_eq, ← hsak]
  rfl

/-- **The arguments tell the report.**  The first that is neither `-q` nor a UID of eight bytes
decides alone: the usage is shown if that is what it asks for, an argument as long as a UID is
reported with what is wrong with it, and any other with the usage; nothing is emulated.  If there is
none, the tag with the UID named last is emulated, and both selections of the reader are answered:
the announcement, the counters and, unless something else is asked of the log from outside, the
lines of answers in the log tell so.  Wherever `-q` stands, it takes the debug records out of the
log, and changes nothing else. -/
theorem arguments_tell_the_report (s : Surroundings) (hlog : s.LogsByLevel)
    (htells : s.TellsCauses) (arguments : List String) :
    let usage := ["Usage: " ++ s.calledAs.getD "emulate_uid" ++ " [OPTIONS] [UID]",
      "Options:",
      "\t-h\tShow this help message",
      "\t-q\tQuiet mode. Do not log exchanged frames",
      "",
      "\t[UID]\tUID to emulate, 8 hex digits (default DEADBEAF)"]
    (∀ d, firstRefused arguments = some d →
      (d = "-h" → s.report arguments = ⟨usage, [], [], 0⟩) ∧
      (d.utf8ByteSize = 8 → ∃ cause, Uid.parse d = .error cause ∧
        let text := s.describe ⟨d ++ " is not a valid UID", some cause.message⟩
        s.report arguments = ⟨[], [], ["Error: " ++ text], 1⟩ ∧
          (d ++ " is not a valid UID" ++ "\n\nCaused by:\n    " ++ cause.message).toList
            <+: text.toList) ∧
      (d ≠ "-h" → d.utf8ByteSize ≠ 8 →
        let text := s.describe ⟨"unexpected argument: " ++ d, none⟩
        s.report arguments = ⟨usage, [], ["Error: " ++ text], 1⟩ ∧
          ("unexpected argument: " ++ d).toList <+: text.toList)) ∧
    (firstRefused arguments = none →
      let uid := lastUid arguments ⟨0xde, 0xad, 0xbe, 0xaf⟩
      let checked := uid.bytes ++ [uid.b0 ^^^ uid.b1 ^^^ uid.b2 ^^^ uid.b3]
      let replies := [[0x04, 0x00], checked, [0x08, 0xb6, 0xdd]].map Frame.ofBytes
      (s.report arguments).stdout
          = ["[+] Emulating UID " ++ uid.toUpperHex ++ " (" ++ Hex.ofBytes checked ++ ")",
              "[+] Waiting for initiator request...",
              "[+] Initiator request received. Emulation running.",
              "[+] Done: 8 frame(s) received, 6 answered, 2 ignored, 2 polling round(s)"] ∧
        (s.report arguments).stderr = [] ∧ (s.report arguments).code = 0 ∧
        ("-q" ∉ arguments →
          (s.logSetting = none ∨ ∀ e, e.level = .debug → s.shows false e) →
            startingWith "T: " ((s.report arguments).log.map Event.message)
              = (replies ++ replies).map saidLine)) ∧
    ∀ front rest, arguments = front ++ "-q" :: rest →
      s.report arguments
        = { s.report (front ++ rest) with
            log := withoutDebug (s.report (front ++ rest)).log } := by
  intro usage
  refine ⟨fun d h => ⟨?help, ?notUid, ?unexpected⟩, fun h => ?accepted, ?quiet⟩
  case help =>
    rintro rfl
    exact Surroundings.report_of_refused h fun _ => rfl
  case notUid =>
    intro hsize
    obtain ⟨cause, hparse⟩ := exists_error_of_firstRefused h hsize
    exact ⟨cause, hparse,
      Surroundings.report_of_refused h fun _ => Options.read_of_notUid hsize hparse,
      htells.cause (d ++ " is not a valid UID") cause.message (Uid.oneLine_of_parse hparse)⟩
  case unexpected =>
    intro hhelp hsize
    exact ⟨Surroundings.report_of_refused h fun _ =>
      Options.read_of_unexpected hhelp (ne_quiet_of_firstRefused h) hsize,
      htells.what ⟨"unexpected argument: " ++ d, none⟩⟩
  case accepted =>
    intro uid checked replies
    have hreport := Surroundings.report_of_accepted (s := s) h
    have hchecked : uid.checked = checked := congrArg (fun b => uid.bytes ++ [b]) uid.check_eq
    rw [hreport, ← summary_finalStats, ← hchecked]
    refine ⟨rfl, rfl, rfl, fun hloud hset => ?_⟩
    have hquiet : arguments.contains "-q" = false := by simpa using hloud
    have hdebug : ∀ e, e.level = .debug → s.shows false e :=
      hset.elim (fun hnone _ => hlog.shows_debug hnone) id
    have hreplies : selectionReplies { (default : Identity) with uid } = replies :=
      selectionReplies_default uid
    rw [hquiet, ← hreplies]
    exact Options.said_lines_shown rfl hdebug
  case quiet =>
    rintro front rest rfl
    exact Surroundings.report_quiet hlog front rest

/-- A call by another name, in surroundings that ask for nothing: help behind a UID, a digit that is
none, and a word; then two UIDs, without `-q` and with. -/
theorem arguments_tell_the_report_of_five_calls :
    let s : Surroundings := { Surroundings.usual with calledAs := some "tag" }
    let usage := ["Usage: tag [OPTIONS] [UID]",
      "Options:",
      "\t-h\tShow this help message",
      "\t-q\tQuiet mode. Do not log exchanged frames",
      "",
      "\t[UID]\tUID to emulate, 8 hex digits (default DEADBEAF)"]
    s.LogsByLevel ∧ s.TellsCauses ∧
      s.report ["-q", "043a915c", "-h", "x"] = ⟨usage, [], [], 0⟩ ∧
      (∃ cause, Uid.parse "0102030g" = .error cause ∧
        s.report ["043a915c", "0102030g", "-h"]
          = ⟨[], [], ["Error: 0102030g is not a valid UID\n\nCaused by:\n    " ++ cause.message],
              1⟩) ∧
      s.report ["x", "-h"] = ⟨usage, [], ["Error: unexpected argument: x"], 1⟩ ∧
      (s.report ["01020304", "11223344"]).stdout.head?
        = some "[+] Emulating UID 11223344 (1122334444)" ∧
      startingWith "T: " ((s.report ["01020304", "11223344"]).log.map Event.message)
        = ["T: 04  00  ", "T: 11  22  33  44  44  ", "T: 08  b6  dd  ",
            "T: 04  00  ", "T: 11  22  33  44  44  ", "T: 08  b6  dd  "] ∧
      s.report ["01020304", "-q", "11223344"]
        = { s.report ["01020304", "11223344"] with
            log := withoutDebug (s.report ["01020304", "11223344"]).log } := by
  intro s usage
  have hlog : s.LogsByLevel := Surroundings.usual_logsByLevel _
  have htells : s.TellsCauses := Surroundings.usual_tellsCauses _
  have htold := arguments_tell_the_report s hlog htells
  have hhelp : firstRefused ["-q", "043a915c", "-h", "x"] = some "-h" := by decide +kernel
  have hdigit : firstRefused ["043a915c", "0102030g", "-h"] = some "0102030g" := by decide +kernel
  have hword : firstRefused ["x", "-h"] = some "x" := by decide +kernel
  have hnone : firstRefused ["01020304", "11223344"] = none := by decide +kernel
  obtain ⟨cause, hparse, hnotUid, -⟩ := ((htold _).1 _ hdigit).2.1 rfl
  obtain ⟨hstdout, -, -, hsaid⟩ := (htold _).2.1 hnone
  refine ⟨hlog, htells, ((htold _).1 _ hhelp).1 rfl, ⟨cause, hparse, hnotUid⟩,
    (((htold _).1 _ hword).2.2 (by decide) (by decide)).1, ?_, ?_,
    (htold _).2.2 ["01020304"] ["11223344"] rfl⟩
  · rw [hstdout]
    decide +kernel
  · rw [hsaid (by decide) (.inl rfl)]
    decide +kernel

end TagEmulation.CommandLine
