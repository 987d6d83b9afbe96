import ComponentFormat.Engine.Command
import ComponentFormat.Proofs.BareLines

/-! # What comes of a process

A tool that ends with status zero gives the text that it wrote. One that cannot be started, does not end in time or ends
with another status has failed, and the report names it, with the first line of its complaint if there is one. Bytes
that are no text are the one ending that is neither (`Tool.endings_settled`).
-/
namespace ComponentFormat

/-- The bytes are the characters of the text one after another, in UTF-8. -/
def Bytes.Spell (b : Bytes) (t : Text) : Prop :=
  b = t.flatMap String.utf8EncodeChar

theorem Bytes.toText?_eq_some_iff {b : Bytes} {t : Text} : toText? b = some t ↔ b.Spell t := by
  have hspell : ByteArray.mk b.toArray = t.utf8Encode ↔ b.Spell t := by
    rw [ByteArray.ext_iff, List.utf8Encode, List.data_toByteArray]
    exact ⟨List.toArray_inj, congrArg List.toArray⟩
  rw [← hspell, toText?, Option.map_eq_some_iff]
  unfold String.fromUTF8?
  constructor
  · rintro ⟨s, hs, rfl⟩
    obtain ⟨hvalid, hs⟩ := Option.dite_none_right_eq_some.1 hs
    rw [← String.toByteArray_ofList, String.ofList_toList, ← Option.some.inj hs]
    rfl
  · intro h
    refine ⟨String.ofList t, ?_, String.toList_ofList⟩
    rw [dif_pos ⟨t, h⟩]
    refine congrArg some (String.toByteArray_inj.1 ?_)
    rw [String.toByteArray_ofList, ← h]
    rfl

namespace Tool

/-- The bytes are a text, of which `t` is read: line feeds for all terminators. -/
def Reads (b : Bytes) (t : Text) : Prop :=
  ∃ u, b.Spell u ∧ t = Text.withTerminator ['\n'] u

theorem decode?_eq_some_iff {b : Bytes} {t : Text} : decode? b = some t ↔ Reads b t := by
  rw [decode?, Option.map_eq_some_iff]
  simp only [Bytes.toText?_eq_some_iff, Reads, @eq_comm _ t]

theorem decode?_eq_none_iff {b : Bytes} : decode? b = none ↔ ∀ t, ¬b.Spell t := by
  rw [decode?, Option.map_eq_none_iff, Option.eq_none_iff_forall_ne_some]
  simp only [ne_eq, Bytes.toText?_eq_some_iff]

/-! ### The first line of a report -/

/-- What is told of a report: nothing of a blank one, and else its first line that is not blank, from the first
character of it that is no blank on; the blanks at the end of the report do not belong to it. -/
inductive Told : Text → String → Prop
  | nothing {report : Text} (h : report.Blank) : Told report ""
  | line {before line after : Text} (hbefore : before.Blank) (hfirst : ∃ c ∈ line.head?, isBlank c = false)
      (hline : ∀ c ∈ line, endsLine c = false)
      (hafter : after.Blank ∧ (∃ c ∈ line.getLast?, isBlank c = false) ∨
        ¬after.Blank ∧ ∃ c ∈ after.head?, endsLine c = true) :
      Told (before ++ (line ++ after)) (": " ++ String.ofList line)

def detail (report : Text) : String :=
  match firstLine? report with
  | some line => ": " ++ String.ofList line
  | none => ""

theorem isBlank_of_endsLine {c : Char} (h : endsLine c = true) : isBlank c = true := by
  simp only [endsLine, isBlank, Bool.or_eq_true, Bool.and_eq_true, decide_eq_true_eq, beq_iff_eq] at h ⊢
  omega

theorem detail_of_blank {report : Text} (h : report.Blank) : detail report = "" := by
  rw [detail, firstLine?, Text.strip_blank h]

theorem detail_of_strip {report line rest : Text} (h : Text.strip report = line ++ rest) (hne : line ≠ [])
    (hline : ∀ c ∈ line, endsLine c = false) (hrest : ∀ c ∈ rest.head?, endsLine c = true) :
    detail report = ": " ++ String.ofList line := by
  have htake : (line ++ rest).takeWhile (!endsLine ·) = line := by
    rw [List.takeWhile_append_of_pos (by simpa using hline)]
    cases rest with
    | nil => simp
    | cons c rest => simp [hrest c rfl]
  have hfirst : firstLine? report = some line := by
    rw [firstLine?, h]
    cases line with
    | nil => exact absurd rfl hne
    | cons c line => exact congrArg some htake
  rw [detail, hfirst]

theorem strip_line {line after : Text} (hfirst : ∃ c ∈ line.head?, isBlank c = false)
    (hafter : after.Blank ∧ (∃ c ∈ line.getLast?, isBlank c = false) ∨
      ¬after.Blank ∧ ∃ c ∈ after.head?, endsLine c = true) :
    ∃ rest, Text.strip (line ++ after) = line ++ rest ∧ ∀ c ∈ rest.head?, endsLine c = true := by
  rcases hafter with ⟨hblank, hlast⟩ | ⟨hsome, c, hc, hend⟩
  · refine ⟨[], ?_, by simp⟩
    rw [Text.strip_append_blank hblank, Text.strip_tight ⟨hfirst, hlast⟩, List.append_nil]
  · obtain ⟨p, q, -, hq, htext, hinner⟩ := after.blank_or_tight.resolve_left hsome
    generalize Text.strip after = inner at htext hinner
    obtain ⟨d, hd, -⟩ := hinner.first
    have hne : p ++ inner ≠ [] := by
      intro hnil
      rw [(List.append_eq_nil_iff.1 hnil).2] at hd
      cases hd
    have hhead : (p ++ inner).head? = some c := by
      rw [← Option.mem_def.1 hc, htext, ← List.append_assoc, List.head?_append_of_ne_nil _ hne]
    have htight : Text.Tight (line ++ (p ++ inner)) := by
      obtain ⟨b, hb, hfirst⟩ := hfirst
      obtain ⟨e, he, hlast⟩ := hinner.last
      refine ⟨⟨b, by simp [Option.mem_def.1 hb], hfirst⟩, ⟨e, by simp [Option.mem_def.1 he], hlast⟩⟩
    refine ⟨p ++ inner, ?_, fun b hb => ?_⟩
    · rw [htext, ← List.append_assoc p, ← List.append_assoc line, Text.strip_append_blank hq, Text.strip_tight htight]
    · rw [hhead, Option.mem_some] at hb
      exact hb ▸ hend

theorem Told.eq_detail {report : Text} {s : String} (h : Told report s) : s = detail report := by
  cases h with
  | nothing h => exact (detail_of_blank h).symm
  | line hbefore hfirst hline hafter =>
    obtain ⟨rest, hstrip, hrest⟩ := strip_line hfirst hafter
    refine (detail_of_strip ((Text.strip_blank_append hbefore _).trans hstrip) ?_ hline hrest).symm
    rintro rfl
    obtain ⟨c, hc, -⟩ := hfirst
    cases hc

theorem told_detail (report : Text) : Told report (detail report) := by
  rcases report.blank_or_tight with h | ⟨p, q, hp, hq, htext, htight⟩
  · rw [detail_of_blank h]
    exact .nothing h
  obtain ⟨c, hc, hfirst⟩ := htight.first
  obtain ⟨d, hd, hlast⟩ := htight.last
  obtain ⟨u, hu⟩ := List.head?_eq_some_iff.1 hc
  have hnot : endsLine c = false := Bool.eq_false_iff.2 fun hend => by simp [isBlank_of_endsLine hend] at hfirst
  -- the first character is no blank, so it is in the line
  have hsplit : Text.strip report = c :: u.takeWhile (!endsLine ·) ++ u.dropWhile (!endsLine ·) := by
    rw [hu, List.cons_append, List.takeWhile_append_dropWhile]
  have hline : ∀ e ∈ c :: u.takeWhile (!endsLine ·), endsLine e = false := by
    refine List.forall_mem_cons.2 ⟨hnot, fun e he => ?_⟩
    simpa using List.all_eq_true.1 List.all_takeWhile e he
  have hrest : ∀ e ∈ (u.dropWhile (!endsLine ·)).head?, endsLine e = true := by
    intro e he
    have := List.head?_dropWhile_not (!endsLine ·) u
    rw [Option.mem_def.1 he] at this
    simpa using this
  rw [detail_of_strip hsplit (List.cons_ne_nil _ _) hline hrest]
  rw [hsplit] at htext hd
  generalize u.takeWhile (!endsLine ·) = line at *
  generalize u.dropWhile (!endsLine ·) = rest at *
  rw [htext, List.append_assoc]
  refine .line hp ⟨c, rfl, hfirst⟩ hline ?_
  cases rest with
  | nil => exact .inl ⟨hq, d, by simpa using hd, hlast⟩
  | cons e rest =>
    refine .inr ⟨fun hblank => ?_, e, rfl, hrest e rfl⟩
    have hmem : d ∈ e :: rest ++ q := by
      rw [Option.mem_def, List.getLast?_append_of_ne_nil _ (List.cons_ne_nil e rest)] at hd
      exact List.mem_append_left q (List.mem_of_getLast? hd)
    simp [hblank d hmem] at hlast

theorem told_iff {report : Text} {s : String} : Told report s ↔ s = detail report := by
  constructor
  · exact Told.eq_detail
  · rintro rfl
    exact told_detail report

/-! ### Endings of a process -/

/-- The process has ended with status zero, and `text` is read of what it wrote. -/
def Gives (c : Completion) (text : Text) : Prop :=
  ∃ output errors report, c = .exited 0 output errors ∧ Reads output text ∧ Reads errors report

/-- The failures of the tool `name`, each with its report. -/
inductive Fails (name : String) (timeout : Option Timeout) : Completion → String → Prop
  | missing : Fails name timeout .missing s!"Formatter executable not found: {name}"
  | refused (reason : String) : Fails name timeout (.refused reason) s!"Cannot run {name}: {reason}"
  | timedOut {shown : String} (h : shown = (timeout.map Timeout.shown).getD "None") :
      Fails name timeout .timedOut s!"{name} timed out after {shown}s"
  | exited {status : Int} {output errors : Bytes} {text report : Text} {told : String} (hstatus : status ≠ 0)
      (houtput : Reads output text) (herrors : Reads errors report) (htold : Told report told) :
      Fails name timeout (.exited status output errors) (s!"{name} exited with status {status}" ++ told)

/-- The process has ended, and has written bytes that are no text. -/
inductive Garbled : Completion → Prop
  | output {status : Int} {output errors : Bytes} (h : ∀ t, ¬output.Spell t) : Garbled (.exited status output errors)
  | errors {status : Int} {output errors : Bytes} (h : ∀ t, ¬errors.Spell t) : Garbled (.exited status output errors)

section
variable {name : String} {timeout : Option Timeout} {c : Completion}

theorem result_exited {status : Int} {output errors : Bytes} {text report : Text} (houtput : Reads output text)
    (herrors : Reads errors report) : result name timeout (.exited status output errors) =
      if status = 0 then .ok text else .error (.failed (s!"{name} exited with status {status}" ++ detail report)) := by
  rw [result, decode?_eq_some_iff.2 houtput, decode?_eq_some_iff.2 herrors]
  rfl

theorem Gives.result_eq {text : Text} (h : Gives c text) : result name timeout c = .ok text := by
  obtain ⟨output, errors, report, rfl, houtput, herrors⟩ := h
  rw [result_exited houtput herrors, if_pos rfl]

theorem Fails.result_eq {m : String} (h : Fails name timeout c m) : result name timeout c = .error (.failed m) := by
  cases h with
  | missing => rfl
  | refused reason => rfl
  | timedOut h =>
    subst h
    rfl
  | exited hstatus houtput herrors htold => rw [result_exited houtput herrors, if_neg hstatus, told_iff.1 htold]

theorem Garbled.result_eq (h : Garbled c) : result name timeout c = .error .undecodable := by
  cases h with
  | output h =>
    rw [result, decode?_eq_none_iff.2 h]
  | errors h =>
    rw [result, decode?_eq_none_iff.2 h]
    split
    · next hnone => cases hnone
    · rfl

theorem gives_or_fails_or_garbled (name : String) (timeout : Option Timeout) (c : Completion) :
    (∃ text, Gives c text) ∨ (∃ m, Fails name timeout c m) ∨ Garbled c := by
  cases c with
  | missing => exact .inr (.inl ⟨_, .missing⟩)
  | refused reason => exact .inr (.inl ⟨_, .refused reason⟩)
  | timedOut => exact .inr (.inl ⟨_, .timedOut rfl⟩)
  | exited status output errors =>
    cases houtput : decode? output with
    | none => exact .inr (.inr (.output (decode?_eq_none_iff.1 houtput)))
    | some text =>
      cases herrors : decode? errors with
      | none => exact .inr (.inr (.errors (decode?_eq_none_iff.1 herrors)))
      | some report =>
        rw [decode?_eq_some_iff] at houtput herrors
        by_cases hstatus : status = 0
        · exact .inl ⟨text, output, errors, report, hstatus ▸ rfl, houtput, herrors⟩
        · exact .inr (.inl ⟨_, .exited hstatus houtput herrors (told_detail report)⟩)

theorem result_eq_ok_iff {text : Text} : result name timeout c = .ok text ↔ Gives c text := by
  refine ⟨fun h => ?_, Gives.result_eq⟩
  rcases gives_or_fails_or_garbled name timeout c with ⟨t, ht⟩ | ⟨m, hm⟩ | hg
  · cases ht.result_eq.symm.trans h
    exact ht
  · cases hm.result_eq.symm.trans h
  · cases hg.result_eq.symm.trans h

theorem result_eq_failed_iff {m : String} : result name timeout c = .error (.failed m) ↔ Fails name timeout c m := by
  refine ⟨fun h => ?_, Fails.result_eq⟩
  rcases gives_or_fails_or_garbled name timeout c with ⟨t, ht⟩ | ⟨m, hm⟩ | hg
  · cases ht.result_eq.symm.trans h
  · cases hm.result_eq.symm.trans h
    exact hm
  · cases hg.result_eq.symm.trans h

theorem result_eq_undecodable_iff : result name timeout c = .error .undecodable ↔ Garbled c := by
  refine ⟨fun h => ?_, Garbled.result_eq⟩
  rcases gives_or_fails_or_garbled name timeout c with ⟨t, ht⟩ | ⟨m, hm⟩ | hg
  · cases ht.result_eq.symm.trans h
  · cases hm.result_eq.symm.trans h
  · exact hg

/-- An engine whose process does not garble what it writes answers or refuses. -/
theorem reply_eq_crashed_iff : EngineSettings.reply (result name timeout c) = .crashed ↔ Garbled c := by
  rw [← @result_eq_undecodable_iff name timeout c]
  rcases gives_or_fails_or_garbled name timeout c with ⟨t, ht⟩ | ⟨m, hm⟩ | hg
  · rw [ht.result_eq]
    exact iff_of_false nofun nofun
  · rw [hm.result_eq]
    exact iff_of_false nofun nofun
  · rw [hg.result_eq]
    exact iff_of_true rfl rfl

end

/-- What is seen of the process of a command: that its program does not start, or its run within the time limit. -/
inductive Process (name : String) (args : List String) (input : Text) (timeout : Option Timeout) : Completion → Prop
  | notStarted {e : StartError} (h : Program.find (Octets.ofString name) (args.map Octets.ofString) = .error e) :
      Process name args input timeout (.notStarted name e)
  | ran {program : Program} {most : Option Int}
      (h : Program.find (Octets.ofString name) (args.map Octets.ofString) = .ok program)
      (hmost : timeout.mapM limit = .ok most) :
      Process name args input timeout ((program (args.map Octets.ofString)
        (.plain (Octets.ofString name) (Octets.ofText input))).within most)

/-- A command or a time limit with which no process can be made. -/
inductive Unfit (command : List String) (timeout : Option Timeout) : ToolError → Prop
  | noCommand (h : command = []) : Unfit command timeout .noCommand
  | argument (h : ∃ a ∈ command, '\x00' ∈ a.toList) : Unfit command timeout .badArgument
  | limit {t : Timeout} {e : ToolError} (ht : timeout = some t) (h : limit t = .error e)
      (he : e = .badArgument ∨ e = .endlessLimit) : Unfit command timeout e

theorem error_of_limit {t : Timeout} {e : ToolError} (h : limit t = .error e) :
    e = .badArgument ∨ e = .endlessLimit := by
  have hkept {x : Float} (h : (if x.isNaN = true then throw .badArgument else if x ≤ 0.0 then pure 0
      else if maxLimit < (x * 1000.0).ceil then throw .endlessLimit else pure ((x * 1000.0).toUInt64.toNat : Int) :
        Except ToolError Int) = .error e) : e = .badArgument ∨ e = .endlessLimit := by
    split at h
    · cases h
      exact .inl rfl
    · split at h
      · cases h
      · split at h
        · cases h
          exact .inr rfl
        · cases h
  cases t with
  | whole n =>
    dsimp only [limit] at h
    split at h
    · cases h
      exact .inr rfl
    · exact hkept h
  | fractional x => exact hkept h

theorem run_cases (command : List String) (input : Text) (timeout : Option Timeout) :
    (∃ name args c, command = name :: args ∧ Process name args input timeout c ∧
      run command input timeout = result name timeout c) ∨
    ∃ e, Unfit command timeout e ∧ run command input timeout = .error e := by
  cases command with
  | nil => exact .inr ⟨_, .noCommand rfl, rfl⟩
  | cons name args =>
    unfold run
    dsimp only
    by_cases hmark : (name :: args).any (fun a => a.toList.contains '\x00') = true
    · refine .inr ⟨.badArgument, .argument ?_, ?_⟩
      · simpa using hmark
      · rw [if_pos hmark]
        rfl
    rw [if_neg hmark]
    cases hfind : Program.find (Octets.ofString name) (args.map Octets.ofString) with
    | error e => exact .inl ⟨name, args, _, rfl, .notStarted hfind, rfl⟩
    | ok program =>
      dsimp only
      cases hmost : timeout.mapM limit with
      | ok most => exact .inl ⟨name, args, _, rfl, .ran hfind hmost, rfl⟩
      | error e =>
        refine .inr ⟨e, ?_, rfl⟩
        cases timeout with
        | none => cases hmost
        | some t =>
          have ht : limit t = .error e := by
            cases hlimit : limit t with
            | ok n =>
              rw [Option.mapM_some, hlimit] at hmost
              cases hmost
            | error e' =>
              rw [Option.mapM_some, hlimit] at hmost
              cases hmost
              rfl
          exact .limit rfl ht (error_of_limit ht)

/-- Of every process that has ended, with whatever status and bytes, comes the text that it wrote or the report of a
failure, unless bytes that it has written are no text: then there is neither, and its engine crashes. A command and a
time limit that are not unfit have such a process. -/
theorem endings_settled (command : List String) (input : Text) (timeout : Option Timeout) :
    (∀ (name : String) (c : Completion),
      ((∃ text, Gives c text) ∨ (∃ m, Fails name timeout c m) ∨ Garbled c) ∧
      (∀ text, result name timeout c = .ok text ↔ Gives c text) ∧
      (∀ m, result name timeout c = .error (.failed m) ↔ Fails name timeout c m) ∧
      (result name timeout c = .error .undecodable ↔ Garbled c) ∧
      (EngineSettings.reply (result name timeout c) = .crashed ↔ Garbled c)) ∧
    ((∃ name args c, command = name :: args ∧ Process name args input timeout c ∧
        run command input timeout = result name timeout c) ∨
      ∃ e, Unfit command timeout e ∧ run command input timeout = .error e) := by
  refine ⟨fun name c => ⟨gives_or_fails_or_garbled name timeout c, ?_, ?_, ?_, ?_⟩, run_cases command input timeout⟩
  · exact fun text => result_eq_ok_iff
  · exact fun m => result_eq_failed_iff
  · exact result_eq_undecodable_iff
  · exact reply_eq_crashed_iff

/-- A shell that writes a byte with which no character starts. -/
def strayByte : List String := ["sh", "-c", "cat >/dev/null; printf '\\377'"]

/-- Its process ends, and there is neither a text nor a report. -/
theorem run_strayByte :
    (∃ name args c, strayByte = name :: args ∧ Process name args ['x'] none c ∧ Garbled c) ∧
    ¬((∃ text, run strayByte ['x'] none = .ok text) ∨ ∃ m, run strayByte ['x'] none = .error (.failed m)) := by
  have hrun : run strayByte ['x'] none = .error .undecodable := by
    have herror : (match run strayByte ['x'] none with
      | .ok _ => none
      | .error e => some e) = some .undecodable := by decide +kernel
    split at herror
    · cases herror
    · next e he => rw [he, Option.some.inj herror]
  constructor
  · rcases run_cases strayByte ['x'] none with ⟨name, args, c, hcommand, hprocess, hresult⟩ | ⟨e, hunfit, he⟩
    · exact ⟨name, args, c, hcommand, hprocess, result_eq_undecodable_iff.1 (hresult.symm.trans hrun)⟩
    · cases he.symm.trans hrun
      cases hunfit with
      | limit ht => cases ht
  · rw [hrun]
    rintro (⟨text, h⟩ | ⟨m, h⟩) <;> cases h

end Tool

end ComponentFormat
