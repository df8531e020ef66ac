import Mathlib.Algebra.Order.BigOperators.Group.List
import Quasar.Svm.Collector
import Quasar.Svm.Execution
import Quasar.Svm.Injection
import Quasar.Svm.Reference

/-!
# Printing — executions that differ only in what their programs print

A line that a program prints can show up in the trace in two ways.  The parser may take it for a
line of the runtime, and the collector may drop a line of the runtime because of the room that it
takes.  Where the collector drops none, the lines that are inert are the ones that cannot be seen;
where it may drop some, nothing that is ever recorded is safe to print.
-/

namespace Quasar
namespace Svm

open Lib QuasarSvm

/-! ## What is recorded of a log -/

/-- The messages that a collector with a byte limit records of a log. -/
def collected (limit : Option Nat) (log : List LogLine) : List String :=
  ((LogCollector.newRef limit).logAll (texts log)).messages

/-- The lines that it keeps. -/
def keptLines (limit : Option Nat) (log : List LogLine) : List LogLine :=
  (LogCollector.newRef limit).keeps LogLine.text log

/-- It drops no line of the runtime. -/
def KeepsRuntime (limit : Option Nat) (log : List LogLine) : Prop :=
  withoutPrograms (keptLines limit log) = withoutPrograms log

/-- The parser finds in the recorded messages what it finds in the lines that were kept. -/
theorem lookup_collected (limit : Option Nat) (log : List LogLine) (key : UInt8 × Nat) :
    (parseLogResults (collected limit log)).lookup key =
      (parseLogResults (texts (keptLines limit log))).lookup key := by
  have hread : Table.init.read readLine (collected limit log) =
      Table.init.read readLine (texts (keptLines limit log)) :=
    LogCollector.read_messages_logAll log (LogCollector.newRef limit) Table.init
  rw [lookup_parseLogResults, lookup_parseLogResults, hread]

theorem firstFigures_collected (limit : Option Nat) (log : List LogLine) :
    firstFigures (collected limit log) = firstFigures (texts (keptLines limit log)) :=
  congrArg (fun o => o.getD (0, 0)) (lookup_collected limit log (0, 0))

/-- A log below the limit is kept as a whole. -/
theorem keptLines_of_logBytes {limit : Option Nat} {log : List LogLine}
    (h : ∀ n, limit = some n → logBytes log < n) : keptLines limit log = log := by
  refine LogCollector.keeps_of_size ?_
  intro n hn
  have hbytes : logBytes log < n := h n hn
  rw [logBytes, texts] at hbytes
  simpa only [LogCollector.newRef, Nat.zero_add] using hbytes

theorem logBytes_withoutPrograms_le (log : List LogLine) :
    logBytes (withoutPrograms log) ≤ logBytes log := by
  have hsub : (withoutPrograms log).Sublist log := List.filter_sublist
  exact ((hsub.map LogLine.text).map String.utf8ByteSize).sum_le_sum fun _ _ => Nat.zero_le _

/-- Where no line of the runtime is dropped and the program lines are inert, the parser finds what it
finds in the lines of the runtime. -/
theorem lookup_collected_of_inert {limit : Option Nat} {log : List LogLine}
    (h : PrintsIn (fun p => Inert p.text) log) (hkeeps : KeepsRuntime limit log)
    (key : UInt8 × Nat) :
    (parseLogResults (collected limit log)).lookup key =
      (parseLogResults (texts (withoutPrograms log))).lookup key := by
  have hkept : PrintsIn (fun p => Inert p.text) (keptLines limit log) := fun p hp =>
    h p (LogCollector.mem_of_mem_keeps hp)
  rw [lookup_collected, (unmoved_of_inert hkept).1, hkeeps]

/-- Program lines that never fit the limit are as good as not printed. -/
theorem keeps_withoutPrograms {limit : Nat} {log : List LogLine}
    (h : PrintsIn (fun p => limit ≤ p.text.utf8ByteSize) log) {c : LogCollector}
    (hlimit : c.bytesLimit = some limit) :
    c.keeps LogLine.text log = c.keeps LogLine.text (withoutPrograms log) := by
  induction log generalizing c with
  | nil => rfl
  | cons l log ih =>
      have hlog : PrintsIn (fun p => limit ≤ p.text.utf8ByteSize) log := fun p hp =>
        h p (List.mem_cons_of_mem _ hp)
      have hrest : (c.log l.text).keeps LogLine.text log =
          (c.log l.text).keeps LogLine.text (withoutPrograms log) :=
        ih hlog ((c.bytesLimit_log l.text).trans hlimit)
      cases l with
      | runtime r =>
          have hwithout : withoutPrograms (.runtime r :: log) = .runtime r :: withoutPrograms log :=
            rfl
          rw [hwithout, LogCollector.keeps, LogCollector.keeps, hrest]
      | program p =>
          -- The line is dropped, and the collector has as much room as before.
          have hsize := h p List.mem_cons_self
          have hfits : ¬ c.fits p.text := by
            simp only [LogCollector.fits, hlimit, decide_eq_true_eq]
            omega
          have hsame : (c.log p.text).keeps LogLine.text (withoutPrograms log) =
              c.keeps LogLine.text (withoutPrograms log) := by
            refine LogCollector.keeps_congr (c.bytesLimit_log p.text) ?_ _
            rw [LogCollector.bytesWritten_log, if_neg fun hboth => hfits hboth.2]
          have hdropped : c.keeps LogLine.text (.program p :: log) =
              (c.log p.text).keeps LogLine.text log := by
            rw [LogCollector.keeps]
            exact if_neg hfits
          have hwithout : withoutPrograms (.program p :: log) = withoutPrograms log := rfl
          rw [hdropped, hwithout]
          exact hrest.trans hsame

/-! ## Executions -/

/-- An execution in which the runtime and the programs wrote `log` reports `r`, over these frames and
this message. -/
inductive Reported (cr : Crates) (log : List LogLine) :
    InstructionTrace → SanitizedMessage → ExecutionResult → Prop
  | execute (rt : Runtime) (svm : QuasarSvm) (ixs : List Instruction) (accounts : List Account)
      (commit : Bool) (o : MessageOutcome) (r : ExecutionResult)
      (hrun : svm.run cr rt ixs accounts = some o)
      (hlog : o.context.logCollector =
        some ((LogCollector.newRef cr.logBytesLimit).logAll (texts log)))
      (hr : (svm.executeInner cr rt ixs accounts commit).2 = .ok r) :
      Reported cr log o.context.transactionContext.trace o.context.message r

/-- The trace of a report joins the frames with the recorded messages. -/
theorem Reported.executionTrace_eq {cr : Crates} {log : List LogLine} {trace : InstructionTrace}
    {message : SanitizedMessage} {r : ExecutionResult} (h : Reported cr log trace message r) :
    r.executionTrace = extractExecutionTrace trace message (collected cr.logBytesLimit log) := by
  cases h with
  | execute rt svm ixs accounts commit o r hrun hlog hr =>
      rcases (executeInner_execution cr rt svm ixs accounts commit).exists_report hr hrun with
        ⟨resulting, rfl⟩
      have hlogs : (svm.afterRun o).drainLogs = collected cr.logBytesLimit log := by
        have hlogger : (svm.afterRun o).logger = o.context.logCollector := rfl
        rw [drainLogs, hlogger, hlog]
        rfl
      rw [← hlogs]
      rfl

/-- Traces over the same frames need of the log only what the parser finds under each key. -/
theorem extractExecutionTrace_congr {logs logs' : List String}
    (h : ∀ key, (parseLogResults logs).lookup key = (parseLogResults logs').lookup key)
    (trace : InstructionTrace) (message : SanitizedMessage) :
    extractExecutionTrace trace message logs = extractExecutionTrace trace message logs' := by
  have hentry : executedInstruction trace message.accountKeys (parseLogResults logs) =
      executedInstruction trace message.accountKeys (parseLogResults logs') := by
    funext idx frame
    simp only [executedInstruction, h]
  simp only [extractExecutionTrace, hentry]

/-- Whatever lines of `S` the programs print: executions over the same frames whose runtime wrote the
same lines, with logs of the given kind, show the same trace. -/
def Unseen (limit : Option Nat) (S : ProgramLine → Prop) (Kind : List LogLine → Prop) : Prop :=
  ∀ cr : Crates, cr.logBytesLimit = limit → ∀ a b : List LogLine,
    PrintsIn S a → PrintsIn S b → Kind a → Kind b → withoutPrograms a = withoutPrograms b →
      ∀ trace message r r', Reported cr a trace message r → Reported cr b trace message r' →
        r.executionTrace = r'.executionTrace

/-! ### Executions that show their first figures -/

/-- A trace of one top-level frame. -/
def oneFrame : InstructionTrace :=
  { frames :=
      [{ programAccountIndexInTx := 0
         nestingLevel := 0 }]
    accounts := [[]]
    data := [[]] }

theorem firstFigures_of_trace {message : SanitizedMessage} {logs logs' : List String}
    (h : extractExecutionTrace oneFrame message logs = extractExecutionTrace oneFrame message logs') :
    firstFigures logs = firstFigures logs' := by
  simp [extractExecutionTrace, oneFrame, executedInstruction] at h
  exact Prod.ext h.2 h.1

/-- A runtime that places one frame and logs the given lines. -/
def printingRuntime (log : List LogLine) : Runtime :=
  { prepareTopLevelInstructions := fun _ _ => .ok InstructionTrace.empty
    processInstruction := fun inp =>
      { result := .ok ()
        computeUnitsConsumed := 0
        accountAfter := fun i =>
          ((inp.transactionContext.accounts[i]?).map Prod.snd).getD SolanaAccount.default
        returnData := inp.transactionContext.returnData
        trace := oneFrame
        storedPrograms := []
        computeMeter := inp.computeMeter
        logCollector := inp.logCollector.map fun c => c.logAll (texts log)
        executeUs := inp.executeUs } }

/-- An instruction without accounts. -/
def printingInstruction : Instruction :=
  { programId := Pubkey.filled 1
    accounts := []
    data := [] }

/-- The reference crates with another byte limit for logs. -/
def limitedCrates (limit : Option Nat) : Crates :=
  { Reference.crates with logBytesLimit := limit }

/-- Every log is that of an execution over one frame, on an empty VM. -/
theorem exists_reported (limit : Option Nat) (log : List LogLine) :
    ∃ r, Reported (limitedCrates limit) log oneFrame
      (Reference.emptyVm.message (limitedCrates limit) [printingInstruction] []) r := by
  have hprepare : (printingRuntime log).prepareTopLevelInstructions
      (Reference.emptyVm.message (limitedCrates limit) [printingInstruction] [])
      (Reference.emptyVm.initialContext (limitedCrates limit) [printingInstruction] []) =
        .ok InstructionTrace.empty := rfl
  have hrun := run_of_prepare hprepare
  exact ⟨_, Reported.execute (printingRuntime log) Reference.emptyVm [printingInstruction] [] true
    _ _ hrun rfl (congrArg Prod.snd (executeInner_of_some hrun true))⟩

/-- Unseen prints leave the figures of the first invocation as they are. -/
theorem Unseen.firstFigures_eq {limit : Option Nat} {S : ProgramLine → Prop}
    {Kind : List LogLine → Prop} (h : Unseen limit S Kind) {a b : List LogLine}
    (ha : PrintsIn S a) (hb : PrintsIn S b) (hkinda : Kind a) (hkindb : Kind b)
    (hsame : withoutPrograms a = withoutPrograms b) :
    firstFigures (collected limit a) = firstFigures (collected limit b) := by
  rcases exists_reported limit a with ⟨r, hr⟩
  rcases exists_reported limit b with ⟨r', hr'⟩
  have htrace := h (limitedCrates limit) rfl a b ha hb hkinda hkindb hsame _ _ r r' hr hr'
  rw [hr.executionTrace_eq, hr'.executionTrace_eq] at htrace
  exact firstFigures_of_trace htrace

/-! ## A failure that does not fit -/

/-- A text of `n` letters. -/
def crosses : Nat → String
  | 0 => ""
  | n + 1 => (crosses n).push 'x'

theorem utf8ByteSize_crosses (n : Nat) : (crosses n).utf8ByteSize = n := by
  induction n with
  | zero => rfl
  | succ n ih => rw [crosses, String.utf8ByteSize_push, ih]; rfl

theorem toList_crosses (n : Nat) : (crosses n).toList = List.replicate n 'x' := by
  induction n with
  | zero => rfl
  | succ n ih => rw [crosses, String.toList_push, ih, List.replicate_succ']

/-- A failure line of the system program with an error of `n` letters. -/
def longFailure (n : Nat) : RuntimeLine :=
  .failed systemProgramText (crosses n)

theorem utf8ByteSize_longFailure (n : Nat) : (longFailure n).text.utf8ByteSize = 49 + n := by
  have hid : systemProgramText.utf8ByteSize = 32 := by decide
  have hword : "Program ".utf8ByteSize = 8 := by decide
  have hfailed : " failed: ".utf8ByteSize = 9 := by decide
  simp only [longFailure, RuntimeLine.text, toString, String.utf8ByteSize_append, hid, hword,
    hfailed, utf8ByteSize_crosses]

theorem readLine_longFailure (n : Nat) :
    readLine (longFailure n).text = some (.leave (codeUpdate 1)) := by
  have htext : (longFailure n).text.toList =
      "Program 11111111111111111111111111111111 failed: ".toList ++ List.replicate n 'x' := by
    have hwords : ("Program ".toList ++ systemProgramText.toList) ++ " failed: ".toList =
        "Program 11111111111111111111111111111111 failed: ".toList := rfl
    simp only [longFailure, RuntimeLine.text, toString, String.toList_append, toList_crosses,
      ← hwords]
  -- Each marker has a letter that the line does not have.
  have hfree : ∀ c : Char, c ∉ "Program 11111111111111111111111111111111 failed: ".toList →
      c ≠ 'x' → c ∉ (longFailure n).text.toList := by
    intro c hwords hx hc
    rw [htext] at hc
    rcases List.mem_append.1 hc with hc | hc
    · exact hwords hc
    · exact hx (List.eq_of_mem_replicate hc)
  have hread : (longFailure n).Unmistakable :=
    ⟨Text.not_infix_of_notMem (c := '[') (by decide) (hfree '[' (by decide) (by decide)),
      Text.not_infix_of_notMem (c := 'c') (by decide) (hfree 'c' (by decide) (by decide)),
      Text.not_infix_of_notMem (c := 'u') (by decide) (hfree 'u' (by decide) (by decide))⟩
  exact hread.read

/-- An invocation that fails, with as long an error as the limit allows. -/
def silent (limit : Nat) : List LogLine :=
  [.runtime opening, .runtime (longFailure (limit - 101))]

/-- The same with a line that the program prints first. -/
def printed (limit : Nat) (p : ProgramLine) : List LogLine :=
  .program p :: silent limit

theorem firstFigures_silent {limit : Nat} (h : 128 ≤ limit) :
    firstFigures (collected (some limit) (silent limit)) = (1, 0) := by
  have hkept : keptLines (some limit) (silent limit) = silent limit := by
    refine keptLines_of_logBytes ?_
    intro limit' hlimit
    cases hlimit
    simp only [logBytes, texts, silent, List.map_cons, List.map_nil, List.sum_cons, List.sum_nil,
      LogLine.text, utf8ByteSize_opening, utf8ByteSize_longFailure]
    omega
  rw [firstFigures_collected, hkept, firstFigures_eq]
  simp [silent, texts, LogLine.text, Table.read, readLine_opening, readLine_longFailure, Table.step,
    Table.init, Table.updateRow, tableLookup, codeUpdate]

/-- A printed line that is recorded leaves no room for the failure line. -/
theorem keptLines_printed {limit : Nat} (h : 128 ≤ limit) {p : ProgramLine}
    (hsize : p.text.utf8ByteSize < limit) (hpos : 0 < p.text.utf8ByteSize) :
    keptLines (some limit) (printed limit p) = [.program p, .runtime opening] ∨
      keptLines (some limit) (printed limit p) = [.program p] := by
  simp only [keptLines, printed, silent, LogCollector.keeps, LogLine.text, LogCollector.fits,
    LogCollector.bytesLimit_log, LogCollector.bytesWritten_log, LogCollector.newRef,
    utf8ByteSize_opening, utf8ByteSize_longFailure, Option.isSome_some, true_and]
  by_cases hopening : p.text.utf8ByteSize + 51 < limit
  · left
    have hfailure : ¬ p.text.utf8ByteSize + 51 + (49 + (limit - 101)) < limit := by omega
    simp [hsize, hopening, hfailure]
  · right
    have hfailure : ¬ p.text.utf8ByteSize + (49 + (limit - 101)) < limit := by omega
    simp [hsize, hopening, hfailure]

theorem firstFigures_printed {limit : Nat} (h : 128 ≤ limit) {p : ProgramLine}
    (hsize : p.text.utf8ByteSize < limit) (hpos : 0 < p.text.utf8ByteSize) :
    firstFigures (collected (some limit) (printed limit p)) ≠ (1, 0) := by
  rw [firstFigures_collected, firstFigures_eq]
  -- What is recorded closes no invocation, whatever the parser takes the printed line for.
  rcases keptLines_printed h hsize hpos with hkept | hkept
  · rw [hkept]
    cases hread : readLine p.text with
    | none =>
        simp [texts, LogLine.text, Table.read, hread, readLine_opening, Table.step, Table.init,
          tableLookup]
    | some m =>
        rcases readLine_cases hread with ⟨d, rfl⟩ | ⟨units, rfl⟩ | ⟨code, hcode, rfl⟩ <;>
          simp [texts, LogLine.text, Table.read, hread, readLine_opening, Table.step, Table.init,
            tableLookup]
  · rw [hkept]
    cases hread : readLine p.text with
    | none =>
        simp [texts, LogLine.text, Table.read, hread, Table.init, tableLookup]
    | some m =>
        rcases readLine_cases hread with ⟨d, rfl⟩ | ⟨units, rfl⟩ | ⟨code, hcode, rfl⟩ <;>
          simp [texts, LogLine.text, Table.read, hread, Table.step, Table.init, tableLookup]

/-! ## Which prints are unseen -/

theorem ProgramLine.utf8ByteSize_pos (p : ProgramLine) : 0 < p.text.utf8ByteSize := by
  have hlog : "Program log: ".utf8ByteSize = 13 := by decide
  have hdata : "Program data: ".utf8ByteSize = 14 := by decide
  cases p with
  | log message =>
      have hsize := String.utf8ByteSize_append (s := "Program log: ") (t := message)
      show 0 < ("Program log: " ++ message).utf8ByteSize
      omega
  | data payload =>
      have hsize := String.utf8ByteSize_append (s := "Program data: ") (t := payload)
      show 0 < ("Program data: " ++ payload).utf8ByteSize
      omega

/-- Inert lines are unseen as long as the collector drops no line of the runtime. -/
theorem unseen_of_inert {S : ProgramLine → Prop} (h : ∀ p, S p → Inert p.text)
    (limit : Option Nat) : Unseen limit S (KeepsRuntime limit) := by
  rintro cr rfl a b ha hb hkeepsa hkeepsb hsame trace message r r' hr hr'
  rw [hr.executionTrace_eq, hr'.executionTrace_eq]
  refine extractExecutionTrace_congr ?_ trace message
  intro key
  rw [lookup_collected_of_inert (fun p hp => h p (ha p hp)) hkeepsa, hsame,
    ← lookup_collected_of_inert (fun p hp => h p (hb p hp)) hkeepsb]

/-- The limit has room for the line and a short invocation around it. -/
def HasRoom (limit : Option Nat) (p : ProgramLine) : Prop :=
  ∀ n, limit = some n → p.text.utf8ByteSize + 200 < n

/-- A line that is not inert is seen where there is room for it. -/
theorem inert_of_unseen {limit : Option Nat} {S : ProgramLine → Prop}
    (h : Unseen limit S (KeepsRuntime limit)) {p : ProgramLine} (hp : S p)
    (hroom : HasRoom limit p) : Inert p.text := by
  by_contra hnot
  rcases exists_movesFirst hnot with ⟨log, hprints, hmoves, hbytes⟩
  have hkept : keptLines limit log = log :=
    keptLines_of_logBytes fun n hn => Nat.lt_of_le_of_lt hbytes (hroom n hn)
  have hkept' : keptLines limit (withoutPrograms log) = withoutPrograms log := by
    refine keptLines_of_logBytes fun n hn => ?_
    exact Nat.lt_of_le_of_lt ((logBytes_withoutPrograms_le log).trans hbytes) (hroom n hn)
  have hin : PrintsIn S log := fun q hq => hprints q hq ▸ hp
  have hout : PrintsIn S (withoutPrograms log) := fun q hq =>
    hin q (List.mem_of_mem_filter hq)
  have hagain : withoutPrograms log = withoutPrograms (withoutPrograms log) := by
    simp [withoutPrograms]
  have hfigures := h.firstFigures_eq hin hout (congrArg withoutPrograms hkept)
    (congrArg withoutPrograms hkept') hagain
  rw [firstFigures_collected, firstFigures_collected, hkept, hkept'] at hfigures
  exact hmoves hfigures

/-- Lines that never fit the limit are unseen whatever the collector drops. -/
theorem unseen_of_size {limit : Nat} {S : ProgramLine → Prop}
    (h : ∀ p, S p → limit ≤ p.text.utf8ByteSize) : Unseen (some limit) S fun _ => True := by
  intro cr hlimit a b ha hb _ _ hsame trace message r r' hr hr'
  rw [hr.executionTrace_eq, hr'.executionTrace_eq, hlimit]
  refine extractExecutionTrace_congr ?_ trace message
  intro key
  have hkept : keptLines (some limit) a = keptLines (some limit) b := by
    rw [keptLines, keptLines, keeps_withoutPrograms (fun p hp => h p (ha p hp)) rfl, hsame,
      ← keeps_withoutPrograms (fun p hp => h p (hb p hp)) rfl]
  rw [lookup_collected, lookup_collected, hkept]

/-- A line that fits the limit, inert or not, can make the collector drop a failure line. -/
theorem size_of_unseen {limit : Nat} (hlarge : 128 ≤ limit) {S : ProgramLine → Prop}
    (h : Unseen (some limit) S fun _ => True) : ∀ p, S p → limit ≤ p.text.utf8ByteSize := by
  intro p hp
  by_contra hsize
  have hsilent : PrintsIn S (silent limit) := by
    intro q hq
    simp [silent] at hq
  have hprinted : PrintsIn S (printed limit p) := by
    intro q hq
    rcases List.mem_cons.1 hq with hq | hq
    · cases hq
      exact hp
    · exact hsilent q hq
  have hfigures := h.firstFigures_eq hprinted hsilent trivial trivial rfl
  rw [firstFigures_silent hlarge] at hfigures
  exact firstFigures_printed hlarge (Nat.lt_of_not_le hsize) p.utf8ByteSize_pos hfigures

/-- Lines that programs print move no log exactly when they are inert.  The same decides, under each
limit that has room for them, whether they show in no execution whose runtime lines are all recorded.
Where runtime lines may be dropped they show in no execution exactly when they are never recorded
themselves. -/
theorem unseen_iff_inert (S : ProgramLine → Prop) :
    ((∀ log, PrintsIn S log → Unmoved log) ↔ ∀ p, S p → Inert p.text) ∧
      ((∀ limit, Unseen limit S (KeepsRuntime limit)) ↔ ∀ p, S p → Inert p.text) ∧
      (∀ limit, (∀ p, S p → HasRoom limit p) →
        (Unseen limit S (KeepsRuntime limit) ↔ ∀ p, S p → Inert p.text)) ∧
      ∀ limit, 128 ≤ limit →
        (Unseen (some limit) S (fun _ => True) ↔ ∀ p, S p → limit ≤ p.text.utf8ByteSize) := by
  refine ⟨unmoved_iff_inert S, ?_, ?_, ?_⟩
  · constructor
    · -- Without a limit there is room for every line.
      intro hunseen p hp
      exact inert_of_unseen (hunseen none) hp nofun
    · intro hinert limit
      exact unseen_of_inert hinert limit
  · intro limit hroom
    constructor
    · intro hunseen p hp
      exact inert_of_unseen hunseen hp (hroom p hp)
    · intro hinert
      exact unseen_of_inert hinert limit
  · intro limit hlarge
    constructor
    · intro hunseen
      exact size_of_unseen hlarge hunseen
    · intro hsize
      exact unseen_of_size hsize

/-- A greeting is inert, and with the engine's limit it can still push a failure line out. -/
theorem unseen_iff_inert_greeting :
    Unseen (some 10000) (fun p => p = .log "hello") (KeepsRuntime (some 10000)) ∧
      ¬ Unseen (some 10000) (fun p => p = .log "hello") fun _ => True := by
  rcases unseen_iff_inert fun p => p = .log "hello" with ⟨_, hinert, _, hsize⟩
  constructor
  · refine hinert.2 ?_ (some 10000)
    rintro p rfl
    decide
  · intro hunseen
    have hlong := (hsize 10000 (by decide)).1 hunseen _ rfl
    exact absurd hlong (by decide)

end Svm
end Quasar
