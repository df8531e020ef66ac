import Quasar.Svm.Execution
import Quasar.Svm.Collector

/-!
# Chain — the invocations of a call, and what the runtime records of them

A call starts invocations: one for each top-level instruction that it reaches, and one for each
cross-program invocation on the way.  The runtime records them twice.  In the trace it places a
frame for every top-level instruction before the first one runs, and a frame for every other
invocation when it is made.  In the log it writes an invoke line, what happens inside, and the lines
of the result.  `Chain` is a call on a runtime that does so.
-/

namespace Quasar
namespace Svm

open Lib QuasarSvm

/-! ## Invocations -/

/-- What the runtime places in the trace for an invocation. -/
structure Placement where
  programAccountIndexInTx : Nat
  accounts : List InstructionAccount
  data : Bytes
  deriving DecidableEq

/-- An invocation that was logged; a program may leave out the consumed line. -/
structure Invocation where
  placement : Placement
  /-- The units consumed and the units that were left. -/
  consumed : Option (UInt64 × UInt64)
  /-- The lines before the result line, such as the one that shows the return data. -/
  notices : List String := []
  deriving DecidableEq

def Invocation.units (i : Invocation) : UInt64 :=
  (i.consumed.map Prod.fst).getD 0

/-- What happens inside an invocation that succeeds: invocations that succeed, and other lines. -/
abbrev Body := Forest Invocation String

/-- How an invocation fails: its program is unknown, or it fails itself, or the invocation it made
last fails, which aborts it. -/
inductive Failure
  | unresolved (p : Placement)
  | failed (i : Invocation) (body : Body) (error : String)
  | aborted (i : Invocation) (body : Body) (cause : Failure) (error : String)

/-- How an instruction of the chain is processed. -/
inductive Processed
  | succeeded (i : Invocation) (body : Body)
  | failed (f : Failure)

/-- An invocation that started: its depth, its placement, and its figures where they are logged. -/
structure Started where
  depth : Nat
  placement : Placement
  logged : Option Figures
  deriving DecidableEq

/-! ### The invocations in the order in which they start -/

def Invocation.succeededAt (p : Nat × Invocation) : Started :=
  { depth := p.1
    placement := p.2.placement
    logged := some (0, p.2.units) }

def Invocation.failedAt (i : Invocation) (depth : Nat) : Started :=
  { depth := depth
    placement := i.placement
    logged := some (1, i.units) }

def bodyStarted (d : Nat) (body : Body) : List Started :=
  (body.preorder d).map Invocation.succeededAt

namespace Failure

/-- The failing invocation at depth `d`, on the way to the one that fails first. -/
def top (d : Nat) : Failure → Started
  | unresolved p =>
      { depth := d
        placement := p
        logged := none }
  | failed i _ _ => i.failedAt d
  | aborted i _ _ _ => i.failedAt d

/-- The invocations made inside it. -/
def inner (d : Nat) : Failure → List Started
  | unresolved _ => []
  | failed _ body _ => bodyStarted (d + 1) body
  | aborted _ body cause _ =>
      bodyStarted (d + 1) body ++ (cause.top (d + 1) :: cause.inner (d + 1))

def started (d : Nat) (f : Failure) : List Started :=
  f.top d :: f.inner d

end Failure

namespace Processed

def isOk : Processed → Bool
  | succeeded _ _ => true
  | failed _ => false

/-- The top-level invocation. -/
def top : Processed → Started
  | succeeded i _ => Invocation.succeededAt (0, i)
  | failed f => f.top 0

/-- The cross-program invocations. -/
def inner : Processed → List Started
  | succeeded _ body => bodyStarted 1 body
  | failed f => f.inner 0

def started (p : Processed) : List Started :=
  p.top :: p.inner

end Processed

/-! ### The lines in the order in which they are logged -/

section Lines

variable (name : Nat → String)

def enterLines (d : Nat) (i : Invocation) : List RuntimeLine :=
  [.invoke (name i.placement.programAccountIndexInTx) d]

def consumedLines (i : Invocation) : List RuntimeLine :=
  i.consumed.toList.map fun c => .consumed (name i.placement.programAccountIndexInTx) c.1 c.2

/-- What is logged between the calls of an invocation and its result line. -/
def closingLines (i : Invocation) : List RuntimeLine :=
  consumedLines name i ++ i.notices.map .other

def succeedLines (i : Invocation) : List RuntimeLine :=
  closingLines name i ++ [.success (name i.placement.programAccountIndexInTx)]

def failLines (i : Invocation) (error : String) : List RuntimeLine :=
  closingLines name i ++ [.failed (name i.placement.programAccountIndexInTx) error]

def bodyLines (d : Nat) (body : Body) : List RuntimeLine :=
  body.log (enterLines name) (fun _ i => succeedLines name i) (fun text => [.other text]) d

/-- An invocation whose program is unknown fails before its invoke line. -/
def Failure.lines (d : Nat) : Failure → List RuntimeLine
  | unresolved _ => []
  | failed i body error =>
      enterLines name d i ++ (bodyLines name (d + 1) body ++ failLines name i error)
  | aborted i body cause error =>
      enterLines name d i ++
        ((bodyLines name (d + 1) body ++ cause.lines (d + 1)) ++ failLines name i error)

def Processed.lines : Processed → List RuntimeLine
  | succeeded i body =>
      enterLines name 0 i ++ (bodyLines name 1 body ++ succeedLines name i)
  | failed f => f.lines name 0

end Lines

/-! ## What the runtime does -/

namespace InstructionTrace

/-- The trace of invocations at the given depths. -/
def ofPlacements (l : List (Nat × Placement)) : InstructionTrace :=
  { frames := l.map fun p =>
      { programAccountIndexInTx := p.2.programAccountIndexInTx
        nestingLevel := p.1 }
    accounts := l.map fun p => p.2.accounts
    data := l.map fun p => p.2.data }

def append (t t' : InstructionTrace) : InstructionTrace :=
  { frames := t.frames ++ t'.frames
    accounts := t.accounts ++ t'.accounts
    data := t.data ++ t'.data }

theorem append_ofPlacements (l l' : List (Nat × Placement)) :
    (ofPlacements l).append (ofPlacements l') = ofPlacements (l ++ l') := by
  simp [ofPlacements, append]

end InstructionTrace

def Started.placed (s : Started) : Nat × Placement :=
  (s.depth, s.placement)

/-- The runtime processes an instruction as `p`: it appends the frames of the invocations made, and
logs the lines. -/
structure Processes (name : Nat → String) (inp : InvokeInput) (o : InvokeOutcome) (p : Processed) :
    Prop where
  result : o.result = .ok () ↔ p.isOk
  trace : o.trace =
    inp.transactionContext.trace.append (InstructionTrace.ofPlacements (p.inner.map Started.placed))
  log : o.logCollector =
    inp.logCollector.map fun c => c.logAll ((p.lines name).map RuntimeLine.text)

/-- A reader that passes over other lines finds the consumed line only before the result line. -/
theorem filterMap_closingLines {reader : RuntimeLine → Option (Mark UInt8 Figures)}
    (hother : ∀ text, reader (.other text) = none) (name : Nat → String) (i : Invocation) :
    (closingLines name i).filterMap reader = (consumedLines name i).filterMap reader := by
  have hnotices : (i.notices.map RuntimeLine.other).filterMap reader = [] := by
    simp [List.filterMap_map, hother]
  rw [closingLines, List.filterMap_append, hnotices, List.append_nil]

theorem Processes.exists_error {name : Nat → String} {inp : InvokeInput} {o : InvokeOutcome}
    {f : Failure} (h : Processes name inp o (.failed f)) : ∃ e, o.result = .error e := by
  cases hresult : o.result with
  | ok u =>
      have hok := h.result.1 hresult
      cases hok
  | error e => exact ⟨e, rfl⟩

/-- The runtime processes the instructions one after another until one fails. -/
inductive Performs (rt : Runtime) (name : Nat → String) :
    List CompiledInstruction → InvokeContext → List Processed → Prop
  | done (ic : InvokeContext) : Performs rt name [] ic []
  | next (ix : CompiledInstruction) (rest : List CompiledInstruction) (ic : InvokeContext)
      (p : Processed) (ps : List Processed)
      (hstep : Processes name ic.input (rt.processInstruction ic.input) p) (hok : p.isOk)
      (hrest : Performs rt name rest (ic.apply (rt.processInstruction ic.input)) ps) :
      Performs rt name (ix :: rest) ic (p :: ps)
  | halt (ix : CompiledInstruction) (rest : List CompiledInstruction) (ic : InvokeContext)
      (f : Failure)
      (hstep : Processes name ic.input (rt.processInstruction ic.input) (.failed f)) :
      Performs rt name (ix :: rest) ic [.failed f]

/-- The lines of the instructions that were processed, as texts. -/
def logTexts (name : Nat → String) (ps : List Processed) : List String :=
  (ps.flatMap (Processed.lines name)).map RuntimeLine.text

/-- The cross-program invocations of the instructions that were processed. -/
def innerStarted (ps : List Processed) : List Started :=
  ps.flatMap Processed.inner

namespace InstructionTrace

theorem append_empty (t : InstructionTrace) : t.append (ofPlacements []) = t := by
  simp [append, ofPlacements]

theorem append_append (t : InstructionTrace) (l l' : List (Nat × Placement)) :
    (t.append (ofPlacements l)).append (ofPlacements l') = t.append (ofPlacements (l ++ l')) := by
  simp [append, ofPlacements]

end InstructionTrace

namespace Performs

variable {rt : Runtime} {name : Nat → String} {ixs : List CompiledInstruction} {ic : InvokeContext}
  {ps : List Processed}

/-- The frames that a run leaves behind. -/
theorem trace_eq (h : Performs rt name ixs ic ps) (units : UInt64) :
    (runInstructions rt ixs ic units).context.transactionContext.trace =
      ic.transactionContext.trace.append
        (InstructionTrace.ofPlacements ((innerStarted ps).map Started.placed)) := by
  induction h generalizing units with
  | done ic => exact (InstructionTrace.append_empty _).symm
  | next ix rest ic p ps hstep hok hrest ih =>
      -- The rest appends to the trace that the first instruction leaves behind.
      have hresult := hstep.result.2 hok
      have hinput : ic.input.transactionContext = ic.transactionContext := rfl
      rw [runInstructions_of_ok hresult, ih]
      simp only [InvokeContext.apply, hstep.trace, hinput, InstructionTrace.append_append,
        innerStarted, List.flatMap_cons, List.map_append]
  | halt ix rest ic f hstep =>
      rcases hstep.exists_error with ⟨e, hresult⟩
      simp only [runInstructions_of_error hresult, InvokeContext.apply, hstep.trace, innerStarted,
        List.flatMap_cons, List.flatMap_nil, List.append_nil]
      rfl

/-- The log that a run leaves behind. -/
theorem log_eq (h : Performs rt name ixs ic ps) (units : UInt64) :
    (runInstructions rt ixs ic units).context.logCollector =
      ic.logCollector.map fun c => c.logAll (logTexts name ps) := by
  induction h generalizing units with
  | done ic =>
      cases hlog : ic.logCollector with
      | none => simp [runInstructions, hlog]
      | some c => simp [runInstructions, hlog, logTexts, LogCollector.logAll]
  | next ix rest ic p ps hstep hok hrest ih =>
      have hresult := hstep.result.2 hok
      have hinput : ic.input.logCollector = ic.logCollector := rfl
      rw [runInstructions_of_ok hresult, ih]
      simp only [InvokeContext.apply, hstep.log, hinput]
      cases hlog : ic.logCollector with
      | none => simp
      | some c => simp [LogCollector.logAll_append, logTexts]
  | halt ix rest ic f hstep =>
      rcases hstep.exists_error with ⟨e, hresult⟩
      simp only [runInstructions_of_error hresult, InvokeContext.apply, hstep.log, logTexts,
        List.flatMap_cons, List.flatMap_nil, List.append_nil]
      rfl

/-- A run ends well when every instruction that was processed did. -/
theorem rawResult_iff (h : Performs rt name ixs ic ps) (units : UInt64) :
    (runInstructions rt ixs ic units).rawResult = .ok () ↔ ∀ p ∈ ps, p.isOk := by
  induction h generalizing units with
  | done ic => simp [runInstructions]
  | next ix rest ic p ps hstep hok hrest ih =>
      have hresult := hstep.result.2 hok
      simp only [runInstructions_of_ok hresult, ih, List.forall_mem_cons, hok, true_and]
  | halt ix rest ic f hstep =>
      rcases hstep.exists_error with ⟨e, hresult⟩
      simp [runInstructions_of_error hresult, Processed.isOk]

/-- Only the last instruction that was processed can have failed. -/
theorem isOk_of_mem_dropLast (h : Performs rt name ixs ic ps) : ∀ p ∈ ps.dropLast, p.isOk := by
  induction h with
  | done ic => simp
  | next ix rest ic p ps hstep hok hrest ih =>
      intro q hq
      cases ps with
      | nil => simp at hq
      | cons p' ps =>
          rcases List.mem_cons.1 hq with rfl | hq
          · exact hok
          · exact ih q hq
  | halt ix rest ic f hstep => simp

end Performs

/-- The message of a run is the one it started with. -/
theorem message_runInstructions (rt : Runtime) (ixs : List CompiledInstruction) (ic : InvokeContext)
    (units : UInt64) : (runInstructions rt ixs ic units).context.message = ic.message :=
  runInstructions_preserves (P := fun ic' => ic'.message = ic.message)
    (fun _ h => h) ixs ic units rfl

/-! ## Trace entries -/

/-- The instruction that a placement stands for. -/
def Placement.instruction (keys : List Pubkey) (p : Placement) : Instruction :=
  { programId := keys[p.programAccountIndexInTx]?.getD Pubkey.default
    accounts := instructionMetas keys p.accounts
    data := p.data }

/-- The trace entry of the invocation placed at position `idx`. -/
def traceEntry (keys : List Pubkey) (results : LogResults) (idx : Nat) (p : Nat × Placement) :
    ExecutedInstruction :=
  let figures := (results.lookup (UInt8.ofNat p.1, idx)).getD (0, 0)
  { stackDepth := UInt8.ofNat p.1
    instruction := p.2.instruction keys
    computeUnitsConsumed := figures.2
    result := figures.1 }

theorem extractExecutionTrace_ofPlacements (l : List (Nat × Placement)) (message : SanitizedMessage)
    (logs : List String) :
    (extractExecutionTrace (InstructionTrace.ofPlacements l) message logs).instructions =
      l.mapIdx (traceEntry message.accountKeys (parseLogResults logs)) := by
  refine List.ext_getElem (by simp [extractExecutionTrace, InstructionTrace.ofPlacements]) ?_
  intro k h₁ h₂
  have hk : k < l.length := by simpa using h₂
  have hframe : ∀ h : k < (InstructionTrace.ofPlacements l).frames.length,
      (InstructionTrace.ofPlacements l).frames[k] =
      { programAccountIndexInTx := l[k].2.programAccountIndexInTx
        nestingLevel := l[k].1 } := by
    intro h
    simp [InstructionTrace.ofPlacements]
  simp only [extractExecutionTrace, List.getElem_mapIdx, hframe]
  simp [executedInstruction, traceEntry, Placement.instruction, InstructionTrace.ofPlacements, hk]

/-! ## Chains -/

/-- The text of the program id at an index of a call's account keys. -/
def programText (cr : Crates) (svm : QuasarSvm) (ixs : List Instruction) (accounts : List Account)
    (i : Nat) : String :=
  cr.pubkeyToString (((svm.message cr ixs accounts).accountKeys[i]?).getD Pubkey.default)

/-- A call on a runtime that places a frame for each top-level instruction before any of them runs,
and then processes them one after another. -/
structure Chain (cr : Crates) (rt : Runtime) (svm : QuasarSvm) (ixs : List Instruction)
    (accounts : List Account) where
  placed : List Placement
  processed : List Processed
  prepared : rt.prepareTopLevelInstructions (svm.message cr ixs accounts)
    (svm.initialContext cr ixs accounts) =
      .ok (InstructionTrace.ofPlacements (placed.map fun p => (0, p)))
  length_placed : placed.length = (svm.message cr ixs accounts).message.instructions.length
  performs : Performs rt (programText cr svm ixs accounts)
    (svm.message cr ixs accounts).message.instructions
    (svm.startContext cr ixs accounts
      (InstructionTrace.ofPlacements (placed.map fun p => (0, p)))) processed
  placed_prefix : processed.map (fun p => p.top.placement) <+: placed

namespace Chain

variable {cr : Crates} {rt : Runtime} {svm : QuasarSvm} {ixs : List Instruction}
  {accounts : List Account} (chain : Chain cr rt svm ixs accounts)

/-- The invocations in the order in which they started. -/
def started : List Started :=
  chain.processed.flatMap Processed.started

/-- The invocations in the order in which the runtime placed their frames. -/
def frames : List (Nat × Placement) :=
  chain.placed.map (fun p => (0, p)) ++ (innerStarted chain.processed).map Started.placed

/-- The lines that the runtime logged. -/
def lines : List RuntimeLine :=
  chain.processed.flatMap (Processed.lines (programText cr svm ixs accounts))

/-- The lines that the log collector kept. -/
def recorded : List String :=
  ((LogCollector.newRef cr.logBytesLimit).logAll (chain.lines.map RuntimeLine.text)).messages

def keys (_ : Chain cr rt svm ixs accounts) : List Pubkey :=
  (svm.message cr ixs accounts).accountKeys

/-- A report of the chain: its trace has an entry for each frame, with the figures of the recorded
log, and its raw result is that of the chain. -/
structure ReportedBy (r : ExecutionResult) : Prop where
  entries : r.executionTrace.instructions =
    chain.frames.mapIdx (traceEntry chain.keys (parseLogResults chain.recorded))
  raw : r.rawResult = .ok () ↔ ∀ p ∈ chain.processed, p.isOk

/-- The call returns a report of the chain. -/
theorem executeInner_eq (commit : Bool) :
    ∃ r, (svm.executeInner cr rt ixs accounts commit).2 = .ok r ∧ chain.ReportedBy r := by
  have htrace := chain.performs.trace_eq 0
  have hlog := chain.performs.log_eq 0
  have hraw := chain.performs.rawResult_iff 0
  have hmessage := message_runInstructions rt (svm.message cr ixs accounts).message.instructions
    (svm.startContext cr ixs accounts
      (InstructionTrace.ofPlacements (chain.placed.map fun p => (0, p)))) 0
  rw [executeInner_of_some (run_of_prepare chain.prepared)]
  -- Nothing below depends on how the run came about.
  revert htrace hlog hraw hmessage
  generalize runInstructions rt (svm.message cr ixs accounts).message.instructions
    (svm.startContext cr ixs accounts
      (InstructionTrace.ofPlacements (chain.placed.map fun p => (0, p)))) 0 = o
  intro htrace hlog hraw hmessage
  -- Both kinds of reports extract the trace from the same frames and the same log.
  have hentries : ∀ merged resulting : List (Pubkey × SolanaAccount),
      (report cr merged resulting (svm.afterRun o).drainLogs o).executionTrace.instructions =
        chain.frames.mapIdx (traceEntry chain.keys (parseLogResults chain.recorded)) := by
    intro merged resulting
    have hframes : o.context.transactionContext.trace =
        InstructionTrace.ofPlacements chain.frames :=
      htrace.trans (InstructionTrace.append_ofPlacements _ _)
    have hlogs : (svm.afterRun o).drainLogs = chain.recorded := by
      have hlogger : (svm.afterRun o).logger = o.context.logCollector := rfl
      simp only [drainLogs, hlogger, hlog]
      rfl
    have hkeys : o.context.message.accountKeys = chain.keys :=
      congrArg SanitizedMessage.accountKeys hmessage
    calc (report cr merged resulting (svm.afterRun o).drainLogs o).executionTrace.instructions
        = (extractExecutionTrace (InstructionTrace.ofPlacements chain.frames) o.context.message
            chain.recorded).instructions := by
          rw [← hframes, ← hlogs]
          rfl
      _ = chain.frames.mapIdx (traceEntry chain.keys (parseLogResults chain.recorded)) := by
          rw [extractExecutionTrace_ofPlacements, hkeys]
  cases hresult : o.rawResult with
  | error e => exact ⟨_, by rw [settle, hresult], hentries _ _, hraw⟩
  | ok u => exact ⟨_, by rw [settle, hresult], hentries _ _, hraw⟩

end Chain

end Svm
end Quasar
