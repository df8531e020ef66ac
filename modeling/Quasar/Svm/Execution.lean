import Quasar.Svm.Vm

/-!
# Execution — what one execution can come to

`executeInner` has three outcomes: preparing the instructions panics, the run ends in an error, or
it ends well.  `Execution` says so once, with the VM and the report of each; what holds of every
execution is then a case analysis over it.
-/

namespace Quasar
namespace Svm
namespace QuasarSvm

open Lib

variable {cr : Crates} {rt : Runtime}

/-- A fresh logger leaves the program cache alone. -/
@[simp] theorem programCache_resetLogger (svm : QuasarSvm) :
    (svm.resetLogger cr).programCache = svm.programCache := rfl

/-- The list of accounts an execution starts from. -/
def mergedAccounts (svm : QuasarSvm) (accounts : List Account) : List (Pubkey × SolanaAccount) :=
  svm.mergeAccounts (accounts.map Account.toPair)

/-- The run of an execution's message. -/
def run (svm : QuasarSvm) (cr : Crates) (rt : Runtime) (ixs : List Instruction)
    (accounts : List Account) : Option MessageOutcome :=
  (svm.resetLogger cr).runMessage cr rt ixs (svm.mergedAccounts accounts)

/-- The resulting accounts of a run that ended well. -/
def resultingAccounts (svm : QuasarSvm) (accounts : List Account) (o : MessageOutcome) :
    List (Pubkey × SolanaAccount) :=
  deconstructResultingAccounts o.context.transactionContext (svm.mergedAccounts accounts)

/-- The VM that a run leaves behind, before anything is committed. -/
def afterRun (svm : QuasarSvm) (o : MessageOutcome) : QuasarSvm :=
  svm.absorb o.context

theorem accounts_afterRun (svm : QuasarSvm) (o : MessageOutcome) :
    (svm.afterRun o).accounts = svm.accounts := rfl

/-! ## Runs of the runtime -/

section Step

variable {ix : CompiledInstruction} {rest : List CompiledInstruction} {ic : InvokeContext}

/-- After an instruction that succeeds the run goes on. -/
theorem runInstructions_of_ok (h : (rt.processInstruction ic.input).result = .ok ())
    (units : UInt64) :
    runInstructions rt (ix :: rest) ic units =
      runInstructions rt rest (ic.apply (rt.processInstruction ic.input))
        (units + (rt.processInstruction ic.input).computeUnitsConsumed) := by
  simp only [runInstructions, h]

/-- After an instruction that fails it ends. -/
theorem runInstructions_of_error {e : InstructionError}
    (h : (rt.processInstruction ic.input).result = .error e) (units : UInt64) :
    runInstructions rt (ix :: rest) ic units =
      { context := ic.apply (rt.processInstruction ic.input)
        computeUnitsConsumed := units + (rt.processInstruction ic.input).computeUnitsConsumed
        rawResult := .error e } := by
  simp only [runInstructions, h]

end Step

/-- What every instruction preserves, whether it succeeds or fails, the whole run preserves. -/
theorem runInstructions_preserves {P : InvokeContext → Prop}
    (hstep : ∀ ic, P ic → P (ic.apply (rt.processInstruction ic.input)))
    (ixs : List CompiledInstruction) (ic : InvokeContext) (units : UInt64) (h : P ic) :
    P (runInstructions rt ixs ic units).context := by
  induction ixs generalizing ic units with
  | nil => exact h
  | cons ix rest ih =>
      cases hresult : (rt.processInstruction ic.input).result with
      | error e =>
          -- The failing instruction leaves its context behind too.
          simpa only [runInstructions_of_error hresult] using hstep ic h
      | ok u => simpa only [runInstructions_of_ok hresult] using ih _ _ (hstep ic h)

/-- A runtime whose instructions never fail ends every run well. -/
theorem rawResult_runInstructions (hok : ∀ inp, (rt.processInstruction inp).result = .ok ())
    (ixs : List CompiledInstruction) (ic : InvokeContext) (units : UInt64) :
    (runInstructions rt ixs ic units).rawResult = .ok () := by
  induction ixs generalizing ic units with
  | nil => rfl
  | cons ix rest ih =>
      simpa only [runInstructions_of_ok (hok ic.input)] using ih _ _

/-- The message and the initial transaction context of a call. -/
def message (svm : QuasarSvm) (cr : Crates) (ixs : List Instruction) (accounts : List Account) :
    SanitizedMessage :=
  (svm.compileAccounts cr ixs (svm.mergedAccounts accounts)).1

def initialContext (svm : QuasarSvm) (cr : Crates) (ixs : List Instruction)
    (accounts : List Account) : TransactionContext :=
  svm.transactionContext cr ixs (svm.mergedAccounts accounts)

/-- The state in which a call's first instruction finds the runtime. -/
def startContext (svm : QuasarSvm) (cr : Crates) (ixs : List Instruction) (accounts : List Account)
    (trace : InstructionTrace) : InvokeContext :=
  (svm.resetLogger cr).invokeContext (svm.message cr ixs accounts)
    { svm.initialContext cr ixs accounts with trace := trace }
    (svm.sysvars.setupSysvarCache cr (svm.mergedAccounts accounts))

/-- A run prepares the top-level instructions and then processes one after another. -/
theorem run_eq (svm : QuasarSvm) (ixs : List Instruction) (accounts : List Account) :
    svm.run cr rt ixs accounts =
      match rt.prepareTopLevelInstructions (svm.message cr ixs accounts)
          (svm.initialContext cr ixs accounts) with
      | .error _ => none
      | .ok trace =>
          some (runInstructions rt (svm.message cr ixs accounts).message.instructions
            (svm.startContext cr ixs accounts trace) 0) := rfl

theorem run_of_prepare {svm : QuasarSvm} {ixs : List Instruction} {accounts : List Account}
    {trace : InstructionTrace}
    (h : rt.prepareTopLevelInstructions (svm.message cr ixs accounts)
      (svm.initialContext cr ixs accounts) = .ok trace) :
    svm.run cr rt ixs accounts =
      some (runInstructions rt (svm.message cr ixs accounts).message.instructions
        (svm.startContext cr ixs accounts trace) 0) := by
  simp only [run_eq, h]

theorem run_eq_none {svm : QuasarSvm} {ixs : List Instruction} {accounts : List Account}
    {e : InstructionError}
    (h : rt.prepareTopLevelInstructions (svm.message cr ixs accounts)
      (svm.initialContext cr ixs accounts) = .error e) :
    svm.run cr rt ixs accounts = none := by
  simp only [run_eq, h]

/-- A run starts from the initial context with the prepared trace in it. -/
theorem run_eq_some {svm : QuasarSvm} {ixs : List Instruction} {accounts : List Account}
    {o : MessageOutcome} (h : svm.run cr rt ixs accounts = some o) :
    ∃ trace, rt.prepareTopLevelInstructions (svm.message cr ixs accounts)
        (svm.initialContext cr ixs accounts) = .ok trace ∧
      o = runInstructions rt (svm.message cr ixs accounts).message.instructions
        (svm.startContext cr ixs accounts trace) 0 := by
  cases hprepare : rt.prepareTopLevelInstructions (svm.message cr ixs accounts)
      (svm.initialContext cr ixs accounts) with
  | error e =>
      -- Preparing panicked, so there is no run.
      cases (run_eq_none hprepare).symm.trans h
  | ok trace =>
      have hrun := (run_of_prepare hprepare).symm.trans h
      exact ⟨trace, rfl, (Option.some.inj hrun).symm⟩

/-- The runtime never changes which accounts a transaction has. -/
theorem keys_of_run {svm : QuasarSvm} {ixs : List Instruction} {accounts : List Account}
    {o : MessageOutcome} (h : svm.run cr rt ixs accounts = some o) :
    o.context.transactionContext.accounts.map Prod.fst =
      (svm.initialContext cr ixs accounts).accounts.map Prod.fst := by
  rcases run_eq_some h with ⟨trace, _, rfl⟩
  refine runInstructions_preserves
    (P := fun ic => ic.transactionContext.accounts.map Prod.fst =
      (svm.initialContext cr ixs accounts).accounts.map Prod.fst) ?_ _ _ _ rfl
  intro ic hic
  exact (InvokeContext.keys_apply ic _).trans hic

/-- How a call ends once its run is known. -/
def settle (svm : QuasarSvm) (cr : Crates) (accounts : List Account) (commit : Bool)
    (o : MessageOutcome) : Call ExecutionResult :=
  match o.rawResult with
  | .ok () =>
      (if commit then (svm.afterRun o).commitAccounts (svm.resultingAccounts accounts o)
        else svm.afterRun o,
        .ok (report cr (svm.mergedAccounts accounts) (svm.resultingAccounts accounts o)
          (svm.afterRun o).drainLogs o))
  | .error _ =>
      (svm.afterRun o,
        .ok (report cr (svm.mergedAccounts accounts) (svm.mergedAccounts accounts)
          (svm.afterRun o).drainLogs o))

theorem executeInner_of_none {svm : QuasarSvm} {ixs : List Instruction} {accounts : List Account}
    (h : svm.run cr rt ixs accounts = none) (commit : Bool) :
    svm.executeInner cr rt ixs accounts commit =
      (svm.resetLogger cr, .error "failed to prepare instructions") := by
  have hmessage : (svm.resetLogger cr).runMessage cr rt ixs
      ((svm.resetLogger cr).mergeAccounts (accounts.map Account.toPair)) = none := h
  simp only [executeInner, hmessage]

theorem executeInner_of_some {svm : QuasarSvm} {ixs : List Instruction} {accounts : List Account}
    {o : MessageOutcome} (h : svm.run cr rt ixs accounts = some o) (commit : Bool) :
    svm.executeInner cr rt ixs accounts commit = svm.settle cr accounts commit o := by
  have hmessage : (svm.resetLogger cr).runMessage cr rt ixs
      ((svm.resetLogger cr).mergeAccounts (accounts.map Account.toPair)) = some o := h
  simp only [executeInner, hmessage]
  cases hresult : o.rawResult with
  | error e =>
      simp only [settle, hresult]
      rfl
  | ok u =>
      -- The report reads the logs after the commit, which does not touch them.
      simp only [settle, hresult]
      cases commit with
      | false => rfl
      | true => rfl

/-! ## The three outcomes -/

/-- `Execution cr rt svm ixs accounts commit out`: the call comes to `out`. -/
inductive Execution (cr : Crates) (rt : Runtime) (svm : QuasarSvm) (ixs : List Instruction)
    (accounts : List Account) (commit : Bool) : Call ExecutionResult → Prop
  | panicked (hrun : svm.run cr rt ixs accounts = none) :
      Execution cr rt svm ixs accounts commit
        ((svm.resetLogger cr), .error "failed to prepare instructions")
  | failed (o : MessageOutcome) (e : InstructionError)
      (hrun : svm.run cr rt ixs accounts = some o) (hresult : o.rawResult = .error e) :
      Execution cr rt svm ixs accounts commit
        (svm.afterRun o,
          .ok (report cr (svm.mergedAccounts accounts) (svm.mergedAccounts accounts)
            (svm.afterRun o).drainLogs o))
  | succeeded (o : MessageOutcome)
      (hrun : svm.run cr rt ixs accounts = some o) (hresult : o.rawResult = .ok ()) :
      Execution cr rt svm ixs accounts commit
        (if commit then (svm.afterRun o).commitAccounts (svm.resultingAccounts accounts o)
          else svm.afterRun o,
          .ok (report cr (svm.mergedAccounts accounts) (svm.resultingAccounts accounts o)
            (svm.afterRun o).drainLogs o))

theorem executeInner_execution (cr : Crates) (rt : Runtime) (svm : QuasarSvm) (ixs : List Instruction)
    (accounts : List Account) (commit : Bool) :
    Execution cr rt svm ixs accounts commit (svm.executeInner cr rt ixs accounts commit) := by
  cases hrun : svm.run cr rt ixs accounts with
  | none =>
      rw [executeInner_of_none hrun]
      exact Execution.panicked hrun
  | some o =>
      rw [executeInner_of_some hrun]
      cases hresult : o.rawResult with
      | error e =>
          simp only [settle, hresult]
          exact Execution.failed o e hrun hresult
      | ok u =>
          simp only [settle, hresult]
          exact Execution.succeeded o hrun hresult

section Report

variable {svm : QuasarSvm} {ixs : List Instruction} {accounts : List Account} {commit : Bool}
  {out : Call ExecutionResult} {r : ExecutionResult} {o : MessageOutcome}

/-- A call reports its run. -/
theorem Execution.exists_report (h : Execution cr rt svm ixs accounts commit out)
    (hout : out.2 = .ok r) (hrun : svm.run cr rt ixs accounts = some o) :
    ∃ resulting, r = report cr (svm.mergedAccounts accounts) resulting
      (svm.afterRun o).drainLogs o := by
  cases h with
  | panicked hrun' => cases hout
  | failed o' e hrun' hresult =>
      cases hout
      cases hrun.symm.trans hrun'
      exact ⟨_, rfl⟩
  | succeeded o' hrun' hresult =>
      cases hout
      cases hrun.symm.trans hrun'
      exact ⟨_, rfl⟩

theorem Execution.rawResult_eq (h : Execution cr rt svm ixs accounts commit out)
    (hout : out.2 = .ok r) (hrun : svm.run cr rt ixs accounts = some o) :
    r.rawResult = o.rawResult := by
  rcases h.exists_report hout hrun with ⟨resulting, rfl⟩
  rfl

theorem Execution.computeUnitsConsumed_eq (h : Execution cr rt svm ixs accounts commit out)
    (hout : out.2 = .ok r) (hrun : svm.run cr rt ixs accounts = some o) :
    r.computeUnitsConsumed = o.computeUnitsConsumed := by
  rcases h.exists_report hout hrun with ⟨resulting, rfl⟩
  rfl

end Report

/-- A successful call that is committed. -/
theorem processInstructionChain_of_ok {svm : QuasarSvm} {ixs : List Instruction}
    {accounts : List Account} {o : MessageOutcome} (hrun : svm.run cr rt ixs accounts = some o)
    (hok : o.rawResult = .ok ()) :
    svm.processInstructionChain cr rt ixs accounts =
      ((svm.afterRun o).commitAccounts (svm.resultingAccounts accounts o),
        .ok (report cr (svm.mergedAccounts accounts) (svm.resultingAccounts accounts o)
          (svm.afterRun o).drainLogs o)) := by
  rw [processInstructionChain, executeInner_of_some hrun, settle, hok]
  rfl

/-- A call that reports a success has a run that ends well. -/
theorem exists_run_of_ok {svm : QuasarSvm} {ixs : List Instruction} {accounts : List Account}
    {commit : Bool} {r : ExecutionResult}
    (hr : (svm.executeInner cr rt ixs accounts commit).2 = .ok r) (hok : r.rawResult = .ok ()) :
    ∃ o, svm.run cr rt ixs accounts = some o ∧ o.rawResult = .ok () := by
  cases hrun : svm.run cr rt ixs accounts with
  | none => cases (congrArg Prod.snd (executeInner_of_none hrun commit)).symm.trans hr
  | some o =>
      have hraw := (executeInner_execution cr rt svm ixs accounts commit).rawResult_eq hr hrun
      exact ⟨o, rfl, hraw.symm.trans hok⟩

end QuasarSvm
end Svm
end Quasar
