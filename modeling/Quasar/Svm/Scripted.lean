import Quasar.Svm.ChainLog
import Quasar.Svm.Reference

/-!
# Scripted — a runtime for every chain

A scripted runtime processes the instructions as it is told.  Every list of processed instructions
of which only the last one failed is performed by one, so what holds of chains is about all of them.
-/

namespace Quasar
namespace Svm

open Lib QuasarSvm

/-- What the runtime leaves behind when it processes an instruction as `p` and changes no account. -/
def scriptedOutcome (name : Nat → String) (inp : InvokeInput) (p : Processed) : InvokeOutcome :=
  { result := if p.isOk then .ok () else .error (.custom 1)
    computeUnitsConsumed := (p.top.logged.map Prod.snd).getD 0
    accountAfter := fun i =>
      ((inp.transactionContext.accounts[i]?).map Prod.snd).getD SolanaAccount.default
    returnData := inp.transactionContext.returnData
    trace :=
      inp.transactionContext.trace.append
        (InstructionTrace.ofPlacements (p.inner.map Started.placed))
    storedPrograms := []
    computeMeter := inp.computeMeter
    logCollector :=
      inp.logCollector.map fun c => c.logAll ((p.lines name).map RuntimeLine.text)
    executeUs := inp.executeUs }

theorem processes_scriptedOutcome (name : Nat → String) (inp : InvokeInput) (p : Processed) :
    Processes name inp (scriptedOutcome name inp p) p := by
  refine ⟨?_, rfl, rfl⟩
  cases p with
  | succeeded i body => simp [scriptedOutcome, Processed.isOk]
  | failed f => simp [scriptedOutcome, Processed.isOk]

/-- A runtime that processes instruction number `i` as entry `i` of the script. -/
def scriptedRuntime (name : Nat → String) (placed : List Placement) (script : List Processed) :
    Runtime :=
  { prepareTopLevelInstructions := fun _ _ =>
      .ok (InstructionTrace.ofPlacements (placed.map fun p => (0, p)))
    processInstruction := fun inp =>
      let entry := script[inp.transactionContext.topLevelInstructionIndex]?
      scriptedOutcome name inp
        (entry.getD (.failed (.unresolved
          { programAccountIndexInTx := 0
            accounts := []
            data := [] }))) }

/-- The script of a message with `n` instructions: each succeeds, or one fails and is the last. -/
def FitsMessage : Nat → List Processed → Prop
  | 0, ps => ps = []
  | _ + 1, [] => False
  | n + 1, .succeeded _ _ :: ps => FitsMessage n ps
  | _ + 1, .failed _ :: ps => ps = []

/-- The runtime processes instruction number `i` as entry `i` of the script. -/
def Follows (rt : Runtime) (name : Nat → String) (script : List Processed) : Prop :=
  ∀ inp p, script[inp.transactionContext.topLevelInstructionIndex]? = some p →
    Processes name inp (rt.processInstruction inp) p

theorem follows_scripted (name : Nat → String) (placed : List Placement)
    (script : List Processed) : Follows (scriptedRuntime name placed script) name script := by
  intro inp p hp
  simpa only [scriptedRuntime, hp, Option.getD_some] using processes_scriptedOutcome name inp p

/-- From any point of the script on, a runtime that follows it performs the rest of it. -/
theorem Follows.performs {rt : Runtime} {name : Nat → String} (before : List Processed)
    {ps : List Processed} (h : Follows rt name (before ++ ps)) {ixs : List CompiledInstruction}
    (hfits : FitsMessage ixs.length ps) {ic : InvokeContext}
    (hindex : ic.transactionContext.topLevelInstructionIndex = before.length) :
    Performs rt name ixs ic ps := by
  induction ixs generalizing before ps ic with
  | nil =>
      cases hfits
      exact Performs.done ic
  | cons ix rest ih =>
      cases ps with
      | nil => cases hfits
      | cons p ps =>
          have hentry : (before ++ p :: ps)[ic.input.transactionContext.topLevelInstructionIndex]? =
              some p := by
            have hinput : ic.input.transactionContext = ic.transactionContext := rfl
            simp [hinput, hindex]
          have hstep := h ic.input p hentry
          cases p with
          | failed f =>
              cases hfits
              exact Performs.halt ix rest ic f hstep
          | succeeded i body =>
              refine Performs.next ix rest ic _ ps hstep rfl ?_
              -- The index moves on, so the entry joins those that were processed before.
              have hscript : before ++ Processed.succeeded i body :: ps =
                  (before ++ [.succeeded i body]) ++ ps := by simp
              have hnext : (ic.apply (rt.processInstruction
                  ic.input)).transactionContext.topLevelInstructionIndex =
                    (before ++ [Processed.succeeded i body]).length := by
                simp [InvokeContext.apply, hindex]
              rw [hscript] at h
              exact ih _ h hfits hnext

/-- The chain of a script. -/
def scriptedChain (cr : Crates) (svm : QuasarSvm) (ixs : List Instruction) (accounts : List Account)
    (placed : List Placement) (script : List Processed)
    (hlength : placed.length = (svm.message cr ixs accounts).message.instructions.length)
    (hfits : FitsMessage placed.length script)
    (hstarted : script.map (fun p => p.top.placement) <+: placed) :
    Chain cr (scriptedRuntime (programText cr svm ixs accounts) placed script) svm ixs accounts :=
  { placed := placed
    processed := script
    prepared := rfl
    length_placed := hlength
    performs := (follows_scripted _ placed script).performs [] (hlength ▸ hfits) rfl
    placed_prefix := hstarted }

/-- Unmistakable lines below the byte limit of the reference crates make a legible log. -/
theorem Chain.Legible.of_reference {rt : Runtime} {svm : QuasarSvm} {ixs : List Instruction}
    {accounts : List Account} {chain : Chain Reference.crates rt svm ixs accounts}
    (hread : ∀ l ∈ chain.lines, l.Unmistakable)
    (hsize : ((chain.lines.map RuntimeLine.text).map String.utf8ByteSize).sum < 10000) :
    chain.Legible := by
  refine Legible.of_size (fun l hl => (hread l hl).legible) ?_
  intro limit hlimit
  cases hlimit
  exact hsize

/-! ## Calls of two programs -/

/-- An instruction without accounts. -/
def plainInstruction (program : UInt8) : Instruction :=
  { programId := Pubkey.filled program
    accounts := []
    data := [] }

/-- An invocation of the program at an index of the account keys, with its units. -/
def plainInvocation (programAccountIndexInTx : Nat) (units : UInt64) : Invocation :=
  { placement :=
      { programAccountIndexInTx := programAccountIndexInTx
        accounts := []
        data := [] }
    consumed := some (units, 200000) }

end Svm
end Quasar
