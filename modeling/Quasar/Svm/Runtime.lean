import Quasar.Svm.ProgramCache
import Quasar.Svm.Sysvars

/-!
# Runtime — what the engine hands to the Solana runtime and gets back

The runtime is a parameter: a function from everything it can see at an instruction to everything it
may have changed by the end of it, the error included.  Three facts of its interface are built into
the types.  The keys of a transaction context are fixed; an outcome only says what each account has
become.  The program cache is read through `find` and written through stored entries.  The trace,
the return data, the log and the compute meter are replaced as a whole.
-/

namespace Quasar
namespace Svm

/-! ## Log collector -/

structure LogCollector where
  messages : List String
  bytesWritten : Nat
  bytesLimit : Option Nat
  limitWarning : Bool
  deriving DecidableEq

namespace LogCollector

/-- An empty collector with the given byte limit. -/
def newRef (limit : Option Nat) : LogCollector :=
  { messages := []
    bytesWritten := 0
    bytesLimit := limit
    limitWarning := false }

/-- Record a message, or drop it when it would reach the limit; the first drop leaves a notice. -/
def log (c : LogCollector) (message : String) : LogCollector :=
  match c.bytesLimit with
  | none => { c with messages := c.messages ++ [message] }
  | some limit =>
      let bytesWritten := c.bytesWritten + message.utf8ByteSize
      if bytesWritten ≥ limit then
        if c.limitWarning then
          c
        else
          { c with limitWarning := true, messages := c.messages ++ ["Log truncated"] }
      else
        { c with bytesWritten := bytesWritten, messages := c.messages ++ [message] }

def logAll (c : LogCollector) (messages : List String) : LogCollector :=
  messages.foldl log c

end LogCollector

/-! ## Transaction context -/

/-- One frame of the instruction trace. -/
structure InstructionFrame where
  programAccountIndexInTx : Nat
  nestingLevel : Nat
  deriving DecidableEq

structure InstructionAccount where
  indexInTransaction : Nat
  isSigner : Bool
  isWritable : Bool
  deriving DecidableEq

/-- The trace as three parallel lists, in the order in which frames were placed. -/
structure InstructionTrace where
  frames : List InstructionFrame
  accounts : List (List InstructionAccount)
  data : List Bytes
  deriving DecidableEq

def InstructionTrace.empty : InstructionTrace :=
  { frames := []
    accounts := []
    data := [] }

structure TransactionContext where
  accounts : List (Pubkey × SolanaAccount)
  rent : Rent
  maxInstructionStackDepth : Nat
  maxInstructionTraceLength : Nat
  numberOfTopLevelInstructions : Nat
  /-- The top-level instruction that is processed next. -/
  topLevelInstructionIndex : Nat
  returnData : Pubkey × Bytes
  trace : InstructionTrace

namespace TransactionContext

def new (accounts : List (Pubkey × SolanaAccount)) (rent : Rent)
    (maxInstructionStackDepth maxInstructionTraceLength numberOfTopLevelInstructions : Nat) :
    TransactionContext :=
  { accounts := accounts
    rent := rent
    maxInstructionStackDepth := maxInstructionStackDepth
    maxInstructionTraceLength := maxInstructionTraceLength
    numberOfTopLevelInstructions := numberOfTopLevelInstructions
    topLevelInstructionIndex := 0
    returnData := (Pubkey.default, [])
    trace := InstructionTrace.empty }

/-- The account at the first index that holds `pubkey`. -/
def findAccount (ctx : TransactionContext) (pubkey : Pubkey) : Option SolanaAccount :=
  (ctx.accounts.find? fun p => p.1 = pubkey).map Prod.snd

end TransactionContext

/-! ## Invocation -/

structure ComputeBudget where
  computeUnitLimit : UInt64
  maxInstructionStackDepth : Nat
  maxInstructionTraceLength : Nat
  deriving DecidableEq

/-- What the runtime can see when it processes an instruction. -/
structure InvokeInput where
  message : SanitizedMessage
  transactionContext : TransactionContext
  findProgram : Pubkey → Option ProgramCacheEntry
  sysvarCache : SysvarCache
  computeBudget : ComputeBudget
  computeMeter : UInt64
  logCollector : Option LogCollector
  executeUs : UInt64

/-- What the runtime leaves behind, whether the instruction succeeded or failed. -/
structure InvokeOutcome where
  result : Except InstructionError Unit
  computeUnitsConsumed : UInt64
  accountAfter : Nat → SolanaAccount
  returnData : Pubkey × Bytes
  trace : InstructionTrace
  storedPrograms : List (Pubkey × ProgramCacheEntry)
  computeMeter : UInt64
  logCollector : Option LogCollector
  executeUs : UInt64

structure Runtime where
  prepareTopLevelInstructions :
    SanitizedMessage → TransactionContext → Except InstructionError InstructionTrace
  processInstruction : InvokeInput → InvokeOutcome

/-- The state that the instructions of one call thread through the runtime. -/
structure InvokeContext where
  message : SanitizedMessage
  transactionContext : TransactionContext
  programCache : ProgramCacheForTxBatch
  sysvarCache : SysvarCache
  computeBudget : ComputeBudget
  computeMeter : UInt64
  logCollector : Option LogCollector
  executeUs : UInt64

namespace InvokeContext

def input (ic : InvokeContext) : InvokeInput :=
  { message := ic.message
    transactionContext := ic.transactionContext
    findProgram := ic.programCache.find
    sysvarCache := ic.sysvarCache
    computeBudget := ic.computeBudget
    computeMeter := ic.computeMeter
    logCollector := ic.logCollector
    executeUs := ic.executeUs }

/-- The accounts after an outcome: the keys stay, each account is replaced. -/
def accountsAfter (accounts : List (Pubkey × SolanaAccount)) (after : Nat → SolanaAccount) :
    List (Pubkey × SolanaAccount) :=
  accounts.mapIdx fun i p => (p.1, after i)

/-- The context after an outcome. -/
def apply (ic : InvokeContext) (o : InvokeOutcome) : InvokeContext :=
  { ic with
    transactionContext :=
      { ic.transactionContext with
        accounts := accountsAfter ic.transactionContext.accounts o.accountAfter
        topLevelInstructionIndex := ic.transactionContext.topLevelInstructionIndex + 1
        returnData := o.returnData
        trace := o.trace }
    programCache := ic.programCache.storeModifiedEntries o.storedPrograms
    computeMeter := o.computeMeter
    logCollector := o.logCollector
    executeUs := o.executeUs }

@[simp] theorem keys_accountsAfter (accounts : List (Pubkey × SolanaAccount))
    (after : Nat → SolanaAccount) :
    (accountsAfter accounts after).map Prod.fst = accounts.map Prod.fst := by
  refine List.ext_getElem (by simp [accountsAfter]) ?_
  intro i h₁ h₂
  simp [accountsAfter]

@[simp] theorem keys_apply (ic : InvokeContext) (o : InvokeOutcome) :
    (ic.apply o).transactionContext.accounts.map Prod.fst =
      ic.transactionContext.accounts.map Prod.fst := by
  simp [apply]

end InvokeContext

end Svm
end Quasar
