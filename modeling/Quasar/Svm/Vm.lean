import Quasar.Svm.Trace

/-!
# Vm — the engine's state and its execution path

An execution merges the stored accounts with the explicit ones, compiles the transaction's account
list from the message keys, runs the instructions until one fails, and builds the report.  Only a
successful execution that asked for it writes back to the account store.
-/

namespace Quasar
namespace Svm

open Lib

/-! ## Results -/

structure UiTokenAmount where
  uiAmount : Option F64
  decimals : UInt8
  amount : String
  deriving DecidableEq

structure TokenBalance where
  accountIndex : Nat
  mint : String
  owner : Option String
  uiTokenAmount : UiTokenAmount
  deriving DecidableEq

structure ExecutionResult where
  computeUnitsConsumed : UInt64
  executionTimeUs : UInt64
  rawResult : Except InstructionError Unit
  returnData : Bytes
  accounts : List Account
  logs : List String
  preBalances : List UInt64
  postBalances : List UInt64
  preTokenBalances : List TokenBalance
  postTokenBalances : List TokenBalance
  executionTrace : ExecutionTrace

namespace ExecutionResult

def isOk (r : ExecutionResult) : Bool :=
  match r.rawResult with
  | .ok () => true
  | .error _ => false

/-- Look up a resulting account by address. -/
def account (r : ExecutionResult) (address : Pubkey) : Option Account :=
  r.accounts.find? fun a => a.address = address

end ExecutionResult

/-! ## State -/

structure QuasarSvm where
  computeBudget : ComputeBudget
  logger : Option LogCollector
  programCache : ProgramCache
  sysvars : Sysvars
  accounts : HashMap Pubkey SolanaAccount

/-- What a call on the VM comes to: the VM afterwards, and a value or the message of a panic. -/
abbrev Call (α : Type) := QuasarSvm × Except String α

namespace QuasarSvm

variable (cr : Crates) (rt : Runtime)

def setAccount (svm : QuasarSvm) (account : Account) : QuasarSvm :=
  { svm with accounts := svm.accounts.insert account.toPair.1 account.toPair.2 }

def getAccount (svm : QuasarSvm) (pubkey : Pubkey) : Option Account :=
  (svm.accounts.lookup pubkey).map (Account.fromPair pubkey)

def addProgram (svm : QuasarSvm) (programId loaderKey : Pubkey) (elf : Bytes) : Call Unit :=
  match svm.programCache.addProgram cr programId loaderKey elf with
  | some programCache => ({ svm with programCache := programCache }, .ok ())
  -- An executable that does not load panics, and the cache stays as it was.
  | none => (svm, .error "called `Result::unwrap()` on an `Err` value")

/-- `existing.lamports + lamports` in the release profile, where the sum wraps. -/
def airdrop (svm : QuasarSvm) (pubkey : Pubkey) (lamports : UInt64) : QuasarSvm :=
  let account : SolanaAccount := match svm.accounts.lookup pubkey with
    -- An account that is there keeps all but its lamports and its rent epoch.
    | some a => { a with lamports := a.lamports + lamports, rentEpoch := 0 }
    | none => { SolanaAccount.default with lamports := lamports, owner := cr.systemProgramId }
  { svm with accounts := svm.accounts.insert pubkey account }

def createAccount (svm : QuasarSvm) (pubkey : Pubkey) (space : Nat) (owner : Pubkey) : QuasarSvm :=
  let account : SolanaAccount :=
    { lamports := cr.minimumBalance svm.sysvars.rent space
      data := List.replicate space 0
      owner := owner
      executable := false
      rentEpoch := 0 }
  { svm with accounts := svm.accounts.insert pubkey account }

def setTokenBalance (svm : QuasarSvm) (address : Pubkey) (amount : UInt64) : Call Unit :=
  match svm.accounts.lookup address with
  | none => (svm, .error s!"set_token_balance: account {cr.pubkeyToString address} not found")
  | some acct =>
      match cr.unpackTokenAccount acct.data with
      | none =>
          (svm, .error
            s!"set_token_balance: account {cr.pubkeyToString address} is not a valid token account")
      | some token =>
          let data := cr.packTokenAccount { token with amount := amount } acct.data
          ({ svm with accounts := svm.accounts.insert address { acct with data := data } }, .ok ())

def setMintSupply (svm : QuasarSvm) (address : Pubkey) (supply : UInt64) : Call Unit :=
  match svm.accounts.lookup address with
  | none => (svm, .error s!"set_mint_supply: account {cr.pubkeyToString address} not found")
  | some acct =>
      match cr.unpackMint acct.data with
      | none =>
          (svm, .error
            s!"set_mint_supply: account {cr.pubkeyToString address} is not a valid mint account")
      | some mint =>
          let data := cr.packMint { mint with supply := supply } acct.data
          ({ svm with accounts := svm.accounts.insert address { acct with data := data } }, .ok ())

/-- A call that leaves the VM alone or gives a stored account other data. -/
def RewritesData (svm svm' : QuasarSvm) (address : Pubkey) : Prop :=
  svm' = svm ∨ ∃ acct data, svm.accounts.lookup address = some acct ∧
    svm' = { svm with accounts := svm.accounts.insert address { acct with data := data } }

theorem rewritesData_setTokenBalance (svm : QuasarSvm) (address : Pubkey) (amount : UInt64) :
    RewritesData svm (svm.setTokenBalance cr address amount).1 address := by
  unfold setTokenBalance
  cases hlookup : svm.accounts.lookup address with
  | none => exact Or.inl rfl
  | some acct =>
      dsimp only
      cases cr.unpackTokenAccount acct.data with
      | none => exact Or.inl rfl
      | some token => exact Or.inr ⟨acct, _, hlookup, rfl⟩

theorem rewritesData_setMintSupply (svm : QuasarSvm) (address : Pubkey) (supply : UInt64) :
    RewritesData svm (svm.setMintSupply cr address supply).1 address := by
  unfold setMintSupply
  cases hlookup : svm.accounts.lookup address with
  | none => exact Or.inl rfl
  | some acct =>
      dsimp only
      cases cr.unpackMint acct.data with
      | none => exact Or.inl rfl
      | some mint => exact Or.inr ⟨acct, _, hlookup, rfl⟩

def warpToTimestamp (svm : QuasarSvm) (timestamp : Int64) : QuasarSvm :=
  { svm with
    sysvars :=
      { svm.sysvars with
        clock := { svm.sysvars.clock with unixTimestamp := timestamp } } }

/-! ## Preparing an execution -/

def resetLogger (svm : QuasarSvm) : QuasarSvm :=
  { svm with logger := some (LogCollector.newRef cr.logBytesLimit) }

def drainLogs (svm : QuasarSvm) : List String :=
  match svm.logger with
  | some c => c.messages
  | none => []

/-- Stored accounts that are not passed explicitly, then the explicit ones. -/
def mergeAccounts (svm : QuasarSvm) (accounts : List (Pubkey × SolanaAccount)) :
    List (Pubkey × SolanaAccount) :=
  let explicit := accounts.map Prod.fst
  -- An address that is passed twice stays twice in the list.
  (HashMap.toPairs svm.accounts).filter (fun p => p.1 ∉ explicit) ++ accounts

/-- Write resulting accounts back into the store, in order. -/
def commitAccounts (svm : QuasarSvm) (resulting : List (Pubkey × SolanaAccount)) : QuasarSvm :=
  { svm with accounts := HashMap.insertAll svm.accounts resulting }

def buildInstructionsSysvar (instructions : List Instruction) : Pubkey × SolanaAccount :=
  (cr.instructionsSysvarId,
    { lamports := 0
      data := cr.constructInstructionsData instructions
      owner := cr.sysvarOwnerId
      executable := false
      rentEpoch := 0 })

/-- The fallback accounts of one top-level program that was not supplied. -/
def programFallbacks (svm : QuasarSvm) (pid : Pubkey) : List (Pubkey × SolanaAccount) :=
  let programAccounts := svm.programCache.maybeCreateProgramAccounts cr pid
  if programAccounts.isEmpty then
    -- A stub for a program that the cache does not know.
    [(pid, { SolanaAccount.default with executable := true })]
  else
    programAccounts

/-- Fallback accounts for the top-level programs, in the iteration order of the program-id set. -/
def buildFallbacks (svm : QuasarSvm) (instructions : List Instruction)
    (accounts : List (Pubkey × SolanaAccount)) : HashMap Pubkey SolanaAccount :=
  let accountKeys := accounts.map Prod.fst
  let programIds := cr.hashSetIter (instructions.map Instruction.programId)
  let missing := programIds.filter fun pid => pid ∉ accountKeys
  missing.foldl (fun m pid => HashMap.insertAll m (svm.programFallbacks cr pid)) ∅

/-- The account a message key resolves to. -/
def resolveAccount (svm : QuasarSvm) (accounts : List (Pubkey × SolanaAccount))
    (fallbacks : HashMap Pubkey SolanaAccount) (key : Pubkey) : SolanaAccount :=
  -- Provided accounts first, then the fallbacks built for top-level programs.
  match accounts.find? fun p => p.1 = key with
  | some p => p.2
  | none =>
      match fallbacks.lookup key with
      | some a => a
      | none =>
          match svm.sysvars.maybeCreateSysvarAccount cr key with
          | some a => a
          | none =>
              -- Programs that are only reached through a CPI.
              let programAccounts := svm.programCache.maybeCreateProgramAccounts cr key
              match programAccounts.find? fun p => p.1 = key with
              | some p => p.2
              | none => SolanaAccount.default

def compileAccounts (svm : QuasarSvm) (instructions : List Instruction)
    (accounts : List (Pubkey × SolanaAccount)) :
    SanitizedMessage × List (Pubkey × SolanaAccount) :=
  let message : SanitizedMessage := { message := cr.messageNew instructions }
  let fallbacks := svm.buildFallbacks cr instructions accounts
  let supplied := cr.instructionsSysvarId ∈ accounts.map Prod.fst
  -- The instructions sysvar is built even when no instruction names it, unless it was supplied.
  let sysvar := buildInstructionsSysvar cr instructions
  let fallbacks := if supplied then fallbacks else fallbacks.insert sysvar.1 sysvar.2
  let keyed := message.accountKeys.map fun key =>
    (key, svm.resolveAccount cr accounts fallbacks key)
  (message, if supplied then keyed else keyed ++ [sysvar])

/-! ## Running the message -/

/-- What one instruction after another leaves behind. -/
structure MessageOutcome where
  context : InvokeContext
  computeUnitsConsumed : UInt64
  rawResult : Except InstructionError Unit

/-- Process the remaining instructions; the first failure stops the loop. -/
def runInstructions : List CompiledInstruction → InvokeContext → UInt64 → MessageOutcome
  | [], ic, units =>
      { context := ic
        computeUnitsConsumed := units
        rawResult := .ok () }
  | _ :: rest, ic, units =>
      let o := rt.processInstruction ic.input
      match o.result with
      | .ok () => runInstructions rest (ic.apply o) (units + o.computeUnitsConsumed)
      -- The units of the failing instruction count as well.
      | .error err =>
          { context := ic.apply o
            computeUnitsConsumed := units + o.computeUnitsConsumed
            rawResult := .error err }

/-- The runtime's context at the start of the message. -/
def invokeContext (svm : QuasarSvm) (message : SanitizedMessage) (ctx : TransactionContext)
    (sysvarCache : SysvarCache) : InvokeContext :=
  { message := message
    transactionContext := ctx
    programCache := svm.programCache.cache
    sysvarCache := sysvarCache
    computeBudget := svm.computeBudget
    computeMeter := svm.computeBudget.computeUnitLimit
    logCollector := svm.logger
    executeUs := 0 }

/-- Run the message; `none` where preparing the top-level instructions panics. -/
def processMessage (svm : QuasarSvm) (message : SanitizedMessage) (ctx : TransactionContext)
    (sysvarCache : SysvarCache) : Option MessageOutcome :=
  match rt.prepareTopLevelInstructions message ctx with
  | .error _ => none
  | .ok trace =>
      -- The frames of all top-level instructions are placed before the first one runs.
      let ic := svm.invokeContext message { ctx with trace := trace } sysvarCache
      some (runInstructions rt message.message.instructions ic 0)

/-- The VM after the runtime has run: its program cache and its log collector are shared with it. -/
def absorb (svm : QuasarSvm) (ic : InvokeContext) : QuasarSvm :=
  { svm with
    logger := ic.logCollector
    programCache := { svm.programCache with cache := ic.programCache } }

/-! ## Reporting -/

/-- The merged list with every account that the transaction touched replaced by its final state. -/
def deconstructResultingAccounts (ctx : TransactionContext)
    (originalAccounts : List (Pubkey × SolanaAccount)) : List (Pubkey × SolanaAccount) :=
  originalAccounts.map fun p => (p.1, (ctx.findAccount p.1).getD p.2)

def pairsToSvmAccounts (pairs : List (Pubkey × SolanaAccount)) : List Account :=
  pairs.map fun p => Account.fromPair p.1 p.2

/-- The decimals of a mint that is in the list, 0 otherwise. -/
def mintDecimals (accounts : List (Pubkey × SolanaAccount)) (mint : Pubkey) : UInt8 :=
  -- Only the first account of that address is looked at.
  let found := (accounts.find? fun p => p.1 = mint).bind fun p =>
    if p.2.data.length = splMintLen then
      (cr.unpackMint p.2.data).map SplMint.decimals
    else
      none
  found.getD 0

/-- The token balance of the account at `index`, when its data is that of a token account. -/
def tokenBalance (accounts : List (Pubkey × SolanaAccount)) (index : Nat)
    (entry : Pubkey × SolanaAccount) : Option TokenBalance :=
  if entry.2.data.length ≠ splTokenAccountLen then
    none
  else
    (cr.unpackTokenAccount entry.2.data).map fun token =>
      let decimals := mintDecimals cr accounts token.mint
      { accountIndex := index
        mint := cr.pubkeyToString token.mint
        owner := some (cr.pubkeyToString token.owner)
        uiTokenAmount :=
          { uiAmount :=
              if decimals > 0 then
                some (cr.amountScaled token.amount decimals)
              else
                some (cr.amountToF64 token.amount)
            decimals := decimals
            amount := toString token.amount.toNat } }

def extractTokenBalances (accounts : List (Pubkey × SolanaAccount)) : List TokenBalance :=
  accounts.zipIdx.filterMap fun p => tokenBalance cr accounts p.2 p.1

/-! ## Executing -/

/-- The report of an execution, from the merged pre-state and what the runtime left behind. -/
def report (merged resulting : List (Pubkey × SolanaAccount)) (logs : List String)
    (o : MessageOutcome) : ExecutionResult :=
  { computeUnitsConsumed := o.computeUnitsConsumed
    executionTimeUs := o.context.executeUs
    rawResult := o.rawResult
    returnData := o.context.transactionContext.returnData.2
    accounts := pairsToSvmAccounts resulting
    logs := logs
    -- Balances are listed in the order of the merged list, not of the message keys.
    preBalances := merged.map fun p => p.2.lamports
    postBalances := resulting.map fun p => p.2.lamports
    preTokenBalances := extractTokenBalances cr merged
    postTokenBalances := extractTokenBalances cr resulting
    executionTrace := extractExecutionTrace o.context.transactionContext.trace o.context.message logs }

/-- The transaction context of a call, before its first instruction. -/
def transactionContext (svm : QuasarSvm) (instructions : List Instruction)
    (merged : List (Pubkey × SolanaAccount)) : TransactionContext :=
  TransactionContext.new (svm.compileAccounts cr instructions merged).2 svm.sysvars.rent
    svm.computeBudget.maxInstructionStackDepth svm.computeBudget.maxInstructionTraceLength
    instructions.length

/-- The run of a call's message on a VM whose logger has been reset. -/
def runMessage (svm : QuasarSvm) (instructions : List Instruction)
    (merged : List (Pubkey × SolanaAccount)) : Option MessageOutcome :=
  svm.processMessage rt (svm.compileAccounts cr instructions merged).1
    (svm.transactionContext cr instructions merged) (svm.sysvars.setupSysvarCache cr merged)

def executeInner (svm : QuasarSvm) (instructions : List Instruction) (accounts : List Account)
    (commit : Bool) : Call ExecutionResult :=
  let svm := svm.resetLogger cr
  let merged := svm.mergeAccounts (accounts.map Account.toPair)
  match svm.runMessage cr rt instructions merged with
  | none => (svm, .error "failed to prepare instructions")
  | some o =>
      let svm := svm.absorb o.context
      match o.rawResult with
      | .ok () =>
          -- Every pair of the merged list is written, also those that no instruction touched.
          let resulting := deconstructResultingAccounts o.context.transactionContext merged
          let svm := if commit then svm.commitAccounts resulting else svm
          (svm, .ok (report cr merged resulting svm.drainLogs o))
      -- After a failure the merged accounts themselves are reported.
      | .error _ => (svm, .ok (report cr merged merged svm.drainLogs o))

def simulateInstructionChain (svm : QuasarSvm) (instructions : List Instruction)
    (accounts : List Account) : Call ExecutionResult :=
  svm.executeInner cr rt instructions accounts false

def processInstruction (svm : QuasarSvm) (instruction : Instruction) (accounts : List Account) :
    Call ExecutionResult :=
  svm.executeInner cr rt [instruction] accounts true

def processInstructionChain (svm : QuasarSvm) (instructions : List Instruction)
    (accounts : List Account) : Call ExecutionResult :=
  svm.executeInner cr rt instructions accounts true

end QuasarSvm

end Svm
end Quasar
