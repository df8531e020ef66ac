import Quasar.Lib.Text
import Quasar.Svm.Runtime

/-!
# Trace — the log parser and the execution trace

The engine reconstructs results and compute units of invocations from the log: it numbers the
invoke lines, keeps the open invocations on a stack, and files what it reads under the pair of depth
and number.  The trace joins these figures with the runtime's frames by depth and position.
-/

namespace Quasar
namespace Svm

open Lib

/-! ## Log lines -/

/-- `invoke [` -/
def invokeMarker : List Char := "invoke [".toList

/-- `consumed ` -/
def consumedMarker : List Char := "consumed ".toList

/-- ` compute units` -/
def unitsMarker : List Char := " compute units".toList

/-- ` success` -/
def successMarker : List Char := " success".toList

/-- ` failed: ` -/
def failedMarker : List Char := " failed: ".toList

/-- The numeral after the first `marker`, up to the first `stop`. -/
def parseAfter (marker : List Char) (stop : Char) (bound : Nat) (log : List Char) : Option Nat := do
  -- `split(marker).nth(1)`: a second marker ends the piece.
  let piece ← (Text.split marker log)[1]?
  let numeral ← (Text.split [stop] piece)[0]?
  Text.parseUnsigned bound numeral

/-- Parse a `Program <id> invoke [<depth>]` line. -/
def parseInvokeLog (log : String) : Option UInt8 :=
  if invokeMarker <:+: log.toList then
    (parseAfter invokeMarker ']' (2 ^ 8) log.toList).map UInt8.ofNat
  else
    none

/-- Parse a `Program <id> consumed <units> of <total> compute units` line. -/
def parseConsumedLog (log : String) : Option UInt64 :=
  if consumedMarker <:+: log.toList ∧ unitsMarker <:+: log.toList then
    (parseAfter consumedMarker ' ' (2 ^ 64) log.toList).map UInt64.ofNat
  else
    none

/-- Parse a result line: 0 for success, 1 for every failure. -/
def parseResultLog (log : String) : Option UInt64 :=
  if successMarker <:+: log.toList then
    some 0
  else if failedMarker <:+: log.toList then
    some 1
  else
    none

/-! ## Parser state -/

/-- Result code and compute units by depth and invocation number. -/
abbrev LogResults := HashMap (UInt8 × Nat) (UInt64 × UInt64)

structure LogParser where
  results : LogResults
  stack : List (UInt8 × Nat)
  instructionCounter : Nat

namespace LogParser

def init : LogParser :=
  { results := ∅
    stack := []
    instructionCounter := 0 }

/-- `entry(key).and_modify(update).or_insert(default)` -/
def modifyOrInsert (results : LogResults) (key : UInt8 × Nat)
    (update : UInt64 × UInt64 → UInt64 × UInt64) (default : UInt64 × UInt64) : LogResults :=
  match results.lookup key with
  | some e => results.insert key (update e)
  | none => results.insert key default

/-- An invoke line opens an invocation; depths in the log start at 1. -/
def openInvocation (s : LogParser) (depth : UInt8) : LogParser :=
  { s with
    stack := (UInt8.ofNat (depth.toNat - 1), s.instructionCounter) :: s.stack
    instructionCounter := s.instructionCounter + 1 }

/-- A consumed line files the compute units of the innermost open invocation. -/
def recordUnits (s : LogParser) (units : UInt64) : LogParser :=
  match s.stack with
  | [] => s
  | key :: _ =>
      { s with results := modifyOrInsert s.results key (fun e => (e.1, units)) (0, units) }

/-- A result line closes the innermost open invocation. -/
def closeInvocation (s : LogParser) (code : UInt64) : LogParser :=
  match s.stack with
  | [] => s
  | key :: stack =>
      { s with
        results := modifyOrInsert s.results key (fun e => (code, e.2)) (code, 0)
        stack := stack }

/-- One iteration of the loop over the log: the first parser that accepts the line decides. -/
def step (s : LogParser) (log : String) : LogParser :=
  match parseInvokeLog log with
  | some depth => s.openInvocation depth
  | none =>
      match parseConsumedLog log with
      -- `continue` even when no invocation is open.
      | some units => s.recordUnits units
      | none =>
          match parseResultLog log with
          | some code => s.closeInvocation code
          | none => s

def run (s : LogParser) (logs : List String) : LogParser :=
  logs.foldl step s

end LogParser

def parseLogResults (logs : List String) : LogResults :=
  (LogParser.init.run logs).results

/-! ## Execution trace -/

structure ExecutedInstruction where
  stackDepth : UInt8
  instruction : Instruction
  computeUnitsConsumed : UInt64
  result : UInt64
  deriving DecidableEq

structure ExecutionTrace where
  instructions : List ExecutedInstruction
  deriving DecidableEq

/-- The account metas of a frame; an index outside the message's keys is left out. -/
def instructionMetas (accountKeys : List Pubkey) (accounts : List InstructionAccount) :
    List AccountMeta :=
  accounts.filterMap fun acc =>
    accountKeys[acc.indexInTransaction]?.map fun pubkey =>
      { pubkey := pubkey
        isSigner := acc.isSigner
        isWritable := acc.isWritable }

/-- The trace entry of the frame at position `idx`. -/
def executedInstruction (trace : InstructionTrace) (accountKeys : List Pubkey)
    (logResults : LogResults) (idx : Nat) (frame : InstructionFrame) : ExecutedInstruction :=
  let stackDepth := UInt8.ofNat frame.nestingLevel
  -- Frames are numbered as they were placed, invoke lines as they were logged.
  let figures := (logResults.lookup (stackDepth, idx)).getD (0, 0)
  { stackDepth := stackDepth
    instruction :=
      { programId := accountKeys[frame.programAccountIndexInTx]?.getD Pubkey.default
        accounts := instructionMetas accountKeys (trace.accounts[idx]?.getD [])
        data := trace.data[idx]?.getD [] }
    computeUnitsConsumed := figures.2
    result := figures.1 }

def extractExecutionTrace (trace : InstructionTrace) (message : SanitizedMessage)
    (logs : List String) : ExecutionTrace :=
  let logResults := parseLogResults logs
  { instructions :=
      trace.frames.mapIdx (executedInstruction trace message.accountKeys logResults) }

end Svm
end Quasar
