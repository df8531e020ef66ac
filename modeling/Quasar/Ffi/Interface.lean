import Quasar.Ffi.Configuration
import Quasar.Lib.Blocks
import Quasar.Lib.Process
import Quasar.Svm.Draws
import Quasar.Svm.Setup

/-!
# Interface — the C interface as a whole

The interface hands out pointers to VMs and to result buffers, and keeps the last error of each
thread.  A call that follows a pointer to anything but a live object of its kind is undefined
behaviour, and so is freeing a buffer under another length.  A null pointer is checked for.  As in
the execution entry, the build unwinds panics and the allocator grants what is asked of it.
-/

namespace Quasar
namespace Ffi

open Lib
open Svm (Bytes Bundle Crates Runtime QuasarSvm Pubkey SetOrder)

def quasarErrProgramLoad : Int32 := -3

/-! ## Adding a program -/

/-- Any loader version but 2 means the upgradeable loader. -/
def loaderKey (cr : Crates) (loaderVersion : UInt8) : Pubkey :=
  if loaderVersion = 2 then cr.loaderV2Id else cr.loaderV3Id

def quasarSvmAddProgram (cr : Crates) (svm : Option QuasarSvm) (programId : Option Pubkey)
    (elfData : Option Bytes) (loaderVersion : UInt8) : CallOutcome :=
  match svm, programId, elfData with
  | some svm, some id, some elf =>
      match svm.addProgram cr id (loaderKey cr loaderVersion) elf with
      | (svm, .ok ()) =>
          { svm := some svm
            code := quasarOk
            lastError := none
            result := none }
      -- The ELF does not load; in an unwinding build the panic is caught, and the program cache is
      -- as it was.
      | (svm, .error _) =>
          { svm := some svm
            code := quasarErrProgramLoad
            lastError := some "Panic while loading program"
            result := none }
  | svm, _, _ =>
      { svm := svm
        code := quasarErrNullPointer
        lastError := some "Null pointer argument"
        result := none }

/-! ## Calls on a VM -/

/-- A call that takes a VM pointer, with its other arguments.  An execution comes with the order in
which it lists its hash set, which the library draws anew for each. -/
inductive VmCall
  | addProgram (programId : Option Pubkey) (elfData : Option Bytes) (loaderVersion : UInt8)
  | configure (call : ConfigurationCall)
  | processTransaction (instructions accounts : Option Bytes) (outputs : Bool) (order : SetOrder)

namespace VmCall

/-- The call with the VM behind its pointer, absent for a null pointer. -/
def run (cr : Crates) (rt : Runtime) (tryFrom : Conversion) (svm : Option QuasarSvm) :
    VmCall → CallOutcome
  | .addProgram programId elfData loaderVersion =>
      quasarSvmAddProgram cr svm programId elfData loaderVersion
  | .configure call => call.run cr svm
  | .processTransaction instructions accounts outputs order =>
      quasarSvmProcessTransaction (cr.withOrder order.iter) rt tryFrom svm instructions accounts
        outputs

/-- Another pointer argument than that of the VM is null. -/
def hasNull : VmCall → Bool
  | .addProgram programId elfData _ => programId.isNone || elfData.isNone
  | .configure _ => false
  | .processTransaction instructions accounts outputs _ =>
      instructions.isNone || accounts.isNone || !outputs

end VmCall

/-! ## The state behind the interface -/

/-- What a pointer of the interface points to. -/
inductive Object
  | vm (svm : QuasarSvm)
  | result (bytes : Bytes)

/-- A pointer that a caller passes; absent for a null pointer. -/
abbrev Pointer := Option Nat

/-- The memory that the interface has handed out, and the last error of each thread. -/
@[ext] structure Library (τ : Type) where
  memory : Blocks Object
  lastError : τ → Option String

/-- `CString::new(msg).ok()`: a text with a NUL in it has no C string. -/
def cString (msg : String) : Option String :=
  if Char.ofNat 0 ∈ msg.toList then none else some msg

namespace Library

variable {τ : Type} [DecidableEq τ]

/-- Nothing handed out, and no error yet. -/
def init : Library τ :=
  { memory := Blocks.empty
    lastError := fun _ => none }

def setLastError (lib : Library τ) (t : τ) (msg : String) : Library τ :=
  { lib with lastError := Function.update lib.lastError t (cString msg) }

def clearLastError (lib : Library τ) (t : τ) : Library τ :=
  { lib with lastError := Function.update lib.lastError t none }

def lastErrorPtr (lib : Library τ) (t : τ) : Option String :=
  lib.lastError t

/-! ## The functions of the interface -/

def quasarLastError (lib : Library τ) (t : τ) : Option String :=
  lib.lastErrorPtr t

def quasarSvmNew (cr : Crates) (bundle : Bundle) (lib : Library τ) (t : τ) : Library τ × Pointer :=
  let lib := lib.clearLastError t
  match QuasarSvm.new cr bundle with
  | some svm => ({ lib with memory := lib.memory.alloc (.vm svm) }, some lib.memory.next)
  | none => (lib.setLastError t "Panic during SVM creation", none)

/-- Absent for undefined behaviour, here and below. -/
def quasarSvmFree (lib : Library τ) : Pointer → Option (Library τ)
  | none => some lib
  | some b =>
      match lib.memory.contents b with
      | some (.vm _) => some { lib with memory := lib.memory.free b }
      | _ => none

def quasarResultFree (lib : Library τ) (resultLen : Nat) : Pointer → Option (Library τ)
  | none => some lib
  | some b =>
      match lib.memory.contents b with
      | some (.result bytes) =>
          if bytes.length = resultLen then some { lib with memory := lib.memory.free b } else none
      | _ => none

/-- What a call on a VM leaves behind, with its code and the buffer that it handed out. -/
def settle (lib : Library τ) (t : τ) (svm : Pointer) (outcome : CallOutcome) :
    Library τ × Int32 × Option (Nat × Bytes) :=
  let lib := lib.clearLastError t
  let lib := match outcome.lastError with
    | some msg => lib.setLastError t msg
    | none => lib
  let memory := match svm, outcome.svm with
    | some b, some svm => lib.memory.modify b fun _ => .vm svm
    | _, _ => lib.memory
  match outcome.result with
  | none => ({ lib with memory := memory }, outcome.code, none)
  -- `Box::into_raw` of the serialized result, written to the two output pointers.
  | some bytes =>
      ({ lib with memory := memory.alloc (.result bytes) }, outcome.code, some (memory.next, bytes))

/-- A call on a VM.  The pointers are compared with null before any of them is followed. -/
def callVm (cr : Crates) (rt : Runtime) (tryFrom : Conversion) (lib : Library τ) (t : τ)
    (svm : Pointer) (call : VmCall) : Option (Library τ × Int32 × Option (Nat × Bytes)) :=
  match if call.hasNull then none else svm with
  | none => some (lib.settle t none (call.run cr rt tryFrom none))
  | some b =>
      match lib.memory.contents b with
      | some (.vm vm) => some (lib.settle t (some b) (call.run cr rt tryFrom (some vm)))
      | _ => none

end Library

/-! ## The interface as a process -/

inductive Call
  | lastError
  | svmNew
  | svmFree (svm : Pointer)
  | onVm (svm : Pointer) (call : VmCall)
  | resultFree (result : Pointer) (resultLen : Nat)

/-- What a call returns; a result buffer comes with the bytes that are to be read there. -/
inductive Return
  | text (message : Option String)
  | pointer (svm : Pointer)
  | freed
  | status (code : Int32) (result : Option (Nat × Bytes))

section Step

variable {τ : Type} [DecidableEq τ] (cr : Crates) (rt : Runtime) (tryFrom : Conversion)
  (bundle : Bundle)

def Library.step (lib : Library τ) (input : τ × Call) : Option (Library τ × Return) :=
  match input.2 with
  | .lastError => some (lib, .text (lib.quasarLastError input.1))
  | .svmNew =>
      let out := lib.quasarSvmNew cr bundle input.1
      some (out.1, .pointer out.2)
  | .svmFree svm => (lib.quasarSvmFree svm).map fun lib => (lib, .freed)
  | .onVm svm call =>
      (lib.callVm cr rt tryFrom input.1 svm call).map fun out => (out.1, .status out.2.1 out.2.2)
  | .resultFree result resultLen =>
      (lib.quasarResultFree resultLen result).map fun lib => (lib, .freed)

/-- The calls of any threads, in the order in which they take place. -/
def interface : Process (Library τ) (τ × Call) Return :=
  { step := fun lib input => lib.step cr rt tryFrom bundle input }

@[simp] theorem interface_step (lib : Library τ) (input : τ × Call) :
    (interface cr rt tryFrom bundle).step lib input = lib.step cr rt tryFrom bundle input := rfl

end Step

/-! ## Calls on a VM, once and for all -/

section Calls

variable {cr : Crates} {rt : Runtime} {tryFrom : Conversion} {svm : QuasarSvm} {call : VmCall}

/-- With a null pointer every call on a VM is rejected, with one message. -/
theorem VmCall.run_none (call : VmCall) :
    call.run cr rt tryFrom none =
      { svm := none
        code := quasarErrNullPointer
        lastError := some "Null pointer argument"
        result := none } := by
  cases call with
  | addProgram programId elfData loaderVersion => rfl
  | configure call =>
      cases call with
      | setter call =>
          cases call with
          | _ => rfl
      | _ => rfl
  | processTransaction instructions accounts outputs order => rfl

/-- How a call on a VM can end.  `svm'` is the VM afterwards. -/
inductive VmCall.Ends (cr : Crates) (rt : Runtime) (tryFrom : Conversion) (svm : QuasarSvm) :
    VmCall → QuasarSvm → Int32 → Option String → Option Bytes → Prop
  | added (programId : Pubkey) (elf : Bytes) (loaderVersion : UInt8)
      (h : (svm.addProgram cr programId (loaderKey cr loaderVersion) elf).2 = .ok ()) :
      Ends cr rt tryFrom svm (.addProgram (some programId) (some elf) loaderVersion)
        (svm.addProgram cr programId (loaderKey cr loaderVersion) elf).1 quasarOk none none
  | notLoaded (programId : Pubkey) (elf : Bytes) (loaderVersion : UInt8) (m : String)
      (h : (svm.addProgram cr programId (loaderKey cr loaderVersion) elf).2 = .error m) :
      Ends cr rt tryFrom svm (.addProgram (some programId) (some elf) loaderVersion)
        (svm.addProgram cr programId (loaderKey cr loaderVersion) elf).1 quasarErrProgramLoad
        (some "Panic while loading program") none
  | configured (call : ConfigurationCall) :
      Ends cr rt tryFrom svm (.configure call)
        (svm.operate cr rt (call.operation cr svm)).1 quasarOk none none
  | badInstructions (ixBytes acctBytes : Bytes) (order : SetOrder) (e : String)
      (h : deserializeInstructions ixBytes = .error e) :
      Ends cr rt tryFrom svm (.processTransaction (some ixBytes) (some acctBytes) true order) svm
        quasarErrExecution (some s!"Invalid instructions data: {e}") none
  | badAccounts (ixBytes acctBytes : Bytes) (order : SetOrder) (ixs : List Svm.Instruction)
      (e : String) (hixs : deserializeInstructions ixBytes = .ok ixs)
      (h : deserializeAccounts acctBytes = .error e) :
      Ends cr rt tryFrom svm (.processTransaction (some ixBytes) (some acctBytes) true order) svm
        quasarErrExecution (some s!"Invalid accounts data: {e}") none
  | executed (ixBytes acctBytes : Bytes) (order : SetOrder) (ixs : List Svm.Instruction)
      (accts : List (Pubkey × Svm.SolanaAccount)) (r : Svm.ExecutionResult)
      (hixs : deserializeInstructions ixBytes = .ok ixs)
      (haccts : deserializeAccounts acctBytes = .ok accts)
      (h : (svm.processInstructionChain (cr.withOrder order.iter) rt ixs (svmAccounts accts)).2 =
        .ok r) :
      Ends cr rt tryFrom svm (.processTransaction (some ixBytes) (some acctBytes) true order)
        (svm.processInstructionChain (cr.withOrder order.iter) rt ixs (svmAccounts accts)).1
        quasarOk none (some (serializeResult tryFrom r))
  | panicked (ixBytes acctBytes : Bytes) (order : SetOrder) (ixs : List Svm.Instruction)
      (accts : List (Pubkey × Svm.SolanaAccount)) (m : String)
      (hixs : deserializeInstructions ixBytes = .ok ixs)
      (haccts : deserializeAccounts acctBytes = .ok accts)
      (h : (svm.processInstructionChain (cr.withOrder order.iter) rt ixs (svmAccounts accts)).2 =
        .error m) :
      Ends cr rt tryFrom svm (.processTransaction (some ixBytes) (some acctBytes) true order)
        (svm.processInstructionChain (cr.withOrder order.iter) rt ixs (svmAccounts accts)).1
        quasarErrInternal (some "Panic during transaction execution") none

/-- A call without a null pointer ends in one of these ways. -/
theorem VmCall.run_ends (cr : Crates) (rt : Runtime) (tryFrom : Conversion) (svm : QuasarSvm)
    (h : call.hasNull = false) :
    ∃ svm' code message result, call.run cr rt tryFrom (some svm) =
        { svm := some svm'
          code := code
          lastError := message
          result := result } ∧
      VmCall.Ends cr rt tryFrom svm call svm' code message result := by
  cases call with
  | addProgram programId elfData loaderVersion =>
      cases programId with
      | none => simp [VmCall.hasNull] at h
      | some programId =>
          cases elfData with
          | none => simp [VmCall.hasNull] at h
          | some elf =>
              rcases hadd : svm.addProgram cr programId (loaderKey cr loaderVersion) elf with
                ⟨svm', out⟩
              cases out with
              | ok u =>
                  refine ⟨_, _, _, _, ?_, .added programId elf loaderVersion (by rw [hadd])⟩
                  simp only [run, quasarSvmAddProgram, hadd]
              | error m =>
                  refine ⟨_, _, _, _, ?_, .notLoaded programId elf loaderVersion m (by rw [hadd])⟩
                  simp only [run, quasarSvmAddProgram, hadd]
  | configure call =>
      refine ⟨_, _, _, _, ?_, VmCall.Ends.configured call⟩
      cases call with
      | setter call =>
          cases call with
          | _ => rfl
      | _ => rfl
  | processTransaction instructions accounts outputs order =>
      cases instructions with
      | none => simp [VmCall.hasNull] at h
      | some ixBytes =>
          cases accounts with
          | none => simp [VmCall.hasNull] at h
          | some acctBytes =>
              cases outputs with
              | false => simp [VmCall.hasNull] at h
              | true =>
                  simp only [run, quasarSvmProcessTransaction, processTransactionBytes]
                  cases hixs : deserializeInstructions ixBytes with
                  | error e =>
                      exact ⟨_, _, _, _, rfl, .badInstructions ixBytes acctBytes order e hixs⟩
                  | ok ixs =>
                      cases haccts : deserializeAccounts acctBytes with
                      | error e =>
                          exact ⟨_, _, _, _, rfl,
                            .badAccounts ixBytes acctBytes order ixs e hixs haccts⟩
                      | ok accts =>
                          rcases hcall : svm.processInstructionChain (cr.withOrder order.iter) rt
                            ixs (svmAccounts accts) with ⟨svm', out⟩
                          cases out with
                          | ok r =>
                              refine ⟨_, _, _, _, ?_, .executed ixBytes acctBytes order ixs accts r
                                hixs haccts (by rw [hcall])⟩
                              simp only [hcall]
                          | error m =>
                              refine ⟨_, _, _, _, ?_, .panicked ixBytes acctBytes order ixs accts m
                                hixs haccts (by rw [hcall])⟩
                              simp only [hcall]

theorem VmCall.run_of_hasNull (h : call.hasNull = true) :
    call.run cr rt tryFrom (some svm) =
      { svm := some svm
        code := quasarErrNullPointer
        lastError := some "Null pointer argument"
        result := none } := by
  cases call with
  | addProgram programId elfData loaderVersion =>
      cases programId with
      | none => rfl
      | some programId =>
          cases elfData with
          | none => rfl
          | some elf => cases h
  | configure call => cases h
  | processTransaction instructions accounts outputs order =>
      cases instructions with
      | none => rfl
      | some ixBytes =>
          cases accounts with
          | none => rfl
          | some acctBytes =>
              cases outputs with
              | false => rfl
              | true => cases h

end Calls

/-! ## What a step can do -/

section Steps

variable {τ : Type} [DecidableEq τ]

/-- Everything that a call of thread `t` can do to the library and return. -/
inductive Library.Does (cr : Crates) (rt : Runtime) (tryFrom : Conversion) (bundle : Bundle)
    (lib : Library τ) (t : τ) : Call → Library τ → Return → Prop
  | told : Does cr rt tryFrom bundle lib t .lastError lib (.text (lib.lastError t))
  | created (svm : QuasarSvm) (h : QuasarSvm.new cr bundle = some svm) :
      Does cr rt tryFrom bundle lib t .svmNew
        { memory := lib.memory.alloc (.vm svm)
          lastError := Function.update lib.lastError t none }
        (.pointer (some lib.memory.next))
  | notCreated (h : QuasarSvm.new cr bundle = none) :
      Does cr rt tryFrom bundle lib t .svmNew
        { memory := lib.memory
          lastError := Function.update lib.lastError t (cString "Panic during SVM creation") }
        (.pointer none)
  | freedNothing : Does cr rt tryFrom bundle lib t (.svmFree none) lib .freed
  | freedVm (b : Nat) (svm : QuasarSvm) (h : lib.memory.contents b = some (.vm svm)) :
      Does cr rt tryFrom bundle lib t (.svmFree (some b))
        { lib with memory := lib.memory.free b } .freed
  | rejected (svm : Pointer) (call : VmCall) (h : call.hasNull = true ∨ svm = none) :
      Does cr rt tryFrom bundle lib t (.onVm svm call)
        { memory := lib.memory
          lastError := Function.update lib.lastError t (cString "Null pointer argument") }
        (.status quasarErrNullPointer none)
  | called (b : Nat) (svm svm' : QuasarSvm) (call : VmCall) (code : Int32)
      (message : Option String) (hnull : call.hasNull = false)
      (h : lib.memory.contents b = some (.vm svm))
      (hrun : call.run cr rt tryFrom (some svm) =
        { svm := some svm', code := code, lastError := message, result := none })
      (hends : call.Ends cr rt tryFrom svm svm' code message none) :
      Does cr rt tryFrom bundle lib t (.onVm (some b) call)
        { memory := lib.memory.modify b fun _ => .vm svm'
          lastError := Function.update lib.lastError t (message.bind cString) }
        (.status code none)
  | answered (b : Nat) (svm svm' : QuasarSvm) (call : VmCall) (code : Int32)
      (message : Option String) (bytes : Bytes) (hnull : call.hasNull = false)
      (h : lib.memory.contents b = some (.vm svm))
      (hrun : call.run cr rt tryFrom (some svm) =
        { svm := some svm', code := code, lastError := message, result := some bytes })
      (hends : call.Ends cr rt tryFrom svm svm' code message (some bytes)) :
      Does cr rt tryFrom bundle lib t (.onVm (some b) call)
        { memory := (lib.memory.modify b fun _ => .vm svm').alloc (.result bytes)
          lastError := Function.update lib.lastError t (message.bind cString) }
        (.status code (some (lib.memory.next, bytes)))
  | freedNoResult (resultLen : Nat) :
      Does cr rt tryFrom bundle lib t (.resultFree none resultLen) lib .freed
  | freedResult (b : Nat) (bytes : Bytes) (h : lib.memory.contents b = some (.result bytes)) :
      Does cr rt tryFrom bundle lib t (.resultFree (some b) bytes.length)
        { lib with memory := lib.memory.free b } .freed

variable {cr : Crates} {rt : Runtime} {tryFrom : Conversion} {bundle : Bundle}
  {lib lib' : Library τ} {t : τ} {ret : Return}

/-- The last error is cleared and then set. -/
theorem Library.lastError_settle (svm : Pointer) (outcome : CallOutcome) :
    (lib.settle t svm outcome).1.lastError =
      Function.update lib.lastError t (outcome.lastError.bind cString) := by
  unfold settle
  cases outcome.result with
  | none =>
      cases outcome.lastError with
      | none => rfl
      | some msg => simp [setLastError, clearLastError]
  | some bytes =>
      cases outcome.lastError with
      | none => rfl
      | some msg => simp [setLastError, clearLastError]

theorem Library.settle_none (outcome : CallOutcome) (h : outcome.result = none) :
    lib.settle t none outcome =
      ({ memory := lib.memory
         lastError := Function.update lib.lastError t (outcome.lastError.bind cString) },
        outcome.code, none) := by
  refine Prod.ext (Library.ext ?_ (Library.lastError_settle none outcome)) ?_
  · simp only [settle, h]
    cases outcome.lastError with
    | none => rfl
    | some msg => rfl
  · simp only [settle, h]

theorem Library.settle_some (b : Nat) (svm' : QuasarSvm) (code : Int32)
    (message : Option String) :
    lib.settle t (some b)
        { svm := some svm', code := code, lastError := message, result := none } =
      ({ memory := lib.memory.modify b fun _ => .vm svm'
         lastError := Function.update lib.lastError t (message.bind cString) }, code, none) := by
  refine Prod.ext (Library.ext ?_ (Library.lastError_settle (some b) _)) rfl
  cases message with
  | none => rfl
  | some msg => rfl

theorem Library.settle_some_result (b : Nat) (svm' : QuasarSvm) (code : Int32)
    (message : Option String) (bytes : Bytes) :
    lib.settle t (some b)
        { svm := some svm', code := code, lastError := message, result := some bytes } =
      ({ memory := (lib.memory.modify b fun _ => .vm svm').alloc (.result bytes)
         lastError := Function.update lib.lastError t (message.bind cString) }, code,
        some (lib.memory.next, bytes)) := by
  refine Prod.ext (Library.ext ?_ (Library.lastError_settle (some b) _)) ?_
  · cases message with
    | none => rfl
    | some msg => rfl
  · cases message with
    | none => rfl
    | some msg => rfl

/-- Rejecting a call leaves the memory alone. -/
theorem Library.callVm_rejected {svm : Pointer} {call : VmCall}
    (h : call.hasNull = true ∨ svm = none) :
    lib.callVm cr rt tryFrom t svm call =
      some ({ memory := lib.memory
              lastError := Function.update lib.lastError t (cString "Null pointer argument") },
        quasarErrNullPointer, none) := by
  have hnone : (if call.hasNull then none else svm) = none := by
    rcases h with h | rfl
    · rw [if_pos h]
    · simp
  simp only [callVm, hnone, VmCall.run_none, settle_none]
  rfl

theorem Library.callVm_live {b : Nat} {svm : QuasarSvm} {call : VmCall}
    (hnull : call.hasNull = false) (h : lib.memory.contents b = some (.vm svm)) :
    lib.callVm cr rt tryFrom t (some b) call =
      some (lib.settle t (some b) (call.run cr rt tryFrom (some svm))) := by
  simp only [callVm, hnull, h, Bool.false_eq_true, if_false]

/-- Every defined step is one of these. -/
theorem Library.does_of_step {call : Call}
    (h : lib.step cr rt tryFrom bundle (t, call) = some (lib', ret)) :
    Library.Does cr rt tryFrom bundle lib t call lib' ret := by
  cases call with
  | lastError =>
      cases h
      exact .told
  | svmNew =>
      cases hnew : QuasarSvm.new cr bundle with
      | none =>
          simp only [step, quasarSvmNew, hnew] at h
          cases h
          have hdoes : Does cr rt tryFrom bundle lib t .svmNew _ _ := .notCreated hnew
          simpa [setLastError, clearLastError] using hdoes
      | some svm =>
          simp only [step, quasarSvmNew, hnew] at h
          cases h
          exact .created svm hnew
  | svmFree svm =>
      cases svm with
      | none =>
          cases h
          exact .freedNothing
      | some b =>
          rcases Option.map_eq_some_iff.1 h with ⟨lib₁, hfree, hpair⟩
          cases hpair
          simp only [quasarSvmFree] at hfree
          split at hfree
          · rename_i svm hb
            cases hfree
            exact .freedVm b svm hb
          · cases hfree
  | onVm svm call =>
      rcases Option.map_eq_some_iff.1 h with ⟨out, hcall, hpair⟩
      cases hpair
      by_cases hnull : call.hasNull = true ∨ svm = none
      · rw [callVm_rejected hnull] at hcall
        cases hcall
        exact .rejected svm call hnull
      · rcases not_or.1 hnull with ⟨hargs, hsvm⟩
        rcases Option.ne_none_iff_exists'.1 hsvm with ⟨b, rfl⟩
        have hpresent : call.hasNull = false := by simpa using hargs
        -- The pointer is followed, so it points to a VM.
        cases hb : lib.memory.contents b with
        | none => simp [callVm, hpresent, hb] at hcall
        | some object =>
            cases object with
            | result bytes => simp [callVm, hpresent, hb] at hcall
            | vm vm =>
                rcases call.run_ends cr rt tryFrom vm hpresent with
                  ⟨svm', code, message, result, hrun, hends⟩
                rw [callVm_live hpresent hb, hrun] at hcall
                cases result with
                | none =>
                    rw [settle_some] at hcall
                    cases hcall
                    exact .called b vm svm' call code message hpresent hb hrun hends
                | some bytes =>
                    rw [settle_some_result] at hcall
                    cases hcall
                    exact .answered b vm svm' call code message bytes hpresent hb hrun hends
  | resultFree result resultLen =>
      cases result with
      | none =>
          cases h
          exact .freedNoResult resultLen
      | some b =>
          rcases Option.map_eq_some_iff.1 h with ⟨lib₁, hfree, hpair⟩
          cases hpair
          simp only [quasarResultFree] at hfree
          split at hfree
          · rename_i bytes hb
            by_cases hlen : bytes.length = resultLen
            · subst hlen
              rw [if_pos rfl] at hfree
              cases hfree
              exact .freedResult b bytes hb
            · rw [if_neg hlen] at hfree
              cases hfree
          · cases hfree

/-- Which steps are defined: those that follow no pointer but to a live object of its kind. -/
theorem Library.isSome_step_iff {call : Call} :
    (lib.step cr rt tryFrom bundle (t, call)).isSome ↔
      match call with
      | .lastError => True
      | .svmNew => True
      | .svmFree svm => ∀ b ∈ svm, ∃ vm, lib.memory.contents b = some (.vm vm)
      | .onVm svm call => call.hasNull = false →
          ∀ b ∈ svm, ∃ vm, lib.memory.contents b = some (.vm vm)
      | .resultFree result resultLen => ∀ b ∈ result, ∃ bytes,
          lib.memory.contents b = some (.result bytes) ∧ bytes.length = resultLen := by
  cases call with
  | lastError => simp [step]
  | svmNew => simp [step]
  | svmFree svm =>
      cases svm with
      | none => simp [step, quasarSvmFree]
      | some b =>
          cases hb : lib.memory.contents b with
          | none => simp [step, quasarSvmFree, hb]
          | some object =>
              cases object with
              | vm vm => simp [step, quasarSvmFree, hb]
              | result bytes => simp [step, quasarSvmFree, hb]
  | onVm svm call =>
      by_cases hnull : call.hasNull = true ∨ svm = none
      · simp only [step, callVm_rejected hnull, Option.map_some, Option.isSome_some, true_iff]
        rintro hpresent b hb
        rcases hnull with hargs | rfl
        · cases hargs.symm.trans hpresent
        · cases hb
      · rcases not_or.1 hnull with ⟨hargs, hsvm⟩
        rcases Option.ne_none_iff_exists'.1 hsvm with ⟨b, rfl⟩
        have hpresent : call.hasNull = false := by simpa using hargs
        cases hb : lib.memory.contents b with
        | none => simp [step, callVm, hpresent, hb]
        | some object =>
            cases object with
            | vm vm => simp [step, callVm, hpresent, hb]
            | result bytes => simp [step, callVm, hpresent, hb]
  | resultFree result resultLen =>
      cases result with
      | none => simp [step, quasarResultFree]
      | some b =>
          cases hb : lib.memory.contents b with
          | none => simp [step, quasarResultFree, hb]
          | some object =>
              cases object with
              | vm vm => simp [step, quasarResultFree, hb]
              | result bytes =>
                  by_cases hlen : bytes.length = resultLen
                  · simp [step, quasarResultFree, hb, hlen]
                  · simp [step, quasarResultFree, hb, hlen]

end Steps

end Ffi
end Quasar
