import Quasar.Ffi.Interface

/-!
# Contract — what the callers of the C interface can rely on

Calls of any threads on any VMs may interleave in any order.  The last error of a thread belongs to
its own last call that can fail; what happens to a VM depends on the calls on it alone, and is what
the engine makes of them; and the calls that are undefined behaviour are those that follow a pointer
that was not handed out, or that was freed.
-/

namespace Quasar
namespace Ffi

open Lib
open Svm (Bytes Bundle Crates Runtime QuasarSvm Pubkey Operation Reply Drawn SetOrder)
open Svm.QuasarSvm (sampleBundle)

/-! ## The errors of the decoders -/

section Errors

open Reader

/-- The one error of the readers. -/
def EndOfInput (e : String) : Prop := e = "unexpected end of input"

theorem readBytes_raises (n : Nat) : Raises (readBytes n) EndOfInput :=
  have hend : EndOfInput "unexpected end of input" := rfl
  Raises.takeExact hend n

theorem readU8_raises : Raises readU8 EndOfInput :=
  (readBytes_raises 1).bind fun _ => Raises.pure _

theorem readBool_raises : Raises readBool EndOfInput :=
  readU8_raises.bind fun _ => Raises.pure _

theorem readU32_raises : Raises readU32 EndOfInput :=
  (readBytes_raises 4).bind fun _ => Raises.pure _

theorem readU64_raises : Raises readU64 EndOfInput :=
  (readBytes_raises 8).bind fun _ => Raises.pure _

theorem readPubkey_raises : Raises readPubkey EndOfInput :=
  (readBytes_raises 32).bind fun _ => Raises.pure _

theorem readAccountMeta_raises : Raises readAccountMeta EndOfInput :=
  readPubkey_raises.bind fun _ => readBool_raises.bind fun _ => readBool_raises.bind fun _ =>
    Raises.pure _

theorem readOneInstruction_raises : Raises readOneInstruction EndOfInput :=
  readPubkey_raises.bind fun _ => readU32_raises.bind fun _ => (readBytes_raises _).bind fun _ =>
    readU32_raises.bind fun _ => (readAccountMeta_raises.many _).bind fun _ => Raises.pure _

theorem readOneAccount_raises : Raises readOneAccount EndOfInput :=
  readPubkey_raises.bind fun _ => readPubkey_raises.bind fun _ => readU64_raises.bind fun _ =>
    readU32_raises.bind fun _ => (readBytes_raises _).bind fun _ => readBool_raises.bind fun _ =>
      Raises.pure _

/-- A whole buffer is rejected because it ends too early or too late. -/
theorem readAll_error {α : Type} {one : Reader α} (hone : Raises one EndOfInput)
    {trailing : String} {data : Bytes} {e : String}
    (h : readAll (readList one) trailing data = .error e) :
    e = "unexpected end of input" ∨ e = trailing := by
  have hlist : Raises (readList one) EndOfInput :=
    readU32_raises.bind fun _ => hone.many _
  unfold readAll at h
  split at h
  · rename_i e' hrun
    cases h
    exact Or.inl (hlist data 0 _ hrun)
  · split at h
    · cases h
      exact Or.inr rfl
    · cases h

end Errors

/-! ## Last errors -/

/-- The messages that a return code stands for. -/
def messages (code : Int32) : List String :=
  if code = quasarErrNullPointer then
    ["Null pointer argument"]
  else if code = quasarErrProgramLoad then
    ["Panic while loading program"]
  else if code = quasarErrExecution then
    ["Invalid instructions data: unexpected end of input",
      "Invalid instructions data: trailing data after instructions",
      "Invalid accounts data: unexpected end of input",
      "Invalid accounts data: trailing data after accounts"]
  else if code = quasarErrInternal then
    ["Panic during transaction execution"]
  else
    []

/-- The calls that clear the last error and may set it. -/
def Call.reports : Call → Bool
  | .svmNew => true
  | .onVm _ _ => true
  | _ => false

/-- What the last error is after a call that returned this. -/
def Return.Explains : Return → Option String → Prop
  | .pointer (some _), message => message = none
  | .pointer none, message => message = some "Panic during SVM creation"
  | .status code _, message =>
      (code = quasarOk ∧ message = none) ∨ ∃ m ∈ messages code, message = some m
  | _, _ => True

/-- The returns that a caller has to take for a failure. -/
def Return.Failed : Return → Prop
  | .pointer svm => svm = none
  | .status code _ => code ≠ quasarOk
  | _ => False

theorem messages_quasarOk : messages quasarOk = [] := by decide

/-- No message has a NUL in it, so each is kept as it is. -/
theorem cString_of_mem_messages {code : Int32} {m : String} (h : m ∈ messages code) :
    cString m = some m := by
  have hall : ∀ m ∈ ["Null pointer argument", "Panic while loading program",
      "Invalid instructions data: unexpected end of input",
      "Invalid instructions data: trailing data after instructions",
      "Invalid accounts data: unexpected end of input",
      "Invalid accounts data: trailing data after accounts",
      "Panic during transaction execution"], cString m = some m := by decide
  refine hall m ?_
  unfold messages at h
  split at h
  · simp_all
  · split at h
    · simp_all
    · split at h
      · simp only [List.mem_cons, List.not_mem_nil, or_false] at h ⊢
        tauto
      · split at h
        · simp_all
        · cases h

/-- A call on a VM leaves the message that belongs to its code. -/
theorem VmCall.Ends.explained {cr : Crates} {rt : Runtime} {tryFrom : Conversion}
    {svm svm' : QuasarSvm} {call : VmCall} {code : Int32} {message : Option String}
    {result : Option Bytes} (h : call.Ends cr rt tryFrom svm svm' code message result) :
    (code = quasarOk ∧ message = none) ∨ ∃ m ∈ messages code, message = some m := by
  cases h with
  | added programId elf loaderVersion h => exact Or.inl ⟨rfl, rfl⟩
  | notLoaded programId elf loaderVersion m h => exact Or.inr ⟨_, by decide, rfl⟩
  | configured call => exact Or.inl ⟨rfl, rfl⟩
  | badInstructions ixBytes acctBytes order e h =>
      rcases readAll_error readOneInstruction_raises h with rfl | rfl
      · exact Or.inr ⟨_, by decide, rfl⟩
      · exact Or.inr ⟨_, by decide, rfl⟩
  | badAccounts ixBytes acctBytes order ixs e hixs h =>
      rcases readAll_error readOneAccount_raises h with rfl | rfl
      · exact Or.inr ⟨_, by decide, rfl⟩
      · exact Or.inr ⟨_, by decide, rfl⟩
  | executed ixBytes acctBytes order ixs accts r hixs haccts h => exact Or.inl ⟨rfl, rfl⟩
  | panicked ixBytes acctBytes order ixs accts m hixs haccts h => exact Or.inr ⟨_, by decide, rfl⟩

section Errors

variable {τ : Type} [DecidableEq τ] {cr : Crates} {rt : Runtime} {tryFrom : Conversion}
  {bundle : Bundle} {lib lib' : Library τ} {t t' : τ} {call : Call} {ret : Return}

/-- A reporting call leaves the message that belongs to what it returned. -/
theorem Library.Does.explains (h : Library.Does cr rt tryFrom bundle lib t call lib' ret)
    (hreports : call.reports = true) : ret.Explains (lib'.lastError t) := by
  have hstatus : ∀ (code : Int32) (result : Option (Nat × Bytes)) (message : Option String),
      (code = quasarOk ∧ message = none) ∨ (∃ m ∈ messages code, message = some m) →
      (Return.status code result).Explains (message.bind cString) := by
    rintro code result message (⟨rfl, rfl⟩ | ⟨m, hm, rfl⟩)
    · exact Or.inl ⟨rfl, rfl⟩
    · exact Or.inr ⟨m, hm, cString_of_mem_messages hm⟩
  cases h with
  | created svm hnew => simp [Return.Explains]
  | notCreated hnew =>
      have hkept : cString "Panic during SVM creation" = some "Panic during SVM creation" := by
        decide
      simp [Return.Explains, hkept]
  | rejected svm call hnull =>
      have hrejected := hstatus quasarErrNullPointer none (some "Null pointer argument")
        (Or.inr ⟨_, by decide, rfl⟩)
      simpa using hrejected
  | called b svm svm' call code message hnull hb hrun hends =>
      simpa using hstatus code none message hends.explained
  | answered b svm svm' call code message bytes hnull hb hrun hends =>
      simpa using hstatus code _ message hends.explained
  | _ => cases hreports

/-- A reporting call writes the last error of its own thread only, any other call none. -/
theorem Library.Does.lastError_eq (h : Library.Does cr rt tryFrom bundle lib t call lib' ret)
    (hother : t' ≠ t ∨ call.reports = false) : lib'.lastError t' = lib.lastError t' := by
  cases h with
  | created svm hnew => simp_all [Call.reports]
  | notCreated hnew => simp_all [Call.reports]
  | rejected svm call hnull => simp_all [Call.reports]
  | called b svm svm' call code message hnull hb hrun hends => simp_all [Call.reports]
  | answered b svm svm' call code message bytes hnull hb hrun hends => simp_all [Call.reports]
  | _ => rfl

theorem Return.Explains.isSome_iff {message : Option String} (h : ret.Explains message)
    (hdoes : Library.Does cr rt tryFrom bundle lib t call lib' ret) (hreports : call.reports = true) :
    message.isSome ↔ ret.Failed := by
  have hstatus : ∀ code result, (Return.status code result).Explains message →
      (message.isSome ↔ (Return.status code result).Failed) := by
    rintro code result (⟨rfl, rfl⟩ | ⟨m, hm, rfl⟩)
    · simp [Failed]
    · simp only [Option.isSome_some, Failed, true_iff]
      rintro rfl
      rw [messages_quasarOk] at hm
      cases hm
  cases hdoes with
  | created svm hnew =>
      cases h
      simp [Failed]
  | notCreated hnew =>
      cases h
      simp [Failed]
  | rejected svm call hnull => exact hstatus _ _ h
  | called b svm svm' call code m hnull hb hends => exact hstatus _ _ h
  | answered b svm svm' call code m bytes hnull hb hends => exact hstatus _ _ h
  | _ => cases hreports

/-! ## Last errors over a run -/

/-- What a reporting call of the thread returned. -/
def reportOf (t : τ) (e : (τ × Call) × Return) : Option Return :=
  if e.1.1 = t ∧ e.1.2.reports = true then some e.2 else none

/-- What the last error is, given what the thread's last reporting call returned. -/
def LastReport : Option Return → Option String → Prop
  | none, message => message = none
  | some ret, message => ret.Explains message ∧ (message.isSome ↔ ret.Failed)

/-- Every thread's last error is that of its own last reporting call. -/
theorem lastReport_of_run {calls : List (τ × Call)} {tr : List ((τ × Call) × Return)}
    (h : (interface cr rt tryFrom bundle).run Library.init calls = some (lib', tr)) (t : τ) :
    LastReport (Process.lastWrite (reportOf t) tr) (lib'.lastError t) := by
  have hinit : LastReport (Process.lastWrite (reportOf t) [])
      ((Library.init : Library τ).lastError t) := rfl
  refine Process.run_history
    (P := fun lib tr => LastReport (Process.lastWrite (reportOf t) tr) (lib.lastError t))
    ?_ hinit h
  rintro lib tr ⟨t', call⟩ lib' ret hlib hstep
  rw [interface_step] at hstep
  have hdoes := Library.does_of_step hstep
  rw [Process.lastWrite_concat]
  by_cases hown : t' = t ∧ call.reports = true
  · rcases hown with ⟨rfl, hreports⟩
    have hexplains := hdoes.explains hreports
    have hwrites : reportOf t' ((t', call), ret) = some ret := if_pos ⟨rfl, hreports⟩
    rw [hwrites]
    exact ⟨hexplains, hexplains.isSome_iff hdoes hreports⟩
  · have hwrites : reportOf t ((t', call), ret) = none := if_neg hown
    have hother : t ≠ t' ∨ call.reports = false := by
      by_cases ht : t = t'
      · subst ht
        exact Or.inr (by simpa using hown)
      · exact Or.inl ht
    rw [hwrites, hdoes.lastError_eq hother]
    exact hlib

/-- Whatever the other threads call in between, a thread that asks for its last error is told what
its own last reporting call left: nothing after a success, after a failure the message that belongs to
the code. -/
theorem lastError_of_run {calls : List (τ × Call)} {tr post : List ((τ × Call) × Return)}
    {t : τ} {message : Option String}
    (h : (interface cr rt tryFrom bundle).run Library.init calls =
      some (lib', tr ++ ((t, .lastError), .text message) :: post)) :
    LastReport (Process.lastWrite (reportOf t) tr) message := by
  rcases Process.step_of_run h with ⟨lib₁, lib₂, hrun, hstep⟩
  have hreport := lastReport_of_run hrun t
  rw [interface_step] at hstep
  cases Library.does_of_step hstep with
  | told => exact hreport

/-- A thread that failed is told so after another thread's success. -/
theorem lastError_of_run_sample :
    LastReport
      (Process.lastWrite (reportOf 1)
        [((1, Call.svmNew), Return.pointer (some 0)),
          ((1, .onVm (some 0) (.addProgram none none 2)), .status quasarErrNullPointer none),
          ((2, .onVm (some 0) (.configure (.setter (.warpToSlot 7)))), .status quasarOk none)])
      (some "Null pointer argument") := by
  have hrun : ((interface Svm.Reference.crates Svm.Reference.idleRuntime ProgramError.tryFrom
      sampleBundle).run Library.init
        [(1, .svmNew), (1, .onVm (some 0) (.addProgram none none 2)),
          (2, .onVm (some 0) (.configure (.setter (.warpToSlot 7)))), (1, .lastError)]) =
      some (_, [((1, Call.svmNew), Return.pointer (some 0)),
          ((1, .onVm (some 0) (.addProgram none none 2)), .status quasarErrNullPointer none),
          ((2, .onVm (some 0) (.configure (.setter (.warpToSlot 7)))), .status quasarOk none)] ++
        ((1, .lastError), .text (some "Null pointer argument")) :: []) := rfl
  exact lastError_of_run hrun

end Errors

/-! ## What happens to a VM -/

/-- The operation that a call performs on the VM, with the order that it draws; a call that is
rejected performs none.  An operation that builds no hash set goes with any order. -/
def VmCall.operation (cr : Crates) (svm : QuasarSvm) : VmCall → Option Drawn
  | .addProgram (some programId) (some elf) loaderVersion =>
      some (.addProgram programId (loaderKey cr loaderVersion) elf, .dedup)
  | .configure call => some (call.operation cr svm, .dedup)
  | .processTransaction (some ixBytes) (some acctBytes) true order =>
      match deserializeInstructions ixBytes, deserializeAccounts acctBytes with
      | .ok ixs, .ok accts => some (.execute ixs (svmAccounts accts) true, order)
      | _, _ => none
  | _ => none

/-- A VM as a machine of its own: what a call on it makes of it, and the code and the bytes that it
returns. -/
def engine (cr : Crates) (rt : Runtime) (tryFrom : Conversion) :
    Machine QuasarSvm VmCall (Int32 × Option Bytes) :=
  { step := fun svm call =>
      let outcome := call.run cr rt tryFrom (some svm)
      (outcome.svm.getD svm, outcome.code, outcome.result) }

/-- The operations that calls on a VM perform, one after another. -/
def operations (cr : Crates) (rt : Runtime) (tryFrom : Conversion) (svm : QuasarSvm)
    (calls : List VmCall) : List Drawn :=
  ((engine cr rt tryFrom).steps svm calls).filterMap fun p => p.2.operation cr p.1

/-- The calls on one VM, with what each of them returned. -/
def onVm {τ : Type} (b : Nat) : (τ × Call) × Return → Option (VmCall × Int32 × Option Bytes)
  | ((_, .onVm (some b') call), .status code result) =>
      if b' = b then some (call, code, result.map Prod.snd) else none
  | _ => none

section Isolation

variable {cr : Crates} {rt : Runtime} {tryFrom : Conversion}

theorem engine_step_of_run {svm svm' : QuasarSvm} {call : VmCall} {code : Int32}
    {message : Option String} {result : Option Bytes}
    (h : call.run cr rt tryFrom (some svm) =
      { svm := some svm', code := code, lastError := message, result := result }) :
    (engine cr rt tryFrom).step svm call = (svm', code, result) := by
  simp only [engine, h, Option.getD_some]

/-- A configuration call builds no hash set. -/
theorem operate_configuration {svm : QuasarSvm} (call : ConfigurationCall) (order : SetOrder) :
    svm.operate (cr.withOrder order.iter) rt (call.operation cr svm) =
      svm.operate cr rt (call.operation cr svm) := by
  cases call with
  | setter call =>
      cases call with
      | _ => rfl
  | _ => rfl

/-- A call performs its operation, and nothing else. -/
theorem VmCall.Ends.operation_eq {svm svm' : QuasarSvm} {call : VmCall} {code : Int32}
    {message : Option String} {result : Option Bytes}
    (h : call.Ends cr rt tryFrom svm svm' code message result) :
    svm' = svm.afterDrawn cr rt (call.operation cr svm).toList := by
  cases h with
  | added programId elf loaderVersion h => rfl
  | notLoaded programId elf loaderVersion m h => rfl
  | configured call => exact congrArg Prod.fst (operate_configuration call SetOrder.dedup).symm
  | badInstructions ixBytes acctBytes order e h =>
      simp [VmCall.operation, h, QuasarSvm.afterDrawn]
  | badAccounts ixBytes acctBytes order ixs e hixs h =>
      simp [VmCall.operation, hixs, h, QuasarSvm.afterDrawn]
  | executed ixBytes acctBytes order ixs accts r hixs haccts h =>
      simp only [VmCall.operation, hixs, haccts]
      rfl
  | panicked ixBytes acctBytes order ixs accts m hixs haccts h =>
      simp only [VmCall.operation, hixs, haccts]
      rfl

theorem engine_step_fst (svm : QuasarSvm) (call : VmCall) :
    ((engine cr rt tryFrom).step svm call).1 =
      svm.afterDrawn cr rt (call.operation cr svm).toList := by
  by_cases hnull : call.hasNull = true
  · have hnone : call.operation cr svm = none := by
      cases call with
      | configure call => cases hnull
      | addProgram programId elfData loaderVersion =>
          cases programId with
          | none => rfl
          | some programId =>
              cases elfData with
              | none => rfl
              | some elf => cases hnull
      | processTransaction instructions accounts outputs order =>
          cases instructions with
          | none => rfl
          | some ixBytes =>
              cases accounts with
              | none => rfl
              | some acctBytes =>
                  cases outputs with
                  | false => rfl
                  | true => cases hnull
    rw [engine_step_of_run (VmCall.run_of_hasNull hnull), hnone]
    rfl
  · have hpresent : call.hasNull = false := by simpa using hnull
    rcases call.run_ends cr rt tryFrom svm hpresent with ⟨svm', code, message, result, hrun, hends⟩
    rw [engine_step_of_run hrun, hends.operation_eq]

/-- After calls a VM is what the engine makes of their operations. -/
theorem engine_after (svm : QuasarSvm) (calls : List VmCall) :
    (engine cr rt tryFrom).after svm calls =
      svm.afterDrawn cr rt (operations cr rt tryFrom svm calls) := by
  induction calls generalizing svm with
  | nil => rfl
  | cons call calls ih =>
      have hhead : operations cr rt tryFrom svm (call :: calls) =
          (call.operation cr svm).toList ++
            operations cr rt tryFrom ((engine cr rt tryFrom).step svm call).1 calls := by
        simp only [operations, Machine.steps, List.filterMap_cons]
        cases call.operation cr svm with
        | none => rfl
        | some op => rfl
      rw [Machine.after_cons, ih, hhead, QuasarSvm.afterDrawn, QuasarSvm.afterDrawn,
        Machine.after_append, engine_step_fst]
      rfl

variable {τ : Type} [DecidableEq τ] {bundle : Bundle} {lib lib' : Library τ}

/-- Of the calls that do not free a VM, those on it change it as the engine does. -/
theorem Library.Does.onVm {t : τ} {call : Call} {ret : Return} {b : Nat} {svm : QuasarSvm}
    (h : Library.Does cr rt tryFrom bundle lib t call lib' ret)
    (hb : lib.memory.contents b = some (.vm svm)) (hkept : call ≠ .svmFree (some b)) :
    match onVm b ((t, call), ret) with
    | none => lib'.memory.contents b = some (.vm svm)
    | some (call, reply) =>
        lib'.memory.contents b = some (.vm ((engine cr rt tryFrom).step svm call).1) ∧
          reply = ((engine cr rt tryFrom).step svm call).2 := by
  cases h with
  | told => exact hb
  | created svm' hnew => exact Blocks.contents_alloc_of_live hb _
  | notCreated hnew => exact hb
  | freedNothing => exact hb
  | freedVm b' svm' hb' =>
      have hne : b ≠ b' := by
        rintro rfl
        exact hkept rfl
      exact (lib.memory.contents_free_of_ne hne).trans hb
  | rejected svm' call hnull =>
      cases svm' with
      | none => exact hb
      | some b' =>
          by_cases hbb : b' = b
          · subst hbb
            have hnull' : call.hasNull = true := by simpa using hnull
            simp only [Ffi.onVm, if_pos, Option.map_none,
              engine_step_of_run (VmCall.run_of_hasNull hnull'), hb, and_self]
          · simp only [Ffi.onVm, if_neg hbb]
            exact hb
  | called b' svm' svm'' call code message hnull hb' hrun hends =>
      by_cases hbb : b' = b
      · subst hbb
        cases hb.symm.trans hb'
        simp only [Ffi.onVm, if_pos, Option.map_none, engine_step_of_run hrun, and_true,
          Blocks.contents_modify_self, hb, Option.map_some]
      · simp only [Ffi.onVm, if_neg hbb]
        exact (lib.memory.contents_modify_of_ne (Ne.symm hbb) _).trans hb
  | answered b' svm' svm'' call code message bytes hnull hb' hrun hends =>
      by_cases hbb : b' = b
      · subst hbb
        cases hb.symm.trans hb'
        simp only [Ffi.onVm, if_pos, Option.map_some, engine_step_of_run hrun, and_true]
        refine Blocks.contents_alloc_of_live ?_ _
        rw [Blocks.contents_modify_self, hb, Option.map_some]
      · simp only [Ffi.onVm, if_neg hbb]
        refine Blocks.contents_alloc_of_live ?_ _
        exact (lib.memory.contents_modify_of_ne (Ne.symm hbb) _).trans hb
  | freedNoResult resultLen => exact hb
  | freedResult b' bytes hb' =>
      have hne : b ≠ b' := by
        rintro rfl
        cases hb.symm.trans hb'
      exact (lib.memory.contents_free_of_ne hne).trans hb

/-- Until it is freed a VM goes through the calls on it as if it were alone, whatever is called on
other VMs in between, and by whichever threads: it becomes what the engine makes of the operations of
its own calls in the orders that these drew, and each of them returns what the engine replies. -/
theorem vm_of_run {calls : List (τ × Call)} {tr : List ((τ × Call) × Return)} {b : Nat}
    {svm : QuasarSvm} (hb : lib.memory.contents b = some (.vm svm))
    (hkept : ∀ t, (t, .svmFree (some b)) ∉ calls)
    (h : (interface cr rt tryFrom bundle).run lib calls = some (lib', tr)) :
    lib'.memory.contents b = some (.vm (svm.afterDrawn cr rt
        (operations cr rt tryFrom svm ((tr.filterMap (onVm b)).map Prod.fst)))) ∧
      (tr.filterMap (onVm b)).map Prod.snd =
        (engine cr rt tryFrom).replies svm ((tr.filterMap (onVm b)).map Prod.fst) := by
  have hproject := Process.run_project (onVm b)
    (R := fun lib svm => lib.memory.contents b = some (.vm svm))
    (E := fun input => input.2 ≠ .svmFree (some b)) (m := engine cr rt tryFrom)
    ?_ ?_ hb ?_ h
  · rcases hproject with ⟨hafter, hreplies⟩
    rw [engine_after] at hafter
    exact ⟨hafter, hreplies⟩
  · rintro lib₁ svm₁ ⟨t, call⟩ lib₂ ret k r hrel hE hstep hsel
    rw [interface_step] at hstep
    have hown := (Library.does_of_step hstep).onVm hrel hE
    rw [hsel] at hown
    exact hown
  · rintro lib₁ svm₁ ⟨t, call⟩ lib₂ ret hrel hE hstep hsel
    rw [interface_step] at hstep
    have hother := (Library.does_of_step hstep).onVm hrel hE
    rw [hsel] at hother
    exact hother
  · rintro ⟨t, call⟩ hmem rfl
    exact hkept t hmem

/-- Two instructions without data or accounts, of two programs. -/
def sampleInstructionBytes : Bytes :=
  [2, 0, 0, 0] ++ List.replicate 32 8 ++ List.replicate 8 0 ++ List.replicate 32 9 ++
    List.replicate 8 0

/-- The calls of two threads, each of which executes on its own VM in an order of its own. -/
def twoThreadCalls : List (Nat × Call) :=
  [(2, .svmNew), (1, .onVm (some 0) (.configure (.setter (.warpToSlot 7)))),
    (2, .onVm (some 1)
      (.processTransaction (some sampleInstructionBytes) (some [0, 0, 0, 0]) true .reverse)),
    (1, .onVm (some 0)
      (.processTransaction (some sampleInstructionBytes) (some [0, 0, 0, 0]) true .dedup)),
    (2, .svmFree (some 1))]

/-- The VM of thread `1` goes through the calls of thread `1` alone. -/
theorem vm_of_run_sample :
    ∃ svm lib', QuasarSvm.new Svm.Reference.crates sampleBundle = some svm ∧
      (lib' : Library Nat).memory.contents 0 = some (.vm
        (svm.afterDrawn Svm.Reference.crates Svm.Reference.idleRuntime
          (operations Svm.Reference.crates Svm.Reference.idleRuntime ProgramError.tryFrom svm
            [.configure (.setter (.warpToSlot 7)),
              .processTransaction (some sampleInstructionBytes) (some [0, 0, 0, 0]) true
                .dedup]))) := by
  have hnew : QuasarSvm.new Svm.Reference.crates sampleBundle = some _ := rfl
  have hrun : ((interface Svm.Reference.crates Svm.Reference.idleRuntime ProgramError.tryFrom
      sampleBundle).run
        ((Library.init : Library Nat).quasarSvmNew Svm.Reference.crates sampleBundle 1).1
        twoThreadCalls) = some _ := rfl
  have hkept : ∀ t, (t, Call.svmFree (some 0)) ∉ twoThreadCalls := by
    intro t
    simp [twoThreadCalls]
  exact ⟨_, _, hnew, (vm_of_run rfl hkept hrun).1⟩

end Isolation

/-! ## Which calls are defined -/

/-- What a pointer was handed out for: a VM, or a result buffer with these bytes. -/
inductive Kind
  | vm
  | result (bytes : Bytes)

def Object.kind : Object → Kind
  | .vm _ => .vm
  | .result bytes => .result bytes

/-- The pointer that an event hands out. -/
def handsOut {τ : Type} : (τ × Call) × Return → Option (Nat × Kind)
  | ((_, .svmNew), .pointer (some b)) => some (b, .vm)
  | ((_, .onVm _ _), .status _ (some (b, bytes))) => some (b, .result bytes)
  | _ => none

/-- The pointer that an event frees. -/
def frees {τ : Type} : (τ × Call) × Return → Option Nat
  | ((_, .svmFree (some b)), _) => some b
  | ((_, .resultFree (some b) _), _) => some b
  | _ => none

/-- After these events a caller has the pointer, for an object of this kind. -/
def Has {τ : Type} (tr : List ((τ × Call) × Return)) (b : Nat) (k : Kind) : Prop :=
  (b, k) ∈ tr.filterMap handsOut ∧ b ∉ tr.filterMap frees

/-- What a caller must observe after these events: a pointer that a call follows is one that it has,
of the right kind, and a buffer is freed under its own length. -/
def Observes {τ : Type} (tr : List ((τ × Call) × Return)) : Call → Prop
  | .lastError => True
  | .svmNew => True
  | .svmFree svm => ∀ b ∈ svm, Has tr b .vm
  | .onVm svm call => call.hasNull = false → ∀ b ∈ svm, Has tr b .vm
  | .resultFree result resultLen => ∀ b ∈ result, ∃ bytes,
      Has tr b (.result bytes) ∧ bytes.length = resultLen

section Pointers

variable {τ : Type} {lib lib' : Library τ} {tr : List ((τ × Call) × Return)}

def Library.kindAt (lib : Library τ) (b : Nat) : Option Kind :=
  (lib.memory.contents b).map Object.kind

theorem kindAt_eq_vm {b : Nat} :
    lib.kindAt b = some .vm ↔ ∃ vm, lib.memory.contents b = some (.vm vm) := by
  unfold Library.kindAt
  cases lib.memory.contents b with
  | none => simp
  | some object =>
      cases object with
      | vm svm => simp [Object.kind]
      | result bytes => simp [Object.kind]

theorem kindAt_eq_result {b : Nat} {bytes : Bytes} :
    lib.kindAt b = some (.result bytes) ↔ lib.memory.contents b = some (.result bytes) := by
  unfold Library.kindAt
  cases lib.memory.contents b with
  | none => simp
  | some object =>
      cases object with
      | vm svm => simp [Object.kind]
      | result bytes => simp [Object.kind]

/-- The callers have exactly the pointers to live objects, and none that is yet to be handed out. -/
structure Agrees (lib : Library τ) (tr : List ((τ × Call) × Return)) : Prop where
  has : ∀ b k, lib.kindAt b = some k ↔ Has tr b k
  old : ∀ b ∈ tr.filterMap frees, b < lib.memory.next

theorem Agrees.init : Agrees (Library.init : Library τ) [] :=
  { has := by
      intro b k
      simp [Library.kindAt, Library.init, Has]
    old := by simp }

/-- An event that hands nothing out and frees nothing. -/
theorem Agrees.idle {e : (τ × Call) × Return} (h : Agrees lib tr)
    (hgives : handsOut e = none) (hfrees : frees e = none)
    (hkind : ∀ b, lib'.kindAt b = lib.kindAt b) (hnext : lib.memory.next ≤ lib'.memory.next) :
    Agrees lib' (tr ++ [e]) :=
  { has := by
      intro b k
      simp only [hkind, h.has, Has, List.filterMap_append, List.filterMap_cons_none hgives,
        List.filterMap_cons_none hfrees, List.filterMap_nil, List.append_nil]
    old := by
      intro b hb
      simp only [List.filterMap_append, List.filterMap_cons_none hfrees, List.filterMap_nil,
        List.append_nil] at hb
      exact Nat.lt_of_lt_of_le (h.old b hb) hnext }

/-- An event that hands out the next pointer. -/
theorem Agrees.given {e : (τ × Call) × Return} {k : Kind} (h : Agrees lib tr)
    (hgives : handsOut e = some (lib.memory.next, k)) (hfrees : frees e = none)
    (hkind : lib'.kindAt lib.memory.next = some k)
    (hothers : ∀ b, b ≠ lib.memory.next → lib'.kindAt b = lib.kindAt b)
    (hnext : lib.memory.next ≤ lib'.memory.next) : Agrees lib' (tr ++ [e]) :=
  { has := by
      intro b k'
      have hmem : (b, k') ∈ (tr ++ [e]).filterMap handsOut ↔
          (b, k') ∈ tr.filterMap handsOut ∨ (b, k') = (lib.memory.next, k) := by
        simp [hgives]
      have hkept : (tr ++ [e]).filterMap frees = tr.filterMap frees := by simp [hfrees]
      unfold Has
      rw [hmem, hkept]
      by_cases hb : b = lib.memory.next
      · subst hb
        -- Nobody had the next pointer, and nobody freed it.
        have hnone : ∀ k', (lib.memory.next, k') ∉ tr.filterMap handsOut := by
          intro k' hk'
          by_cases hfreed : lib.memory.next ∈ tr.filterMap frees
          · exact Nat.lt_irrefl _ (h.old _ hfreed)
          · have hlive := (h.has _ k').2 ⟨hk', hfreed⟩
            simp [Library.kindAt] at hlive
        have hunfreed : lib.memory.next ∉ tr.filterMap frees := fun hfreed =>
          Nat.lt_irrefl _ (h.old _ hfreed)
        simp only [hkind, Option.some.injEq, hnone k', Prod.mk.injEq, true_and, false_or,
          hunfreed, not_false_eq_true, and_true]
        exact eq_comm
      · rw [hothers b hb, h.has, Has]
        simp [hb]
    old := by
      intro b hb
      simp only [List.filterMap_append, List.filterMap_cons_none hfrees, List.filterMap_nil,
        List.append_nil] at hb
      exact Nat.lt_of_lt_of_le (h.old b hb) hnext }

/-- An event that frees a live pointer. -/
theorem Agrees.freed {e : (τ × Call) × Return} {b : Nat} (h : Agrees lib tr)
    (hgives : handsOut e = none) (hfrees : frees e = some b) (hlive : b < lib.memory.next)
    (hkind : lib'.kindAt b = none) (hothers : ∀ b', b' ≠ b → lib'.kindAt b' = lib.kindAt b')
    (hnext : lib.memory.next ≤ lib'.memory.next) : Agrees lib' (tr ++ [e]) :=
  { has := by
      intro b' k
      have hkept : (tr ++ [e]).filterMap handsOut = tr.filterMap handsOut := by simp [hgives]
      have hmem : b' ∈ (tr ++ [e]).filterMap frees ↔ b' ∈ tr.filterMap frees ∨ b' = b := by
        simp [hfrees]
      unfold Has
      rw [hmem, hkept]
      by_cases hb : b' = b
      · subst hb
        simp [hkind]
      · rw [hothers b' hb, h.has, Has]
        simp [hb]
    old := by
      intro b' hb'
      have hmem : b' ∈ tr.filterMap frees ∨ b' = b := by simpa [hfrees] using hb'
      rcases hmem with hmem | rfl
      · exact Nat.lt_of_lt_of_le (h.old b' hmem) hnext
      · exact Nat.lt_of_lt_of_le hlive hnext }

theorem kindAt_modify_vm {b : Nat} {svm svm' : QuasarSvm} {m : Blocks Object}
    (h : m.contents b = some (.vm svm)) (b' : Nat) :
    ((m.modify b fun _ => .vm svm').contents b').map Object.kind =
      (m.contents b').map Object.kind := by
  by_cases hb : b' = b
  · subst hb
    simp [h, Object.kind]
  · rw [m.contents_modify_of_ne hb]

variable [DecidableEq τ] {cr : Crates} {rt : Runtime} {tryFrom : Conversion} {bundle : Bundle}

theorem Agrees.step {t : τ} {call : Call} {ret : Return} (h : Agrees lib tr)
    (hdoes : Library.Does cr rt tryFrom bundle lib t call lib' ret) :
    Agrees lib' (tr ++ [((t, call), ret)]) := by
  cases hdoes with
  | told => exact h.idle rfl rfl (fun b => rfl) (Nat.le_refl _)
  | created svm hnew =>
      refine h.given rfl rfl ?_ ?_ (Nat.le_succ _)
      · simp [Library.kindAt, Object.kind]
      · intro b hb
        simp only [Library.kindAt, lib.memory.contents_alloc_of_ne _ hb]
  | notCreated hnew => exact h.idle rfl rfl (fun b => rfl) (Nat.le_refl _)
  | freedNothing => exact h.idle rfl rfl (fun b => rfl) (Nat.le_refl _)
  | freedVm b svm hb =>
      refine h.freed rfl rfl (Blocks.lt_next_of_contents hb) ?_ ?_ (Nat.le_refl _)
      · simp [Library.kindAt]
      · intro b' hb'
        simp only [Library.kindAt, lib.memory.contents_free_of_ne hb']
  | rejected svm call hnull => exact h.idle rfl rfl (fun b => rfl) (Nat.le_refl _)
  | called b svm svm' call code message hnull hb hrun hends =>
      exact h.idle rfl rfl (kindAt_modify_vm hb) (Nat.le_refl _)
  | answered b svm svm' call code message bytes hnull hb hrun hends =>
      refine h.given rfl rfl ?_ ?_ (Nat.le_succ _)
      · simp only [Library.kindAt]
        exact congrArg (Option.map Object.kind) (Blocks.contents_alloc_next _ _)
      · intro b' hb'
        have halloc := Blocks.contents_alloc_of_ne (lib.memory.modify b fun _ => .vm svm')
          (.result bytes) hb'
        exact (congrArg (Option.map Object.kind) halloc).trans (kindAt_modify_vm hb b')
  | freedNoResult resultLen => exact h.idle rfl rfl (fun b => rfl) (Nat.le_refl _)
  | freedResult b bytes hb =>
      refine h.freed rfl rfl (Blocks.lt_next_of_contents hb) ?_ ?_ (Nat.le_refl _)
      · simp [Library.kindAt]
      · intro b' hb'
        simp only [Library.kindAt, lib.memory.contents_free_of_ne hb']

theorem agrees_of_run {calls : List (τ × Call)}
    (h : (interface cr rt tryFrom bundle).run Library.init calls = some (lib, tr)) :
    Agrees lib tr := by
  refine Process.run_history (P := Agrees) ?_ Agrees.init h
  rintro lib tr ⟨t, call⟩ lib' ret hagrees hstep
  rw [interface_step] at hstep
  exact hagrees.step (Library.does_of_step hstep)

/-- Whether a step is defined can be told from the events alone. -/
theorem Agrees.isSome_step_iff {t : τ} {call : Call} (h : Agrees lib tr) :
    (lib.step cr rt tryFrom bundle (t, call)).isSome ↔ Observes tr call := by
  rw [Library.isSome_step_iff]
  cases call with
  | lastError => rfl
  | svmNew => rfl
  | svmFree svm => simp only [Observes, ← h.has, kindAt_eq_vm]
  | onVm svm call => simp only [Observes, ← h.has, kindAt_eq_vm]
  | resultFree result resultLen => simp only [Observes, ← h.has, kindAt_eq_result]

/-- From the start, calls of any threads are defined throughout exactly when each of them observes the
contract, given the returns before it. -/
theorem isSome_run_iff_observes (calls : List (τ × Call)) :
    ((interface cr rt tryFrom bundle).run Library.init calls).isSome ↔
      ∀ pre t call post, calls = pre ++ (t, call) :: post →
        ∀ lib tr, (interface cr rt tryFrom bundle).run Library.init pre = some (lib, tr) →
          Observes tr call := by
  rw [Process.isSome_run_iff (P := fun _ => True)
    (G := fun lib input => (lib.step cr rt tryFrom bundle input).isSome)
    (fun lib input _ => Iff.rfl) (fun _ _ _ _ _ _ => trivial) trivial]
  constructor
  · intro h pre t call post hcalls lib tr hpre
    exact (agrees_of_run hpre).isSome_step_iff.1 (h pre (t, call) post hcalls lib tr hpre)
  · rintro h pre ⟨t, call⟩ post hcalls lib tr hpre
    exact (agrees_of_run hpre).isSome_step_iff.2 (h pre t call post hcalls lib tr hpre)

end Pointers

end Ffi
end Quasar
