import Quasar.Bindings.Client
import Quasar.Bindings.InputFormat
import Quasar.Svm.SamePrograms

/-!
# Session — a client is the engine, seen through the wire

Through a client each method performs one operation of the engine and returns what the engine replies,
decoded; every result buffer is freed.  Other threads may call anything on their own VMs between any
two calls of the C interface.  Which of the bundled programs a client asks for makes no difference,
since the VM behind it has them all.
-/

namespace Quasar
namespace Bindings

open Lib
open Ffi
open Svm (Bytes Bundle Crates Runtime QuasarSvm Pubkey Reply Drawn SetOrder)

/-! ## Native functions -/

section Native

variable {τ : Type} [DecidableEq τ] {cr : Crates} {rt : Runtime} {tryFrom : Conversion}
  {bundle : Bundle} {t : τ} {objects : List (Nat × Object)} {ε α : Type}

/-- What a thread's code returns and leaves, whatever the other threads call meanwhile. -/
abbrev Ensures (cr : Crates) (rt : Runtime) (tryFrom : Conversion) (bundle : Bundle) (t : τ)
    (P : World τ → Prop) (code : ExceptT ε (Script Request Answer) α)
    (Q : Except ε α → World τ → Prop) : Prop :=
  Script.Meets (host cr rt tryFrom bundle t) (Others cr rt tryFrom bundle t) P code.run Q

/-- The code returns one thing, and the thread owns these objects afterwards. -/
def Returns (out : Except ε α) (objects : List (Nat × Object)) (out' : Except ε α) (w : World τ) :
    Prop :=
  out' = out ∧ Owns objects w

theorem Returns.stable (out out' : Except ε α) :
    Script.Stable (Others cr rt tryFrom bundle t) (Returns (τ := τ) out objects out') :=
  Owns.stable.and_left

theorem ensures_pure (a : α) :
    Ensures cr rt tryFrom bundle t (Owns objects) (pure a : ExceptT ε (Script Request Answer) α)
      (Returns (.ok a) objects) :=
  Script.Meets.pure (Returns.stable _ _) fun _ hw => ⟨rfl, hw⟩

theorem ensures_throw (e : ε) :
    Ensures cr rt tryFrom bundle t (Owns objects)
      (throw e : ExceptT ε (Script Request Answer) α) (Returns (.error e) objects) :=
  Script.Meets.throw (Returns.stable _ _) fun _ hw => ⟨rfl, hw⟩

/-- The rest of the code goes on from what a part returned, or is skipped. -/
theorem ensures_bind {β : Type} {c : ExceptT ε (Script Request Answer) α}
    {f : α → ExceptT ε (Script Request Answer) β} {P : World τ → Prop} {out : Except ε α}
    {objects' : List (Nat × Object)} {out' : Except ε β}
    (hc : Ensures cr rt tryFrom bundle t P c (Returns out objects))
    (hok : ∀ a, out = .ok a →
      Ensures cr rt tryFrom bundle t (Owns objects) (f a) (Returns out' objects'))
    (herror : ∀ e, out = .error e → out' = .error e ∧ objects' = objects) :
    Ensures cr rt tryFrom bundle t P (c >>= f) (Returns out' objects') := by
  refine Script.Meets.throwing_bind hc ?_ ?_
  · intro a
    refine Script.Meets.of_and_left ?_
    intro ha
    exact hok a ha.symm
  · intro e
    refine Script.Meets.of_and_left ?_
    intro he
    rcases herror e he.symm with ⟨rfl, rfl⟩
    exact Script.Meets.done (Returns.stable _ _) fun w hw => ⟨rfl, hw⟩

theorem ensures_map {β : Type} {c : ExceptT ε (Script Request Answer) α} (f : α → β)
    {P : World τ → Prop} {out : Except ε α}
    (hc : Ensures cr rt tryFrom bundle t P c (Returns out objects)) :
    Ensures cr rt tryFrom bundle t P (c >>= fun a => pure (f a)) (Returns (out.map f) objects) := by
  refine ensures_bind hc ?_ ?_
  · rintro a rfl
    exact ensures_pure (f a)
  · rintro e rfl
    exact ⟨rfl, rfl⟩

section Checked

variable {thrown : String → ε} {textOr : Option String → String}
  (htext : ∀ m, m ≠ "" → textOr (some m) = m)

theorem ensures_checkWith_ok :
    Ensures cr rt tryFrom bundle t (Owns objects) (Native.checkWith thrown textOr quasarOk)
      (Returns (.ok ()) objects) := by
  have hok : ¬ quasarOk ≠ 0 := by decide
  rw [Native.checkWith, if_neg hok]
  exact ensures_pure ()

theorem ensures_createWith {svm : QuasarSvm} (hnew : QuasarSvm.new cr bundle = some svm) :
    Ensures cr rt tryFrom bundle t (Owns objects) (Native.createWith thrown textOr)
      fun out w => ∃ b, Returns (.ok b) ((b, .vm svm) :: objects) out w := by
  refine Script.Meets.query_bind (meets_svmNew hnew) ?_
  intro ptr
  refine Script.Meets.of_exists ?_
  intro b
  refine Script.Meets.of_and_left ?_
  rintro rfl
  exact (ensures_pure b).mono (fun _ hw => hw) fun out w hout => ⟨b, hout⟩

/-- A call that succeeds and hands out nothing. -/
theorem ensures_callWith_ok {b : Nat} {svm svm' : QuasarSvm} {call : VmCall}
    (hnull : call.hasNull = false)
    (hrun : call.run cr rt tryFrom (some svm) =
      { svm := some svm', code := quasarOk, lastError := none, result := none }) :
    Ensures cr rt tryFrom bundle t (Owns ((b, .vm svm) :: objects))
      (Native.callWith (Native.checkWith thrown textOr) (some b) call)
      (Returns (.ok ()) ((b, .vm svm') :: objects)) := by
  refine Script.Meets.query_bind (meets_onVm hnull hrun) ?_
  intro out
  refine Script.Meets.of_and_left ?_
  rintro rfl
  exact ensures_checkWith_ok.mono (fun _ hw => hw.1) fun _ _ hout => hout

/-- An execution that succeeds: the buffer is copied and freed. -/
theorem ensures_executeWith_ok {b : Nat} {svm svm' : QuasarSvm} {ixBuf acctBuf bytes : Bytes}
    {order : SetOrder}
    (hrun : (VmCall.processTransaction (some ixBuf) (some acctBuf) true order).run cr rt tryFrom
        (some svm) =
      { svm := some svm', code := quasarOk, lastError := none, result := some bytes }) :
    Ensures cr rt tryFrom bundle t (Owns ((b, .vm svm) :: objects))
      (Native.executeWith thrown textOr (some b) ixBuf acctBuf order)
      (Returns (.ok bytes) ((b, .vm svm') :: objects)) := by
  refine Script.Meets.query_bind (meets_onVm_result rfl hrun) ?_
  intro out
  refine Script.Meets.of_exists ?_
  intro p
  refine Script.Meets.of_and_left ?_
  rintro rfl
  have hok : ¬ quasarOk ≠ 0 := by decide
  simp only [if_neg hok, Option.map_some, Option.getD_some]
  refine Script.Meets.query_bind meets_read ?_
  intro read
  refine Script.Meets.of_and_left ?_
  intro hread
  refine Script.Meets.query_bind meets_resultFree ?_
  intro _
  rw [hread]
  exact ensures_pure bytes

include htext

/-- A code that is not 0 is thrown, with the thread's last error. -/
theorem ensures_checkWith_error {code : Int32} {m : String} (hcode : code ≠ 0) (hm : m ≠ "") :
    Ensures cr rt tryFrom bundle t (OwnsWith t objects (some m))
      (Native.checkWith thrown textOr code)
      (Returns (.error (thrown s!"QuasarSvm error ({code}): {m}")) objects) := by
  rw [Native.checkWith, if_pos hcode]
  refine Script.Meets.query_bind (meets_lastError (some m)) ?_
  intro err
  refine Script.Meets.of_and_left ?_
  rintro rfl
  simp only [htext m hm]
  exact ensures_throw _

theorem ensures_createWith_of_none (hnew : QuasarSvm.new cr bundle = none) :
    Ensures cr rt tryFrom bundle t (Owns objects) (Native.createWith thrown textOr)
      (Returns (.error (thrown "Failed to create QuasarSvm: Panic during SVM creation"))
        objects) := by
  refine Script.Meets.query_bind (meets_svmNew_of_none hnew) ?_
  intro ptr
  refine Script.Meets.of_and_left ?_
  rintro rfl
  refine Script.Meets.query_bind (meets_lastError _) ?_
  intro err
  refine Script.Meets.of_and_left ?_
  rintro rfl
  simp only [htext "Panic during SVM creation" (by decide)]
  exact ensures_throw _

/-- A call that fails is thrown with its message. -/
theorem ensures_callWith_error {b : Nat} {svm svm' : QuasarSvm} {call : VmCall} {code : Int32}
    {m text : String} (hnull : call.hasNull = false) (hcode : code ≠ 0) (hm : m ≠ "")
    (hkept : cString m = some m) (htold : s!"QuasarSvm error ({code}): {m}" = text)
    (hrun : call.run cr rt tryFrom (some svm) =
      { svm := some svm', code := code, lastError := some m, result := none }) :
    Ensures cr rt tryFrom bundle t (Owns ((b, .vm svm) :: objects))
      (Native.callWith (Native.checkWith thrown textOr) (some b) call)
      (Returns (.error (thrown text)) ((b, .vm svm') :: objects)) := by
  subst htold
  refine Script.Meets.query_bind (meets_onVm hnull hrun) ?_
  intro out
  refine Script.Meets.of_and_left ?_
  rintro rfl
  rw [Option.bind_some, hkept]
  exact ensures_checkWith_error htext hcode hm

theorem ensures_executeWith_error {b : Nat} {svm svm' : QuasarSvm} {ixBuf acctBuf : Bytes}
    {order : SetOrder} {code : Int32} {m text : String} (hcode : code ≠ 0) (hm : m ≠ "")
    (hkept : cString m = some m) (htold : s!"Execution error ({code}): {m}" = text)
    (hrun : (VmCall.processTransaction (some ixBuf) (some acctBuf) true order).run cr rt tryFrom
        (some svm) =
      { svm := some svm', code := code, lastError := some m, result := none }) :
    Ensures cr rt tryFrom bundle t (Owns ((b, .vm svm) :: objects))
      (Native.executeWith thrown textOr (some b) ixBuf acctBuf order)
      (Returns (.error (thrown text)) ((b, .vm svm') :: objects)) := by
  subst htold
  refine Script.Meets.query_bind (meets_onVm rfl hrun) ?_
  intro out
  refine Script.Meets.of_and_left ?_
  rintro rfl
  rw [Option.bind_some, hkept]
  simp only [if_pos hcode]
  refine Script.Meets.query_bind (meets_lastError (some m)) ?_
  intro err
  refine Script.Meets.of_and_left ?_
  rintro rfl
  simp only [htext m hm]
  exact ensures_throw _

end Checked

end Native

/-! ## Calls on the engine -/

/-- What a client asks of its VM, in the engine's terms, an execution with the order that its call
draws. -/
inductive ClientCall
  | addProgram (programId : Pubkey) (elf : Bytes) (loaderVersion : UInt8)
  | set (call : ConfigurationCall)
  | process (instructions : List Svm.Instruction) (accounts : List Svm.Account) (order : SetOrder)

def ClientCall.operation (cr : Crates) (svm : QuasarSvm) : ClientCall → Drawn
  | .addProgram programId elf loaderVersion =>
      (.addProgram programId (loaderKey cr loaderVersion) elf, .dedup)
  | .set call => (call.operation cr svm, .dedup)
  | .process instructions accounts order => (.execute instructions accounts true, order)

/-- What a client makes of a reply of the engine; a panic is thrown. -/
def outcome {ε ρ : Type} (thrown : String → ε) (view : Svm.ExecutionResult → ρ) :
    Reply → Except ε (Option ρ)
  | .done (.error _) => .error (thrown "QuasarSvm error (-3): Panic while loading program")
  | .executed (.ok r) => .ok (some (view r))
  | .executed (.error _) =>
      .error (thrown "Execution error (-99): Panic during transaction execution")
  -- A setter tells nothing, and no method asks for an account or a program.
  | _ => .ok none

/-- A result that an execution may have fits the result format. -/
def Fits (cr : Crates) (rt : Runtime) (svm : QuasarSvm) : ClientCall → Prop
  | .process instructions accounts order => ∀ r,
      (svm.processInstructionChain (cr.withOrder order.iter) rt instructions accounts).2 = .ok r →
        FitsResult r
  | _ => True

section Engine

variable {τ : Type} [DecidableEq τ] {cr : Crates} {rt : Runtime} {tryFrom : Conversion}
  {bundle : Bundle} {t : τ} {objects : List (Nat × Object)} {ε : Type} {svm : QuasarSvm}

theorem run_configure (call : ConfigurationCall) :
    (VmCall.configure call).run cr rt tryFrom (some svm) =
      { svm := some (svm.operate cr rt (call.operation cr svm)).1
        code := quasarOk
        lastError := none
        result := none } := by
  have hnull : (VmCall.configure call).hasNull = false := rfl
  rcases VmCall.run_ends cr rt tryFrom svm hnull with ⟨svm', code, message, result, hrun, hends⟩
  cases hends with
  | configured call => exact hrun

theorem run_addProgram_ok {svm' : QuasarSvm} {programId : Pubkey} {elf : Bytes}
    {loaderVersion : UInt8}
    (h : svm.addProgram cr programId (loaderKey cr loaderVersion) elf = (svm', .ok ())) :
    (VmCall.addProgram (some programId) (some elf) loaderVersion).run cr rt tryFrom (some svm) =
      { svm := some svm', code := quasarOk, lastError := none, result := none } := by
  simp only [VmCall.run, quasarSvmAddProgram, h]

theorem run_addProgram_error {svm' : QuasarSvm} {programId : Pubkey} {elf : Bytes}
    {loaderVersion : UInt8} {m : String}
    (h : svm.addProgram cr programId (loaderKey cr loaderVersion) elf = (svm', .error m)) :
    (VmCall.addProgram (some programId) (some elf) loaderVersion).run cr rt tryFrom (some svm) =
      { svm := some svm'
        code := quasarErrProgramLoad
        lastError := some "Panic while loading program"
        result := none } := by
  simp only [VmCall.run, quasarSvmAddProgram, h]

theorem svmAccounts_map_toPair (accounts : List Svm.Account) :
    svmAccounts (accounts.map Svm.Account.toPair) = accounts := by
  rw [svmAccounts, List.map_map]
  exact List.map_id _

theorem run_processTransaction_ok {svm' : QuasarSvm} {ixBuf acctBuf : Bytes} {order : SetOrder}
    {ixs : List Svm.Instruction} {accounts : List Svm.Account} {r : Svm.ExecutionResult}
    (hixs : deserializeInstructions ixBuf = .ok ixs)
    (haccounts : deserializeAccounts acctBuf = .ok (accounts.map Svm.Account.toPair))
    (h : svm.processInstructionChain (cr.withOrder order.iter) rt ixs accounts = (svm', .ok r)) :
    (VmCall.processTransaction (some ixBuf) (some acctBuf) true order).run cr rt tryFrom
        (some svm) =
      { svm := some svm'
        code := quasarOk
        lastError := none
        result := some (serializeResult tryFrom r) } := by
  simp only [VmCall.run, quasarSvmProcessTransaction, processTransactionBytes, hixs, haccounts,
    svmAccounts_map_toPair, h]

theorem run_processTransaction_error {svm' : QuasarSvm} {ixBuf acctBuf : Bytes} {order : SetOrder}
    {ixs : List Svm.Instruction} {accounts : List Svm.Account} {m : String}
    (hixs : deserializeInstructions ixBuf = .ok ixs)
    (haccounts : deserializeAccounts acctBuf = .ok (accounts.map Svm.Account.toPair))
    (h : svm.processInstructionChain (cr.withOrder order.iter) rt ixs accounts = (svm', .error m)) :
    (VmCall.processTransaction (some ixBuf) (some acctBuf) true order).run cr rt tryFrom
        (some svm) =
      { svm := some svm'
        code := quasarErrInternal
        lastError := some "Panic during transaction execution"
        result := none } := by
  simp only [VmCall.run, quasarSvmProcessTransaction, processTransactionBytes, hixs, haccounts,
    svmAccounts_map_toPair, h]

theorem operate_set_snd (call : ConfigurationCall) :
    (svm.operate cr rt (call.operation cr svm)).2 = .done (.ok ()) := by
  cases call with
  | _ => rfl

variable {thrown : String → ε} {textOr : Option String → String}
  (htext : ∀ m, m ≠ "" → textOr (some m) = m) {b : Nat}

theorem ensures_set (call : ConfigurationCall) :
    Ensures cr rt tryFrom bundle t (Owns ((b, .vm svm) :: objects))
      (Native.callWith (Native.checkWith thrown textOr) (some b) (.configure call))
      (Returns (.ok ())
        ((b, .vm (svm.operate cr rt (call.operation cr svm)).1) :: objects)) :=
  ensures_callWith_ok rfl (run_configure call)

include htext

theorem ensures_addProgram (programId : Pubkey) (elf : Bytes) (loaderVersion : UInt8) :
    Ensures cr rt tryFrom bundle t (Owns ((b, .vm svm) :: objects))
      (Native.callWith (Native.checkWith thrown textOr) (some b)
        (.addProgram (some programId) (some elf) loaderVersion))
      (Returns
        (match (svm.addProgram cr programId (loaderKey cr loaderVersion) elf).2 with
        | .ok _ => .ok ()
        | .error _ => .error (thrown "QuasarSvm error (-3): Panic while loading program"))
        ((b, .vm (svm.addProgram cr programId (loaderKey cr loaderVersion) elf).1) ::
          objects)) := by
  rcases hadd : svm.addProgram cr programId (loaderKey cr loaderVersion) elf with ⟨svm', out⟩
  cases out with
  | ok u => exact ensures_callWith_ok rfl (run_addProgram_ok hadd)
  | error m =>
      exact ensures_callWith_error htext rfl (by decide) (by decide) (by decide) (by decide)
        (run_addProgram_error hadd)

/-- The buffer that is copied holds the engine's result. -/
theorem ensures_execute {ixBuf acctBuf : Bytes} {order : SetOrder}
    {ixs : List Svm.Instruction} {accounts : List Svm.Account}
    (hixs : deserializeInstructions ixBuf = .ok ixs)
    (haccounts : deserializeAccounts acctBuf = .ok (accounts.map Svm.Account.toPair)) :
    Ensures cr rt tryFrom bundle t (Owns ((b, .vm svm) :: objects))
      (Native.executeWith thrown textOr (some b) ixBuf acctBuf order)
      (Returns
        (match (svm.processInstructionChain (cr.withOrder order.iter) rt ixs accounts).2 with
        | .ok r => .ok (serializeResult tryFrom r)
        | .error _ => .error (thrown "Execution error (-99): Panic during transaction execution"))
        ((b, .vm (svm.processInstructionChain (cr.withOrder order.iter) rt ixs accounts).1) ::
          objects)) := by
  rcases hcall : svm.processInstructionChain (cr.withOrder order.iter) rt ixs accounts with
    ⟨svm', out⟩
  cases out with
  | ok r => exact ensures_executeWith_ok (run_processTransaction_ok hixs haccounts hcall)
  | error m =>
      exact ensures_executeWith_error htext (by decide) (by decide) (by decide) (by decide)
        (run_processTransaction_error hixs haccounts hcall)

end Engine

/-! ## The TypeScript packages -/

open Writer (writeList)

/-- The VM as a client sees it: what it makes of the engine's replies to its calls. -/
def clientMachine {ε ρ : Type} (cr : Crates) (rt : Runtime) (thrown : String → ε)
    (view : Svm.ExecutionResult → ρ) : Machine QuasarSvm ClientCall (Except ε (Option ρ)) :=
  { step := fun svm call =>
      let drawn := call.operation cr svm
      let out := svm.operate (cr.withOrder drawn.2.iter) rt drawn.1
      (out.1, outcome thrown view out.2) }

section Steps

variable {ε ρ : Type} {cr : Crates} {rt : Runtime} {thrown : String → ε}
  {view : Svm.ExecutionResult → ρ} {svm : QuasarSvm}

theorem clientMachine_step_set (call : ConfigurationCall) :
    (clientMachine cr rt thrown view).step svm (.set call) =
      ((svm.operate cr rt (call.operation cr svm)).1, .ok none) := by
  simp only [clientMachine, ClientCall.operation, operate_configuration, operate_set_snd, outcome]

theorem clientMachine_step_addProgram (programId : Pubkey) (elf : Bytes) (loaderVersion : UInt8) :
    (clientMachine cr rt thrown view).step svm (.addProgram programId elf loaderVersion) =
      ((svm.addProgram cr programId (loaderKey cr loaderVersion) elf).1,
        outcome thrown view
          (.done (svm.addProgram cr programId (loaderKey cr loaderVersion) elf).2)) := rfl

theorem clientMachine_step_process (ixs : List Svm.Instruction) (accounts : List Svm.Account)
    (order : SetOrder) :
    (clientMachine cr rt thrown view).step svm (.process ixs accounts order) =
      ((svm.processInstructionChain (cr.withOrder order.iter) rt ixs accounts).1,
        outcome thrown view
          (.executed (svm.processInstructionChain (cr.withOrder order.iter) rt ixs accounts).2)) :=
  rfl

end Steps

namespace Node

/-- The result that the packages build their `ExecutionResult` from. -/
def viewResult (tryFrom : Conversion) (r : Svm.ExecutionResult) : InternalResult :=
  (ResultFields.ofResult tryFrom r).toResult

abbrev machine (cr : Crates) (rt : Runtime) (tryFrom : Conversion) :
    Machine QuasarSvm ClientCall (Except Thrown (Option InternalResult)) :=
  clientMachine cr rt .error (viewResult tryFrom)

theorem textOr_eq (m : String) (_ : m ≠ "") : textOr (some m) = m := rfl

variable {τ : Type} [DecidableEq τ] {cr : Crates} {rt : Runtime} {tryFrom : Conversion}
  {bundle : Bundle} {t : τ} {objects : List (Nat × Object)} {svm : QuasarSvm} {b : Nat}
  {toUtf8 : Bytes → String}

/-- The object of a VM that was not freed. -/
def handle (b : Nat) : QuasarSvmBase :=
  { ptr := some b
    freed := false }

theorem set_eq (svm : QuasarSvmBase) (call : ConfigurationCall) :
    svm.set call = svm.configure call := by
  cases call with
  | setter call =>
      cases call with
      | _ => rfl
  | _ => rfl

/-- The three kinds of methods, once an address is bytes and the arguments are encoded. -/
theorem ensures_set (call : ConfigurationCall) :
    Ensures cr rt tryFrom bundle t (Owns ((b, .vm svm) :: objects))
      (do
        (handle b).set call
        pure none)
      (Returns ((machine cr rt tryFrom).step svm (.set call)).2
        ((b, .vm ((machine cr rt tryFrom).step svm (.set call)).1) :: objects)) := by
  rw [set_eq, clientMachine_step_set]
  exact ensures_map _ (Bindings.ensures_set call)

theorem ensures_addProgram {programId : Option Bytes} {id : Pubkey}
    (hid : programId = some id.bytes) (elf : Bytes) (loaderVersion : UInt8) :
    Ensures cr rt tryFrom bundle t (Owns ((b, .vm svm) :: objects))
      (do
        addProgramAt (handle b) programId elf loaderVersion
        pure none)
      (Returns ((machine cr rt tryFrom).step svm (.addProgram id elf loaderVersion)).2
        ((b, .vm ((machine cr rt tryFrom).step svm (.addProgram id elf loaderVersion)).1) ::
          objects)) := by
  have hat : programIdAt programId = some id := by
    subst hid
    simp [programIdAt, id.size]
  have hreply : ((machine cr rt tryFrom).step svm (.addProgram id elf loaderVersion)).2 =
      Except.map (fun _ => none)
        (match (svm.addProgram cr id (loaderKey cr loaderVersion) elf).2 with
        | .ok _ => .ok ()
        | .error _ => .error (.error "QuasarSvm error (-3): Panic while loading program")) := by
    rw [clientMachine_step_addProgram]
    cases (svm.addProgram cr id (loaderKey cr loaderVersion) elf).2 with
    | ok u => rfl
    | error m => rfl
  rw [addProgramAt, hat, hreply]
  exact ensures_map _ (Bindings.ensures_addProgram textOr_eq id elf loaderVersion)

theorem deserializeResult_serializeResult (hutf8 : ∀ s, toUtf8 (utf8 s) = s)
    {r : Svm.ExecutionResult} (h : FitsResult r) :
    deserializeResult toUtf8 (serializeResult tryFrom r) =
      .ok (viewResult tryFrom r, (serializeResult tryFrom r).length) := by
  simp [deserializeResult, (readResult_decodes hutf8 tryFrom h).run_eq, Except.map, viewResult]

theorem ensures_exec (hutf8 : ∀ s, toUtf8 (utf8 s) = s) {ixBuf acctBuf : Bytes}
    {order : SetOrder} {ixs : List Svm.Instruction} {accounts : List Svm.Account}
    (hixs : deserializeInstructions ixBuf = .ok ixs)
    (haccounts : deserializeAccounts acctBuf = .ok (accounts.map Svm.Account.toPair))
    (hfits : Fits cr rt svm (.process ixs accounts order)) :
    Ensures cr rt tryFrom bundle t (Owns ((b, .vm svm) :: objects))
      (exec toUtf8 (handle b) ixBuf acctBuf order)
      (Returns
        (match (svm.processInstructionChain (cr.withOrder order.iter) rt ixs accounts).2 with
        | .ok r => .ok (viewResult tryFrom r)
        | .error _ =>
            .error (.error "Execution error (-99): Panic during transaction execution"))
        ((b, .vm (svm.processInstructionChain (cr.withOrder order.iter) rt ixs accounts).1) ::
          objects)) := by
  refine ensures_bind (ensures_execute textOr_eq hixs haccounts) ?_ ?_
  · intro bytes hbytes
    cases hreply : (svm.processInstructionChain (cr.withOrder order.iter) rt ixs accounts).2 with
    | ok r =>
        rw [hreply] at hbytes
        cases hbytes
        rw [deserializeResult_serializeResult hutf8 (hfits r hreply)]
        exact ensures_pure _
    | error m =>
        rw [hreply] at hbytes
        cases hbytes
  · intro e he
    cases hreply : (svm.processInstructionChain (cr.withOrder order.iter) rt ixs accounts).2 with
    | ok r =>
        rw [hreply] at he
        cases he
    | error m =>
        rw [hreply] at he
        cases he
        exact ⟨rfl, rfl⟩

theorem ensures_process (hutf8 : ∀ s, toUtf8 (utf8 s) = s) {order : SetOrder}
    {ixs : List Svm.Instruction} {accounts : List Svm.Account}
    {ixBuf acctBuf : Except EncodeError Bytes}
    (hixBuf : ixBuf = .ok (writeList writeInstruction ixs))
    (hacctBuf : acctBuf = .ok (writeList writeAccount accounts))
    (hixs : FitsInstructions ixs) (haccounts : FitsAccounts accounts)
    (hfits : Fits cr rt svm (.process ixs accounts order)) :
    Ensures cr rt tryFrom bundle t (Owns ((b, .vm svm) :: objects))
      (do
        let r ← execEncoded toUtf8 (handle b) ixBuf acctBuf order
        pure (some r))
      (Returns ((machine cr rt tryFrom).step svm (.process ixs accounts order)).2
        ((b, .vm ((machine cr rt tryFrom).step svm (.process ixs accounts order)).1) ::
          objects)) := by
  have hreply : ((machine cr rt tryFrom).step svm (.process ixs accounts order)).2 =
      Except.map some
        (match (svm.processInstructionChain (cr.withOrder order.iter) rt ixs accounts).2 with
        | .ok r => .ok (viewResult tryFrom r)
        | .error _ =>
            .error (.error "Execution error (-99): Panic during transaction execution")) := by
    rw [clientMachine_step_process]
    cases (svm.processInstructionChain (cr.withOrder order.iter) rt ixs accounts).2 with
    | ok r => rfl
    | error m => rfl
  rw [hreply, hixBuf, hacctBuf]
  exact ensures_map _ (ensures_exec hutf8 (deserializeInstructions_write hixs)
    (deserializeAccounts_write haccounts) hfits)

end Node

namespace Kit

open Node (AddressCodec InternalResult)

/-- What a method asks of the engine.  The arguments are represented, and fit the input formats. -/
inductive Asks (codec : AddressCodec) : Method → ClientCall → Prop
  | addProgram {programId : String} {id : Pubkey} (h : codec.encode programId = some id.bytes)
      (elf : Bytes) (loaderVersion : UInt8) :
      Asks codec (.addProgram programId elf loaderVersion) (.addProgram id elf loaderVersion)
  | setter (call : ConfigurationCall) : Asks codec (.setter call) (.set call)
  | processInstruction {i : Instruction} {ix : Svm.Instruction} {as : List Account}
      {accounts : List Svm.Account} (h : Represents codec.encode i ix)
      (haccounts : List.Forall₂ (RepresentsAccount codec.encode) as accounts)
      (hfits : FitsInstructions [ix]) (hfitsAccounts : FitsAccounts accounts)
      (order : SetOrder) :
      Asks codec (.processInstruction i as order) (.process [ix] accounts order)
  | processInstructionChain {is : List Instruction} {ixs : List Svm.Instruction}
      {as : List Account} {accounts : List Svm.Account}
      (h : List.Forall₂ (Represents codec.encode) is ixs)
      (haccounts : List.Forall₂ (RepresentsAccount codec.encode) as accounts)
      (hfits : FitsInstructions ixs) (hfitsAccounts : FitsAccounts accounts)
      (order : SetOrder) :
      Asks codec (.processInstructionChain is as order) (.process ixs accounts order)

variable {τ : Type} [DecidableEq τ] {cr : Crates} {rt : Runtime} {tryFrom : Conversion}
  {bundle : Bundle} {t : τ} {objects : List (Nat × Object)} {svm : QuasarSvm} {b : Nat}
  {codec : AddressCodec} {toUtf8 : Bytes → String}

theorem ensures_perform (hutf8 : ∀ s, toUtf8 (utf8 s) = s) {method : Method} {call : ClientCall}
    (h : Asks codec method call) (hfits : Fits cr rt svm call) :
    Ensures cr rt tryFrom bundle t (Owns ((b, .vm svm) :: objects))
      (perform codec toUtf8 (Node.handle b) method)
      (Returns ((Node.machine cr rt tryFrom).step svm call).2
        ((b, .vm ((Node.machine cr rt tryFrom).step svm call).1) :: objects)) := by
  cases h with
  | addProgram h elf loaderVersion => exact Node.ensures_addProgram h elf loaderVersion
  | setter call => exact Node.ensures_set call
  | processInstruction h haccounts hixs hfitsAccounts order =>
      have hone : List.Forall₂ (Represents codec.encode) _ _ := .cons h .nil
      exact Node.ensures_process hutf8 (serializeInstructions_eq hone hixs)
        (serializeAccounts_eq haccounts hfitsAccounts) hixs hfitsAccounts hfits
  | processInstructionChain h haccounts hixs hfitsAccounts order =>
      exact Node.ensures_process hutf8 (serializeInstructions_eq h hixs)
        (serializeAccounts_eq haccounts hfitsAccounts) hixs hfitsAccounts hfits

end Kit

namespace Web3

open Node (AddressCodec InternalResult)

/-- What a method asks of the engine, as for the other package. -/
inductive Asks (codec : AddressCodec) : Method → ClientCall → Prop
  | addProgram {programId : Address} {id : Pubkey} (h : programId.bytes = id.bytes) (elf : Bytes)
      (loaderVersion : UInt8) :
      Asks codec (.addProgram programId elf loaderVersion) (.addProgram id elf loaderVersion)
  | setter (call : ConfigurationCall) : Asks codec (.setter call) (.set call)
  | processInstruction {i : SupportedInstruction} {ix : Svm.Instruction}
      {as : List KeyedAccountInfo} {accounts : List Svm.Account} (h : Represents codec i ix)
      (haccounts : List.Forall₂ RepresentsAccount as accounts)
      (hfits : FitsInstructions [ix]) (hfitsAccounts : FitsAccounts accounts)
      (order : SetOrder) :
      Asks codec (.processInstruction i as order) (.process [ix] accounts order)
  | processInstructionChain {is : List SupportedInstruction} {ixs : List Svm.Instruction}
      {as : List KeyedAccountInfo} {accounts : List Svm.Account}
      (h : List.Forall₂ (Represents codec) is ixs)
      (haccounts : List.Forall₂ RepresentsAccount as accounts)
      (hfits : FitsInstructions ixs) (hfitsAccounts : FitsAccounts accounts)
      (order : SetOrder) :
      Asks codec (.processInstructionChain is as order) (.process ixs accounts order)

variable {τ : Type} [DecidableEq τ] {cr : Crates} {rt : Runtime} {tryFrom : Conversion}
  {bundle : Bundle} {t : τ} {objects : List (Nat × Object)} {svm : QuasarSvm} {b : Nat}
  {codec : AddressCodec} {toUtf8 : Bytes → String}

theorem ensures_perform (hutf8 : ∀ s, toUtf8 (utf8 s) = s) {method : Method} {call : ClientCall}
    (h : Asks codec method call) (hfits : Fits cr rt svm call) :
    Ensures cr rt tryFrom bundle t (Owns ((b, .vm svm) :: objects))
      (perform codec toUtf8 (Node.handle b) method)
      (Returns ((Node.machine cr rt tryFrom).step svm call).2
        ((b, .vm ((Node.machine cr rt tryFrom).step svm call).1) :: objects)) := by
  cases h with
  | addProgram h elf loaderVersion =>
      exact Node.ensures_addProgram (congrArg some h) elf loaderVersion
  | setter call => exact Node.ensures_set call
  | processInstruction h haccounts hixs hfitsAccounts order =>
      have hone : List.Forall₂ (Represents codec) _ _ := .cons h .nil
      exact Node.ensures_process hutf8 (serializeInstructions_eq hone hixs)
        (serializeAccounts_eq haccounts hfitsAccounts) hixs hfitsAccounts hfits
  | processInstructionChain h haccounts hixs hfitsAccounts order =>
      exact Node.ensures_process hutf8 (serializeInstructions_eq h hixs)
        (serializeAccounts_eq haccounts hfitsAccounts) hixs hfitsAccounts hfits

end Web3

/-! ## Python -/

namespace Python

/-- The VM as the Python client sees it.  The rent cannot be set: the method throws before it calls
anything. -/
def machine (cr : Crates) (rt : Runtime) (tryFrom : Conversion) :
    Machine Svm.QuasarSvm ClientCall (Except Thrown (Option ExecutionResult)) :=
  { step := fun svm call =>
      match call with
      | .set (.setter (.setRent _)) => (svm, .error .typeError)
      | call => (clientMachine cr rt .runtimeError (ExecutionResult.ofResult tryFrom)).step svm call }

/-- An account of the engine, as a caller passes it. -/
def AccountInput.ofAccount (a : Svm.Account) : AccountInput :=
  { address := a.address
    owner := a.owner
    lamports := a.lamports.toNat
    data := a.data
    executable := a.executable }

/-- What a method asks of the engine; the arguments fit the input formats. -/
inductive Asks : Method → ClientCall → Prop
  | addProgram (programId : Pubkey) (elf : Bytes) (loaderVersion : UInt8) :
      Asks (.addProgram programId elf loaderVersion) (.addProgram programId elf loaderVersion)
  | setter (call : ConfigurationCall) : Asks (.setter call) (.set call)
  | processInstruction {ix : Svm.Instruction} {accounts : List Svm.Account}
      (hfits : FitsInstructions [ix]) (hfitsAccounts : FitsAccounts accounts) (order : SetOrder) :
      Asks (.processInstruction ix (accounts.map AccountInput.ofAccount) order)
        (.process [ix] accounts order)
  | processInstructionChain {ixs : List Svm.Instruction} {accounts : List Svm.Account}
      (hfits : FitsInstructions ixs) (hfitsAccounts : FitsAccounts accounts) (order : SetOrder) :
      Asks (.processInstructionChain ixs (accounts.map AccountInput.ofAccount) order)
        (.process ixs accounts order)

theorem textOr_eq (m : String) (h : m ≠ "") : textOr (some m) = m := if_neg h

variable {τ : Type} [DecidableEq τ] {cr : Crates} {rt : Runtime} {tryFrom : Conversion}
  {bundle : Bundle} {t : τ} {objects : List (Nat × Object)} {svm : Svm.QuasarSvm} {b : Nat}

/-- The object of a VM that was not freed. -/
def handle (b : Nat) : QuasarSvm :=
  { ptr := some b
    freed := false }

theorem ensures_set (call : ConfigurationCall) :
    Ensures cr rt tryFrom bundle t (Owns ((b, .vm svm) :: objects))
      (do
        (handle b).set call
        pure none)
      (Returns ((machine cr rt tryFrom).step svm (.set call)).2
        ((b, .vm ((machine cr rt tryFrom).step svm (.set call)).1) :: objects)) := by
  have hconfigure : ∀ call : ConfigurationCall,
      Ensures cr rt tryFrom bundle t (Owns ((b, .vm svm) :: objects))
        (do
          (handle b).configure call
          pure none)
        (Returns (.ok (none : Option ExecutionResult))
          ((b, .vm (svm.operate cr rt (call.operation cr svm)).1) :: objects)) :=
    fun call => ensures_map _ (Bindings.ensures_set call)
  cases call with
  | setter call =>
      cases call with
      | setRent lamportsPerByteYear =>
          -- Nothing is called, and the VM is as it was.
          exact ensures_throw _
      | _ => exact hconfigure _
  | _ => exact hconfigure _

theorem ensures_addProgram (programId : Pubkey) (elf : Bytes) (loaderVersion : UInt8) :
    Ensures cr rt tryFrom bundle t (Owns ((b, .vm svm) :: objects))
      (do
        (handle b).addProgram programId elf loaderVersion
        pure none)
      (Returns ((machine cr rt tryFrom).step svm (.addProgram programId elf loaderVersion)).2
        ((b, .vm ((machine cr rt tryFrom).step svm (.addProgram programId elf loaderVersion)).1) ::
          objects)) := by
  have hreply : ((machine cr rt tryFrom).step svm (.addProgram programId elf loaderVersion)).2 =
      Except.map (fun _ => none)
        (match (svm.addProgram cr programId (loaderKey cr loaderVersion) elf).2 with
        | .ok _ => .ok ()
        | .error _ =>
            .error (.runtimeError "QuasarSvm error (-3): Panic while loading program")) := by
    simp only [machine, clientMachine_step_addProgram]
    cases (svm.addProgram cr programId (loaderKey cr loaderVersion) elf).2 with
    | ok u => rfl
    | error m => rfl
  rw [hreply]
  exact ensures_map _ (Bindings.ensures_addProgram textOr_eq programId elf loaderVersion)

theorem deserializeResult_serializeResult {r : Svm.ExecutionResult} (h : FitsResult r) :
    deserializeResult (serializeResult tryFrom r) =
      .ok (ExecutionResult.ofResult tryFrom r, (serializeResult tryFrom r).length) := by
  rw [deserializeResult, (readResult_decodes tryFrom h).run_eq]

theorem ensures_exec {ixBuf acctBuf : Bytes} {order : SetOrder}
    {ixs : List Svm.Instruction} {accounts : List Svm.Account}
    (hixs : deserializeInstructions ixBuf = .ok ixs)
    (haccounts : deserializeAccounts acctBuf = .ok (accounts.map Svm.Account.toPair))
    (hfits : Fits cr rt svm (.process ixs accounts order)) :
    Ensures cr rt tryFrom bundle t (Owns ((b, .vm svm) :: objects))
      ((handle b).exec ixBuf acctBuf order)
      (Returns
        (match (svm.processInstructionChain (cr.withOrder order.iter) rt ixs accounts).2 with
        | .ok r => .ok (ExecutionResult.ofResult tryFrom r)
        | .error _ =>
            .error (.runtimeError "Execution error (-99): Panic during transaction execution"))
        ((b, .vm (svm.processInstructionChain (cr.withOrder order.iter) rt ixs accounts).1) ::
          objects)) := by
  refine ensures_bind (ensures_execute textOr_eq hixs haccounts) ?_ ?_
  · intro bytes hbytes
    cases hreply : (svm.processInstructionChain (cr.withOrder order.iter) rt ixs accounts).2 with
    | ok r =>
        rw [hreply] at hbytes
        cases hbytes
        rw [deserializeResult_serializeResult (hfits r hreply)]
        exact ensures_pure _
    | error m =>
        rw [hreply] at hbytes
        cases hbytes
  · intro e he
    cases hreply : (svm.processInstructionChain (cr.withOrder order.iter) rt ixs accounts).2 with
    | ok r =>
        rw [hreply] at he
        cases he
    | error m =>
        rw [hreply] at he
        cases he
        exact ⟨rfl, rfl⟩

theorem serializeInput_eq {ixs : List Svm.Instruction} {accounts : List Svm.Account}
    (hixs : FitsInstructions ixs) (haccounts : FitsAccounts accounts) :
    serializeInstructions (ixs.map soldersInstructionToWire) =
        .ok (writeList writeInstruction ixs) ∧
      serializeAccounts ((accounts.map AccountInput.ofAccount).map keyedAccountToWire) =
        .ok (writeList writeAccount accounts) := by
  refine ⟨serializeInstructions_eq hixs, ?_⟩
  rw [List.map_map]
  exact serializeAccounts_eq haccounts

theorem ensures_process {order : SetOrder} {ixs : List Svm.Instruction}
    {accounts : List Svm.Account} {ixBuf acctBuf : Except EncodeError Bytes}
    (hixBuf : ixBuf = .ok (writeList writeInstruction ixs))
    (hacctBuf : acctBuf = .ok (writeList writeAccount accounts))
    (hixs : FitsInstructions ixs) (haccounts : FitsAccounts accounts)
    (hfits : Fits cr rt svm (.process ixs accounts order)) :
    Ensures cr rt tryFrom bundle t (Owns ((b, .vm svm) :: objects))
      (do
        let r ← (handle b).execEncoded ixBuf acctBuf order
        pure (some r))
      (Returns ((machine cr rt tryFrom).step svm (.process ixs accounts order)).2
        ((b, .vm ((machine cr rt tryFrom).step svm (.process ixs accounts order)).1) ::
          objects)) := by
  have hreply : ((machine cr rt tryFrom).step svm (.process ixs accounts order)).2 =
      Except.map some
        (match (svm.processInstructionChain (cr.withOrder order.iter) rt ixs accounts).2 with
        | .ok r => .ok (ExecutionResult.ofResult tryFrom r)
        | .error _ =>
            .error (.runtimeError "Execution error (-99): Panic during transaction execution")) := by
    simp only [machine, clientMachine_step_process]
    cases (svm.processInstructionChain (cr.withOrder order.iter) rt ixs accounts).2 with
    | ok r => rfl
    | error m => rfl
  rw [hreply, hixBuf, hacctBuf]
  exact ensures_map _ (ensures_exec (deserializeInstructions_write hixs)
    (deserializeAccounts_write haccounts) hfits)

theorem ensures_perform {method : Method} {call : ClientCall} (h : Asks method call)
    (hfits : Fits cr rt svm call) :
    Ensures cr rt tryFrom bundle t (Owns ((b, .vm svm) :: objects)) ((handle b).perform method)
      (Returns ((machine cr rt tryFrom).step svm call).2
        ((b, .vm ((machine cr rt tryFrom).step svm call).1) :: objects)) := by
  cases h with
  | addProgram programId elf loaderVersion => exact ensures_addProgram programId elf loaderVersion
  | setter call => exact ensures_set call
  | processInstruction hixs hfitsAccounts order =>
      rcases serializeInput_eq hixs hfitsAccounts with ⟨hixBuf, hacctBuf⟩
      exact ensures_process hixBuf hacctBuf hixs hfitsAccounts hfits
  | processInstructionChain hixs hfitsAccounts order =>
      rcases serializeInput_eq hixs hfitsAccounts with ⟨hixBuf, hacctBuf⟩
      exact ensures_process hixBuf hacctBuf hixs hfitsAccounts hfits

end Python

end Bindings
end Quasar
