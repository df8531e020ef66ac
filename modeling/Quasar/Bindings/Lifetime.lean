import Quasar.Bindings.Session

/-!
# Lifetime — a client from its constructor to its last free

A session is any list of methods, on a VM that a constructor made and that is freed at least once
afterwards.  Whatever the other threads call in between, the session returns what the engine replies
to the same calls on a new VM, it frees all that it was handed, and nothing is freed twice.
-/

namespace Quasar
namespace Bindings

open Lib
open Ffi
open Svm (Bytes Bundle Crates Runtime QuasarSvm Pubkey Operation Reply splTokenProgramId
  splToken2022ProgramId splAssociatedTokenProgramId)
open Svm.QuasarSvm (SamePrograms Loaded drawnMachine loaded_new sampleBundle)

/-! ## Sessions -/

/-- Methods one after another; what a method throws is left to the caller, who goes on. -/
def session {ε μ ρ : Type} (perform : μ → ExceptT ε (Script Request Answer) ρ) (methods : List μ) :
    Script Request Answer (List (Except ε ρ)) :=
  Script.forEach (fun method => (perform method).run) methods

/-- A client as a program uses it: a constructor, methods, and what frees the object. -/
def lifeWith {ε ω μ ρ : Type} (construct : ExceptT ε (Script Request Answer) ω)
    (perform : ω → μ → ExceptT ε (Script Request Answer) ρ) (close : ω → Script Request Answer Unit)
    (methods : List μ) : Script Request Answer (Except ε (List (Except ε ρ))) :=
  construct.run.bind fun
    | .error e => .done (.error e)
    | .ok object =>
        (session (perform object) methods).bind fun outs =>
          (close object).bind fun _ => .done (.ok outs)

section Sessions

variable {τ : Type} [DecidableEq τ] {cr : Crates} {rt : Runtime} {tryFrom : Conversion}
  {bundle : Bundle} {t : τ} {objects : List (Nat × Object)} {svm svm' : QuasarSvm} {b : Nat}
  {ε μ ρ : Type}

/-- The thread owns a VM that finds the same programs as `svm`, beside its other objects. -/
def OwnsLike (b : Nat) (svm : QuasarSvm) (objects : List (Nat × Object)) (w : World τ) : Prop :=
  ∃ svm', SamePrograms svm svm' ∧ Owns ((b, .vm svm') :: objects) w

theorem OwnsLike.stable :
    Script.Stable (Others cr rt tryFrom bundle t) (OwnsLike (τ := τ) b svm objects) :=
  Script.Stable.exists fun _ => Owns.stable.and_left

theorem SamePrograms.operation_eq (h : SamePrograms svm svm') (call : ClientCall) :
    call.operation cr svm' = call.operation cr svm := by
  rcases h with ⟨logger, pc, _, rfl⟩
  cases call with
  | set call =>
      cases call with
      | setter call =>
          cases call with
          | _ => rfl
      | _ => rfl
  | _ => rfl

theorem SamePrograms.fits (h : SamePrograms svm svm') {call : ClientCall}
    (hfits : Fits cr rt svm call) : Fits cr rt svm' call := by
  cases call with
  | process ixs accounts order =>
      intro r hr
      have hreply : (svm.processInstructionChain (cr.withOrder order.iter) rt ixs accounts).2 =
          (svm'.processInstructionChain (cr.withOrder order.iter) rt ixs accounts).2 :=
        (h.executeInner _ rt ixs accounts true).1
      exact hfits r (hreply.trans hr)
  | _ => trivial

/-- Every step of a client leaves VMs that find the same programs alike. -/
theorem clientMachine_bisimulation (thrown : String → ε) (view : Svm.ExecutionResult → ρ) :
    (clientMachine cr rt thrown view).Bisimulation SamePrograms := by
  have hsame : ∀ svm svm' (call : ClientCall), SamePrograms svm svm' →
      ((drawnMachine cr rt).step svm (call.operation cr svm)).2 =
          ((drawnMachine cr rt).step svm' (call.operation cr svm')).2 ∧
        SamePrograms ((drawnMachine cr rt).step svm (call.operation cr svm)).1
          ((drawnMachine cr rt).step svm' (call.operation cr svm')).1 := by
    intro svm svm' call h
    rw [SamePrograms.operation_eq h]
    exact h.operate _
  exact
    { reply := fun svm svm' call h => congrArg (outcome thrown view) (hsame svm svm' call h).1
      next := fun svm svm' call h => (hsame svm svm' call h).2 }

variable {m : Machine QuasarSvm ClientCall (Except ε ρ)}
  {perform : μ → ExceptT ε (Script Request Answer) ρ} {Asks : μ → ClientCall → Prop}

/-- When each method does what it asks of the engine, so does a session. -/
theorem meets_session (hm : m.Bisimulation SamePrograms)
    (hperform : ∀ svm method call, Asks method call → Fits cr rt svm call →
      Ensures cr rt tryFrom bundle t (Owns ((b, .vm svm) :: objects)) (perform method)
        (Returns (m.step svm call).2 ((b, .vm (m.step svm call).1) :: objects)))
    {methods : List μ} {calls : List ClientCall} (h : List.Forall₂ Asks methods calls)
    (hfits : ∀ p ∈ m.steps svm calls, Fits cr rt p.1 p.2) :
    Script.Meets (host cr rt tryFrom bundle t) (Others cr rt tryFrom bundle t)
      (OwnsLike b svm objects) (session perform methods)
      fun outs w => outs = m.replies svm calls ∧ OwnsLike b (m.after svm calls) objects w := by
  induction h generalizing svm with
  | nil => exact Script.Meets.done OwnsLike.stable.and_left fun w hw => ⟨rfl, hw⟩
  | cons hasks hrest ih =>
      rename_i method call methods calls
      rcases List.forall_mem_cons.1 hfits with ⟨hfit, hfits⟩
      refine Script.Meets.bind (Q := fun out w => out = (m.step svm call).2 ∧
        OwnsLike b (m.step svm call).1 objects w) ?_ ?_
      · refine Script.Meets.of_exists ?_
        intro svm'
        refine Script.Meets.of_and_left ?_
        intro hsame
        have hmethod := hperform svm' method call hasks (SamePrograms.fits hsame hfit)
        refine hmethod.mono (fun _ hw => hw) ?_
        rintro out w ⟨rfl, hw⟩
        exact ⟨(hm.reply svm svm' call hsame).symm, _, hm.next svm svm' call hsame, hw⟩
      · intro out
        refine Script.Meets.of_and_left ?_
        rintro rfl
        refine Script.Meets.bind (ih hfits) ?_
        intro outs
        refine Script.Meets.of_and_left ?_
        rintro rfl
        exact Script.Meets.done OwnsLike.stable.and_left fun w hw => ⟨rfl, hw⟩

/-- A life is a session between a constructor that makes a new VM and what frees it. -/
theorem meets_lifeWith {ω : Type} {handle : Nat → ω} {close : ω → Script Request Answer Unit}
    {construct : ExceptT ε (Script Request Answer) ω}
    {perform : ω → μ → ExceptT ε (Script Request Answer) ρ}
    (hm : m.Bisimulation SamePrograms)
    (hconstruct : Ensures cr rt tryFrom bundle t (Owns objects) construct
      fun out w => ∃ b, out = .ok (handle b) ∧ OwnsLike b svm objects w)
    (hperform : ∀ b svm method call, Asks method call → Fits cr rt svm call →
      Ensures cr rt tryFrom bundle t (Owns ((b, .vm svm) :: objects)) (perform (handle b) method)
        (Returns (m.step svm call).2 ((b, .vm (m.step svm call).1) :: objects)))
    (hclose : ∀ b svm, Script.Meets (host cr rt tryFrom bundle t) (Others cr rt tryFrom bundle t)
      (OwnsLike b svm objects) (close (handle b)) fun _ w => Owns objects w)
    {methods : List μ} {calls : List ClientCall} (h : List.Forall₂ Asks methods calls)
    (hfits : ∀ p ∈ m.steps svm calls, Fits cr rt p.1 p.2) :
    Script.Meets (host cr rt tryFrom bundle t) (Others cr rt tryFrom bundle t) (Owns objects)
      (lifeWith construct perform close methods)
      (Returns (.ok (m.replies svm calls)) objects) := by
  refine Script.Meets.bind hconstruct ?_
  intro out
  refine Script.Meets.of_exists ?_
  intro b
  refine Script.Meets.of_and_left ?_
  rintro rfl
  refine Script.Meets.bind (meets_session hm (hperform b) h hfits) ?_
  intro outs
  refine Script.Meets.of_and_left ?_
  rintro rfl
  refine Script.Meets.bind (hclose b _) ?_
  intro _
  exact Script.Meets.done (Returns.stable _ _) fun w hw => ⟨rfl, hw⟩

/-- Where no VM can be made, the constructor throws and nothing is handed out. -/
theorem meets_lifeWith_of_error {ω : Type} {close : ω → Script Request Answer Unit}
    {construct : ExceptT ε (Script Request Answer) ω}
    {perform : ω → μ → ExceptT ε (Script Request Answer) ρ} {e : ε}
    (hconstruct : Ensures cr rt tryFrom bundle t (Owns objects) construct
      (Returns (.error e) objects)) (methods : List μ) :
    Script.Meets (host cr rt tryFrom bundle t) (Others cr rt tryFrom bundle t) (Owns objects)
      (lifeWith construct perform close methods) (Returns (.error e) objects) := by
  refine Script.Meets.bind hconstruct ?_
  intro out
  refine Script.Meets.of_and_left ?_
  rintro rfl
  exact Script.Meets.done (Returns.stable _ _) fun w hw => ⟨rfl, hw⟩

end Sessions

/-! ## The bundled programs, as the clients find them -/

/-- The program ids in text form are those of the engine. -/
structure KnowsPrograms (toBytes : String → Option Bytes) : Prop where
  token : toBytes "TokenkegQfeZyiNwAJbNbGKPFXCWuBvf9Ss623VQ5DA" = some splTokenProgramId.bytes
  token2022 :
    toBytes "TokenzQdBNbLqP5VEhdkAS6EPFLC1PHnBqCXEpPxuEb" = some splToken2022ProgramId.bytes
  associatedToken :
    toBytes "ATokenGPvbdGVxr1b2hvZbsiqW5xWH25efTNsLJA8knL" =
      some splAssociatedTokenProgramId.bytes

/-- The files of a client are those that are compiled into the library. -/
structure Installed (loadElf : String → Bytes) (bundle : Bundle) : Prop where
  token : loadElf "spl_token.so" = bundle.splToken
  token2022 : loadElf "spl_token_2022.so" = bundle.splToken2022
  associatedToken : loadElf "spl_associated_token.so" = bundle.splAssociatedToken

/-! ### A session -/

def sampleElf : String → Bytes
  | "spl_token.so" => [1]
  | "spl_token_2022.so" => [2]
  | _ => [3]

theorem installed_sample : Installed sampleElf sampleBundle := by
  constructor <;> rfl

/-- The base-58 texts in the packages are the ids. -/
theorem knowsPrograms_base58 : KnowsPrograms base58Address := by
  constructor <;> decide +kernel

/-- The slot is set, and a transaction of two instructions is executed with an account. -/
def sampleCalls : List ClientCall :=
  [.set (.setter (.warpToSlot 7)), .process sampleInstructions sampleAccounts .reverse]

theorem fits_sampleCalls : ∀ svm ∈ QuasarSvm.new Svm.Reference.crates sampleBundle,
    Fits Svm.Reference.crates Svm.Reference.idleRuntime
      (svm.operate Svm.Reference.crates Svm.Reference.idleRuntime (.warpToSlot 7)).1
      (.process sampleInstructions sampleAccounts .reverse) := by
  rintro svm hsvm
  cases hsvm
  intro r hr
  rw [QuasarSvm.processInstructionChain_of_ok (QuasarSvm.run_of_prepare rfl) rfl] at hr
  cases hr
  constructor
  case preTokenBalance => exact fun tb htb => absurd htb List.not_mem_nil
  case postTokenBalance => exact fun tb htb => absurd htb List.not_mem_nil
  case instruction => exact fun instr hinstr => absurd hinstr List.not_mem_nil
  all_goals decide +kernel

/-- Code that returns, and the code after it. -/
theorem ensures_ok_bind {τ : Type} [DecidableEq τ] {cr : Crates} {rt : Runtime}
    {tryFrom : Conversion} {bundle : Bundle} {t : τ} {ε α β : Type}
    {c : ExceptT ε (Script Request Answer) α} {f : α → ExceptT ε (Script Request Answer) β}
    {P R : World τ → Prop} {Q : Except ε β → World τ → Prop} {a : α}
    (hc : Ensures cr rt tryFrom bundle t P c fun out w => out = .ok a ∧ R w)
    (hf : Ensures cr rt tryFrom bundle t R (f a) Q) :
    Ensures cr rt tryFrom bundle t P (c >>= f) Q := by
  refine Script.Meets.throwing_bind hc ?_ ?_
  · intro a'
    refine Script.Meets.of_and_left ?_
    intro ha
    cases ha
    exact hf
  · intro e
    refine Script.Meets.of_and_left ?_
    intro he
    cases he

section Loading

variable {τ : Type} [DecidableEq τ] {cr : Crates} {rt : Runtime} {tryFrom : Conversion}
  {bundle : Bundle} {t : τ} {objects : List (Nat × Object)} {svm : QuasarSvm} {b : Nat} {ε : Type}
  {thrown : String → ε} {textOr : Option String → String}

/-- Loading a program that the VM has makes no difference. -/
theorem ensures_reload (htext : ∀ m, m ≠ "" → textOr (some m) = m) {programId : Pubkey}
    {elf : Bytes} {loaderVersion : UInt8}
    (hloaded : Loaded cr svm programId (loaderKey cr loaderVersion) elf) :
    Ensures cr rt tryFrom bundle t (OwnsLike b svm objects)
      (Native.callWith (Native.checkWith thrown textOr) (some b)
        (.addProgram (some programId) (some elf) loaderVersion))
      fun out w => out = .ok () ∧ OwnsLike b svm objects w := by
  refine Script.Meets.of_exists ?_
  intro svm'
  refine Script.Meets.of_and_left ?_
  intro hsame
  rcases hsame.reload hloaded with ⟨hreply, hagain⟩
  refine Script.Meets.mono (ensures_addProgram htext programId elf loaderVersion)
    (fun _ hw => hw) ?_
  intro out w hout
  rw [hreply] at hout
  exact ⟨hout.1, _, hagain, hout.2⟩

end Loading

/-! ## The TypeScript packages -/

namespace Node

/-- `free`, and whatever disposes of the object again. -/
def close (disposals : Nat) (svm : QuasarSvmBase) : Script Request Answer Unit :=
  svm.free.bind fun svm => (svm.disposeTimes disposals).bind fun _ => .done ()

variable {τ : Type} [DecidableEq τ] {cr : Crates} {rt : Runtime} {tryFrom : Conversion}
  {bundle : Bundle} {t : τ} {objects : List (Nat × Object)} {svm : QuasarSvm} {b : Nat}
  {addProgram : QuasarSvmBase → String → Bytes → UInt8 → Code Unit} {loadElf : String → Bytes}

theorem ensures_loadIf (asked : Option Bool) {text : String} {id : Pubkey} {elf : Bytes}
    {loaderVersion : UInt8}
    (hadd : ∀ svm elf loaderVersion,
      addProgram svm text elf loaderVersion = addProgramAt svm (some id.bytes) elf loaderVersion)
    (hloaded : Loaded cr svm id (loaderKey cr loaderVersion) elf) :
    Ensures cr rt tryFrom bundle t (OwnsLike b svm objects)
      (loadIf asked (addProgram (handle b) text elf loaderVersion))
      fun out w => out = .ok () ∧ OwnsLike b svm objects w := by
  have hat : programIdAt (some id.bytes) = some id := by simp [programIdAt, id.size]
  unfold loadIf
  split
  · rw [hadd, addProgramAt, hat]
    exact ensures_reload textOr_eq hloaded
  · exact Script.Meets.pure OwnsLike.stable.and_left fun w hw => ⟨rfl, hw⟩

theorem ensures_new (hnew : QuasarSvm.new cr bundle = some svm) :
    Ensures cr rt tryFrom bundle t (Owns objects) QuasarSvmBase.new
      fun out w => ∃ b, out = .ok (handle b) ∧ OwnsLike b svm objects w := by
  refine Script.Meets.throwing_bind (ensures_createWith hnew) ?_ ?_
  · intro b
    refine Script.Meets.of_exists ?_
    intro b'
    refine Script.Meets.of_and_left ?_
    intro hb
    cases hb
    refine Script.Meets.pure ?_ fun w hw => ⟨b, rfl, svm, Svm.QuasarSvm.SamePrograms.refl svm, hw⟩
    exact Script.Stable.exists fun _ => OwnsLike.stable.and_left
  · intro e
    refine Script.Meets.of_exists ?_
    intro b
    refine Script.Meets.of_and_left ?_
    intro he
    cases he

/-- The program ids that the constructor has as texts are those of the engine to `addProgram`. -/
structure ReachesPrograms (addProgram : QuasarSvmBase → String → Bytes → UInt8 → Code Unit) :
    Prop where
  token : ∀ svm elf loaderVersion,
    addProgram svm "TokenkegQfeZyiNwAJbNbGKPFXCWuBvf9Ss623VQ5DA" elf loaderVersion =
      addProgramAt svm (some splTokenProgramId.bytes) elf loaderVersion
  token2022 : ∀ svm elf loaderVersion,
    addProgram svm "TokenzQdBNbLqP5VEhdkAS6EPFLC1PHnBqCXEpPxuEb" elf loaderVersion =
      addProgramAt svm (some splToken2022ProgramId.bytes) elf loaderVersion
  associatedToken : ∀ svm elf loaderVersion,
    addProgram svm "ATokenGPvbdGVxr1b2hvZbsiqW5xWH25efTNsLJA8knL" elf loaderVersion =
      addProgramAt svm (some splAssociatedTokenProgramId.bytes) elf loaderVersion

theorem reachesPrograms_kit {codec : AddressCodec} (h : KnowsPrograms codec.encode) :
    ReachesPrograms (Kit.addProgram codec) := by
  constructor
  case token =>
    intro svm elf loaderVersion
    rw [Kit.addProgram, h.token]
  case token2022 =>
    intro svm elf loaderVersion
    rw [Kit.addProgram, h.token2022]
  case associatedToken =>
    intro svm elf loaderVersion
    rw [Kit.addProgram, h.associatedToken]

theorem reachesPrograms_web3 {codec : AddressCodec} (h : KnowsPrograms codec.addressBytes) :
    ReachesPrograms (Web3.addProgramText codec) := by
  constructor
  case token =>
    intro svm elf loaderVersion
    rw [Web3.addProgramText, h.token]
    rfl
  case token2022 =>
    intro svm elf loaderVersion
    rw [Web3.addProgramText, h.token2022]
    rfl
  case associatedToken =>
    intro svm elf loaderVersion
    rw [Web3.addProgramText, h.associatedToken]
    rfl

/-- Whatever is asked for, the VM behind the object finds the programs of a new one. -/
theorem ensures_construct (hnew : QuasarSvm.new cr bundle = some svm)
    (hfiles : Installed loadElf bundle) (hids : ReachesPrograms addProgram)
    (config : QuasarSvmConfig) :
    Ensures cr rt tryFrom bundle t (Owns objects) (construct addProgram loadElf config)
      fun out w => ∃ b, out = .ok (handle b) ∧ OwnsLike b svm objects w := by
  rcases loaded_new hnew with ⟨hloaded, hloaded2022, hloadedAssociated⟩
  rw [← hfiles.token] at hloaded
  rw [← hfiles.token2022] at hloaded2022
  rw [← hfiles.associatedToken] at hloadedAssociated
  -- The programs are loaded one after another on the VM that was made.
  have hload : ∀ b, Ensures cr rt tryFrom bundle t (OwnsLike b svm objects)
      (do
        loadIf config.token
          (addProgram (handle b) "TokenkegQfeZyiNwAJbNbGKPFXCWuBvf9Ss623VQ5DA"
            (loadElf "spl_token.so") 2)
        loadIf config.token2022
          (addProgram (handle b) "TokenzQdBNbLqP5VEhdkAS6EPFLC1PHnBqCXEpPxuEb"
            (loadElf "spl_token_2022.so") 3)
        loadIf config.associatedToken
          (addProgram (handle b) "ATokenGPvbdGVxr1b2hvZbsiqW5xWH25efTNsLJA8knL"
            (loadElf "spl_associated_token.so") 2)
        pure (handle b))
      fun out w => ∃ b, out = .ok (handle b) ∧ OwnsLike b svm objects w := by
    intro b
    refine ensures_ok_bind (ensures_loadIf config.token hids.token hloaded) ?_
    refine ensures_ok_bind (ensures_loadIf config.token2022 hids.token2022 hloaded2022) ?_
    refine ensures_ok_bind
      (ensures_loadIf config.associatedToken hids.associatedToken hloadedAssociated) ?_
    refine Script.Meets.pure ?_ fun w hw => ⟨b, rfl, hw⟩
    exact Script.Stable.exists fun _ => OwnsLike.stable.and_left
  refine Script.Meets.throwing_bind (ensures_new hnew) ?_ ?_
  · intro object
    refine Script.Meets.of_exists ?_
    intro b
    refine Script.Meets.of_and_left ?_
    intro hobject
    cases hobject
    exact hload b
  · intro e
    refine Script.Meets.of_exists ?_
    intro b
    refine Script.Meets.of_and_left ?_
    intro hobject
    cases hobject

theorem ensures_construct_of_none (hnew : QuasarSvm.new cr bundle = none)
    (config : QuasarSvmConfig) :
    Ensures cr rt tryFrom bundle t (Owns objects) (construct addProgram loadElf config)
      (Returns (.error (.error "Failed to create QuasarSvm: Panic during SVM creation"))
        objects) := by
  have hcreate : Ensures cr rt tryFrom bundle t (Owns objects) QuasarSvmBase.new
      (Returns (.error (.error "Failed to create QuasarSvm: Panic during SVM creation"))
        objects) := by
    refine ensures_bind (ensures_createWith_of_none textOr_eq hnew) ?_ ?_
    · intro b hb
      cases hb
    · intro e he
      cases he
      exact ⟨rfl, rfl⟩
  refine ensures_bind hcreate ?_ ?_
  · intro object hobject
    cases hobject
  · intro e he
    cases he
    exact ⟨rfl, rfl⟩

theorem meets_free :
    Script.Meets (host cr rt tryFrom bundle t) (Others cr rt tryFrom bundle t)
      (OwnsLike b svm objects) (handle b).free
      fun object w => object = { ptr := some b, freed := true } ∧ Owns objects w := by
  refine Script.Meets.of_exists ?_
  intro svm'
  refine Script.Meets.of_and_left ?_
  intro _
  refine Script.Meets.bind meets_svmFree ?_
  intro _
  exact Script.Meets.done Owns.stable.and_left fun w hw => ⟨rfl, hw⟩

/-- An object that was freed is not freed again. -/
theorem meets_disposeTimes (disposals : Nat) :
    Script.Meets (host cr rt tryFrom bundle t) (Others cr rt tryFrom bundle t) (Owns objects)
      (({ ptr := some b, freed := true } : QuasarSvmBase).disposeTimes disposals)
      fun _ w => Owns objects w := by
  induction disposals with
  | zero => exact Script.Meets.done Owns.stable fun w hw => hw
  | succ n ih => exact ih

theorem meets_close (disposals : Nat) :
    Script.Meets (host cr rt tryFrom bundle t) (Others cr rt tryFrom bundle t)
      (OwnsLike b svm objects) (close disposals (handle b)) fun _ w => Owns objects w := by
  refine Script.Meets.bind meets_free ?_
  intro object
  refine Script.Meets.of_and_left ?_
  rintro rfl
  refine Script.Meets.bind (meets_disposeTimes disposals) ?_
  intro _
  exact Script.Meets.done Owns.stable fun w hw => hw

/-- What a life returns: the replies of a new VM, or the failure of the constructor. -/
def sessionResult (cr : Crates) (rt : Runtime) (tryFrom : Conversion) (bundle : Bundle)
    (calls : List ClientCall) : Except Thrown (List (Except Thrown (Option InternalResult))) :=
  match QuasarSvm.new cr bundle with
  | some svm => .ok ((machine cr rt tryFrom).replies svm calls)
  | none => .error (.error "Failed to create QuasarSvm: Panic during SVM creation")

/-- Both packages live like this, whatever their `addProgram` does to get the bytes of an id. -/
theorem meets_life {μ : Type} {perform : QuasarSvmBase → μ → Code (Option InternalResult)}
    {Asks : μ → ClientCall → Prop} (hfiles : Installed loadElf bundle)
    (hids : ReachesPrograms addProgram)
    (hperform : ∀ b svm method call, Asks method call → Fits cr rt svm call →
      Ensures cr rt tryFrom bundle t (Owns ((b, .vm svm) :: objects)) (perform (handle b) method)
        (Returns ((machine cr rt tryFrom).step svm call).2
          ((b, .vm ((machine cr rt tryFrom).step svm call).1) :: objects)))
    {methods : List μ} {calls : List ClientCall} (h : List.Forall₂ Asks methods calls)
    (hfits : ∀ svm ∈ QuasarSvm.new cr bundle,
      ∀ p ∈ (machine cr rt tryFrom).steps svm calls, Fits cr rt p.1 p.2)
    (config : QuasarSvmConfig) (disposals : Nat) :
    Script.Meets (host cr rt tryFrom bundle t) (Others cr rt tryFrom bundle t) (Owns objects)
      (lifeWith (construct addProgram loadElf config) perform (close disposals) methods)
      (Returns (sessionResult cr rt tryFrom bundle calls) objects) := by
  unfold sessionResult
  cases hnew : QuasarSvm.new cr bundle with
  | none => exact meets_lifeWith_of_error (ensures_construct_of_none hnew config) methods
  | some svm =>
      exact meets_lifeWith (clientMachine_bisimulation .error (viewResult tryFrom))
        (ensures_construct hnew hfiles hids config) hperform
        (fun b svm => meets_close disposals) h (hfits svm hnew)

/-- Through either TypeScript package, with whatever configuration, whatever orders its executions
draw and whatever the other threads call meanwhile: a client is never left with an undefined call, it
returns what a new VM of the engine replies to the same calls and draws, decoded, and it has freed all
that it was handed, once. -/
theorem typescript_sessions {codec : AddressCodec} {toUtf8 : Bytes → String}
    (hutf8 : ∀ s, toUtf8 (utf8 s) = s) (hkit : KnowsPrograms codec.encode)
    (hweb3 : KnowsPrograms codec.addressBytes) (hfiles : Installed loadElf bundle)
    {calls : List ClientCall}
    (hfits : ∀ svm ∈ QuasarSvm.new cr bundle,
      ∀ p ∈ (machine cr rt tryFrom).steps svm calls, Fits cr rt p.1 p.2)
    {kitMethods : List Kit.Method} (hkitAsks : List.Forall₂ (Kit.Asks codec) kitMethods calls)
    {web3Methods : List Web3.Method}
    (hweb3Asks : List.Forall₂ (Web3.Asks codec) web3Methods calls)
    (config : QuasarSvmConfig) (disposals : Nat) :
    Script.Meets (host cr rt tryFrom bundle t) (Others cr rt tryFrom bundle t) (Owns objects)
        (lifeWith (Kit.QuasarSvm.new codec loadElf config) (Kit.perform codec toUtf8)
          (close disposals) kitMethods)
        (Returns (sessionResult cr rt tryFrom bundle calls) objects) ∧
      Script.Meets (host cr rt tryFrom bundle t) (Others cr rt tryFrom bundle t) (Owns objects)
        (lifeWith (Web3.QuasarSvm.new codec loadElf config) (Web3.perform codec toUtf8)
          (close disposals) web3Methods)
        (Returns (sessionResult cr rt tryFrom bundle calls) objects) := by
  refine ⟨?_, ?_⟩
  · refine meets_life hfiles (reachesPrograms_kit hkit) ?_ hkitAsks hfits config disposals
    intro b svm method call hasks hfit
    exact Kit.ensures_perform hutf8 hasks hfit
  · refine meets_life hfiles (reachesPrograms_web3 hweb3) ?_ hweb3Asks hfits config disposals
    intro b svm method call hasks hfit
    exact Web3.ensures_perform hutf8 hasks hfit

/-- Thread `1` asks for the associated token program only, and disposes of its VM once more. -/
theorem typescript_sessions_sample :
    Script.Meets
        (host Svm.Reference.crates Svm.Reference.idleRuntime Ffi.ProgramError.tryFrom sampleBundle 1)
        (Others Svm.Reference.crates Svm.Reference.idleRuntime Ffi.ProgramError.tryFrom
          sampleBundle 1)
        (Owns [])
        (lifeWith
          (Kit.QuasarSvm.new base58Codec sampleElf
            { token := some false
              token2022 := some false
              associatedToken := none })
          (Kit.perform base58Codec utf8Lossy) (close 1)
          [.setter (.setter (.warpToSlot 7)),
            .processInstructionChain [sampleKitInstruction, sampleBareInstruction]
              [sampleKitAccount] .reverse])
        (Returns
          (sessionResult Svm.Reference.crates Svm.Reference.idleRuntime Ffi.ProgramError.tryFrom
            sampleBundle sampleCalls) []) ∧
      Script.Meets
        (host Svm.Reference.crates Svm.Reference.idleRuntime Ffi.ProgramError.tryFrom sampleBundle 1)
        (Others Svm.Reference.crates Svm.Reference.idleRuntime Ffi.ProgramError.tryFrom
          sampleBundle 1)
        (Owns [])
        (lifeWith
          (Web3.QuasarSvm.new base58Codec sampleElf
            { token := some false
              token2022 := some false
              associatedToken := none })
          (Web3.perform base58Codec utf8Lossy) (close 1)
          [.setter (.setter (.warpToSlot 7)),
            .processInstructionChain sampleWeb3Instructions [sampleWeb3Account] .reverse])
        (Returns
          (sessionResult Svm.Reference.crates Svm.Reference.idleRuntime Ffi.ProgramError.tryFrom
            sampleBundle sampleCalls) []) := by
  have hkit : List.Forall₂ (Kit.Asks base58Codec) _ sampleCalls :=
    .cons (.setter _)
      (.cons (.processInstructionChain kit_represents_sample kit_representsAccount_sample
        fits_sampleInstructions fits_sampleAccounts _) .nil)
  have hweb3 : List.Forall₂ (Web3.Asks base58Codec) _ sampleCalls :=
    .cons (.setter _)
      (.cons (.processInstructionChain web3_represents_sample web3_representsAccount_sample
        fits_sampleInstructions fits_sampleAccounts _) .nil)
  refine typescript_sessions utf8Lossy_utf8 knowsPrograms_base58 knowsPrograms_base58
    installed_sample ?_ hkit hweb3 _ 1
  intro svm hsvm p hp
  rcases List.mem_cons.1 hp with rfl | hp
  · trivial
  rcases List.mem_cons.1 hp with rfl | hp
  · exact fits_sampleCalls svm hsvm
  · cases hp

end Node

/-! ## Python -/

namespace Python

/-- The first free, by hand or at the end of a `with` block, and all that follow it. -/
def close (frees : Nat) (object : Python.QuasarSvm) : Script Request Answer Unit :=
  (object.freeTimes (frees + 1)).bind fun _ => .done ()

variable {τ : Type} [DecidableEq τ] {cr : Crates} {rt : Runtime} {tryFrom : Conversion}
  {bundle : Bundle} {t : τ} {objects : List (Nat × Object)} {svm : Svm.QuasarSvm} {b : Nat}
  {loadElf : String → Bytes}

/-- The Python client leaves VMs that find the same programs alike too. -/
theorem machine_bisimulation : (machine cr rt tryFrom).Bisimulation SamePrograms := by
  have hclient : (clientMachine cr rt Thrown.runtimeError
      (ExecutionResult.ofResult tryFrom)).Bisimulation SamePrograms :=
    clientMachine_bisimulation _ _
  have hstep : ∀ svm svm' call, SamePrograms svm svm' →
      ((machine cr rt tryFrom).step svm call).2 = ((machine cr rt tryFrom).step svm' call).2 ∧
        SamePrograms ((machine cr rt tryFrom).step svm call).1
          ((machine cr rt tryFrom).step svm' call).1 := by
    intro svm svm' call h
    have hother := And.intro (hclient.reply svm svm' call h) (hclient.next svm svm' call h)
    cases call with
    | set call =>
        cases call with
        | setter call =>
            cases call with
            | setRent lamportsPerByteYear => exact ⟨rfl, h⟩
            | _ => exact hother
        | _ => exact hother
    | _ => exact hother
  exact
    { reply := fun svm svm' call h => (hstep svm svm' call h).1
      next := fun svm svm' call h => (hstep svm svm' call h).2 }

theorem ensures_loadIf (asked : Bool) {id : Pubkey} {elf : Bytes} {loaderVersion : UInt8}
    (hloaded : Loaded cr svm id (loaderKey cr loaderVersion) elf) :
    Ensures cr rt tryFrom bundle t (OwnsLike b svm objects)
      (QuasarSvm.loadIf asked ((handle b).addProgram id elf loaderVersion))
      fun out w => out = .ok () ∧ OwnsLike b svm objects w := by
  unfold Python.QuasarSvm.loadIf
  split
  · exact ensures_reload textOr_eq hloaded
  · exact Script.Meets.pure OwnsLike.stable.and_left fun w hw => ⟨rfl, hw⟩

theorem ensures_create (hnew : Svm.QuasarSvm.new cr bundle = some svm) :
    Ensures cr rt tryFrom bundle t (Owns objects) Python.QuasarSvm.create
      fun out w => ∃ b, out = .ok (handle b) ∧ OwnsLike b svm objects w := by
  refine Script.Meets.throwing_bind (ensures_createWith hnew) ?_ ?_
  · intro b
    refine Script.Meets.of_exists ?_
    intro b'
    refine Script.Meets.of_and_left ?_
    intro hb
    cases hb
    refine Script.Meets.pure ?_ fun w hw => ⟨b, rfl, svm, Svm.QuasarSvm.SamePrograms.refl svm, hw⟩
    exact Script.Stable.exists fun _ => OwnsLike.stable.and_left
  · intro e
    refine Script.Meets.of_exists ?_
    intro b
    refine Script.Meets.of_and_left ?_
    intro he
    cases he

theorem ensures_new (hnew : Svm.QuasarSvm.new cr bundle = some svm)
    (hfiles : Installed loadElf bundle) (loadToken loadToken2022 loadAssociatedToken : Bool) :
    Ensures cr rt tryFrom bundle t (Owns objects)
      (Python.QuasarSvm.new splTokenProgramId splToken2022ProgramId splAssociatedTokenProgramId
        loadElf loadToken loadToken2022 loadAssociatedToken)
      fun out w => ∃ b, out = .ok (handle b) ∧ OwnsLike b svm objects w := by
  rcases loaded_new hnew with ⟨hloaded, hloaded2022, hloadedAssociated⟩
  rw [← hfiles.token] at hloaded
  rw [← hfiles.token2022] at hloaded2022
  rw [← hfiles.associatedToken] at hloadedAssociated
  refine Script.Meets.throwing_bind (ensures_create hnew) ?_ ?_
  · intro object
    refine Script.Meets.of_exists ?_
    intro b
    refine Script.Meets.of_and_left ?_
    intro hobject
    cases hobject
    refine ensures_ok_bind (ensures_loadIf loadToken hloaded) ?_
    refine ensures_ok_bind (ensures_loadIf loadToken2022 hloaded2022) ?_
    refine ensures_ok_bind (ensures_loadIf loadAssociatedToken hloadedAssociated) ?_
    refine Script.Meets.pure ?_ fun w hw => ⟨b, rfl, hw⟩
    exact Script.Stable.exists fun _ => OwnsLike.stable.and_left
  · intro e
    refine Script.Meets.of_exists ?_
    intro b
    refine Script.Meets.of_and_left ?_
    intro hobject
    cases hobject

theorem ensures_new_of_none (hnew : Svm.QuasarSvm.new cr bundle = none)
    (loadToken loadToken2022 loadAssociatedToken : Bool) :
    Ensures cr rt tryFrom bundle t (Owns objects)
      (Python.QuasarSvm.new splTokenProgramId splToken2022ProgramId splAssociatedTokenProgramId
        loadElf loadToken loadToken2022 loadAssociatedToken)
      (Returns (.error (.runtimeError "Failed to create QuasarSvm: Panic during SVM creation"))
        objects) := by
  have hcreate : Ensures cr rt tryFrom bundle t (Owns objects) Python.QuasarSvm.create
      (Returns (.error (.runtimeError "Failed to create QuasarSvm: Panic during SVM creation"))
        objects) := by
    refine ensures_bind (ensures_createWith_of_none textOr_eq hnew) ?_ ?_
    · intro b hb
      cases hb
    · intro e he
      cases he
      exact ⟨rfl, rfl⟩
  refine ensures_bind hcreate ?_ ?_
  · intro object hobject
    cases hobject
  · intro e he
    cases he
    exact ⟨rfl, rfl⟩

theorem meets_free :
    Script.Meets (host cr rt tryFrom bundle t) (Others cr rt tryFrom bundle t)
      (OwnsLike b svm objects) (handle b).free
      fun object w => object = { ptr := some b, freed := true } ∧ Owns objects w := by
  refine Script.Meets.of_exists ?_
  intro svm'
  refine Script.Meets.of_and_left ?_
  intro _
  refine Script.Meets.bind meets_svmFree ?_
  intro _
  exact Script.Meets.done Owns.stable.and_left fun w hw => ⟨rfl, hw⟩

/-- The first free frees the VM; the object remembers, and those that follow do nothing. -/
theorem meets_close (frees : Nat) :
    Script.Meets (host cr rt tryFrom bundle t) (Others cr rt tryFrom bundle t)
      (OwnsLike b svm objects) (close frees (handle b)) fun _ w => Owns objects w := by
  have hagain : ∀ n, Script.Meets (host cr rt tryFrom bundle t) (Others cr rt tryFrom bundle t)
      (Owns objects) (({ ptr := some b, freed := true } : Python.QuasarSvm).freeTimes n)
      fun _ w => Owns objects w := by
    intro n
    induction n with
    | zero => exact Script.Meets.done Owns.stable fun w hw => hw
    | succ n ih => exact ih
  refine Script.Meets.bind (Q := fun _ w => Owns objects w) ?_ ?_
  · refine Script.Meets.bind meets_free ?_
    intro object
    refine Script.Meets.of_and_left ?_
    rintro rfl
    exact hagain frees
  · intro _
    exact Script.Meets.done Owns.stable fun w hw => hw

/-- What a life returns: the replies of a new VM, or the failure of the constructor. -/
def sessionResult (cr : Crates) (rt : Runtime) (tryFrom : Conversion) (bundle : Bundle)
    (calls : List ClientCall) : Except Thrown (List (Except Thrown (Option ExecutionResult))) :=
  match Svm.QuasarSvm.new cr bundle with
  | some svm => .ok ((machine cr rt tryFrom).replies svm calls)
  | none => .error (.runtimeError "Failed to create QuasarSvm: Panic during SVM creation")

/-- Through the Python class, with whatever flags, whatever orders its executions draw and whatever the
other threads call meanwhile: a client is never left with an undefined call, it returns what a new VM
of the engine replies to the same calls and draws, decoded, and it has freed all that it was handed,
once.  Only the rent cannot be set. -/
theorem python_sessions (hfiles : Installed loadElf bundle) {calls : List ClientCall}
    (hfits : ∀ svm ∈ Svm.QuasarSvm.new cr bundle,
      ∀ p ∈ (machine cr rt tryFrom).steps svm calls, Fits cr rt p.1 p.2)
    {methods : List Method} (hasks : List.Forall₂ Asks methods calls)
    (loadToken loadToken2022 loadAssociatedToken : Bool) (frees : Nat) :
    Script.Meets (host cr rt tryFrom bundle t) (Others cr rt tryFrom bundle t) (Owns objects)
      (lifeWith
        (Python.QuasarSvm.new splTokenProgramId splToken2022ProgramId
          splAssociatedTokenProgramId loadElf loadToken loadToken2022 loadAssociatedToken)
        (fun object method => object.perform method) (close frees) methods)
      (Returns (sessionResult cr rt tryFrom bundle calls) objects) := by
  unfold sessionResult
  cases hnew : Svm.QuasarSvm.new cr bundle with
  | none =>
      exact meets_lifeWith_of_error
        (ensures_new_of_none hnew loadToken loadToken2022 loadAssociatedToken) methods
  | some svm =>
      exact meets_lifeWith machine_bisimulation
        (ensures_new hnew hfiles loadToken loadToken2022 loadAssociatedToken)
        (fun b svm method call hasks hfit => ensures_perform hasks hfit)
        (fun b svm => meets_close frees) hasks (hfits svm hnew)

/-- A client that loads no program, and frees its VM twice more. -/
theorem python_sessions_sample :
    Script.Meets
      (host Svm.Reference.crates Svm.Reference.idleRuntime Ffi.ProgramError.tryFrom sampleBundle 1)
      (Others Svm.Reference.crates Svm.Reference.idleRuntime Ffi.ProgramError.tryFrom sampleBundle 1)
      (Owns [])
      (lifeWith
        (Python.QuasarSvm.new splTokenProgramId splToken2022ProgramId
          splAssociatedTokenProgramId sampleElf false false false)
        (fun object method => object.perform method) (close 2)
        [.setter (.setter (.warpToSlot 7)),
          .processInstructionChain sampleInstructions
            (sampleAccounts.map AccountInput.ofAccount) .reverse])
      (Returns
        (sessionResult Svm.Reference.crates Svm.Reference.idleRuntime Ffi.ProgramError.tryFrom
          sampleBundle sampleCalls) []) := by
  have hasks : List.Forall₂ Asks _ sampleCalls :=
    .cons (.setter _)
      (.cons (.processInstructionChain fits_sampleInstructions fits_sampleAccounts _) .nil)
  refine python_sessions installed_sample ?_ hasks false false false 2
  intro svm hsvm p hp
  rcases List.mem_cons.1 hp with rfl | hp
  · trivial
  rcases List.mem_cons.1 hp with rfl | hp
  · exact fits_sampleCalls svm hsvm
  · cases hp

end Python

end Bindings
end Quasar
