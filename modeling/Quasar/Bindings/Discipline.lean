import Quasar.Bindings.Lifetime

/-!
# Discipline — when a client object is used safely

Neither class looks at its flag before a method runs, so a method after `free` follows a pointer to a
VM that is gone.  Whatever arguments the methods are given, and whatever they throw: an object is
safe exactly when no method that gets as far as the library comes after the first `free`.
-/

namespace Quasar
namespace Bindings

open Lib
open Ffi
open Svm (Bytes Bundle Crates Runtime QuasarSvm Pubkey SetOrder)
open Svm.QuasarSvm (sampleBundle)

/-- What is done with an object; `free` stands for everything that calls it. -/
inductive Action (μ : Type)
  | call (method : μ)
  | free

/-- Actions on an object, one after another.  What a method throws is left to the caller, who goes
on. -/
def play {ε ω μ ρ : Type} (perform : ω → μ → ExceptT ε (Script Request Answer) ρ)
    (free : ω → Script Request Answer ω) (object : ω) :
    List (Action μ) → Script Request Answer (List (Except ε ρ))
  | [] => .done []
  | .call method :: actions =>
      (perform object method).run.bind fun out =>
        (play perform free object actions).bind fun outs => .done (out :: outs)
  | .free :: actions => (free object).bind fun object => play perform free object actions

/-- No method that calls the library comes after a `free`. -/
def Disciplined {μ : Type} (Sends : μ → Prop) (actions : List (Action μ)) : Prop :=
  ∀ pre method post, actions = pre ++ .call method :: post → Sends method → .free ∉ pre

section Lists

variable {μ : Type} {Sends : μ → Prop} {actions : List (Action μ)}

theorem disciplined_nil : Disciplined Sends [] := by
  intro pre method post h
  cases List.append_eq_nil_iff.1 h.symm with
  | intro _ hcons => cases hcons

theorem disciplined_call_iff (method : μ) :
    Disciplined Sends (.call method :: actions) ↔ Disciplined Sends actions := by
  constructor
  · intro h pre m post hactions hsends hfree
    apply h (.call method :: pre) m post
    · rw [hactions, List.cons_append]
    · exact hsends
    · exact List.mem_cons_of_mem _ hfree
  · intro h pre m post hactions hsends hfree
    cases pre with
    | nil => cases hfree
    | cons a pre =>
        rcases List.cons.inj hactions with ⟨rfl, hrest⟩
        rcases List.mem_cons.1 hfree with hfirst | hfree
        · cases hfirst
        · exact h pre m post hrest hsends hfree

/-- After a `free` no method may call the library. -/
theorem disciplined_free_iff :
    Disciplined Sends (.free :: actions) ↔ ∀ method, .call method ∈ actions → ¬ Sends method := by
  constructor
  · intro h method hmem hsends
    rcases List.append_of_mem hmem with ⟨pre, post, hactions⟩
    apply h (.free :: pre) method post
    · rw [hactions, List.cons_append]
    · exact hsends
    · exact List.mem_cons_self
  · intro h pre method post hactions hsends _
    cases pre with
    | nil => cases hactions
    | cons a pre =>
        rcases List.cons.inj hactions with ⟨rfl, hrest⟩
        apply h method _ hsends
        simp [hrest]

end Lists

section Objects

variable {τ : Type} [DecidableEq τ] {cr : Crates} {rt : Runtime} {tryFrom : Conversion}
  {bundle : Bundle} {t : τ} {objects : List (Nat × Object)} {b : Nat}

/-! ## A live object and a freed one -/

/-- The thread owns a VM behind the pointer, in whatever state. -/
def OwnsVm (b : Nat) (objects : List (Nat × Object)) (w : World τ) : Prop :=
  ∃ svm, Owns ((b, .vm svm) :: objects) w

/-- The pointer was handed out and freed, and the thread owns the rest. -/
def Gone (b : Nat) (objects : List (Nat × Object)) (w : World τ) : Prop :=
  Owns objects w ∧ w.library.memory.contents b = none ∧ b < w.library.memory.next

theorem OwnsVm.stable :
    Script.Stable (Others cr rt tryFrom bundle t) (OwnsVm (τ := τ) b objects) :=
  Script.Stable.exists fun _ => Owns.stable

/-- A pointer that is gone stays gone. -/
theorem gone_of_does {lib lib' : Library τ} {t : τ} {call : Call} {ret : Return}
    (h : Library.Does cr rt tryFrom bundle lib t call lib' ret)
    (hb : lib.memory.contents b = none ∧ b < lib.memory.next) :
    lib'.memory.contents b = none ∧ b < lib'.memory.next := by
  rcases hb with ⟨hnone, hlt⟩
  have hmodify : ∀ b' f, (lib.memory.modify b' f).contents b = none := by
    intro b' f
    by_cases hb : b = b'
    · subst hb
      simp [hnone]
    · exact (lib.memory.contents_modify_of_ne hb f).trans hnone
  have hfree : ∀ b', (lib.memory.free b').contents b = none := by
    intro b'
    by_cases hb : b = b'
    · subst hb
      simp
    · exact (lib.memory.contents_free_of_ne hb).trans hnone
  -- A new block is not an old one.
  have halloc : ∀ (m : Blocks Object) (object : Object), m.contents b = none → b < m.next →
      (m.alloc object).contents b = none := by
    intro m object hm hlt
    exact (m.contents_alloc_of_ne object (Nat.ne_of_lt hlt)).trans hm
  cases h with
  | told => exact ⟨hnone, hlt⟩
  | created svm hnew => exact ⟨halloc _ _ hnone hlt, Nat.lt_succ_of_lt hlt⟩
  | notCreated hnew => exact ⟨hnone, hlt⟩
  | freedNothing => exact ⟨hnone, hlt⟩
  | freedVm b' svm hb' => exact ⟨hfree b', hlt⟩
  | rejected svm call hnull => exact ⟨hnone, hlt⟩
  | called b' svm svm' call code message hnull hb' hrun hends => exact ⟨hmodify b' _, hlt⟩
  | answered b' svm svm' call code message bytes hnull hb' hrun hends =>
      exact ⟨halloc _ _ (hmodify b' _) hlt, Nat.lt_succ_of_lt hlt⟩
  | freedNoResult resultLen => exact ⟨hnone, hlt⟩
  | freedResult b' bytes hb' => exact ⟨hfree b', hlt⟩

theorem Gone.stable :
    Script.Stable (Others cr rt tryFrom bundle t) (Gone (τ := τ) b objects) := by
  rintro w w' ⟨howns, hgone⟩ hothers
  refine ⟨Owns.stable w w' howns hothers, ?_⟩
  cases hothers with
  | call hthread hmine hstep => exact gone_of_does (Library.does_of_step hstep) hgone

/-- What is left after these actions: the VM unless it was freed, and the other objects. -/
def Left {μ : Type} (b : Nat) (objects : List (Nat × Object)) (actions : List (Action μ))
    (w : World τ) : Prop :=
  (.free ∈ actions ∧ Gone b objects w) ∨ (.free ∉ actions ∧ OwnsVm b objects w)

theorem Left.stable {μ : Type} {actions : List (Action μ)} :
    Script.Stable (Others cr rt tryFrom bundle t) (Left (τ := τ) b objects actions) := by
  rintro w w' (⟨hfree, hw⟩ | ⟨hkept, hw⟩) hothers
  · exact Or.inl ⟨hfree, Gone.stable w w' hw hothers⟩
  · exact Or.inr ⟨hkept, OwnsVm.stable w w' hw hothers⟩

/-- A call that follows a pointer that is gone is undefined. -/
theorem Gone.step_eq_none {w : World τ} (h : Gone b objects w) {call : VmCall}
    (hnull : call.hasNull = false) :
    (host cr rt tryFrom bundle t).step w (.onVm (some b) call) = none := by
  have hcall : w.library.callVm cr rt tryFrom t (some b) call = none := by
    simp only [Library.callVm, hnull, h.2.1, Bool.false_eq_true, if_false]
  simp only [host, World.answer, hcall, Option.map_none]

end Objects

/-! ## Methods -/

section Kinds

variable {ε α β : Type}

/-- The code ends without a call of the library. -/
def Silent (c : ExceptT ε (Script Request Answer) α) : Prop :=
  ∃ out, c.run = .done out

/-- The code follows a pointer first thing. -/
def Follows (svm : Pointer) (c : ExceptT ε (Script Request Answer) α) : Prop :=
  ∃ call k, VmCall.hasNull call = false ∧ c.run = .ask (.onVm svm call) k

theorem Silent.map {c : ExceptT ε (Script Request Answer) α} (f : α → β) (h : Silent c) :
    Silent (c >>= fun a => pure (f a)) := by
  rcases h with ⟨out, hrun⟩
  have hbind : (c >>= fun a => pure (f a)).run =
      c.run.bind (ExceptT.bindCont fun a => pure (f a)) := rfl
  unfold Silent
  rw [hbind, hrun]
  cases out with
  | error e => exact ⟨.error e, rfl⟩
  | ok a => exact ⟨.ok (f a), rfl⟩

theorem Follows.bind {svm : Pointer} {c : ExceptT ε (Script Request Answer) α}
    (f : α → ExceptT ε (Script Request Answer) β) (h : Follows svm c) : Follows svm (c >>= f) := by
  rcases h with ⟨call, k, hnull, hrun⟩
  have hbind : (c >>= f).run = c.run.bind (ExceptT.bindCont f) := rfl
  refine ⟨call, fun o => (k o).bind (ExceptT.bindCont f), hnull, ?_⟩
  rw [hbind, hrun]
  rfl

/-- A call follows its pointer. -/
theorem follows_callWith (check : Int32 → ExceptT ε (Script Request Answer) Unit) (svm : Pointer)
    {call : VmCall} (hnull : call.hasNull = false) : Follows svm (Native.callWith check svm call) :=
  ⟨call, _, hnull, rfl⟩

theorem follows_executeWith (thrown : String → ε) (textOr : Option String → String)
    (svm : Pointer) (ixBuf acctBuf : Bytes) (order : SetOrder) :
    Follows svm (Native.executeWith thrown textOr svm ixBuf acctBuf order) :=
  ⟨.processTransaction (some ixBuf) (some acctBuf) true order, _, rfl, rfl⟩

end Kinds

section Objects

variable {τ : Type} [DecidableEq τ] {cr : Crates} {rt : Runtime} {tryFrom : Conversion}
  {bundle : Bundle} {t : τ} {objects : List (Nat × Object)} {b : Nat}

/-- The code is safe for the owner of a VM, who still owns it afterwards. -/
abbrev Alive {ε α : Type} (cr : Crates) (rt : Runtime) (tryFrom : Conversion) (bundle : Bundle)
    (t : τ) (objects : List (Nat × Object)) (b : Nat) (c : ExceptT ε (Script Request Answer) α) :
    Prop :=
  Script.Meets (host cr rt tryFrom bundle t) (Others cr rt tryFrom bundle t) (OwnsVm b objects)
    c.run fun _ w => OwnsVm b objects w

section Methods

variable {ε α β : Type} {thrown : String → ε} {textOr : Option String → String}

theorem Silent.alive {c : ExceptT ε (Script Request Answer) α} (h : Silent c) :
    Alive cr rt tryFrom bundle t objects b c := by
  rcases h with ⟨out, hrun⟩
  rw [Alive, hrun]
  exact Script.Meets.done OwnsVm.stable fun w hw => hw

theorem Alive.bind {c : ExceptT ε (Script Request Answer) α}
    {f : α → ExceptT ε (Script Request Answer) β} (hc : Alive cr rt tryFrom bundle t objects b c)
    (hf : ∀ a, Alive cr rt tryFrom bundle t objects b (f a)) :
    Alive cr rt tryFrom bundle t objects b (c >>= f) := by
  apply Script.Meets.throwing_bind hc
  · exact hf
  · intro e
    exact Script.Meets.done OwnsVm.stable fun w hw => hw

theorem alive_pure (a : α) :
    Alive cr rt tryFrom bundle t objects b (pure a : ExceptT ε (Script Request Answer) α) :=
  Script.Meets.pure OwnsVm.stable fun _ hw => hw

/-- The check of a return code changes nothing that the thread owns. -/
theorem alive_checkWith (code : Int32) :
    Alive cr rt tryFrom bundle t objects b (Native.checkWith thrown textOr code) := by
  have hlast : Script.Meets (host cr rt tryFrom bundle t) (Others cr rt tryFrom bundle t)
      (OwnsVm b objects) (Script.request .lastError) fun _ w => OwnsVm b objects w :=
    Script.Meets.request OwnsVm.stable (fun w hw => ⟨w, w.library.lastError t, rfl, hw⟩)
      fun _ => OwnsVm.stable
  unfold Native.checkWith
  split
  · apply Script.Meets.query_bind hlast
    intro err
    exact Script.Meets.throw OwnsVm.stable fun w hw => hw
  · exact alive_pure ()

/-- A call of one of the other functions hands nothing out, whatever it returns. -/
theorem alive_callWith {call : VmCall} (hnull : call.hasNull = false)
    (hnothing : ∀ {svm svm' : QuasarSvm} {code message result},
      call.Ends cr rt tryFrom svm svm' code message result → result = none) :
    Alive cr rt tryFrom bundle t objects b
      (Native.callWith (Native.checkWith thrown textOr) (some b) call) := by
  apply Script.Meets.of_exists
  intro svm
  rcases call.run_ends cr rt tryFrom svm hnull with ⟨svm', code, message, result, hrun, hends⟩
  cases hnothing hends
  apply Script.Meets.query_bind (meets_onVm hnull hrun)
  intro out
  apply Script.Meets.of_and_left
  rintro rfl
  exact (alive_checkWith code).mono (fun w hw => ⟨svm', hw.1⟩) fun _ _ hw => hw

/-- An execution: the result buffer is freed when there is one, and there is one exactly when the
code says so. -/
theorem alive_executeWith (ixBuf acctBuf : Bytes) (order : SetOrder) :
    Alive cr rt tryFrom bundle t objects b
      (Native.executeWith thrown textOr (some b) ixBuf acctBuf order) := by
  have hnull :
      (VmCall.processTransaction (some ixBuf) (some acctBuf) true order).hasNull = false := rfl
  -- After a failure the last error is asked for.
  have hfails : ∀ svm svm' code message, code ≠ quasarOk →
      (VmCall.processTransaction (some ixBuf) (some acctBuf) true order).run cr rt tryFrom
          (some svm) =
        { svm := some svm', code := code, lastError := message, result := none } →
      Script.Meets (host cr rt tryFrom bundle t) (Others cr rt tryFrom bundle t)
        (Owns ((b, .vm svm) :: objects))
        (Native.executeWith thrown textOr (some b) ixBuf acctBuf order).run
        fun _ w => OwnsVm b objects w := by
    intro svm svm' code message hcode hrun
    have hcode' : code ≠ 0 := hcode
    apply Script.Meets.query_bind (meets_onVm hnull hrun)
    intro out
    apply Script.Meets.of_and_left
    rintro rfl
    simp only [if_pos hcode']
    apply Script.Meets.query_bind (meets_lastError (message.bind cString))
    intro err
    apply Script.Meets.of_and_left
    rintro rfl
    exact Script.Meets.throw OwnsVm.stable fun w hw => ⟨svm', hw⟩
  apply Script.Meets.of_exists
  intro svm
  rcases VmCall.run_ends cr rt tryFrom svm hnull with ⟨svm', code, message, result, hrun, hends⟩
  cases hends with
  | badInstructions ixBytes acctBytes order e h => exact hfails svm _ _ _ (by decide) hrun
  | badAccounts ixBytes acctBytes order ixs e hixs h => exact hfails svm _ _ _ (by decide) hrun
  | panicked ixBytes acctBytes order ixs accts m hixs haccts h =>
      exact hfails svm _ _ _ (by decide) hrun
  | executed ixBytes acctBytes order ixs accts r hixs haccts h =>
      have hok : Ensures cr rt tryFrom bundle t (Owns ((b, .vm svm) :: objects))
          (Native.executeWith thrown textOr (some b) ixBuf acctBuf order) _ :=
        ensures_executeWith_ok hrun
      exact hok.mono (fun w hw => hw) fun out w hw => ⟨_, hw.2⟩

end Methods

/-- A VM that is freed is gone. -/
theorem meets_svmFree_gone :
    Script.Meets (host cr rt tryFrom bundle t) (Others cr rt tryFrom bundle t)
      (OwnsVm b objects) (Script.request (.svmFree (some b))) fun _ w => Gone b objects w := by
  apply Script.Meets.of_exists
  intro svm
  refine Script.Meets.request Owns.stable ?_ fun _ => Gone.stable
  intro w hw
  refine ⟨_, (), ?_, Owns.free hw, ?_, ?_⟩
  · simp [host, World.answer, Library.quasarSvmFree, hw.head]
  · exact w.library.memory.contents_free_self b
  · have hlive : b < w.library.memory.next := Blocks.lt_next_of_contents hw.head
    exact hlive

/-! ## Actions -/

/-- What the three classes have in common: the methods that send something follow the pointer first
thing, also when it is gone, and the others do not call the library. -/
structure Handles {ε ω μ ρ : Type} (cr : Crates) (rt : Runtime) (tryFrom : Conversion)
    (bundle : Bundle) (t : τ) (objects : List (Nat × Object)) (b : Nat)
    (perform : ω → μ → ExceptT ε (Script Request Answer) ρ) (free : ω → Script Request Answer ω)
    (live dead : ω) (Sends : μ → Prop) : Prop where
  silent : ∀ method, ¬ Sends method → Silent (perform dead method)
  follows : ∀ method, Sends method → Follows (some b) (perform dead method)
  alive : ∀ method, Alive cr rt tryFrom bundle t objects b (perform live method)
  frees : Script.Meets (host cr rt tryFrom bundle t) (Others cr rt tryFrom bundle t)
    (OwnsVm b objects) (free live) fun object w => object = dead ∧ Gone b objects w
  again : free dead = .done dead

section Actions

variable {ε ω μ ρ : Type} {perform : ω → μ → ExceptT ε (Script Request Answer) ρ}
  {free : ω → Script Request Answer ω} {live dead : ω} {Sends : μ → Prop}

/-- A freed object is safe as long as its methods send nothing. -/
theorem Handles.safe_dead_iff
    (h : Handles cr rt tryFrom bundle t objects b perform free live dead Sends)
    (actions : List (Action μ)) {w : World τ} (hw : Gone b objects w) :
    Script.Safe (host cr rt tryFrom bundle t) (Others cr rt tryFrom bundle t) w
        (play perform free dead actions) ↔
      ∀ method, .call method ∈ actions → ¬ Sends method := by
  induction actions generalizing w with
  | nil => simp [play, Script.Safe.done]
  | cons action actions ih =>
      cases action with
      | free =>
          have hplay : play perform free dead (.free :: actions) =
              play perform free dead actions := by
            rw [play, h.again]
            rfl
          rw [hplay, ih hw]
          simp
      | call method =>
          by_cases hsends : Sends method
          · rcases h.follows method hsends with ⟨call, k, hnull, hrun⟩
            have hunsafe : ¬ Script.Safe (host cr rt tryFrom bundle t)
                (Others cr rt tryFrom bundle t) w
                (play perform free dead (.call method :: actions)) := by
              rw [play, hrun]
              exact Script.not_safe_ask (hw.step_eq_none hnull)
            refine iff_of_false hunsafe ?_
            intro hall
            exact hall method List.mem_cons_self hsends
          · rcases h.silent method hsends with ⟨out, hrun⟩
            rw [play, hrun]
            have hrest := ih hw
            rw [← Script.safe_bind_done_iff (g := fun outs => out :: outs)] at hrest
            refine hrest.trans ?_
            simp [hsends]

/-- A live object is safe exactly when its actions are disciplined. -/
theorem Handles.safe_live_iff
    (h : Handles cr rt tryFrom bundle t objects b perform free live dead Sends)
    (actions : List (Action μ)) {w : World τ} (hw : OwnsVm b objects w) :
    Script.Safe (host cr rt tryFrom bundle t) (Others cr rt tryFrom bundle t) w
        (play perform free live actions) ↔ Disciplined Sends actions := by
  induction actions generalizing w with
  | nil => simp [play, Script.Safe.done, disciplined_nil]
  | cons action actions ih =>
      cases action with
      | call method =>
          rw [disciplined_call_iff, play]
          apply (h.alive method).safe_bind_iff hw
          intro out w' hw'
          rw [Script.safe_bind_done_iff]
          exact ih hw'
      | free =>
          rw [disciplined_free_iff, play]
          apply h.frees.safe_bind_iff hw
          rintro object w' ⟨rfl, hw'⟩
          exact h.safe_dead_iff actions hw'

/-- After disciplined actions the thread owns the VM or has freed it. -/
theorem Handles.meets_dead
    (h : Handles cr rt tryFrom bundle t objects b perform free live dead Sends)
    {actions : List (Action μ)} (hsilent : ∀ method, .call method ∈ actions → ¬ Sends method) :
    Script.Meets (host cr rt tryFrom bundle t) (Others cr rt tryFrom bundle t)
      (Gone b objects) (play perform free dead actions) fun _ w => Gone b objects w := by
  induction actions with
  | nil => exact Script.Meets.done Gone.stable fun w hw => hw
  | cons action actions ih =>
      have hrest := ih fun method hmem => hsilent method (List.mem_cons_of_mem _ hmem)
      cases action with
      | free =>
          rw [play, h.again]
          exact hrest
      | call method =>
          rcases h.silent method (hsilent method List.mem_cons_self) with ⟨out, hrun⟩
          rw [play, hrun]
          apply Script.Meets.bind hrest
          intro outs
          exact Script.Meets.done Gone.stable fun w hw => hw

theorem Handles.meets_live
    (h : Handles cr rt tryFrom bundle t objects b perform free live dead Sends)
    {actions : List (Action μ)} (hdisciplined : Disciplined Sends actions) :
    Script.Meets (host cr rt tryFrom bundle t) (Others cr rt tryFrom bundle t)
      (OwnsVm b objects) (play perform free live actions) fun _ w => Left b objects actions w := by
  induction actions with
  | nil =>
      refine Script.Meets.done Left.stable ?_
      intro w hw
      exact Or.inr ⟨List.not_mem_nil, hw⟩
  | cons action actions ih =>
      cases action with
      | free =>
          rw [play]
          apply Script.Meets.bind h.frees
          intro object
          apply Script.Meets.of_and_left
          rintro rfl
          have hdead := h.meets_dead (disciplined_free_iff.1 hdisciplined)
          exact hdead.mono (fun w hw => hw) fun _ w hw => Or.inl ⟨List.mem_cons_self, hw⟩
      | call method =>
          rw [play]
          apply Script.Meets.bind (h.alive method)
          intro out
          apply Script.Meets.bind (ih ((disciplined_call_iff method).1 hdisciplined))
          intro outs
          refine Script.Meets.done Left.stable ?_
          rintro w (⟨hfree, hw⟩ | ⟨hkept, hw⟩)
          · exact Or.inl ⟨List.mem_cons_of_mem _ hfree, hw⟩
          · refine Or.inr ⟨?_, hw⟩
            intro hmem
            rcases List.mem_cons.1 hmem with hfirst | hfree
            · cases hfirst
            · exact hkept hfree

/-- An object is safe exactly when its actions are disciplined, and then nothing leaks. -/
theorem Handles.safe_iff
    (h : Handles cr rt tryFrom bundle t objects b perform free live dead Sends)
    (actions : List (Action μ)) {svm : QuasarSvm} {w : World τ}
    (hw : Owns ((b, .vm svm) :: objects) w) :
    (Script.Safe (host cr rt tryFrom bundle t) (Others cr rt tryFrom bundle t) w
        (play perform free live actions) ↔ Disciplined Sends actions) ∧
      (Disciplined Sends actions → ∀ w' outs,
        Script.Steps (host cr rt tryFrom bundle t) (Others cr rt tryFrom bundle t)
          (w, play perform free live actions) (w', .done outs) →
        Left b objects actions w') := by
  refine ⟨h.safe_live_iff actions ⟨svm, hw⟩, ?_⟩
  intro hdisciplined w' outs hsteps
  exact (h.meets_live hdisciplined w ⟨svm, hw⟩ w' _ hsteps).1 outs rfl

end Actions
end Objects

/-- Thread `1` owns an empty VM. -/
def sampleWorld : World Nat :=
  { library :=
      { memory := Blocks.empty.alloc (.vm Svm.Reference.emptyVm)
        lastError := fun _ => none }
    mine := [0] }

theorem owns_sampleWorld : Owns [(0, .vm Svm.Reference.emptyVm)] sampleWorld := by
  refine ⟨List.Perm.refl _, by simp, ?_⟩
  intro p hp
  cases List.mem_singleton.1 hp
  rfl

/-! ## The TypeScript packages -/

/-- Both buffers of an execution could be encoded. -/
def Encoded (ixBuf acctBuf : Except EncodeError Bytes) : Prop :=
  ∃ ixs accts, ixBuf = .ok ixs ∧ acctBuf = .ok accts

namespace Node

/-- What a method of either package comes down to, once its arguments are bytes. -/
inductive Plan
  | addProgram (programId : Option Bytes) (elf : Bytes) (loaderVersion : UInt8)
  | set (call : ConfigurationCall)
  | exec (ixBuf acctBuf : Except EncodeError Bytes) (order : SetOrder)

def Plan.perform (toUtf8 : Bytes → String) (svm : QuasarSvmBase) :
    Plan → Code (Option InternalResult)
  | .addProgram programId elf loaderVersion => do
      addProgramAt svm programId elf loaderVersion
      pure none
  | .set call => do
      svm.set call
      pure none
  | .exec ixBuf acctBuf order => do
      let r ← execEncoded toUtf8 svm ixBuf acctBuf order
      pure (some r)

/-- The plans that get as far as the library: what they send could be encoded. -/
def Plan.Sends : Plan → Prop
  | .addProgram programId _ _ => programIdAt programId ≠ none
  | .set _ => True
  | .exec ixBuf acctBuf _ => Encoded ixBuf acctBuf

end Node

def Kit.Method.plan (codec : Node.AddressCodec) : Kit.Method → Node.Plan
  | .addProgram programId elf loaderVersion =>
      .addProgram (codec.encode programId) elf loaderVersion
  | .setter call => .set call
  | .processInstruction instruction accounts order =>
      .exec (serializeInstructions codec [instruction]) (serializeAccounts codec accounts) order
  | .processInstructionChain instructions accounts order =>
      .exec (serializeInstructions codec instructions) (serializeAccounts codec accounts) order

def Web3.Method.plan (codec : Node.AddressCodec) : Web3.Method → Node.Plan
  | .addProgram programId elf loaderVersion =>
      .addProgram (some programId.bytes) elf loaderVersion
  | .setter call => .set call
  | .processInstruction instruction accounts order =>
      .exec (serializeInstructions codec [instruction]) (serializeAccounts accounts) order
  | .processInstructionChain instructions accounts order =>
      .exec (serializeInstructions codec instructions) (serializeAccounts accounts) order

namespace Node

variable {τ : Type} [DecidableEq τ] {cr : Crates} {rt : Runtime} {tryFrom : Conversion}
  {bundle : Bundle} {t : τ} {objects : List (Nat × Object)} {b : Nat} {toUtf8 : Bytes → String}

/-- The object of a VM that was freed. -/
def freedHandle (b : Nat) : QuasarSvmBase :=
  { ptr := some b
    freed := true }

theorem silent_addProgramAt (svm : QuasarSvmBase) {programId : Option Bytes}
    (h : programIdAt programId = none) (elf : Bytes) (loaderVersion : UInt8) :
    Silent (addProgramAt svm programId elf loaderVersion) := by
  rw [addProgramAt, h]
  exact ⟨.error (.encode .invalidAddress), rfl⟩

theorem silent_execEncoded (svm : QuasarSvmBase) {ixBuf acctBuf : Except EncodeError Bytes}
    (h : ¬ Encoded ixBuf acctBuf) (order : SetOrder) :
    Silent (execEncoded toUtf8 svm ixBuf acctBuf order) := by
  cases ixBuf with
  | error e => exact ⟨.error (.encode e), rfl⟩
  | ok ixs =>
      cases acctBuf with
      | error e => exact ⟨.error (.encode e), rfl⟩
      | ok accts => exact absurd ⟨ixs, accts, rfl, rfl⟩ h

theorem follows_addProgramAt (svm : QuasarSvmBase) {programId : Option Bytes}
    (h : programIdAt programId ≠ none) (elf : Bytes) (loaderVersion : UInt8) :
    Follows svm.ptr (addProgramAt svm programId elf loaderVersion) := by
  cases hid : programIdAt programId with
  | none => exact absurd hid h
  | some id =>
      rw [addProgramAt, hid]
      exact follows_callWith _ svm.ptr rfl

theorem follows_set (svm : QuasarSvmBase) (call : ConfigurationCall) :
    Follows svm.ptr (svm.set call) := by
  rw [set_eq]
  exact follows_callWith _ svm.ptr rfl

theorem follows_execEncoded (svm : QuasarSvmBase) {ixBuf acctBuf : Except EncodeError Bytes}
    (h : Encoded ixBuf acctBuf) (order : SetOrder) :
    Follows svm.ptr (execEncoded toUtf8 svm ixBuf acctBuf order) := by
  rcases h with ⟨ixs, accts, rfl, rfl⟩
  exact (follows_executeWith _ _ svm.ptr ixs accts order).bind _

/-- Adding a program hands nothing out. -/
theorem nothing_of_addProgram {svm svm' : QuasarSvm} {programId : Option Pubkey}
    {elf : Option Bytes} {loaderVersion : UInt8} {code : Int32} {message : Option String}
    {result : Option Bytes}
    (h : (VmCall.addProgram programId elf loaderVersion).Ends cr rt tryFrom svm svm' code message
      result) : result = none := by
  cases h with
  | _ => rfl

theorem nothing_of_configure {svm svm' : QuasarSvm} {call : ConfigurationCall} {code : Int32}
    {message : Option String} {result : Option Bytes}
    (h : (VmCall.configure call).Ends cr rt tryFrom svm svm' code message result) :
    result = none := by
  cases h with
  | _ => rfl

theorem alive_addProgramAt (programId : Option Bytes) (elf : Bytes) (loaderVersion : UInt8) :
    Alive cr rt tryFrom bundle t objects b
      (addProgramAt (handle b) programId elf loaderVersion) := by
  cases hid : programIdAt programId with
  | none => exact (silent_addProgramAt (handle b) hid elf loaderVersion).alive
  | some id =>
      rw [addProgramAt, hid]
      exact alive_callWith rfl nothing_of_addProgram

theorem alive_set (call : ConfigurationCall) :
    Alive cr rt tryFrom bundle t objects b ((handle b).set call) := by
  rw [set_eq]
  exact alive_callWith rfl nothing_of_configure

theorem alive_execEncoded (ixBuf acctBuf : Except EncodeError Bytes) (order : SetOrder) :
    Alive cr rt tryFrom bundle t objects b (execEncoded toUtf8 (handle b) ixBuf acctBuf order) := by
  by_cases h : Encoded ixBuf acctBuf
  · rcases h with ⟨ixs, accts, rfl, rfl⟩
    apply Alive.bind (alive_executeWith ixs accts order)
    intro raw
    -- Decoding throws or not; nothing is called any more.
    cases deserializeResult toUtf8 raw with
    | ok r => exact alive_pure r.1
    | error e => exact Silent.alive ⟨.error (.decode e), rfl⟩
  · exact (silent_execEncoded (handle b) h order).alive

theorem frees_handle :
    Script.Meets (host cr rt tryFrom bundle t) (Others cr rt tryFrom bundle t)
      (OwnsVm b objects) (handle b).free
      fun object w => object = freedHandle b ∧ Gone b objects w := by
  apply Script.Meets.bind meets_svmFree_gone
  intro _
  exact Script.Meets.done Gone.stable.and_left fun w hw => ⟨rfl, hw⟩

/-- Whatever the package, its class handles an object like this. -/
theorem handles (toUtf8 : Bytes → String) {μ : Type}
    {perform : QuasarSvmBase → μ → Code (Option InternalResult)} {plan : μ → Plan}
    (hplan : ∀ svm method, perform svm method = (plan method).perform toUtf8 svm) :
    Handles cr rt tryFrom bundle t objects b perform QuasarSvmBase.free (handle b)
      (freedHandle b) fun method => (plan method).Sends :=
  { silent := by
      intro method hsends
      rw [hplan]
      cases hmethod : plan method with
      | addProgram programId elf loaderVersion =>
          rw [hmethod] at hsends
          exact (silent_addProgramAt _ (not_not.1 hsends) elf loaderVersion).map _
      | set call =>
          rw [hmethod] at hsends
          exact absurd trivial hsends
      | exec ixBuf acctBuf order =>
          rw [hmethod] at hsends
          exact (silent_execEncoded _ hsends order).map _
    follows := by
      intro method hsends
      rw [hplan]
      cases hmethod : plan method with
      | addProgram programId elf loaderVersion =>
          rw [hmethod] at hsends
          exact (follows_addProgramAt (freedHandle b) hsends elf loaderVersion).bind _
      | set call => exact (follows_set (freedHandle b) call).bind _
      | exec ixBuf acctBuf order =>
          rw [hmethod] at hsends
          exact (follows_execEncoded (freedHandle b) hsends order).bind _
    alive := by
      intro method
      rw [hplan]
      cases plan method with
      | addProgram programId elf loaderVersion =>
          exact (alive_addProgramAt _ elf loaderVersion).bind fun _ => alive_pure none
      | set call => exact (alive_set call).bind fun _ => alive_pure none
      | exec ixBuf acctBuf order =>
          exact (alive_execEncoded ixBuf acctBuf order).bind fun r => alive_pure (some r)
    frees := frees_handle
    again := rfl }

/-- An object of either TypeScript package, whatever is done with it and whatever the other threads
call: it is never left with an undefined call exactly when no method that can encode its arguments
comes after the first `free`.  Then nothing is freed twice, and the VM is freed if there was one. -/
theorem typescript_safe_iff (codec : AddressCodec) {svm : QuasarSvm} {w : World τ}
    (hw : Owns ((b, .vm svm) :: objects) w) (kitActions : List (Action Kit.Method))
    (web3Actions : List (Action Web3.Method)) :
    ((Script.Safe (host cr rt tryFrom bundle t) (Others cr rt tryFrom bundle t) w
          (play (Kit.perform codec toUtf8) QuasarSvmBase.free (handle b) kitActions) ↔
        Disciplined (fun method => (method.plan codec).Sends) kitActions) ∧
      (Disciplined (fun method => (method.plan codec).Sends) kitActions → ∀ w' outs,
        Script.Steps (host cr rt tryFrom bundle t) (Others cr rt tryFrom bundle t)
          (w, play (Kit.perform codec toUtf8) QuasarSvmBase.free (handle b) kitActions)
          (w', .done outs) →
        Left b objects kitActions w')) ∧
    ((Script.Safe (host cr rt tryFrom bundle t) (Others cr rt tryFrom bundle t) w
          (play (Web3.perform codec toUtf8) QuasarSvmBase.free (handle b) web3Actions) ↔
        Disciplined (fun method => (method.plan codec).Sends) web3Actions) ∧
      (Disciplined (fun method => (method.plan codec).Sends) web3Actions → ∀ w' outs,
        Script.Steps (host cr rt tryFrom bundle t) (Others cr rt tryFrom bundle t)
          (w, play (Web3.perform codec toUtf8) QuasarSvmBase.free (handle b) web3Actions)
          (w', .done outs) →
        Left b objects web3Actions w')) := by
  refine ⟨?_, ?_⟩
  · refine (handles toUtf8 ?_).safe_iff kitActions hw
    intro svm method
    cases method with
    | _ => rfl
  · refine (handles toUtf8 ?_).safe_iff web3Actions hw
    intro svm method
    cases method with
    | _ => rfl

/-- Of two objects one is freed twice and then used, the other one is used and then freed. -/
theorem typescript_safe_iff_sample :
    ¬ Script.Safe
        (host Svm.Reference.crates Svm.Reference.idleRuntime Ffi.ProgramError.tryFrom sampleBundle 1)
        (Others Svm.Reference.crates Svm.Reference.idleRuntime Ffi.ProgramError.tryFrom
          sampleBundle 1) sampleWorld
        (play (Kit.perform base58Codec utf8Lossy) QuasarSvmBase.free (handle 0)
          [.free, .free, .call (.setter (.setter (.warpToSlot 7)))]) ∧
      Script.Safe
        (host Svm.Reference.crates Svm.Reference.idleRuntime Ffi.ProgramError.tryFrom sampleBundle 1)
        (Others Svm.Reference.crates Svm.Reference.idleRuntime Ffi.ProgramError.tryFrom
          sampleBundle 1) sampleWorld
        (play (Web3.perform base58Codec utf8Lossy) QuasarSvmBase.free (handle 0)
          [.call (.setter (.setter (.warpToSlot 7))), .free]) := by
  constructor
  · intro hsafe
    have hdisciplined := (typescript_safe_iff base58Codec owns_sampleWorld _ []).1.1.1 hsafe
    exact hdisciplined [.free, .free] _ [] rfl trivial List.mem_cons_self
  · apply (typescript_safe_iff base58Codec owns_sampleWorld [] _).2.1.2
    apply (disciplined_call_iff _).2
    apply disciplined_free_iff.2
    intro method hmem
    cases hmem

end Node

/-! ## Python -/

namespace Python

variable {τ : Type} [DecidableEq τ] {cr : Crates} {rt : Runtime} {tryFrom : Conversion}
  {bundle : Bundle} {t : τ} {objects : List (Nat × Object)} {b : Nat}

/-- The methods that get as far as the library.  `set_rent` never does. -/
def Reaches : Method → Prop
  | .addProgram _ _ _ => True
  | .setter (.setter (.setRent _)) => False
  | .setter _ => True
  | .processInstruction instruction accounts _ =>
      Encoded (serializeInstructions [soldersInstructionToWire instruction])
        (serializeAccounts (accounts.map keyedAccountToWire))
  | .processInstructionChain instructions accounts _ =>
      Encoded (serializeInstructions (instructions.map soldersInstructionToWire))
        (serializeAccounts (accounts.map keyedAccountToWire))

/-- The object of a VM that was freed. -/
def freedHandle (b : Nat) : QuasarSvm :=
  { ptr := some b
    freed := true }

theorem silent_execEncoded (svm : QuasarSvm) {ixBuf acctBuf : Except EncodeError Bytes}
    (h : ¬ Encoded ixBuf acctBuf) (order : SetOrder) :
    Silent (svm.execEncoded ixBuf acctBuf order) := by
  cases ixBuf with
  | error e => exact ⟨.error (.encode e), rfl⟩
  | ok ixs =>
      cases acctBuf with
      | error e => exact ⟨.error (.encode e), rfl⟩
      | ok accts => exact absurd ⟨ixs, accts, rfl, rfl⟩ h

theorem follows_execEncoded (svm : QuasarSvm) {ixBuf acctBuf : Except EncodeError Bytes}
    (h : Encoded ixBuf acctBuf) (order : SetOrder) :
    Follows svm.ptr (svm.execEncoded ixBuf acctBuf order) := by
  rcases h with ⟨ixs, accts, rfl, rfl⟩
  exact (follows_executeWith _ _ svm.ptr ixs accts order).bind _

theorem alive_execEncoded (ixBuf acctBuf : Except EncodeError Bytes) (order : SetOrder) :
    Alive cr rt tryFrom bundle t objects b ((handle b).execEncoded ixBuf acctBuf order) := by
  by_cases h : Encoded ixBuf acctBuf
  · rcases h with ⟨ixs, accts, rfl, rfl⟩
    apply Alive.bind (alive_executeWith ixs accts order)
    intro raw
    cases deserializeResult raw with
    | ok r => exact alive_pure r.1
    | error e => exact Silent.alive ⟨.error (.decode e), rfl⟩
  · exact (silent_execEncoded (handle b) h order).alive

theorem alive_addProgram (programId : Pubkey) (elf : Bytes) (loaderVersion : UInt8) :
    Alive cr rt tryFrom bundle t objects b
      ((handle b).addProgram programId elf loaderVersion) :=
  alive_callWith rfl Node.nothing_of_addProgram

theorem alive_configure (call : ConfigurationCall) :
    Alive cr rt tryFrom bundle t objects b ((handle b).configure call) :=
  alive_callWith rfl Node.nothing_of_configure

/-- Every setter but one calls the library. -/
theorem set_cases (svm : QuasarSvm) (call : ConfigurationCall) :
    (¬ Reaches (.setter call) ∧ Silent (svm.set call)) ∨
      (Reaches (.setter call) ∧ svm.set call = svm.configure call) := by
  cases call with
  | setter call =>
      cases call with
      | setRent lamportsPerByteYear => exact Or.inl ⟨id, .error .typeError, rfl⟩
      | _ => exact Or.inr ⟨trivial, rfl⟩
  | _ => exact Or.inr ⟨trivial, rfl⟩

theorem handles :
    Handles cr rt tryFrom bundle t objects b (fun object method => object.perform method)
      QuasarSvm.free (handle b) (freedHandle b) Reaches :=
  { silent := by
      intro method hreaches
      cases method with
      | addProgram programId elf loaderVersion => exact absurd trivial hreaches
      | setter call =>
          rcases set_cases (freedHandle b) call with ⟨_, hsilent⟩ | ⟨hreaches', _⟩
          · exact hsilent.map _
          · exact absurd hreaches' hreaches
      | processInstruction ix accounts order =>
          exact (silent_execEncoded _ hreaches order).map _
      | processInstructionChain ixs accounts order =>
          exact (silent_execEncoded _ hreaches order).map _
    follows := by
      intro method hreaches
      cases method with
      | addProgram programId elf loaderVersion =>
          exact (follows_callWith _ (freedHandle b).ptr rfl).bind _
      | setter call =>
          rcases set_cases (freedHandle b) call with ⟨hreaches', _⟩ | ⟨_, hset⟩
          · exact absurd hreaches hreaches'
          · have hcall : Follows (some b) ((freedHandle b).configure call) :=
              follows_callWith _ _ rfl
            rw [← hset] at hcall
            exact hcall.bind _
      | processInstruction ix accounts order =>
          exact (follows_execEncoded (freedHandle b) hreaches order).bind _
      | processInstructionChain ixs accounts order =>
          exact (follows_execEncoded (freedHandle b) hreaches order).bind _
    alive := by
      intro method
      cases method with
      | addProgram programId elf loaderVersion =>
          exact (alive_addProgram programId elf loaderVersion).bind fun _ => alive_pure none
      | setter call =>
          rcases set_cases (handle b) call with ⟨_, hsilent⟩ | ⟨_, hset⟩
          · exact (hsilent.map _).alive
          · have hcall : Alive cr rt tryFrom bundle t objects b ((handle b).set call) := by
              rw [hset]
              exact alive_configure call
            exact hcall.bind fun _ => alive_pure none
      | processInstruction ix accounts order =>
          exact (alive_execEncoded _ _ order).bind fun r => alive_pure (some r)
      | processInstructionChain ixs accounts order =>
          exact (alive_execEncoded _ _ order).bind fun r => alive_pure (some r)
    frees := by
      apply Script.Meets.bind meets_svmFree_gone
      intro _
      exact Script.Meets.done Gone.stable.and_left fun w hw => ⟨rfl, hw⟩
    again := rfl }

/-- An object of the Python class, whatever is done with it and whatever the other threads call: it is
never left with an undefined call exactly when no method that gets as far as the library comes after
the first `free`.  Then nothing is freed twice, and the VM is freed if there was one. -/
theorem python_safe_iff {svm : Svm.QuasarSvm} {w : World τ}
    (hw : Owns ((b, .vm svm) :: objects) w) (actions : List (Action Method)) :
    (Script.Safe (host cr rt tryFrom bundle t) (Others cr rt tryFrom bundle t) w
        (play (fun object method => object.perform method) QuasarSvm.free (handle b) actions) ↔
      Disciplined Reaches actions) ∧
    (Disciplined Reaches actions → ∀ w' outs,
      Script.Steps (host cr rt tryFrom bundle t) (Others cr rt tryFrom bundle t)
        (w, play (fun object method => object.perform method) QuasarSvm.free (handle b) actions)
        (w', .done outs) →
      Left b objects actions w') :=
  handles.safe_iff actions hw

/-- The rent of a freed object may be set, since nothing is called; the slot may not. -/
theorem python_safe_iff_sample :
    Script.Safe
        (host Svm.Reference.crates Svm.Reference.idleRuntime Ffi.ProgramError.tryFrom sampleBundle 1)
        (Others Svm.Reference.crates Svm.Reference.idleRuntime Ffi.ProgramError.tryFrom
          sampleBundle 1) sampleWorld
        (play (fun object method => object.perform method) QuasarSvm.free (handle 0)
          [.free, .call (.setter (.setter (.setRent 1)))]) ∧
      ¬ Script.Safe
        (host Svm.Reference.crates Svm.Reference.idleRuntime Ffi.ProgramError.tryFrom sampleBundle 1)
        (Others Svm.Reference.crates Svm.Reference.idleRuntime Ffi.ProgramError.tryFrom
          sampleBundle 1) sampleWorld
        (play (fun object method => object.perform method) QuasarSvm.free (handle 0)
          [.free, .call (.setter (.setter (.warpToSlot 1)))]) := by
  constructor
  · apply (python_safe_iff owns_sampleWorld _).1.2
    apply disciplined_free_iff.2
    intro method hmem
    cases List.mem_singleton.1 hmem
    exact id
  · intro hsafe
    have hdisciplined := (python_safe_iff owns_sampleWorld _).1.1 hsafe
    exact hdisciplined [.free] _ [] rfl trivial List.mem_cons_self

end Python

end Bindings
end Quasar
