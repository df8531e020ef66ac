import Quasar.Bindings.Discipline
import Quasar.Lib.Pool

/-!
# Pool — a program with any number of objects

A program makes objects whenever it likes, calls their methods in any order and frees them, while other
threads call the library too.  Each object replies as a new VM of the engine would that nobody else
uses, and what is left in the end are the VMs that were not freed.
-/

namespace Quasar
namespace Bindings

open Lib
open Ffi
open Svm (Bytes Bundle Crates Runtime QuasarSvm Pubkey splTokenProgramId splToken2022ProgramId
  splAssociatedTokenProgramId)
open Svm.QuasarSvm (SamePrograms sampleBundle)

/-- What a program does; it names its objects by the order in which it made them. -/
inductive PoolAction (γ μ : Type)
  | create (config : γ)
  | call (i : ℕ) (method : μ)
  | free (i : ℕ)

section Program

variable {γ ε ω μ ρ : Type} (construct : γ → ExceptT ε (Script Request Answer) ω)
  (perform : ω → μ → ExceptT ε (Script Request Answer) ρ) (free : ω → Script Request Answer ω)

/-- Actions one after another, with what each call returned or threw.  A name that stands for no object
cannot be used. -/
def program : List ω → List (PoolAction γ μ) → Script Request Answer (List (Option (Except ε ρ)))
  | _, [] => .done []
  | pool, .create config :: actions =>
      (construct config).run.bind fun out =>
        (program (pool ++ out.toOption.toList) actions).bind fun outs => .done (none :: outs)
  | pool, .call i method :: actions =>
      match pool[i]? with
      | none => (program pool actions).bind fun outs => .done (none :: outs)
      | some object =>
          (perform object method).run.bind fun out =>
            (program pool actions).bind fun outs => .done (some out :: outs)
  | pool, .free i :: actions =>
      match pool[i]? with
      | none => (program pool actions).bind fun outs => .done (none :: outs)
      | some object =>
          (free object).bind fun object =>
            (program (pool.set i object) actions).bind fun outs => .done (none :: outs)

end Program

/-! ## The objects of a program -/

/-- Under its block each VM that was made, as the engine would have it, or nothing after its free. -/
abbrev Slots := List (ℕ × Option QuasarSvm)

/-- The objects behind the pointers that are still live. -/
def liveObjects (slots : Slots) : List (ℕ × Object) :=
  slots.filterMap fun slot => slot.2.map fun svm => (slot.1, .vm svm)

/-- The same block, and a VM that finds the same programs. -/
def SameSlot (slot slot' : ℕ × Option QuasarSvm) : Prop :=
  slot'.1 = slot.1 ∧ Option.Rel SamePrograms slot.2 slot'.2

/-- The thread owns the VMs of these slots that were not freed, beside its other objects. -/
def Holds {τ : Type} (slots : Slots) (objects : List (ℕ × Object)) (w : World τ) : Prop :=
  ∃ vms, List.Forall₂ SameSlot slots vms ∧ Owns (liveObjects vms ++ objects) w

/-- The same of one slot. -/
def OwnsSlot {τ : Type} (slot : ℕ × Option QuasarSvm) (objects : List (ℕ × Object)) (w : World τ) :
    Prop :=
  match slot.2 with
  | some svm => OwnsLike slot.1 svm objects w
  | none => Owns objects w

/-- The object of a slot, whose VM is there or was freed. -/
def handleOf {ω : Type} (live dead : ℕ → ω) (slot : ℕ × Option QuasarSvm) : ω :=
  match slot.2 with
  | some _ => live slot.1
  | none => dead slot.1

/-- An action, and what it is to the engine. -/
inductive Matches {γ μ : Type} (Asks : μ → ClientCall → Prop) :
    PoolAction γ μ → PoolInput ClientCall → Prop
  | create (config : γ) : Matches Asks (.create config) .create
  | call (i : ℕ) {method : μ} {call : ClientCall} (h : Asks method call) :
      Matches Asks (.call i method) (.call i call)
  | free (i : ℕ) : Matches Asks (.free i) (.free i)

/-- The result of a call fits the result format. -/
def PoolFits (cr : Crates) (rt : Runtime) (slots : List (Option QuasarSvm)) :
    PoolInput ClientCall → Prop
  | .call i call => ∀ svm, slots[i]? = some (some svm) → Fits cr rt svm call
  | _ => True

section Holds

variable {τ : Type} [DecidableEq τ] {cr : Crates} {rt : Runtime} {tryFrom : Conversion}
  {bundle : Bundle} {t : τ} {objects : List (ℕ × Object)} {slots : Slots} {w : World τ}

theorem Holds.stable :
    Script.Stable (Others cr rt tryFrom bundle t) (Holds (τ := τ) slots objects) :=
  Script.Stable.exists fun _ => Owns.stable.and_left

omit [DecidableEq τ] in
theorem holds_nil_iff : Holds [] objects w ↔ Owns objects w := by
  constructor
  · rintro ⟨vms, hsame, howns⟩
    cases hsame
    exact howns
  · intro howns
    exact ⟨[], .nil, howns⟩

omit [DecidableEq τ] in
/-- A VM that was made is one more. -/
theorem holds_concat {b : ℕ} {svm svm' : QuasarSvm} {vms : Slots} (hsvm : SamePrograms svm svm')
    (hvms : List.Forall₂ SameSlot slots vms)
    (h : Owns ((b, .vm svm') :: (liveObjects vms ++ objects)) w) :
    Holds (slots ++ [(b, some svm)]) objects w := by
  have hone : SameSlot (b, some svm) (b, some svm') := ⟨rfl, .some hsvm⟩
  refine ⟨vms ++ [(b, some svm')], List.rel_append hvms (.cons hone .nil), h.perm ?_⟩
  have hlive : liveObjects (vms ++ [(b, some svm')]) = liveObjects vms ++ [(b, .vm svm')] :=
    List.filterMap_append
  rw [hlive, List.append_assoc]
  exact List.perm_middle.symm

theorem exists_split {α β : Type} {R : α → β → Prop} {l : List α} {l' : List β}
    (h : List.Forall₂ R l l') {i : ℕ} {a : α} (hi : l[i]? = some a) :
    ∃ pre post pre' b post', l = pre ++ a :: post ∧ l' = pre' ++ b :: post' ∧ pre.length = i ∧
      R a b ∧ List.Forall₂ R pre pre' ∧ List.Forall₂ R post post' := by
  induction h generalizing i with
  | nil => cases hi
  | cons hab hrest ih =>
      cases i with
      | zero =>
          cases hi
          exact ⟨[], _, [], _, _, rfl, rfl, rfl, hab, .nil, hrest⟩
      | succ i =>
          rcases ih hi with ⟨pre, post, pre', b, post', rfl, rfl, rfl, hsame, hpre, hpost⟩
          exact ⟨_ :: pre, post, _ :: pre', b, post', rfl, rfl, rfl, hsame, hpre.cons hab, hpost⟩

/-- What is in the slots around one of them, beside the other objects. -/
theorem perm_liveObjects (pre post : Slots) (b : ℕ) (slot : Option QuasarSvm)
    (objects : List (ℕ × Object)) :
    (liveObjects (pre ++ (b, slot) :: post) ++ objects).Perm
      ((slot.map fun svm => (b, Object.vm svm)).toList ++
        (liveObjects pre ++ liveObjects post ++ objects)) := by
  have hlive : liveObjects (pre ++ (b, slot) :: post) =
      liveObjects pre ++ ((slot.map fun svm => (b, Object.vm svm)).toList ++ liveObjects post) := by
    unfold liveObjects
    rw [List.filterMap_append]
    cases slot with
    | none => rfl
    | some svm => rfl
  rw [hlive]
  simp only [List.append_assoc]
  exact List.perm_append_comm_assoc _ _ _

omit [DecidableEq τ] in
/-- One slot can be used by itself, and whatever becomes of it is put back. -/
theorem Holds.focus {i : ℕ} {slot : ℕ × Option QuasarSvm} (hi : slots[i]? = some slot)
    (h : Holds slots objects w) :
    ∃ rest, (∀ w' : World τ, ∀ next, OwnsSlot (slot.1, next) rest w' →
      Holds (slots.set i (slot.1, next)) objects w') ∧ OwnsSlot slot rest w := by
  rcases h with ⟨vms, hsame, howns⟩
  rcases exists_split hsame hi with
    ⟨pre, post, pre', ⟨b, slot'⟩, post', rfl, rfl, rfl, ⟨hb, hslot⟩, hpre, hpost⟩
  rcases slot with ⟨b', slot⟩
  cases hb
  refine ⟨liveObjects pre' ++ liveObjects post' ++ objects, ?_, ?_⟩
  · intro w' next hnext
    have hset : (pre ++ (b, slot) :: post).set pre.length (b, next) = pre ++ (b, next) :: post := by
      simp
    rw [hset]
    cases next with
    | none =>
        have hnone : SameSlot (b, none) (b, none) := ⟨rfl, .none⟩
        refine ⟨pre' ++ (b, none) :: post', List.rel_append hpre (.cons hnone hpost), ?_⟩
        exact Owns.perm hnext (perm_liveObjects pre' post' b none objects).symm
    | some svm =>
        rcases hnext with ⟨svm', hsvm, howns⟩
        have hsome : SameSlot (b, some svm) (b, some svm') := ⟨rfl, .some hsvm⟩
        refine ⟨pre' ++ (b, some svm') :: post', List.rel_append hpre (.cons hsome hpost), ?_⟩
        exact Owns.perm howns (perm_liveObjects pre' post' b (some svm') objects).symm
  · have hperm := howns.perm (perm_liveObjects pre' post' b slot' objects)
    cases hslot with
    | none => exact hperm
    | some hsvm => exact ⟨_, hsvm, hperm⟩

end Holds

/-! ## A program -/

section Programs

variable {τ : Type} [DecidableEq τ] {cr : Crates} {rt : Runtime} {tryFrom : Conversion}
  {bundle : Bundle} {t : τ} {objects : List (ℕ × Object)} {new : QuasarSvm} {γ ε ω μ ρ : Type}
  {m : Machine QuasarSvm ClientCall (Except ε ρ)} {live dead : ℕ → ω}
  {construct : γ → ExceptT ε (Script Request Answer) ω}
  {perform : ω → μ → ExceptT ε (Script Request Answer) ρ} {free : ω → Script Request Answer ω}
  {Asks : μ → ClientCall → Prop}

/-- How a class implements a machine: its constructor makes a new VM, its methods do what they ask of
the engine, and its free frees the VM once. -/
structure Implements (cr : Crates) (rt : Runtime) (tryFrom : Conversion) (bundle : Bundle) (t : τ)
    (m : Machine QuasarSvm ClientCall (Except ε ρ)) (new : QuasarSvm) (live dead : ℕ → ω)
    (construct : γ → ExceptT ε (Script Request Answer) ω)
    (perform : ω → μ → ExceptT ε (Script Request Answer) ρ) (free : ω → Script Request Answer ω)
    (Asks : μ → ClientCall → Prop) : Prop where
  similar : m.Bisimulation SamePrograms
  makes : ∀ objects config, Ensures cr rt tryFrom bundle t (Owns objects) (construct config)
    fun out w => ∃ b, out = .ok (live b) ∧ OwnsLike b new objects w
  performs : ∀ objects b svm method call, Asks method call → Fits cr rt svm call →
    Ensures cr rt tryFrom bundle t (Owns ((b, .vm svm) :: objects)) (perform (live b) method)
      (Returns (m.step svm call).2 ((b, .vm (m.step svm call).1) :: objects))
  frees : ∀ objects b svm, Script.Meets (host cr rt tryFrom bundle t)
    (Others cr rt tryFrom bundle t) (OwnsLike b svm objects) (free (live b))
    fun object w => object = dead b ∧ Owns objects w
  again : ∀ b, free (dead b) = .done (dead b)

namespace Implements

variable (himpl : Implements cr rt tryFrom bundle t m new live dead construct perform free Asks)
  {slots : Slots} {i b : ℕ} {svm : QuasarSvm}

include himpl in
theorem meets_create (config : γ) :
    Script.Meets (host cr rt tryFrom bundle t) (Others cr rt tryFrom bundle t)
      (Holds slots objects) (construct config).run
      fun out w => ∃ b, out = .ok (live b) ∧ Holds (slots ++ [(b, some new)]) objects w := by
  refine Script.Meets.of_exists ?_
  intro vms
  refine Script.Meets.of_and_left ?_
  intro hvms
  refine Script.Meets.mono (himpl.makes (liveObjects vms ++ objects) config)
    (fun _ hw => hw) ?_
  rintro out w ⟨b, hout, svm, hsvm, howns⟩
  exact ⟨b, hout, holds_concat hsvm hvms howns⟩

include himpl in
theorem meets_call (hi : slots[i]? = some (b, some svm)) {method : μ} {call : ClientCall}
    (hasks : Asks method call) (hfits : Fits cr rt svm call) :
    Script.Meets (host cr rt tryFrom bundle t) (Others cr rt tryFrom bundle t)
      (Holds slots objects) (perform (live b) method).run
      fun out w => out = (m.step svm call).2 ∧
        Holds (slots.set i (b, some (m.step svm call).1)) objects w := by
  refine Script.Meets.mono (Script.Meets.of_exists ?_) (fun w hw => hw.focus hi) fun _ _ hw => hw
  intro rest
  refine Script.Meets.of_and_left ?_
  intro hback
  refine Script.Meets.of_exists ?_
  intro svm'
  refine Script.Meets.of_and_left ?_
  intro hsame
  have hmethod := himpl.performs rest b svm' method call hasks (SamePrograms.fits hsame hfits)
  refine hmethod.mono (fun _ hw => hw) ?_
  rintro out w ⟨rfl, hw⟩
  have hnext := himpl.similar.next svm svm' call hsame
  exact ⟨(himpl.similar.reply svm svm' call hsame).symm, hback w _ ⟨_, hnext, hw⟩⟩

include himpl in
theorem meets_free {slot : ℕ × Option QuasarSvm} (hi : slots[i]? = some slot) :
    Script.Meets (host cr rt tryFrom bundle t) (Others cr rt tryFrom bundle t)
      (Holds slots objects) (free (handleOf live dead slot))
      fun object w => object = dead slot.1 ∧ Holds (slots.set i (slot.1, none)) objects w := by
  refine Script.Meets.mono (Script.Meets.of_exists ?_) (fun w hw => hw.focus hi) fun _ _ hw => hw
  intro rest
  refine Script.Meets.of_and_left ?_
  intro hback
  rcases slot with ⟨b, slot⟩
  cases slot with
  | some svm =>
      refine (himpl.frees rest b svm).mono (fun _ hw => hw) ?_
      rintro object w ⟨rfl, hw⟩
      exact ⟨rfl, hback w none hw⟩
  | none =>
      -- It was freed before, and nothing is called.
      have hagain : free (handleOf live dead (b, none)) = .done (dead b) := himpl.again b
      rw [hagain]
      exact Script.Meets.done Holds.stable.and_left fun w hw => ⟨rfl, hback w none hw⟩

end Implements

theorem getElem?_of_map_snd {slots : Slots} {i : ℕ} {slot : Option QuasarSvm}
    (h : (slots.map Prod.snd)[i]? = some slot) : ∃ b, slots[i]? = some (b, slot) := by
  rw [List.getElem?_map] at h
  rcases Option.map_eq_some_iff.1 h with ⟨⟨b, slot'⟩, hi, hslot⟩
  cases hslot
  exact ⟨b, hi⟩

theorem map_handleOf_set {slots : Slots} {i b : ℕ} {svm : QuasarSvm}
    (hi : slots[i]? = some (b, some svm)) (svm' : QuasarSvm) :
    (slots.set i (b, some svm')).map (handleOf live dead) = slots.map (handleOf live dead) := by
  rw [List.map_set]
  apply List.ext_getElem?
  intro j
  by_cases hj : i = j
  · subst hj
    have hlt : i < (slots.map (handleOf live dead)).length := by
      rw [List.length_map]
      exact (List.getElem?_eq_some_iff.1 hi).1
    rw [List.getElem?_set_self hlt, List.getElem?_map, hi]
    rfl
  · exact List.getElem?_set_ne hj

/-- Each call returns what the engine replies to it on the VM of its object, and what the thread still
owns in the end are the VMs that were not freed. -/
theorem meets_program
    (himpl : Implements cr rt tryFrom bundle t m new live dead construct perform free Asks)
    {actions : List (PoolAction γ μ)} {inputs : List (PoolInput ClientCall)}
    (h : List.Forall₂ (Matches Asks) actions inputs) {slots : Slots}
    (horderly : m.Orderly new (slots.map Prod.snd) inputs)
    (hfits : ∀ p ∈ (m.pool new).steps (slots.map Prod.snd) inputs, PoolFits cr rt p.1 p.2) :
    Script.Meets (host cr rt tryFrom bundle t) (Others cr rt tryFrom bundle t)
      (Holds slots objects)
      (program construct perform free (slots.map (handleOf live dead)) actions)
      fun outs w => outs = (m.pool new).replies (slots.map Prod.snd) inputs ∧
        ∃ slots', slots'.map Prod.snd = (m.pool new).after (slots.map Prod.snd) inputs ∧
          Holds slots' objects w := by
  induction h generalizing slots with
  | nil =>
      refine Script.Meets.done ?_ fun w hw => ⟨rfl, slots, rfl, hw⟩
      exact (Script.Stable.exists fun _ => Holds.stable.and_left).and_left
  | cons hmatches hrest ih =>
      rename_i action input actions inputs
      rcases Machine.orderly_cons_iff.1 horderly with ⟨hallowed, horderly⟩
      rcases List.forall_mem_cons.1 hfits with ⟨hfit, hfits⟩
      -- What is left to do goes on from the slots that the action leaves.
      have hgo : ∀ (reply : Option (Except ε ρ)) (slots' : Slots),
          ((m.pool new).step (slots.map Prod.snd) input).2 = reply →
          slots'.map Prod.snd = ((m.pool new).step (slots.map Prod.snd) input).1 →
          Script.Meets (host cr rt tryFrom bundle t) (Others cr rt tryFrom bundle t)
            (Holds slots' objects)
            ((program construct perform free (slots'.map (handleOf live dead)) actions).bind
              fun outs => .done (reply :: outs))
            fun outs w => outs = (m.pool new).replies (slots.map Prod.snd) (input :: inputs) ∧
              ∃ slots', slots'.map Prod.snd =
                  (m.pool new).after (slots.map Prod.snd) (input :: inputs) ∧
                Holds slots' objects w := by
        intro reply slots' hreply hslots
        rw [← hslots] at horderly hfits
        refine Script.Meets.bind (ih horderly hfits) ?_
        intro outs
        refine Script.Meets.of_and_left ?_
        rintro rfl
        refine Script.Meets.done ?_ ?_
        · exact (Script.Stable.exists fun _ => Holds.stable.and_left).and_left
        · rintro w ⟨slots'', hafter, hw⟩
          rw [Machine.replies_cons, hreply, ← hslots]
          exact ⟨rfl, slots'', hafter.trans (by rw [Machine.after_cons, hslots]), hw⟩
      cases hmatches with
      | create config =>
          refine Script.Meets.bind (himpl.meets_create config) ?_
          intro out
          refine Script.Meets.of_exists ?_
          intro b
          refine Script.Meets.of_and_left ?_
          rintro rfl
          have hnext := hgo none (slots ++ [(b, some new)]) rfl List.map_append
          rw [List.map_append] at hnext
          exact hnext
      | @call i method call hasks =>
          rcases hallowed with ⟨svm, hsvm⟩
          rcases getElem?_of_map_snd hsvm with ⟨b, hi⟩
          have hobject : (slots.map (handleOf live dead))[i]? = some (live b) := by
            rw [List.getElem?_map, hi]
            rfl
          simp only [program, hobject]
          refine Script.Meets.bind (himpl.meets_call hi hasks (hfit svm hsvm)) ?_
          intro out
          refine Script.Meets.of_and_left ?_
          rintro rfl
          have hstep : (m.pool new).step (slots.map Prod.snd) (.call i call) = _ :=
            Machine.pool_call hsvm call
          have hnext := hgo (some (m.step svm call).2) (slots.set i (b, some (m.step svm call).1))
            (congrArg Prod.snd hstep) (List.map_set.trans (congrArg Prod.fst hstep).symm)
          rw [map_handleOf_set hi] at hnext
          exact hnext
      | free i =>
          rcases hallowed with ⟨slot, hslot⟩
          rcases getElem?_of_map_snd hslot with ⟨b, hi⟩
          have hobject : (slots.map (handleOf live dead))[i]? =
              some (handleOf live dead (b, slot)) := by
            rw [List.getElem?_map, hi]
            rfl
          simp only [program, hobject]
          refine Script.Meets.bind (himpl.meets_free hi) ?_
          intro object
          refine Script.Meets.of_and_left ?_
          rintro rfl
          have hnext := hgo none (slots.set i (b, none)) rfl List.map_set
          rw [List.map_set] at hnext
          exact hnext

/-- Started with no objects, a program gets from each of its objects what a new VM of the engine would
reply to the same calls, alone. -/
theorem meets_program_nil
    (himpl : Implements cr rt tryFrom bundle t m new live dead construct perform free Asks)
    {actions : List (PoolAction γ μ)} {inputs : List (PoolInput ClientCall)}
    (h : List.Forall₂ (Matches Asks) actions inputs) (horderly : m.Orderly new [] inputs)
    (hfits : ∀ p ∈ (m.pool new).steps [] inputs, PoolFits cr rt p.1 p.2) :
    Script.Meets (host cr rt tryFrom bundle t) (Others cr rt tryFrom bundle t) (Owns objects)
      (program construct perform free [] actions)
      fun outs w => (∀ i, Machine.repliesOn i inputs outs =
          m.replies new (inputs.filterMap (PoolInput.on i))) ∧
        ∃ slots, slots.map Prod.snd = (m.pool new).after [] inputs ∧ Holds slots objects w := by
  refine Script.Meets.mono (P := Holds [] objects) (meets_program himpl h horderly hfits)
    (fun w hw => holds_nil_iff.2 hw) ?_
  rintro outs w ⟨rfl, hend⟩
  exact ⟨fun i => Machine.repliesOn_pool horderly i, hend⟩

end Programs

/-! ### Two objects -/

/-- The slot is set on the second VM, and the first is freed before the second executes. -/
def sampleInputs : List (PoolInput ClientCall) :=
  [.create, .create, .call 1 (.set (.setter (.warpToSlot 7))),
    .call 0 (.set (.setter (.warpToSlot 9))), .free 0,
    .call 1 (.process sampleInstructions sampleAccounts .reverse), .free 1, .free 0]

/-- The actions behind `sampleInputs`, with one configuration for both VMs. -/
def sampleActions {γ μ : Type} (config : γ) (set : ConfigurationCall → μ) (process : μ) :
    List (PoolAction γ μ) :=
  [.create config, .create config, .call 1 (set (.setter (.warpToSlot 7))),
    .call 0 (set (.setter (.warpToSlot 9))), .free 0, .call 1 process, .free 1, .free 0]

theorem matches_sampleActions {γ μ : Type} (config : γ) {set : ConfigurationCall → μ} {process : μ}
    {Asks : μ → ClientCall → Prop} (hset : ∀ call, Asks (set call) (.set call))
    (hprocess : Asks process (.process sampleInstructions sampleAccounts .reverse)) :
    List.Forall₂ (Matches Asks) (sampleActions config set process) sampleInputs :=
  .cons (.create _) (.cons (.create _) (.cons (.call 1 (hset _)) (.cons (.call 0 (hset _))
    (.cons (.free 0) (.cons (.call 1 hprocess) (.cons (.free 1) (.cons (.free 0) .nil)))))))

section Sample

variable {ε ρ : Type} {m : Machine QuasarSvm ClientCall (Except ε ρ)} {svm : QuasarSvm}

theorem orderly_sampleInputs (m : Machine QuasarSvm ClientCall (Except ε ρ)) (svm : QuasarSvm) :
    m.Orderly svm [] sampleInputs := by
  simp only [sampleInputs, Machine.orderly_cons_iff]
  refine ⟨trivial, trivial, ⟨_, rfl⟩, ⟨_, rfl⟩, ⟨_, rfl⟩, ⟨_, rfl⟩, ⟨_, rfl⟩, ⟨_, rfl⟩, ?_⟩
  exact fun p hp => absurd hp List.not_mem_nil

/-- All that is asked of a VM to execute is what the second one executes. -/
theorem poolFits_sampleInputs {cr : Crates} {rt : Runtime}
    (hfits : Fits cr rt (m.step svm (.set (.setter (.warpToSlot 7)))).1
      (.process sampleInstructions sampleAccounts .reverse)) :
    ∀ p ∈ (m.pool svm).steps [] sampleInputs, PoolFits cr rt p.1 p.2 := by
  simp only [sampleInputs, Machine.steps, List.forall_mem_cons]
  refine ⟨trivial, trivial, fun _ _ => trivial, fun _ _ => trivial, trivial, ?_, trivial, trivial, ?_⟩
  · intro svm' hsvm'
    cases hsvm'
    exact hfits
  · exact fun p hp => absurd hp List.not_mem_nil

end Sample

/-! ## The TypeScript packages -/

namespace Node

section Programs

variable {τ : Type} [DecidableEq τ] {cr : Crates} {rt : Runtime} {tryFrom : Conversion}
  {bundle : Bundle} {t : τ} {objects : List (ℕ × Object)} {svm : QuasarSvm}
  {loadElf : String → Bytes}

/-- The object of a VM that was freed. -/
def freed (b : ℕ) : QuasarSvmBase :=
  { ptr := some b, freed := true }

theorem implements {addProgram : QuasarSvmBase → String → Bytes → UInt8 → Code Unit} {μ : Type}
    {perform : QuasarSvmBase → μ → Code (Option InternalResult)} {Asks : μ → ClientCall → Prop}
    (hnew : QuasarSvm.new cr bundle = some svm) (hfiles : Installed loadElf bundle)
    (hids : ReachesPrograms addProgram)
    (hperform : ∀ objects b svm method call, Asks method call → Fits cr rt svm call →
      Ensures cr rt tryFrom bundle t (Owns ((b, .vm svm) :: objects)) (perform (handle b) method)
        (Returns ((machine cr rt tryFrom).step svm call).2
          ((b, .vm ((machine cr rt tryFrom).step svm call).1) :: objects))) :
    Implements cr rt tryFrom bundle t (machine cr rt tryFrom) svm handle freed
      (construct addProgram loadElf) perform QuasarSvmBase.free Asks :=
  { similar := clientMachine_bisimulation Thrown.error (viewResult tryFrom)
    makes := fun _ config => ensures_construct hnew hfiles hids config
    performs := hperform
    frees := fun _ _ _ => meets_free
    again := fun _ => rfl }

/-- Through either TypeScript package, whatever the other threads call meanwhile: a program with any
number of objects, each with a configuration of its own, is never left with an undefined call as long
as it calls no method of an object after its free.  Each object returns what a new VM of the engine
replies to the same calls and draws, and in the end the VMs that are left are those that were not
freed. -/
theorem typescript_programs {codec : AddressCodec} {toUtf8 : Bytes → String}
    (hutf8 : ∀ s, toUtf8 (utf8 s) = s) (hkit : KnowsPrograms codec.encode)
    (hweb3 : KnowsPrograms codec.addressBytes) (hfiles : Installed loadElf bundle)
    (hnew : QuasarSvm.new cr bundle = some svm) {inputs : List (PoolInput ClientCall)}
    (horderly : (machine cr rt tryFrom).Orderly svm [] inputs)
    (hfits : ∀ p ∈ ((machine cr rt tryFrom).pool svm).steps [] inputs, PoolFits cr rt p.1 p.2)
    {kitActions : List (PoolAction QuasarSvmConfig Kit.Method)}
    (hkitActions : List.Forall₂ (Matches (Kit.Asks codec)) kitActions inputs)
    {web3Actions : List (PoolAction QuasarSvmConfig Web3.Method)}
    (hweb3Actions : List.Forall₂ (Matches (Web3.Asks codec)) web3Actions inputs) :
    Script.Meets (host cr rt tryFrom bundle t) (Others cr rt tryFrom bundle t) (Owns objects)
        (program (Kit.QuasarSvm.new codec loadElf) (Kit.perform codec toUtf8) QuasarSvmBase.free []
          kitActions)
        (fun outs w => (∀ i, Machine.repliesOn i inputs outs =
            (machine cr rt tryFrom).replies svm (inputs.filterMap (PoolInput.on i))) ∧
          ∃ slots, slots.map Prod.snd = ((machine cr rt tryFrom).pool svm).after [] inputs ∧
            Holds slots objects w) ∧
      Script.Meets (host cr rt tryFrom bundle t) (Others cr rt tryFrom bundle t) (Owns objects)
        (program (Web3.QuasarSvm.new codec loadElf) (Web3.perform codec toUtf8) QuasarSvmBase.free []
          web3Actions)
        (fun outs w => (∀ i, Machine.repliesOn i inputs outs =
            (machine cr rt tryFrom).replies svm (inputs.filterMap (PoolInput.on i))) ∧
          ∃ slots, slots.map Prod.snd = ((machine cr rt tryFrom).pool svm).after [] inputs ∧
            Holds slots objects w) := by
  refine ⟨?_, ?_⟩
  · have himpl : Implements cr rt tryFrom bundle t (machine cr rt tryFrom) svm handle freed
        (Kit.QuasarSvm.new codec loadElf) (Kit.perform codec toUtf8) QuasarSvmBase.free
        (Kit.Asks codec) := by
      apply implements hnew hfiles (reachesPrograms_kit hkit)
      intro objects b svm method call hasks hfit
      exact Kit.ensures_perform hutf8 hasks hfit
    exact meets_program_nil himpl hkitActions horderly hfits
  · have himpl : Implements cr rt tryFrom bundle t (machine cr rt tryFrom) svm handle freed
        (Web3.QuasarSvm.new codec loadElf) (Web3.perform codec toUtf8) QuasarSvmBase.free
        (Web3.Asks codec) := by
      apply implements hnew hfiles (reachesPrograms_web3 hweb3)
      intro objects b svm method call hasks hfit
      exact Web3.ensures_perform hutf8 hasks hfit
    exact meets_program_nil himpl hweb3Actions horderly hfits

end Programs

/-- Thread `1` makes two objects of either package. -/
theorem typescript_programs_sample :
    ∃ svm ∈ QuasarSvm.new Svm.Reference.crates sampleBundle,
      Script.Meets
          (host Svm.Reference.crates Svm.Reference.idleRuntime Ffi.ProgramError.tryFrom sampleBundle
            1)
          (Others Svm.Reference.crates Svm.Reference.idleRuntime Ffi.ProgramError.tryFrom
            sampleBundle 1)
          (Owns [])
          (program (Kit.QuasarSvm.new base58Codec sampleElf) (Kit.perform base58Codec utf8Lossy)
            QuasarSvmBase.free []
            (sampleActions quasarSvmConfigFull .setter
              (.processInstructionChain [sampleKitInstruction, sampleBareInstruction]
                [sampleKitAccount] .reverse)))
          (fun outs w => (∀ i, Machine.repliesOn i sampleInputs outs =
              (machine Svm.Reference.crates Svm.Reference.idleRuntime
                Ffi.ProgramError.tryFrom).replies svm
                (sampleInputs.filterMap (PoolInput.on i))) ∧
            ∃ slots, slots.map Prod.snd = [none, none] ∧ Holds slots [] w) ∧
        Script.Meets
          (host Svm.Reference.crates Svm.Reference.idleRuntime Ffi.ProgramError.tryFrom sampleBundle
            1)
          (Others Svm.Reference.crates Svm.Reference.idleRuntime Ffi.ProgramError.tryFrom
            sampleBundle 1)
          (Owns [])
          (program (Web3.QuasarSvm.new base58Codec sampleElf) (Web3.perform base58Codec utf8Lossy)
            QuasarSvmBase.free []
            (sampleActions quasarSvmConfigFull .setter
              (.processInstructionChain sampleWeb3Instructions [sampleWeb3Account] .reverse)))
          (fun outs w => (∀ i, Machine.repliesOn i sampleInputs outs =
              (machine Svm.Reference.crates Svm.Reference.idleRuntime
                Ffi.ProgramError.tryFrom).replies svm
                (sampleInputs.filterMap (PoolInput.on i))) ∧
            ∃ slots, slots.map Prod.snd = [none, none] ∧ Holds slots [] w) := by
  refine ⟨_, rfl, ?_⟩
  exact typescript_programs utf8Lossy_utf8 knowsPrograms_base58 knowsPrograms_base58
    installed_sample rfl (orderly_sampleInputs _ _) (poolFits_sampleInputs (fits_sampleCalls _ rfl))
    (matches_sampleActions _ .setter
      (.processInstructionChain kit_represents_sample kit_representsAccount_sample
        fits_sampleInstructions fits_sampleAccounts _))
    (matches_sampleActions _ .setter
      (.processInstructionChain web3_represents_sample web3_representsAccount_sample
        fits_sampleInstructions fits_sampleAccounts _))

end Node

/-! ## Python -/

namespace Python

section Programs

variable {τ : Type} [DecidableEq τ] {cr : Crates} {rt : Runtime} {tryFrom : Conversion}
  {bundle : Bundle} {t : τ} {objects : List (ℕ × Object)} {svm : Svm.QuasarSvm}
  {loadElf : String → Bytes}

/-- The object of a VM that was freed. -/
def freed (b : ℕ) : Python.QuasarSvm :=
  { ptr := some b, freed := true }

/-- The flags of a constructor call. -/
structure Config where
  loadToken : Bool
  loadToken2022 : Bool
  loadAssociatedToken : Bool

def newWith (loadElf : String → Bytes) (config : Config) : Code Python.QuasarSvm :=
  Python.QuasarSvm.new splTokenProgramId splToken2022ProgramId splAssociatedTokenProgramId loadElf
    config.loadToken config.loadToken2022 config.loadAssociatedToken

/-- Through the Python class, whatever the other threads call meanwhile: a program with any number of
objects is never left with an undefined call as long as it calls no method of an object after its free.
Each object returns what a new VM of the engine replies to the same calls and draws, and in the end
the VMs that are left are those that were not freed. -/
theorem python_programs (hfiles : Installed loadElf bundle)
    (hnew : Svm.QuasarSvm.new cr bundle = some svm) {inputs : List (PoolInput ClientCall)}
    (horderly : (machine cr rt tryFrom).Orderly svm [] inputs)
    (hfits : ∀ p ∈ ((machine cr rt tryFrom).pool svm).steps [] inputs, PoolFits cr rt p.1 p.2)
    {actions : List (PoolAction Config Method)}
    (hactions : List.Forall₂ (Matches Asks) actions inputs) :
    Script.Meets (host cr rt tryFrom bundle t) (Others cr rt tryFrom bundle t) (Owns objects)
      (program (newWith loadElf) Python.QuasarSvm.perform Python.QuasarSvm.free [] actions)
      fun outs w => (∀ i, Machine.repliesOn i inputs outs =
          (machine cr rt tryFrom).replies svm (inputs.filterMap (PoolInput.on i))) ∧
        ∃ slots, slots.map Prod.snd = ((machine cr rt tryFrom).pool svm).after [] inputs ∧
          Holds slots objects w := by
  have himpl : Implements cr rt tryFrom bundle t (machine cr rt tryFrom) svm handle freed
      (newWith loadElf) Python.QuasarSvm.perform Python.QuasarSvm.free Asks :=
    { similar := machine_bisimulation
      makes := fun _ config => ensures_new hnew hfiles _ _ _
      performs := fun _ _ _ _ _ hasks hfit => ensures_perform hasks hfit
      frees := fun _ _ _ => meets_free
      again := fun _ => rfl }
  exact meets_program_nil himpl hactions horderly hfits

end Programs

/-- Thread `1` makes two objects of the class. -/
theorem python_programs_sample :
    ∃ svm ∈ Svm.QuasarSvm.new Svm.Reference.crates sampleBundle,
      Script.Meets
        (host Svm.Reference.crates Svm.Reference.idleRuntime Ffi.ProgramError.tryFrom sampleBundle 1)
        (Others Svm.Reference.crates Svm.Reference.idleRuntime Ffi.ProgramError.tryFrom
          sampleBundle 1)
        (Owns [])
        (program (newWith sampleElf) Python.QuasarSvm.perform Python.QuasarSvm.free []
          (sampleActions
            { loadToken := true
              loadToken2022 := false
              loadAssociatedToken := true }
            .setter
            (.processInstructionChain sampleInstructions
              (sampleAccounts.map AccountInput.ofAccount) .reverse)))
        (fun outs w => (∀ i, Machine.repliesOn i sampleInputs outs =
            (machine Svm.Reference.crates Svm.Reference.idleRuntime
              Ffi.ProgramError.tryFrom).replies svm
              (sampleInputs.filterMap (PoolInput.on i))) ∧
          ∃ slots, slots.map Prod.snd = [none, none] ∧ Holds slots [] w) := by
  refine ⟨_, rfl, ?_⟩
  exact python_programs installed_sample rfl (orderly_sampleInputs _ _)
    (poolFits_sampleInputs (fits_sampleCalls _ rfl))
    (matches_sampleActions _ .setter
      (.processInstructionChain fits_sampleInstructions fits_sampleAccounts _))

end Python

end Bindings
end Quasar
