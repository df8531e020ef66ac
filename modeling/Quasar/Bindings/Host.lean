import Quasar.Ffi.Contract
import Quasar.Lib.Script

/-!
# Host — a thread beside others on the C interface

What the bindings ask for: calls of the C interface, and reads of the result buffers.  A thread knows
which objects it was handed.  The other threads may call anything on any objects but these, between
any two requests.
-/

namespace Quasar
namespace Bindings

open Lib
open Ffi
open Svm (Bytes Bundle Crates Runtime QuasarSvm)

/-! ## Requests -/

inductive Request
  | lastError
  | svmNew
  | svmFree (svm : Pointer)
  | onVm (svm : Pointer) (call : VmCall)
  | resultFree (result : Pointer) (resultLen : Nat)
  | read (result : Pointer) (resultLen : Nat)

/-- What a request returns.  A call on a VM returns its code, and the pointer and the length of the
result buffer where it wrote these. -/
abbrev Answer : Request → Type
  | .lastError => Option String
  | .svmNew => Pointer
  | .svmFree _ => Unit
  | .onVm _ _ => Int32 × Option (Nat × Nat)
  | .resultFree _ _ => Unit
  | .read _ _ => Bytes

/-- The library, and the objects that one thread was handed and has not freed. -/
structure World (τ : Type) where
  library : Library τ
  mine : List Nat

section Host

variable {τ : Type} [DecidableEq τ] (cr : Crates) (rt : Runtime) (tryFrom : Conversion)
  (bundle : Bundle) (t : τ)

/-- A pointer that is freed is no longer the thread's. -/
def World.release (w : World τ) (lib : Library τ) (p : Pointer) : World τ :=
  { library := lib
    mine := w.mine.filter fun b => p ≠ some b }

/-- Absent for undefined behaviour, here a read outside of a live result buffer. -/
def World.read (w : World τ) (result : Pointer) (resultLen : Nat) : Option Bytes :=
  match result with
  | none => none
  | some b =>
      match w.library.memory.contents b with
      | some (.result bytes) =>
          if resultLen ≤ bytes.length then some (bytes.take resultLen) else none
      | _ => none

def World.answer (w : World τ) : (request : Request) → Option (World τ × Answer request)
  | .lastError => some (w, w.library.quasarLastError t)
  | .svmNew =>
      let out := w.library.quasarSvmNew cr bundle t
      some ({ library := out.1, mine := out.2.toList ++ w.mine }, out.2)
  | .svmFree svm => (w.library.quasarSvmFree svm).map fun lib => (w.release lib svm, ())
  | .onVm svm call =>
      (w.library.callVm cr rt tryFrom t svm call).map fun out =>
        ({ library := out.1, mine := (out.2.2.map Prod.fst).toList ++ w.mine },
          out.2.1, out.2.2.map fun result => (result.1, result.2.length))
  | .resultFree result resultLen =>
      (w.library.quasarResultFree resultLen result).map fun lib => (w.release lib result, ())
  | .read result resultLen => (w.read result resultLen).map fun bytes => (w, bytes)

/-- The C interface as thread `t` uses it. -/
def host : Host (World τ) Request Answer :=
  { step := fun w request => w.answer cr rt tryFrom bundle t request }

/-- The pointer that a call follows. -/
def Call.follows : Call → Pointer
  | .svmFree svm => svm
  | .onVm svm _ => svm
  | .resultFree result _ => result
  | _ => none

/-- A step of another thread, which has none of this thread's pointers. -/
inductive Others : World τ → World τ → Prop
  | call {w : World τ} {t' : τ} {call : Call} {lib' : Library τ} {ret : Return} (hthread : t' ≠ t)
      (hmine : ∀ b ∈ w.mine, Call.follows call ≠ some b)
      (hstep : w.library.step cr rt tryFrom bundle (t', call) = some (lib', ret)) :
      Others w { w with library := lib' }

end Host

/-! ## What a thread knows -/

/-- The thread was handed exactly these objects, and they are as it left them. -/
structure Owns {τ : Type} (objects : List (Nat × Object)) (w : World τ) : Prop where
  mine : w.mine.Perm (objects.map Prod.fst)
  nodup : (objects.map Prod.fst).Nodup
  live : ∀ p ∈ objects, w.library.memory.contents p.1 = some p.2

section Heap

variable {τ : Type} {w : World τ} {objects : List (Nat × Object)}

theorem Owns.not_mem {b : Nat} {object : Object} (h : Owns ((b, object) :: objects) w) :
    b ∉ objects.map Prod.fst :=
  (List.nodup_cons.1 h.nodup).1

theorem Owns.head {b : Nat} {object : Object} (h : Owns ((b, object) :: objects) w) :
    w.library.memory.contents b = some object :=
  h.live (b, object) List.mem_cons_self

theorem Owns.tail_ne {b : Nat} {object : Object} (h : Owns ((b, object) :: objects) w) :
    ∀ p ∈ objects, p.1 ≠ b := by
  rintro p hp rfl
  exact h.not_mem (List.mem_map_of_mem hp)

/-- In whatever order the objects are named. -/
theorem Owns.perm {objects' : List (Nat × Object)} (h : Owns objects w)
    (hperm : objects.Perm objects') : Owns objects' w :=
  { mine := h.mine.trans (hperm.map Prod.fst)
    nodup := (hperm.map Prod.fst).nodup_iff.1 h.nodup
    live := fun p hp => h.live p (hperm.mem_iff.2 hp) }

/-- A new object is none of the thread's. -/
theorem Owns.alloc (m : Blocks Object) (message : τ → Option String) {object : Object}
    (h : Owns objects { library := { memory := m, lastError := message }, mine := w.mine }) :
    Owns ((m.next, object) :: objects)
      { library := { memory := m.alloc object, lastError := message }
        mine := m.next :: w.mine } := by
  refine ⟨?_, ?_, ?_⟩
  · exact h.mine.cons m.next
  · refine List.nodup_cons.2 ⟨?_, h.nodup⟩
    intro hmem
    rcases List.mem_map.1 hmem with ⟨p, hp, heq⟩
    have hlive := h.live p hp
    rw [heq] at hlive
    exact Blocks.ne_next_of_contents hlive rfl
  · intro p hp
    rcases List.mem_cons.1 hp with rfl | hp
    · exact m.contents_alloc_next object
    · exact Blocks.contents_alloc_of_live (h.live p hp) object

theorem Owns.modify {b : Nat} {object object' : Object} (message : τ → Option String)
    (h : Owns ((b, object) :: objects) w) :
    Owns ((b, object') :: objects)
      { library := { memory := w.library.memory.modify b fun _ => object', lastError := message }
        mine := w.mine } := by
  refine ⟨h.mine, h.nodup, ?_⟩
  intro p hp
  rcases List.mem_cons.1 hp with rfl | hp
  · simp [h.head]
  · exact (w.library.memory.contents_modify_of_ne (h.tail_ne p hp) _).trans
      (h.live p (List.mem_cons_of_mem _ hp))

theorem Owns.free {b : Nat} {object : Object} (h : Owns ((b, object) :: objects) w) :
    Owns objects
      (w.release { w.library with memory := w.library.memory.free b } (some b)) := by
  refine ⟨?_, (List.nodup_cons.1 h.nodup).2, ?_⟩
  · have hothers : ∀ b' ∈ objects.map Prod.fst, (some b ≠ some b') := by
      rintro b' hb' heq
      cases heq
      exact h.not_mem hb'
    have hrest : (objects.map Prod.fst).filter (fun b' => decide (some b ≠ some b')) =
        objects.map Prod.fst :=
      List.filter_eq_self.2 fun b' hb' => decide_eq_true (hothers b' hb')
    have hfilter := h.mine.filter fun b' => decide (some b ≠ some b')
    rw [List.map_cons, List.filter_cons_of_neg (by simp), hrest] at hfilter
    exact hfilter
  · intro p hp
    exact (w.library.memory.contents_free_of_ne (h.tail_ne p hp)).trans
      (h.live p (List.mem_cons_of_mem _ hp))

end Heap

section Knows

variable {τ : Type} [DecidableEq τ] {cr : Crates} {rt : Runtime} {tryFrom : Conversion}
  {bundle : Bundle} {t : τ} {w w' : World τ} {objects : List (Nat × Object)}

/-- A call changes the object that it follows a pointer to, and no other live object. -/
theorem contents_of_not_followed {lib lib' : Library τ} {call : Call} {ret : Return} {b : Nat}
    {object : Object} (hb : lib.memory.contents b = some object)
    (hdoes : Library.Does cr rt tryFrom bundle lib t call lib' ret)
    (hfollows : Call.follows call ≠ some b) : lib'.memory.contents b = some object := by
  have hne : ∀ b', Call.follows call = some b' → b ≠ b' := by
    rintro b' hb' rfl
    exact hfollows hb'
  cases hdoes with
  | told => exact hb
  | created svm hnew => exact Blocks.contents_alloc_of_live hb _
  | notCreated hnew => exact hb
  | freedNothing => exact hb
  | freedVm b' svm hb' => exact (lib.memory.contents_free_of_ne (hne b' rfl)).trans hb
  | rejected svm call hnull => exact hb
  | called b' svm svm' call code message hnull hb' hrun hends =>
      exact (lib.memory.contents_modify_of_ne (hne b' rfl) _).trans hb
  | answered b' svm svm' call code message bytes hnull hb' hrun hends =>
      refine Blocks.contents_alloc_of_live ?_ _
      exact (lib.memory.contents_modify_of_ne (hne b' rfl) _).trans hb
  | freedNoResult resultLen => exact hb
  | freedResult b' bytes hb' => exact (lib.memory.contents_free_of_ne (hne b' rfl)).trans hb

theorem Owns.stable :
    Script.Stable (Others cr rt tryFrom bundle t) (Owns (τ := τ) objects) := by
  rintro w w' hw ⟨hthread, hmine, hstep⟩
  have hdoes := Library.does_of_step hstep
  refine ⟨hw.mine, hw.nodup, ?_⟩
  intro p hp
  have hp' : p.1 ∈ w.mine := hw.mine.mem_iff.2 (List.mem_map_of_mem hp)
  exact contents_of_not_followed (hw.live p hp) hdoes (hmine p.1 hp')

/-- A thread's last error stays as it is while others call. -/
theorem lastError_stable (message : Option String) :
    Script.Stable (Others cr rt tryFrom bundle t)
      fun w : World τ => w.library.lastError t = message := by
  rintro w w' hw ⟨hthread, hmine, hstep⟩
  exact ((Library.does_of_step hstep).lastError_eq (Or.inl (Ne.symm hthread))).trans hw

/-- What the thread owns, with its last error. -/
def OwnsWith (t : τ) (objects : List (Nat × Object)) (message : Option String) (w : World τ) : Prop :=
  Owns objects w ∧ w.library.lastError t = message

theorem OwnsWith.stable (message : Option String) :
    Script.Stable (Others cr rt tryFrom bundle t) (OwnsWith t objects message) := by
  rintro w w' ⟨howns, herror⟩ hothers
  exact ⟨Owns.stable w w' howns hothers, lastError_stable message w w' herror hothers⟩

/-! ## What each request does -/

/-- A thread that asks for its last error is told. -/
theorem meets_lastError (message : Option String) :
    Script.Meets (host cr rt tryFrom bundle t) (Others cr rt tryFrom bundle t)
      (OwnsWith (τ := τ) t objects message) (Script.request .lastError)
      fun told w => told = message ∧ Owns objects w := by
  refine Script.Meets.request (OwnsWith.stable message) ?_ fun _ => Owns.stable.and_left
  rintro w ⟨howns, herror⟩
  exact ⟨w, w.library.lastError t, rfl, herror, howns⟩

theorem meets_svmNew {svm : QuasarSvm} (hnew : QuasarSvm.new cr bundle = some svm) :
    Script.Meets (host cr rt tryFrom bundle t) (Others cr rt tryFrom bundle t)
      (Owns (τ := τ) objects) (Script.request .svmNew)
      fun ptr w => ∃ b, ptr = some b ∧ Owns ((b, .vm svm) :: objects) w := by
  refine Script.Meets.request Owns.stable ?_ fun _ =>
    Script.Stable.exists fun _ => Owns.stable.and_left
  intro w hw
  refine ⟨_, some w.library.memory.next, ?_, w.library.memory.next, rfl,
    Owns.alloc w.library.memory (w.library.clearLastError t).lastError
      ⟨hw.mine, hw.nodup, hw.live⟩⟩
  simp only [host, World.answer, Library.quasarSvmNew, hnew]
  rfl

theorem meets_svmNew_of_none (hnew : QuasarSvm.new cr bundle = none) :
    Script.Meets (host cr rt tryFrom bundle t) (Others cr rt tryFrom bundle t)
      (Owns (τ := τ) objects) (Script.request .svmNew)
      fun ptr w => ptr = none ∧ OwnsWith t objects (some "Panic during SVM creation") w := by
  refine Script.Meets.request Owns.stable ?_ fun _ => (OwnsWith.stable _).and_left
  intro w hw
  refine ⟨{ library := (w.library.clearLastError t).setLastError t "Panic during SVM creation"
            mine := w.mine }, none, ?_, rfl, ⟨hw.mine, hw.nodup, hw.live⟩, ?_⟩
  · simp only [host, World.answer, Library.quasarSvmNew, hnew]
    rfl
  · have hkept : cString "Panic during SVM creation" = some "Panic during SVM creation" := by
      decide
    simp [Library.setLastError, hkept]

/-- A call on a VM that hands out nothing. -/
theorem meets_onVm {b : Nat} {svm svm' : QuasarSvm} {call : VmCall} {code : Int32}
    {message : Option String} (hnull : call.hasNull = false)
    (hrun : call.run cr rt tryFrom (some svm) =
      { svm := some svm', code := code, lastError := message, result := none }) :
    Script.Meets (host cr rt tryFrom bundle t) (Others cr rt tryFrom bundle t)
      (Owns (τ := τ) ((b, .vm svm) :: objects)) (Script.request (.onVm (some b) call))
      fun out w => out = (code, none) ∧
        OwnsWith t ((b, .vm svm') :: objects) (message.bind cString) w := by
  refine Script.Meets.request Owns.stable ?_ fun _ => (OwnsWith.stable _).and_left
  intro w hw
  refine ⟨_, (code, none), ?_, rfl,
    Owns.modify (Function.update w.library.lastError t (message.bind cString)) hw, ?_⟩
  · simp only [host, World.answer, Library.callVm_live hnull hw.head, hrun, Library.settle_some]
    rfl
  · simp

/-- A call on a VM that hands out a result buffer. -/
theorem meets_onVm_result {b : Nat} {svm svm' : QuasarSvm} {call : VmCall} {code : Int32}
    {message : Option String} {bytes : Bytes} (hnull : call.hasNull = false)
    (hrun : call.run cr rt tryFrom (some svm) =
      { svm := some svm', code := code, lastError := message, result := some bytes }) :
    Script.Meets (host cr rt tryFrom bundle t) (Others cr rt tryFrom bundle t)
      (Owns (τ := τ) ((b, .vm svm) :: objects)) (Script.request (.onVm (some b) call))
      fun out w => ∃ p, out = (code, some (p, bytes.length)) ∧
        Owns ((p, .result bytes) :: (b, .vm svm') :: objects) w := by
  refine Script.Meets.request Owns.stable ?_ fun _ =>
    Script.Stable.exists fun _ => Owns.stable.and_left
  intro w hw
  refine ⟨_, (code, some (w.library.memory.next, bytes.length)), ?_, w.library.memory.next, rfl,
    Owns.alloc (w.library.memory.modify b fun _ => .vm svm')
      (Function.update w.library.lastError t (message.bind cString)) (Owns.modify _ hw)⟩
  simp only [host, World.answer, Library.callVm_live hnull hw.head, hrun,
    Library.settle_some_result]
  rfl

/-- A whole result buffer is read. -/
theorem meets_read {p : Nat} {bytes : Bytes} :
    Script.Meets (host cr rt tryFrom bundle t) (Others cr rt tryFrom bundle t)
      (Owns (τ := τ) ((p, .result bytes) :: objects)) (Script.request (.read (some p) bytes.length))
      fun read w => read = bytes ∧ Owns ((p, .result bytes) :: objects) w := by
  refine Script.Meets.request Owns.stable ?_ fun _ => Owns.stable.and_left
  intro w hw
  refine ⟨w, bytes, ?_, rfl, hw⟩
  simp [host, World.answer, World.read, hw.head]

theorem meets_resultFree {p : Nat} {bytes : Bytes} :
    Script.Meets (host cr rt tryFrom bundle t) (Others cr rt tryFrom bundle t)
      (Owns (τ := τ) ((p, .result bytes) :: objects))
      (Script.request (.resultFree (some p) bytes.length)) fun _ w => Owns objects w := by
  refine Script.Meets.request Owns.stable ?_ fun _ => Owns.stable
  intro w hw
  refine ⟨_, (), ?_, Owns.free hw⟩
  simp [host, World.answer, Library.quasarResultFree, hw.head]

theorem meets_svmFree {b : Nat} {svm : QuasarSvm} :
    Script.Meets (host cr rt tryFrom bundle t) (Others cr rt tryFrom bundle t)
      (Owns (τ := τ) ((b, .vm svm) :: objects)) (Script.request (.svmFree (some b)))
      fun _ w => Owns objects w := by
  refine Script.Meets.request Owns.stable ?_ fun _ => Owns.stable
  intro w hw
  refine ⟨_, (), ?_, Owns.free hw⟩
  simp [host, World.answer, Library.quasarSvmFree, hw.head]

end Knows

end Bindings
end Quasar
