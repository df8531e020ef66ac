import Quasar.Ffi.Entry
import Quasar.Svm.ClockCalls
import Quasar.Svm.SysvarViews

/-!
# Configuration — the setters of the C interface

Each setter checks its pointer and then changes one field of the VM.  With a pointer they are the
engine's own setters, so what programs see of a clock or a rent that is set through the C interface
is what the engine's setters make them see.
-/

namespace Quasar
namespace Ffi

open Svm (Crates QuasarSvm)
open Svm.QuasarSvm

/-- A call that changes the VM behind a pointer, or rejects a null pointer. -/
def configure (svm : Option QuasarSvm) (change : QuasarSvm → QuasarSvm) : CallOutcome :=
  match svm with
  | none =>
      { svm := none
        code := quasarErrNullPointer
        lastError := some "Null pointer argument"
        result := none }
  | some svm =>
      { svm := some (change svm)
        code := quasarOk
        lastError := none
        result := none }

def quasarSvmSetClock (svm : Option QuasarSvm) (slot : UInt64) (epochStartTimestamp : Int64)
    (epoch leaderScheduleEpoch : UInt64) (unixTimestamp : Int64) : CallOutcome :=
  configure svm fun svm =>
    { svm with
      sysvars := { svm.sysvars with
        clock :=
          { slot := slot
            epochStartTimestamp := epochStartTimestamp
            epoch := epoch
            leaderScheduleEpoch := leaderScheduleEpoch
            unixTimestamp := unixTimestamp } } }

def quasarSvmWarpToSlot (cr : Crates) (svm : Option QuasarSvm) (slot : UInt64) : CallOutcome :=
  configure svm fun svm => { svm with sysvars := svm.sysvars.warpToSlot cr slot }

/-- The argument's name speaks of a year; the source stores it as lamports per byte, with the
exemption threshold `1.0`. -/
def quasarSvmSetRent (svm : Option QuasarSvm) (lamportsPerByteYear : UInt64) : CallOutcome :=
  configure svm fun svm =>
    { svm with
      sysvars := { svm.sysvars with
        rent :=
          { lamportsPerByte := lamportsPerByteYear
            exemptionThreshold := 0x3FF0000000000000
            burnPercent := 0 } } }

def quasarSvmSetEpochSchedule (svm : Option QuasarSvm)
    (slotsPerEpoch leaderScheduleSlotOffset : UInt64) (warmup : Bool)
    (firstNormalEpoch firstNormalSlot : UInt64) : CallOutcome :=
  configure svm fun svm =>
    { svm with
      sysvars := { svm.sysvars with
        epochSchedule :=
          { slotsPerEpoch := slotsPerEpoch
            leaderScheduleSlotOffset := leaderScheduleSlotOffset
            warmup := warmup
            firstNormalEpoch := firstNormalEpoch
            firstNormalSlot := firstNormalSlot } } }

def quasarSvmSetComputeBudget (svm : Option QuasarSvm) (maxUnits : UInt64) : CallOutcome :=
  configure svm fun svm =>
    { svm with computeBudget := { svm.computeBudget with computeUnitLimit := maxUnits } }

/-- A setter succeeds exactly when it is given a VM. -/
theorem code_configure_eq_ok_iff (svm : Option QuasarSvm) (change : QuasarSvm → QuasarSvm) :
    (configure svm change).code = quasarOk ↔ svm.isSome := by
  cases svm with
  | none =>
      have hne : quasarErrNullPointer ≠ quasarOk := by decide
      simpa [configure] using hne
  | some svm => simp [configure]

/-! ## The setters of the clock and the rent -/

/-- A call of one of the setters of the clock and of the rent. -/
inductive SetterCall
  | setClock (slot : UInt64) (epochStartTimestamp : Int64) (epoch leaderScheduleEpoch : UInt64)
      (unixTimestamp : Int64)
  | warpToSlot (slot : UInt64)
  | setRent (lamportsPerByteYear : UInt64)

namespace SetterCall

def run (cr : Crates) (svm : Option QuasarSvm) : SetterCall → CallOutcome
  | .setClock slot epochStartTimestamp epoch leaderScheduleEpoch unixTimestamp =>
      quasarSvmSetClock svm slot epochStartTimestamp epoch leaderScheduleEpoch unixTimestamp
  | .warpToSlot slot => quasarSvmWarpToSlot cr svm slot
  | .setRent lamportsPerByteYear => quasarSvmSetRent svm lamportsPerByteYear

/-- The engine's setter behind the call. -/
def setter : SetterCall → Setter
  | .setClock slot epochStartTimestamp epoch leaderScheduleEpoch unixTimestamp =>
      .setClock
        { slot := slot
          epochStartTimestamp := epochStartTimestamp
          epoch := epoch
          leaderScheduleEpoch := leaderScheduleEpoch
          unixTimestamp := unixTimestamp }
  | .warpToSlot slot => .warpToSlot slot
  | .setRent lamportsPerByteYear =>
      .setRent
        { lamportsPerByte := lamportsPerByteYear
          exemptionThreshold := 0x3FF0000000000000
          burnPercent := 0 }

theorem svm_run (cr : Crates) (svm : QuasarSvm) (call : SetterCall) :
    (call.run cr (some svm)).svm = some (call.setter.apply cr svm) := by
  cases call with
  | _ => rfl

/-- The clock call behind the call, unless it sets the rent. -/
def clockCall : SetterCall → Option Svm.ClockCall
  | .setClock slot epochStartTimestamp epoch leaderScheduleEpoch unixTimestamp =>
      some (.setClock
        { slot := slot
          epochStartTimestamp := epochStartTimestamp
          epoch := epoch
          leaderScheduleEpoch := leaderScheduleEpoch
          unixTimestamp := unixTimestamp })
  | .warpToSlot slot => some (.warpToSlot slot)
  | .setRent _ => none

/-- Through the C interface the clock is set as the engine's clock calls set it. -/
theorem svm_run_clockCall (cr : Crates) (svm : QuasarSvm) (call : SetterCall) :
    ∀ c ∈ call.clockCall, (call.run cr (some svm)).svm = some (c.apply cr svm) := by
  cases call with
  | setRent lamportsPerByteYear => exact fun c hc => nomatch hc
  | _ =>
      rintro c hc
      cases hc
      rfl

variable {cr : Crates} {svm : QuasarSvm} {ixs : List Svm.Instruction}
  {accounts : List Svm.Account}

/-- As long as no account is stored under the sysvar's id, a call that neither passes nor runs the
id sees the value that was set through the C interface. -/
theorem shows_value (hcr : Svm.SysvarCrates cr) (call : SetterCall)
    (hnone : svm.accounts.lookup (cr.sysvarId call.setter.sysvar) = none)
    (hpassed : NotPassed accounts (cr.sysvarId call.setter.sysvar))
    (hrun : NotRun ixs (cr.sysvarId call.setter.sysvar)) :
    ∃ svm', (call.run cr (some svm)).svm = some svm' ∧
      Shows cr svm' ixs accounts call.setter.sysvar ∧
      ownData cr svm' call.setter.sysvar = cr.serializeSysvar (call.setter.value cr svm) := by
  refine ⟨call.setter.apply cr svm, call.svm_run cr svm, ?_, call.setter.ownData_apply⟩
  refine (shows_iff hcr hpassed).2 (unshadowed_of_not_stored hcr ?_ hrun)
  rw [call.setter.accounts_apply]
  exact hnone

end SetterCall

/-! ## Sessions of setters -/

/-- A call of any of the setters. -/
inductive ConfigurationCall
  | setter (call : SetterCall)
  | setEpochSchedule (slotsPerEpoch leaderScheduleSlotOffset : UInt64) (warmup : Bool)
      (firstNormalEpoch firstNormalSlot : UInt64)
  | setComputeBudget (maxUnits : UInt64)

namespace ConfigurationCall

def run (cr : Crates) (svm : Option QuasarSvm) : ConfigurationCall → CallOutcome
  | .setter call => call.run cr svm
  | .setEpochSchedule slotsPerEpoch leaderScheduleSlotOffset warmup firstNormalEpoch
      firstNormalSlot =>
      quasarSvmSetEpochSchedule svm slotsPerEpoch leaderScheduleSlotOffset warmup firstNormalEpoch
        firstNormalSlot
  | .setComputeBudget maxUnits => quasarSvmSetComputeBudget svm maxUnits

/-- The operation that the call performs on a VM. -/
def operation (cr : Crates) (svm : QuasarSvm) : ConfigurationCall → Svm.Operation
  | .setter call => .setSysvars (call.setter.apply cr svm).sysvars
  | .setEpochSchedule slotsPerEpoch leaderScheduleSlotOffset warmup firstNormalEpoch
      firstNormalSlot =>
      .setSysvars { svm.sysvars with
        epochSchedule :=
          { slotsPerEpoch := slotsPerEpoch
            leaderScheduleSlotOffset := leaderScheduleSlotOffset
            warmup := warmup
            firstNormalEpoch := firstNormalEpoch
            firstNormalSlot := firstNormalSlot } }
  | .setComputeBudget maxUnits =>
      .setComputeBudget { svm.computeBudget with computeUnitLimit := maxUnits }

theorem svm_run (cr : Crates) (rt : Svm.Runtime) (svm : QuasarSvm) (call : ConfigurationCall) :
    (call.run cr (some svm)).svm = some (svm.operate cr rt (call.operation cr svm)).1 := by
  cases call with
  | setter call =>
      cases call with
      | _ => rfl
  | _ => rfl

/-- A setter call stores nothing. -/
theorem storedKeys_operation (cr : Crates) (svm : QuasarSvm) (call : ConfigurationCall) :
    storedKeys (call.operation cr svm) = [] := by
  cases call with
  | _ => rfl

/-- A session of setter calls is a history of the VM, in which nothing is stored. -/
theorem session_eq_after (cr : Crates) (rt : Svm.Runtime) (svm : QuasarSvm)
    (calls : List ConfigurationCall) :
    ∃ ops : List Svm.Operation,
      calls.foldl (fun svm call => (call.run cr svm).svm) (some svm) =
          some (svm.after cr rt ops) ∧
        ∀ op ∈ ops, storedKeys op = [] := by
  induction calls generalizing svm with
  | nil => exact ⟨[], rfl, fun op hop => absurd hop List.not_mem_nil⟩
  | cons call calls ih =>
      rcases ih (svm.operate cr rt (call.operation cr svm)).1 with ⟨ops, hops, hkeys⟩
      refine ⟨call.operation cr svm :: ops, ?_, ?_⟩
      · rw [List.foldl_cons, call.svm_run cr rt svm, hops]
        rfl
      · exact List.forall_mem_cons.2 ⟨call.storedKeys_operation cr svm, hkeys⟩

/-- Setter calls do not get in each other's way: after a session on a VM without a stored account
under the id, a setter of the clock or the rent shows its value. -/
theorem shows_value_session {cr : Crates} {svm : QuasarSvm} {ixs : List Svm.Instruction}
    {accounts : List Svm.Account} (hcr : Svm.SysvarCrates cr) (rt : Svm.Runtime)
    (calls : List ConfigurationCall) (call : SetterCall)
    (hnone : svm.accounts.lookup (cr.sysvarId call.setter.sysvar) = none)
    (hpassed : NotPassed accounts (cr.sysvarId call.setter.sysvar))
    (hrun : NotRun ixs (cr.sysvarId call.setter.sysvar)) :
    ∃ before svm', calls.foldl (fun svm call => (call.run cr svm).svm) (some svm) = some before ∧
      (call.run cr (some before)).svm = some svm' ∧
      Shows cr svm' ixs accounts call.setter.sysvar ∧
      ownData cr svm' call.setter.sysvar = cr.serializeSysvar (call.setter.value cr before) := by
  rcases session_eq_after cr rt svm calls with ⟨ops, hops, hkeys⟩
  have hnever : NeverStores cr rt svm ops (cr.sysvarId call.setter.sysvar) := by
    refine neverStores_of_not_mem fun op hop => ?_
    rw [hkeys op hop]
    exact List.not_mem_nil
  have hstill := (lookup_after_eq_none_iff hnone ops).2 hnever
  rcases call.shows_value hcr hstill hpassed hrun with ⟨svm', hset, hshows⟩
  exact ⟨_, svm', hops, hset, hshows⟩

end ConfigurationCall

end Ffi
end Quasar
