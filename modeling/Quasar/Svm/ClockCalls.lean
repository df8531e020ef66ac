import Quasar.Lib.Machine
import Quasar.Svm.SlotHashes

/-!
# ClockCalls — the three writers of the clock

The clock is set whole, warped to a slot, or warped to a timestamp, in any order.  What a run of
these calls leaves is stated against the calls themselves: the last value that they set explicitly,
and the horizon that their targets come to.
-/

namespace Quasar
namespace Svm

open Lib

inductive ClockCall
  | warpToSlot (slot : UInt64)
  | warpToTimestamp (timestamp : Int64)
  | setClock (clock : Clock)

namespace ClockCall

def apply (cr : Crates) (svm : QuasarSvm) : ClockCall → QuasarSvm
  | .warpToSlot slot => { svm with sysvars := svm.sysvars.warpToSlot cr slot }
  | .warpToTimestamp timestamp => svm.warpToTimestamp timestamp
  | .setClock clock => { svm with sysvars := { svm.sysvars with clock := clock } }

/-- The slot that a call sets explicitly. -/
def slotSet : ClockCall → Option UInt64
  | .warpToSlot slot => some slot
  | .warpToTimestamp _ => none
  | .setClock clock => some clock.slot

/-- The timestamp that a call sets explicitly. -/
def timestampSet : ClockCall → Option Int64
  | .warpToSlot _ => none
  | .warpToTimestamp timestamp => some timestamp
  | .setClock clock => some clock.unixTimestamp

/-- The start of the epoch that a call sets explicitly. -/
def epochStartSet : ClockCall → Option Int64
  | .warpToSlot _ => none
  | .warpToTimestamp _ => none
  | .setClock clock => some clock.epochStartTimestamp

/-- The last value that calls set explicitly, or else the initial one. -/
def lastSet {α : Type} (set : ClockCall → Option α) (initial : α) (calls : List ClockCall) : α :=
  (calls.reverse.findSome? set).getD initial

@[simp] theorem lastSet_nil {α : Type} (set : ClockCall → Option α) (initial : α) :
    lastSet set initial [] = initial := rfl

theorem lastSet_append {α : Type} (set : ClockCall → Option α) (initial : α)
    (calls : List ClockCall) (call : ClockCall) :
    lastSet set initial (calls ++ [call]) = (set call).getD (lastSet set initial calls) := by
  cases hset : set call with
  | none => simp [lastSet, hset]
  | some v => simp [lastSet, hset]

end ClockCall

open ClockCall (lastSet)

/-- The clock's calls as inputs of a machine. -/
def clockMachine (cr : Crates) : Machine QuasarSvm ClockCall Unit :=
  { step := fun svm call => (call.apply cr svm, ()) }

namespace QuasarSvm

/-- The VM after clock calls. -/
def afterClockCalls (cr : Crates) (svm : QuasarSvm) (calls : List ClockCall) : QuasarSvm :=
  (clockMachine cr).after svm calls

variable {cr : Crates} {svm : QuasarSvm}

@[simp] theorem afterClockCalls_nil : svm.afterClockCalls cr [] = svm := rfl

theorem afterClockCalls_append (calls : List ClockCall) (call : ClockCall) :
    svm.afterClockCalls cr (calls ++ [call]) = call.apply cr (svm.afterClockCalls cr calls) :=
  (clockMachine cr).after_append svm calls [call]

end QuasarSvm

/-! ## How far a warp catches up -/

namespace Horizon

/-- What a clock call does to the horizon. -/
def call (a : Horizon) : ClockCall → Horizon
  | .warpToSlot slot => a.warp slot
  | .warpToTimestamp _ => a
  | .setClock clock => { a with slot := clock.slot }

def calls (a : Horizon) (cs : List ClockCall) : Horizon :=
  cs.foldl call a

variable {cr : Crates} {a : Horizon} {svm : QuasarSvm}

/-- Setting the clock moves its slot and leaves the recorded slots; a timestamp leaves both. -/
theorem Tracks.call (hcr : SlotHashesCrates cr) (h : a.Tracks svm.sysvars) (c : ClockCall) :
    (a.call c).Tracks (c.apply cr svm).sysvars := by
  cases c with
  | warpToSlot slot => exact h.warp hcr slot
  | warpToTimestamp timestamp => exact ⟨h.slot, h.slotHashes⟩
  | setClock clock => exact ⟨rfl, h.slotHashes⟩

theorem Tracks.calls (hcr : SlotHashesCrates cr) (h : a.Tracks svm.sysvars)
    (cs : List ClockCall) : (a.calls cs).Tracks (svm.afterClockCalls cr cs).sysvars := by
  induction cs generalizing a svm with
  | nil => exact h
  | cons c cs ih => exact ih (h.call hcr c)

end Horizon

namespace Sysvars

/-- The number of slots in `i..slot`, which a warp inserts one by one. -/
def walked (sv : Sysvars) (slot : UInt64) : Nat :=
  slot.toNat - sv.newest.toNat

theorem walked_of_tracks {sv : Sysvars} {a : Horizon} (h : a.Tracks sv) (slot : UInt64) :
    sv.walked slot = slot.toNat - (a.top.toNat - 1) := by
  have htop : a.top.toNat < 2 ^ 64 := a.top.toNat_lt
  simp only [walked, newest_of_recent h.slotHashes]
  rw [toNat_slot (by omega)]

end Sysvars

namespace QuasarSvm

variable {cr : Crates}

/-- In a run of clock calls every catching up is bounded exactly when every warp jumps, or goes at
most 512 slots beyond the newest slot that the warps before it have recorded. -/
theorem catch_up_bounded_iff (hcr : SlotHashesCrates cr) (svm : QuasarSvm)
    (hfresh : svm.sysvars = Sysvars.default cr) (calls : List ClockCall) :
    (∀ pre slot post, calls = pre ++ .warpToSlot slot :: post →
        ¬ (svm.afterClockCalls cr pre).sysvars.RebuildsTo slot →
          (svm.afterClockCalls cr pre).sysvars.walked slot ≤ slotHashesMaxEntries) ↔
      ∀ pre slot post, calls = pre ++ .warpToSlot slot :: post →
        (Horizon.initial.calls pre).JumpsTo slot ∨
          slot.toNat ≤ (Horizon.initial.calls pre).top.toNat - 1 + slotHashesMaxEntries := by
  have hinitial : Horizon.initial.Tracks svm.sysvars := hfresh ▸ Horizon.tracks_default hcr
  refine forall_congr' fun pre => forall_congr' fun slot => forall_congr' fun post => ?_
  refine imp_congr_right fun _ => ?_
  have htracks := hinitial.calls hcr pre
  have hjump : (svm.afterClockCalls cr pre).sysvars.RebuildsTo slot ↔
      (Horizon.initial.calls pre).JumpsTo slot := by
    simp only [Sysvars.RebuildsTo, Horizon.JumpsTo, htracks.slot]
  rw [Sysvars.walked_of_tracks htracks, hjump, or_iff_not_imp_left]
  exact imp_congr_right fun _ => Nat.sub_le_iff_le_add'

/-- Two warps with another call between them, the second of which goes through 493 slots. -/
theorem catch_up_bounded_iff_reference :
    (Reference.freshVm.afterClockCalls Reference.slotHashCrates
        [.warpToSlot 7, .warpToTimestamp 3]).sysvars.walked 500 ≤ slotHashesMaxEntries ∧
      ∀ pre slot post, [.warpToSlot 7, .warpToTimestamp 3, .warpToSlot 500] =
          pre ++ .warpToSlot slot :: post →
        ¬ (Reference.freshVm.afterClockCalls Reference.slotHashCrates
          pre).sysvars.RebuildsTo slot →
          (Reference.freshVm.afterClockCalls Reference.slotHashCrates
            pre).sysvars.walked slot ≤ slotHashesMaxEntries := by
  have hnear : ∀ pre slot post, [.warpToSlot 7, .warpToTimestamp 3, .warpToSlot 500] =
      pre ++ .warpToSlot slot :: post → (Horizon.initial.calls pre).JumpsTo slot ∨
        slot.toNat ≤ (Horizon.initial.calls pre).top.toNat - 1 + slotHashesMaxEntries := by
    rintro (_ | ⟨a, _ | ⟨b, _ | ⟨c, pre⟩⟩⟩) slot post hsplit
    · cases hsplit
      decide
    · simp at hsplit
    · cases hsplit
      decide
    · simp at hsplit
  have hall := (catch_up_bounded_iff Reference.slotHashCrates_ok Reference.freshVm rfl _).2 hnear
  refine ⟨hall [.warpToSlot 7, .warpToTimestamp 3] 500 [] rfl ?_, hall⟩
  have hinitial : Horizon.initial.Tracks Reference.freshVm.sysvars :=
    Horizon.tracks_default Reference.slotHashCrates_ok
  have hwarp := hinitial.calls Reference.slotHashCrates_ok [.warpToSlot 7, .warpToTimestamp 3]
  simp only [Sysvars.RebuildsTo, hwarp.slot]
  decide

/-- The clock at the slot before the last one. -/
def lateClock : Clock :=
  { Clock.default with slot := 18446744073709551614 }

/-- After the clock is set far ahead the next warp goes through every slot from the first one on;
and from slot 1 on, the largest step that does not jump goes through 513 slots. -/
theorem catch_up_unbounded :
    let late := Reference.freshVm.afterClockCalls Reference.slotHashCrates [.setClock lateClock]
    let first := Reference.freshVm.afterClockCalls Reference.slotHashCrates [.warpToSlot 1]
    (¬ late.sysvars.RebuildsTo 18446744073709551615 ∧
        late.sysvars.walked 18446744073709551615 = 18446744073709551615) ∧
      ¬ first.sysvars.RebuildsTo 513 ∧ first.sysvars.walked 513 = 513 := by
  have hinitial : Horizon.initial.Tracks Reference.freshVm.sysvars :=
    Horizon.tracks_default Reference.slotHashCrates_ok
  have hset := hinitial.calls Reference.slotHashCrates_ok [.setClock lateClock]
  have hwarp := hinitial.calls Reference.slotHashCrates_ok [.warpToSlot 1]
  refine ⟨⟨?_, ?_⟩, ?_, ?_⟩
  · simp only [Sysvars.RebuildsTo, hset.slot]
    decide
  · simp only [Sysvars.walked_of_tracks hset]
    decide
  · simp only [Sysvars.RebuildsTo, hwarp.slot]
    decide
  · simp only [Sysvars.walked_of_tracks hwarp]
    decide

/-! ## What the calls leave of the clock -/

variable {svm : QuasarSvm}

/-- Nothing but the slot, the epoch fields that follow from it and the slot hashes is changed. -/
def OnlySlotChanged (cr : Crates) (before after : QuasarSvm) (slot : UInt64) : Prop :=
  ∃ slotHashes, after =
    { before with
      sysvars := { before.sysvars with
        clock := { before.sysvars.clock with
          slot := slot
          epoch := cr.getEpoch before.sysvars.epochSchedule slot
          leaderScheduleEpoch := cr.getLeaderScheduleEpoch before.sysvars.epochSchedule slot }
        slotHashes := slotHashes } }

/-- In every state of the run the slot and the timestamp are the last ones set, and every warp
leaves alone what it does not set. -/
structure KeepsTime (cr : Crates) (svm : QuasarSvm) (calls : List ClockCall) : Prop where
  timestamp : ∀ pre post, calls = pre ++ post →
    (svm.afterClockCalls cr pre).sysvars.clock.unixTimestamp =
      lastSet ClockCall.timestampSet svm.sysvars.clock.unixTimestamp pre
  slot : ∀ pre post, calls = pre ++ post →
    (svm.afterClockCalls cr pre).sysvars.clock.slot =
      lastSet ClockCall.slotSet svm.sysvars.clock.slot pre
  warpToSlot : ∀ pre slot post, calls = pre ++ .warpToSlot slot :: post →
    OnlySlotChanged cr (svm.afterClockCalls cr pre)
      (svm.afterClockCalls cr (pre ++ [.warpToSlot slot])) slot
  warpToTimestamp : ∀ pre timestamp post, calls = pre ++ .warpToTimestamp timestamp :: post →
    (svm.afterClockCalls cr (pre ++ [.warpToTimestamp timestamp])).sysvars.clock.slot =
      (svm.afterClockCalls cr pre).sysvars.clock.slot

/-- A warp to a slot changes nothing else exactly when the other two times are zero already. -/
theorem onlySlotChanged_iff (slot : UInt64) :
    OnlySlotChanged cr svm (ClockCall.apply cr svm (.warpToSlot slot)) slot ↔
      svm.sysvars.clock.unixTimestamp = 0 ∧ svm.sysvars.clock.epochStartTimestamp = 0 := by
  constructor
  · rintro ⟨slotHashes, h⟩
    have hclock := congrArg (fun svm => svm.sysvars.clock) h
    have hunix : (0 : Int64) = svm.sysvars.clock.unixTimestamp :=
      congrArg Clock.unixTimestamp hclock
    have hstart : (0 : Int64) = svm.sysvars.clock.epochStartTimestamp :=
      congrArg Clock.epochStartTimestamp hclock
    exact ⟨hunix.symm, hstart.symm⟩
  · rintro ⟨hunix, hstart⟩
    refine ⟨(svm.sysvars.warpToSlot cr slot).slotHashes, ?_⟩
    simp only [ClockCall.apply, Sysvars.warpToSlot, hunix, hstart]

/-- The slot is the last one set, after every run. -/
theorem slot_afterClockCalls (calls : List ClockCall) :
    (svm.afterClockCalls cr calls).sysvars.clock.slot =
      lastSet ClockCall.slotSet svm.sysvars.clock.slot calls := by
  induction calls using List.reverseRecOn with
  | nil => rfl
  | append_singleton calls call ih =>
      rw [afterClockCalls_append, ClockCall.lastSet_append, ← ih]
      cases call with
      | _ => rfl

/-- The timestamp and the start of the epoch are the last ones set. -/
def TimesLastSet (cr : Crates) (svm : QuasarSvm) (calls : List ClockCall) : Prop :=
  (svm.afterClockCalls cr calls).sysvars.clock.unixTimestamp =
      lastSet ClockCall.timestampSet svm.sysvars.clock.unixTimestamp calls ∧
    (svm.afterClockCalls cr calls).sysvars.clock.epochStartTimestamp =
      lastSet ClockCall.epochStartSet svm.sysvars.clock.epochStartTimestamp calls

/-- Both times stay the last ones set as long as every warp to a slot finds them zero. -/
theorem timesLastSet_of_zero {calls : List ClockCall}
    (hzero : ∀ pre slot post, calls = pre ++ .warpToSlot slot :: post → TimesLastSet cr svm pre →
      (svm.afterClockCalls cr pre).sysvars.clock.unixTimestamp = 0 ∧
        (svm.afterClockCalls cr pre).sysvars.clock.epochStartTimestamp = 0)
    (pre post : List ClockCall) (hsplit : calls = pre ++ post) : TimesLastSet cr svm pre := by
  induction pre using List.reverseRecOn generalizing post with
  | nil => exact ⟨rfl, rfl⟩
  | append_singleton pre call ih =>
      have hsplit' : calls = pre ++ call :: post := by simpa using hsplit
      have hpre : TimesLastSet cr svm pre := ih (call :: post) hsplit'
      unfold TimesLastSet
      rw [afterClockCalls_append, ClockCall.lastSet_append, ClockCall.lastSet_append]
      cases call with
      | warpToSlot slot =>
          -- The warp sets both times to zero, which is what they were.
          obtain ⟨hunix, hstart⟩ := hzero pre slot post hsplit' hpre
          exact ⟨hunix.symm.trans hpre.1, hstart.symm.trans hpre.2⟩
      | warpToTimestamp timestamp => exact ⟨rfl, hpre.2⟩
      | setClock clock => exact ⟨rfl, rfl⟩

/-- The two warps commute exactly when the timestamp is the one that a warp to a slot sets. -/
theorem warps_commute_iff (slot : UInt64) (timestamp : Int64) :
    ClockCall.apply cr (ClockCall.apply cr svm (.warpToSlot slot)) (.warpToTimestamp timestamp) =
        ClockCall.apply cr (ClockCall.apply cr svm (.warpToTimestamp timestamp)) (.warpToSlot slot) ↔
      timestamp = 0 := by
  constructor
  · intro h
    exact congrArg (fun svm => svm.sysvars.clock.unixTimestamp) h
  · rintro rfl
    rfl

/-- The calls leave each other's part of the clock alone exactly when every warp to a slot is made
while the timestamp and the start of the epoch that were last set are zero; and warps to a slot and to
a timestamp commute exactly when the timestamp is zero. -/
theorem keepsTime_iff (svm : QuasarSvm) (calls : List ClockCall) (slot : UInt64)
    (timestamp : Int64) :
    (KeepsTime cr svm calls ↔
        ∀ pre slot post, calls = pre ++ .warpToSlot slot :: post →
          lastSet ClockCall.timestampSet svm.sysvars.clock.unixTimestamp pre = 0 ∧
            lastSet ClockCall.epochStartSet svm.sysvars.clock.epochStartTimestamp pre = 0) ∧
      (ClockCall.apply cr (ClockCall.apply cr svm (.warpToSlot slot)) (.warpToTimestamp timestamp) =
          ClockCall.apply cr (ClockCall.apply cr svm (.warpToTimestamp timestamp))
            (.warpToSlot slot) ↔
        timestamp = 0) := by
  refine ⟨⟨?_, ?_⟩, warps_commute_iff slot timestamp⟩
  · intro hkeeps pre slot post hsplit
    -- A warp that changes nothing else finds both times zero.
    have hzero : ∀ pre slot post, calls = pre ++ .warpToSlot slot :: post →
        (svm.afterClockCalls cr pre).sysvars.clock.unixTimestamp = 0 ∧
          (svm.afterClockCalls cr pre).sysvars.clock.epochStartTimestamp = 0 := by
      intro pre slot post hsplit
      have hframe := hkeeps.warpToSlot pre slot post hsplit
      rw [afterClockCalls_append] at hframe
      exact (onlySlotChanged_iff slot).1 hframe
    have htimes := timesLastSet_of_zero
      (fun pre slot post hsplit _ => hzero pre slot post hsplit) pre _ hsplit
    rw [← htimes.1, ← htimes.2]
    exact hzero pre slot post hsplit
  · intro hzero
    -- Along the run the times are the last ones set, so every warp finds them zero.
    have hzero' : ∀ pre slot post, calls = pre ++ .warpToSlot slot :: post →
        TimesLastSet cr svm pre →
          (svm.afterClockCalls cr pre).sysvars.clock.unixTimestamp = 0 ∧
            (svm.afterClockCalls cr pre).sysvars.clock.epochStartTimestamp = 0 := by
      intro pre slot post hsplit htimes
      rw [htimes.1, htimes.2]
      exact hzero pre slot post hsplit
    have htimes := timesLastSet_of_zero hzero'
    refine ⟨fun pre post hsplit => (htimes pre post hsplit).1,
      fun pre post _ => slot_afterClockCalls pre, ?_, ?_⟩
    · intro pre slot post hsplit
      rw [afterClockCalls_append]
      exact (onlySlotChanged_iff slot).2 (hzero' pre slot post hsplit (htimes pre _ hsplit))
    · intro pre timestamp post _
      rw [afterClockCalls_append]
      rfl

/-- A warp to slot 1 after a warp to timestamp 5 sets the timestamp back to zero. -/
theorem not_keepsTime_after_timestamp :
    ¬ KeepsTime Reference.crates Reference.emptyVm [.warpToTimestamp 5, .warpToSlot 1] := by
  intro hkeeps
  have htimestamp := hkeeps.timestamp [.warpToTimestamp 5, .warpToSlot 1] [] rfl
  revert htimestamp
  decide

end QuasarSvm

end Svm
end Quasar
