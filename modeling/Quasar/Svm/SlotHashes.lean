import Quasar.Lib.Recent
import Quasar.Svm.Reference

/-!
# SlotHashes — the slot hashes that warping records

Warping records a slot hash for every slot it passes.  It either catches up slot by slot from the
newest recorded slot or, when the target is far ahead of the clock, builds the list anew.  Either
way the list is `recentSlotHashes top` for some `top`: the 512 slots below `top`, newest first.
-/

namespace Quasar
namespace Svm

open Lib

/-- `SlotHashes::new` sorts its entries in descending order of their slots.  `SlotHashes::add` finds
the place of the slot in a list in this order, and cuts the list to its capacity. -/
structure SlotHashesCrates (cr : Crates) : Prop where
  new_perm : ∀ entries, (cr.slotHashesNew entries).Perm entries
  new_descending : ∀ entries, (cr.slotHashesNew entries).Pairwise fun a b => b.1 ≤ a.1
  add_added : ∀ hashes slot hash, hashes.Pairwise (fun a b => b.1 ≤ a.1) →
    Recent.Added slotHashesMaxEntries hashes slot hash (cr.slotHashesAdd hashes slot hash)

namespace Reference

/-- An entry put into a descending list is added to it. -/
theorem insertSlotHash_cases (slot : UInt64) (hash : Hash) {hashes : SlotHashes}
    (hdesc : hashes.Pairwise fun a b => b.1 ≤ a.1) :
    ∃ pre post, insertSlotHash slot hash hashes = pre ++ (slot, hash) :: post ∧
      ((∃ old, hashes = pre ++ (slot, old) :: post) ∨
        (hashes = pre ++ post ∧ (∀ e ∈ pre, slot < e.1) ∧ ∀ e ∈ post, e.1 < slot)) := by
  induction hashes with
  | nil => exact ⟨[], [], rfl, Or.inr ⟨rfl, by simp, by simp⟩⟩
  | cons e rest ih =>
      obtain ⟨hfirst, hrest⟩ := List.pairwise_cons.1 hdesc
      by_cases heq : e.1 = slot
      · refine ⟨[], rest, by simp [insertSlotHash, heq], Or.inl ⟨e.2, ?_⟩⟩
        rw [← heq]
        rfl
      · by_cases hlt : e.1 < slot
        · refine ⟨[], e :: rest, by simp [insertSlotHash, heq, hlt], Or.inr ⟨rfl, by simp, ?_⟩⟩
          intro e' he'
          rcases List.mem_cons.1 he' with rfl | he'
          · exact hlt
          · exact UInt64.lt_of_le_of_lt (hfirst e' he') hlt
        · have hgt : slot < e.1 :=
            UInt64.lt_of_le_of_ne (UInt64.not_lt.1 hlt) fun h => heq h.symm
          obtain ⟨pre, post, hinsert, hold | ⟨hsplit, hpre, hpost⟩⟩ := ih hrest
          · obtain ⟨old, hold⟩ := hold
            exact ⟨e :: pre, post, by simp [insertSlotHash, heq, hlt, hinsert],
              Or.inl ⟨old, by simp [hold]⟩⟩
          · refine ⟨e :: pre, post, by simp [insertSlotHash, heq, hlt, hinsert],
              Or.inr ⟨by simp [hsplit], ?_, hpost⟩⟩
            intro e' he'
            rcases List.mem_cons.1 he' with rfl | he'
            · exact hgt
            · exact hpre e' he'

theorem slotHashCrates_ok : SlotHashesCrates slotHashCrates := by
  refine ⟨fun entries => List.mergeSort_perm entries _, ?_, ?_⟩
  · intro entries
    have htrans : ∀ a b c : UInt64 × Hash,
        decide (b.1 ≤ a.1) → decide (c.1 ≤ b.1) → decide (c.1 ≤ a.1) := by
      intro a b c hab hbc
      simp only [decide_eq_true_eq] at hab hbc ⊢
      exact UInt64.le_trans hbc hab
    have htotal : ∀ a b : UInt64 × Hash, decide (b.1 ≤ a.1) || decide (a.1 ≤ b.1) := by
      intro a b
      simpa using UInt64.le_total b.1 a.1
    exact (List.pairwise_mergeSort htrans htotal entries).imp fun h => by simpa using h
  · intro hashes slot hash hdesc
    obtain ⟨pre, post, hinsert, ⟨old, hold⟩ | ⟨hsplit, hpre, hpost⟩⟩ :=
      insertSlotHash_cases slot hash hdesc
    · have hadded : Recent.Added slotHashesMaxEntries hashes slot hash _ :=
        Recent.Added.overwrite pre post old hold
      simpa only [slotHashCrates, hinsert] using hadded
    · have hadded : Recent.Added slotHashesMaxEntries hashes slot hash _ :=
        Recent.Added.insert pre post hsplit hpre hpost
      simpa only [slotHashCrates, hinsert] using hadded

end Reference

/-- The slots below `top`, newest first, with the hash that warping records. -/
def recentSlotHashes (top : Nat) : SlotHashes :=
  (Recent.window slotHashesMaxEntries top).map fun slot => (UInt64.ofNat slot, defaultHash)

variable {cr : Crates} {top : Nat}

/-! ## The list of recent slots -/

theorem toNat_slot {slot : Nat} (h : slot < 2 ^ 64) : (UInt64.ofNat slot).toNat = slot :=
  UInt64.toNat_ofNat_of_lt' h

@[simp] theorem length_recentSlotHashes : (recentSlotHashes top).length = 512 := by
  simp [recentSlotHashes, slotHashesMaxEntries]

theorem hash_of_mem_recent {e : UInt64 × Hash} (h : e ∈ recentSlotHashes top) :
    e.2 = defaultHash := by
  obtain ⟨k, -, rfl⟩ := List.mem_map.1 h
  rfl

/-- Every recorded slot is at most the newest one. -/
theorem slot_of_mem_recent (htop : top < 2 ^ 64) {e : UInt64 × Hash}
    (h : e ∈ recentSlotHashes top) : e.1.toNat ≤ top - 1 := by
  obtain ⟨k, hk, rfl⟩ := List.mem_map.1 h
  have hle : k ≤ top - 1 := Recent.le_of_mem_window hk
  have hvalue : (UInt64.ofNat k).toNat = k := toNat_slot (by omega)
  simpa [hvalue] using hle

theorem newest_mem_recent : (UInt64.ofNat (top - 1), defaultHash) ∈ recentSlotHashes top :=
  List.mem_map_of_mem (Recent.newest_mem_window (by decide))

theorem head?_recentSlotHashes :
    (recentSlotHashes top).head? = some (UInt64.ofNat (top - 1), defaultHash) := by
  simp [recentSlotHashes, List.head?_map, Recent.head?_window, slotHashesMaxEntries]

theorem recentSlotHashes_descending (htop : top < 2 ^ 64) :
    (recentSlotHashes top).Pairwise fun a b => b.1 ≤ a.1 := by
  refine List.Pairwise.map _ (fun _ _ h => h) ?_
  refine Recent.window_descending.imp_of_mem ?_
  intro a b ha hb hab
  have hle : a ≤ top - 1 := Recent.le_of_mem_window ha
  have ha' : (UInt64.ofNat a).toNat = a := toNat_slot (by omega)
  have hb' : (UInt64.ofNat b).toNat = b := toNat_slot (by omega)
  simpa [UInt64.le_iff_toNat_le, ha', hb'] using hab

/-! ## Recording slots -/

/-- Sorting keeps a list that is in order already, as all hashes are the same. -/
theorem slotHashesNew_eq_self (hcr : SlotHashesCrates cr) {entries : SlotHashes}
    (hdesc : entries.Pairwise fun a b => b.1 ≤ a.1)
    (hhash : ∀ e ∈ entries, e.2 = defaultHash) : cr.slotHashesNew entries = entries := by
  refine (hcr.new_perm entries).eq_of_pairwise ?_ (hcr.new_descending entries) hdesc
  intro a b ha hb hba hab
  have ha' : a.2 = defaultHash := hhash a ((hcr.new_perm entries).mem_iff.1 ha)
  exact Prod.ext (UInt64.le_antisymm hab hba) (ha'.trans (hhash b hb).symm)

/-- The newest slot is recorded again without effect, and the slot after it comes to the front. -/
theorem slotHashesAdd_recent (hcr : SlotHashesCrates cr) {slot : Nat} (htop : top < 2 ^ 64)
    (hslot : slot < 2 ^ 64) (hnext : slot = top - 1 ∨ slot = top) :
    cr.slotHashesAdd (recentSlotHashes top) (UInt64.ofNat slot) defaultHash =
      recentSlotHashes (max top (slot + 1)) := by
  have hadded := hcr.add_added (recentSlotHashes top) (UInt64.ofNat slot) defaultHash
    (recentSlotHashes_descending htop)
  by_cases hnewest : slot = top - 1
  · subst hnewest
    have hsame := hadded.of_mem ⟨_, newest_mem_recent, rfl⟩ fun e he => hash_of_mem_recent he
    have hkeep : recentSlotHashes (max top (top - 1 + 1)) = recentSlotHashes top := by
      cases top with
      | zero => rfl
      | succ n => simp
    rw [hsame, hkeep]
    exact List.take_of_length_le (by simp [slotHashesMaxEntries])
  · have hslot' : slot = top := by omega
    subst hslot'
    have hnewer : ∀ e ∈ recentSlotHashes slot, e.1 < UInt64.ofNat slot := by
      intro e he
      have hle := slot_of_mem_recent htop he
      have hvalue : (UInt64.ofNat slot).toNat = slot := toNat_slot hslot
      rw [UInt64.lt_iff_toNat_lt, hvalue]
      omega
    have hmax : max slot (slot + 1) = slot + 1 := by omega
    rw [hadded.of_newer hnewer, hmax]
    simp only [recentSlotHashes, ← Recent.take_cons_window, List.map_take, List.map_cons]

/-- Recording a range of slots from the newest one on. -/
theorem catchUp_recent (hcr : SlotHashesCrates cr) (htop : top < 2 ^ 64) (n : Nat)
    (hn : top - 1 + n < 2 ^ 64) :
    (((List.range n).map fun j => UInt64.ofNat (top - 1) + UInt64.ofNat j).foldl
      (fun hashes s => cr.slotHashesAdd hashes s defaultHash) (recentSlotHashes top)) =
      recentSlotHashes (max top (top - 1 + n)) := by
  induction n with
  | zero => simp
  | succ n ih =>
      have hslot : UInt64.ofNat (top - 1) + UInt64.ofNat n = UInt64.ofNat (top - 1 + n) :=
        (UInt64.ofNat_add (top - 1) n).symm
      have hmax : max (max top (top - 1 + n)) (top - 1 + n + 1) = max top (top - 1 + (n + 1)) := by
        omega
      have hadd : cr.slotHashesAdd (recentSlotHashes (max top (top - 1 + n)))
          (UInt64.ofNat (top - 1 + n)) defaultHash =
            recentSlotHashes (max (max top (top - 1 + n)) (top - 1 + n + 1)) :=
        slotHashesAdd_recent hcr (by omega) (by omega) (by omega)
      rw [List.range_succ, List.map_append, List.foldl_append, ih (by omega), ← hmax, ← hadd]
      simp only [List.map_cons, List.map_nil, List.foldl_cons, List.foldl_nil, hslot]

/-! ## Warping -/

namespace Sysvars

variable {sv : Sysvars}

/-- The target is so far ahead of the clock that the list is built anew. -/
def RebuildsTo (sv : Sysvars) (slot : UInt64) : Prop :=
  slot.toNat - sv.clock.slot.toNat > slotHashesMaxEntries

instance (sv : Sysvars) (slot : UInt64) : Decidable (sv.RebuildsTo slot) :=
  inferInstanceAs (Decidable (_ > _))

/-- The slot from which a warp catches up. -/
def newest (sv : Sysvars) : UInt64 :=
  (sv.slotHashes.head?.map Prod.fst).getD 0

theorem newest_of_recent (h : sv.slotHashes = recentSlotHashes top) :
    sv.newest = UInt64.ofNat (top - 1) := by
  simp [newest, h, head?_recentSlotHashes]

def warps (cr : Crates) (sv : Sysvars) (targets : List UInt64) : Sysvars :=
  targets.foldl (fun sv slot => sv.warpToSlot cr slot) sv

/-- `slot - SLOT_HASHES_MAX_ENTRIES` does not underflow where the list is built anew. -/
theorem RebuildsTo.max_entries_le {slot : UInt64} (h : sv.RebuildsTo slot) :
    slotHashesMaxEntries ≤ slot.toNat := by
  unfold RebuildsTo at h
  omega

/-- The default list is the one before any slot was recorded. -/
theorem slotHashes_default (hcr : SlotHashesCrates cr) :
    (Sysvars.default cr).slotHashes = recentSlotHashes 0 := by
  have hentries : (List.replicate slotHashesMaxEntries ((0 : UInt64), defaultHash)).set 0
      (Clock.default.slot, defaultHash) = recentSlotHashes 0 := by
    simp only [recentSlotHashes, Recent.window_zero, List.map_replicate]
    exact List.set_replicate_self
  calc
    (Sysvars.default cr).slotHashes = cr.slotHashesNew (recentSlotHashes 0) :=
      congrArg cr.slotHashesNew hentries
    _ = recentSlotHashes 0 :=
      slotHashesNew_eq_self hcr (recentSlotHashes_descending (by decide))
        fun e he => hash_of_mem_recent he

end Sysvars

/-! ## The horizon -/

/-- What the recorded list depends on: the clock's slot, and the bound below which the slots are
recorded. -/
structure Horizon where
  slot : UInt64
  top : UInt64
  deriving DecidableEq

namespace Horizon

def initial : Horizon :=
  { slot := 0
    top := 0 }

/-- The target is more than 512 slots ahead of the clock. -/
def JumpsTo (a : Horizon) (slot : UInt64) : Prop :=
  slot.toNat - a.slot.toNat > slotHashesMaxEntries

instance (a : Horizon) (slot : UInt64) : Decidable (a.JumpsTo slot) :=
  inferInstanceAs (Decidable (_ > _))

/-- A warp moves the bound up to its target; it moves it down only by a jump. -/
def warp (a : Horizon) (slot : UInt64) : Horizon :=
  { slot := slot
    top := if a.JumpsTo slot ∨ a.top ≤ slot then slot else a.top }

def warps (a : Horizon) (targets : List UInt64) : Horizon :=
  targets.foldl warp a

/-- The sysvars have the horizon's slot and record the slots below its bound. -/
structure Tracks (a : Horizon) (sv : Sysvars) : Prop where
  slot : sv.clock.slot = a.slot
  slotHashes : sv.slotHashes = recentSlotHashes a.top.toNat

variable {a : Horizon} {sv : Sysvars}

theorem warp_top_eq_iff {slot : UInt64} :
    (a.warp slot).top = slot ↔ a.JumpsTo slot ∨ a.top ≤ slot := by
  by_cases h : a.JumpsTo slot ∨ a.top ≤ slot
  · simp [warp, h]
  · have hne : a.top ≠ slot := by
      intro heq
      exact h (Or.inr (UInt64.le_of_eq heq))
    simp [warp, h, hne]

theorem le_warp_top (slot : UInt64) : slot ≤ (a.warp slot).top := by
  by_cases h : a.JumpsTo slot ∨ a.top ≤ slot
  · simp [warp, h]
  · have hlt : slot < a.top := UInt64.not_le.1 fun hle => h (Or.inr hle)
    simpa [warp, h] using UInt64.le_of_lt hlt

theorem tracks_default (hcr : SlotHashesCrates cr) : initial.Tracks (Sysvars.default cr) :=
  { slot := rfl
    slotHashes := Sysvars.slotHashes_default hcr }

/-- The slots that the rebuild lists are the recent ones. -/
theorem rebuilt_entries {slot : UInt64} (h : slotHashesMaxEntries ≤ slot.toNat) :
    ((List.range slotHashesMaxEntries).map fun i => (slot - 1 - UInt64.ofNat i, defaultHash)) =
      recentSlotHashes slot.toNat := by
  have hslot : slot.toNat < 2 ^ 64 := slot.toNat_lt
  simp only [recentSlotHashes, Recent.window, List.map_map]
  refine List.map_congr_left ?_
  intro i hi
  have hi' : i < slotHashesMaxEntries := List.mem_range.1 hi
  have hsub : UInt64.ofNat (slot.toNat - 1 - i) = slot - 1 - UInt64.ofNat i := by
    rw [UInt64.ofNat_sub (by omega), UInt64.ofNat_sub (by omega), UInt64.ofNat_toNat]
    rfl
  simp [hsub]

/-- A warp of the sysvars is a warp of the horizon. -/
theorem Tracks.warp (hcr : SlotHashesCrates cr) (h : a.Tracks sv) (slot : UInt64) :
    (a.warp slot).Tracks (sv.warpToSlot cr slot) := by
  refine ⟨rfl, ?_⟩
  have hslot : slot.toNat < 2 ^ 64 := slot.toNat_lt
  have htop : a.top.toNat < 2 ^ 64 := a.top.toNat_lt
  have hjump : a.JumpsTo slot ↔ sv.RebuildsTo slot := by
    simp only [JumpsTo, Sysvars.RebuildsTo, h.slot]
  by_cases hrebuild : sv.RebuildsTo slot
  · -- The list is built anew, whatever was recorded.
    have hwarp : (a.warp slot).top = slot := warp_top_eq_iff.2 (Or.inl (hjump.2 hrebuild))
    have hnew := slotHashesNew_eq_self hcr (recentSlotHashes_descending hslot)
      fun e he => hash_of_mem_recent he
    calc
      (sv.warpToSlot cr slot).slotHashes = cr.slotHashesNew (recentSlotHashes slot.toNat) := by
        rw [← rebuilt_entries hrebuild.max_entries_le]
        exact if_pos hrebuild
      _ = recentSlotHashes (a.warp slot).top.toNat := by rw [hnew, hwarp]
  · -- The list catches up from the newest slot; the target may lie below it.
    have hnewest : sv.newest = UInt64.ofNat (a.top.toNat - 1) :=
      Sysvars.newest_of_recent h.slotHashes
    have hvalue : (UInt64.ofNat (a.top.toNat - 1)).toNat = a.top.toNat - 1 :=
      toNat_slot (by omega)
    have hcatch := catchUp_recent hcr htop (slot.toNat - (a.top.toNat - 1)) (by omega)
    have hreached : max a.top.toNat (a.top.toNat - 1 + (slot.toNat - (a.top.toNat - 1))) =
        (a.warp slot).top.toNat := by
      by_cases hle : a.top ≤ slot
      · have hle' : a.top.toNat ≤ slot.toNat := UInt64.le_iff_toNat_le.1 hle
        have hwarp : (a.warp slot).top = slot := warp_top_eq_iff.2 (Or.inr hle)
        rw [hwarp]
        omega
      · have hlt : slot.toNat < a.top.toNat := UInt64.lt_iff_toNat_lt.1 (UInt64.not_le.1 hle)
        have hwarp : (a.warp slot).top = a.top :=
          if_neg (not_or.2 ⟨fun hj => hrebuild (hjump.1 hj), hle⟩)
        rw [hwarp]
        omega
    calc
      (sv.warpToSlot cr slot).slotHashes =
          ((List.range (slot.toNat - sv.newest.toNat)).map
            fun j => sv.newest + UInt64.ofNat j).foldl
              (fun hashes s => cr.slotHashesAdd hashes s defaultHash) sv.slotHashes :=
        if_neg hrebuild
      _ = recentSlotHashes (a.warp slot).top.toNat := by
        rw [← hreached, ← hcatch, hnewest, hvalue, h.slotHashes]

theorem Tracks.warps (hcr : SlotHashesCrates cr) (h : a.Tracks sv) (targets : List UInt64) :
    (a.warps targets).Tracks (sv.warps cr targets) := by
  induction targets generalizing a sv with
  | nil => exact h
  | cons slot targets ih => exact ih (h.warp hcr slot)

/-- Every slot below the clock's is behind the bound, and none above it. -/
def Settled (a : Horizon) : Prop :=
  a.top = a.slot

theorem Settled.warp (h : a.Settled) {slot : UInt64} (hle : a.slot ≤ slot) :
    (a.warp slot).Settled := by
  have htop : a.top ≤ slot := UInt64.le_trans (UInt64.le_of_eq h) hle
  exact warp_top_eq_iff.2 (Or.inr htop)

theorem Settled.warps (h : a.Settled) {targets : List UInt64}
    (hle : (a.slot :: targets).Pairwise (· ≤ ·)) : (a.warps targets).Settled := by
  induction targets generalizing a with
  | nil => exact h
  | cons slot targets ih =>
      obtain ⟨hfirst, hrest⟩ := List.pairwise_cons.1 hle
      exact ih (h.warp (hfirst slot List.mem_cons_self)) hrest

end Horizon

/-! ## Warping forward -/

namespace Sysvars

variable {sv : Sysvars}

/-- The states that warps with non-decreasing targets lead to. -/
inductive ForwardReached (cr : Crates) : Sysvars → Prop
  | default : ForwardReached cr (Sysvars.default cr)
  | warp (sv : Sysvars) (slot : UInt64) (h : ForwardReached cr sv) (hle : sv.clock.slot ≤ slot) :
      ForwardReached cr (sv.warpToSlot cr slot)

theorem ForwardReached.settled (hcr : SlotHashesCrates cr) (h : ForwardReached cr sv) :
    ∃ a : Horizon, a.Tracks sv ∧ a.Settled := by
  induction h with
  | default => exact ⟨Horizon.initial, Horizon.tracks_default hcr, rfl⟩
  | warp sv slot h hle ih =>
      obtain ⟨a, htracks, hsettled⟩ := ih
      refine ⟨a.warp slot, htracks.warp hcr slot, hsettled.warp ?_⟩
      rw [← htracks.slot]
      exact hle

theorem slotHashes_of_settled {a : Horizon} (h : a.Tracks sv) (hsettled : a.Settled) :
    sv.slotHashes = recentSlotHashes sv.clock.slot.toNat := by
  rw [h.slotHashes, h.slot, show a.top = a.slot from hsettled]

/-- What a warp leaves alone. -/
theorem epochSchedule_warps (targets : List UInt64) :
    (sv.warps cr targets).epochSchedule = sv.epochSchedule := by
  induction targets generalizing sv with
  | nil => rfl
  | cons slot targets ih => exact ih

/-- The clock after a warp depends on the epoch schedule only. -/
theorem clock_warpToSlot_congr {sv' : Sysvars} (h : sv'.epochSchedule = sv.epochSchedule)
    (slot : UInt64) : (sv'.warpToSlot cr slot).clock = (sv.warpToSlot cr slot).clock := by
  simp only [warpToSlot, h]

theorem warps_append (targets more : List UInt64) :
    sv.warps cr (targets ++ more) = (sv.warps cr targets).warps cr more :=
  List.foldl_append

/-- Going to a slot directly or through slots on the way gives the same clock and the same slot
hashes: the slots below the clock's, newest first, whichever way the list was built. -/
theorem warpToSlot_eq_warps_through (hcr : SlotHashesCrates cr) (hsv : ForwardReached cr sv)
    (stops : List UInt64) (slot : UInt64)
    (hchain : (sv.clock.slot :: (stops ++ [slot])).Pairwise (· ≤ ·)) :
    (sv.warpToSlot cr slot).clock = (sv.warps cr (stops ++ [slot])).clock ∧
      (sv.warpToSlot cr slot).slotHashes = (sv.warps cr (stops ++ [slot])).slotHashes ∧
      sv.slotHashes = recentSlotHashes sv.clock.slot.toNat ∧
      (sv.warpToSlot cr slot).slotHashes = recentSlotHashes slot.toNat ∧
      ∀ target, sv.RebuildsTo target → slotHashesMaxEntries ≤ target.toNat := by
  -- Both ways end in a settled horizon at `slot`, which determines the list.
  obtain ⟨a, htracks, hsettled⟩ := hsv.settled hcr
  rw [htracks.slot] at hchain
  have hlast : a.slot ≤ slot := (List.pairwise_cons.1 hchain).1 slot (by simp)
  have hdirect : (sv.warpToSlot cr slot).slotHashes = recentSlotHashes slot.toNat :=
    slotHashes_of_settled (htracks.warp hcr slot) (hsettled.warp hlast)
  have hthrough : (sv.warps cr (stops ++ [slot])).slotHashes = recentSlotHashes slot.toNat := by
    have hrecent := slotHashes_of_settled (htracks.warps hcr (stops ++ [slot]))
      (hsettled.warps hchain)
    rw [hrecent, warps_append]
    rfl
  have hclock : (sv.warps cr (stops ++ [slot])).clock = (sv.warpToSlot cr slot).clock := by
    rw [warps_append]
    exact clock_warpToSlot_congr (epochSchedule_warps stops) slot
  exact ⟨hclock.symm, hdirect.trans hthrough.symm, slotHashes_of_settled htracks hsettled, hdirect,
    fun target h => h.max_entries_le⟩

theorem warpToSlot_eq_warps_through_reference :
    let sv := (Sysvars.default Reference.slotHashCrates).warpToSlot Reference.slotHashCrates 3
    (sv.warpToSlot Reference.slotHashCrates 9).clock =
        (sv.warps Reference.slotHashCrates [5, 9]).clock ∧
      (sv.warpToSlot Reference.slotHashCrates 9).slotHashes =
        (sv.warps Reference.slotHashCrates [5, 9]).slotHashes ∧
      sv.slotHashes = recentSlotHashes sv.clock.slot.toNat ∧
      (sv.warpToSlot Reference.slotHashCrates 9).slotHashes = recentSlotHashes 9 ∧
      ∀ target, sv.RebuildsTo target → slotHashesMaxEntries ≤ target.toNat :=
  warpToSlot_eq_warps_through Reference.slotHashCrates_ok
    (ForwardReached.warp _ 3 ForwardReached.default (by decide)) [5] 9 (by decide)

end Sysvars

/-! ## Warping anywhere -/

namespace Sysvars

variable {sv : Sysvars}

/-- The recorded slots are in descending order, end below the slot and start with the one before. -/
structure HistoryBelow (sv : Sysvars) (slot : UInt64) : Prop where
  below : ∀ e ∈ sv.slotHashes, e.1 < slot
  newest : sv.slotHashes.head?.map Prod.fst = some (slot - 1)
  descending : sv.slotHashes.Pairwise fun a b => b.1 ≤ a.1
  bounded : sv.slotHashes.length ≤ slotHashesMaxEntries

/-- The history ends below a slot exactly when that slot is the horizon's bound. -/
theorem historyBelow_iff {a : Horizon} (h : a.Tracks sv) {slot : UInt64} (hpos : 0 < slot)
    (hle : slot ≤ a.top) : sv.HistoryBelow slot ↔ a.top = slot := by
  have htop : a.top.toNat < 2 ^ 64 := a.top.toNat_lt
  have hpos' : 0 < slot.toNat := by simpa [UInt64.lt_iff_toNat_lt] using hpos
  have hle' : slot.toNat ≤ a.top.toNat := UInt64.le_iff_toNat_le.1 hle
  constructor
  · intro hhistory
    -- The newest recorded slot is the one before the bound and the one before `slot`.
    have hnewest := hhistory.newest
    rw [h.slotHashes, head?_recentSlotHashes] at hnewest
    have hpred : UInt64.ofNat (a.top.toNat - 1) = slot - 1 := by simpa using hnewest
    have hpred' := congrArg UInt64.toNat hpred
    have hone : (1 : UInt64) ≤ slot := UInt64.le_iff_toNat_le.2 hpos'
    have hsub : (slot - 1).toNat = slot.toNat - 1 := UInt64.toNat_sub_of_le slot 1 hone
    rw [toNat_slot (by omega), hsub] at hpred'
    exact UInt64.toNat_inj.1 (by omega)
  · rintro rfl
    refine ⟨?_, ?_, ?_, ?_⟩
    · intro e he
      rw [h.slotHashes] at he
      have hmem := slot_of_mem_recent htop he
      rw [UInt64.lt_iff_toNat_lt]
      omega
    · have hpred : UInt64.ofNat (a.top.toNat - 1) = a.top - 1 := by
        rw [UInt64.ofNat_sub (by omega), UInt64.ofNat_toNat]
        rfl
      simp [h.slotHashes, head?_recentSlotHashes, hpred]
    · rw [h.slotHashes]
      exact recentSlotHashes_descending htop
    · simp [h.slotHashes, slotHashesMaxEntries]

/-- After a warp the history ends below the target exactly when the warp jumps, or when no slot from
the target on is recorded before it. -/
theorem historyBelow_warpToSlot_iff (hcr : SlotHashesCrates cr) {a : Horizon} (h : a.Tracks sv)
    {slot : UInt64} (hpos : 0 < slot) :
    (sv.warpToSlot cr slot).HistoryBelow slot ↔ a.JumpsTo slot ∨ a.top ≤ slot := by
  rw [historyBelow_iff (h.warp hcr slot) hpos (a.le_warp_top slot)]
  exact Horizon.warp_top_eq_iff

/-- In a run of warps the history never reaches past the clock exactly when every warp to a positive
slot jumps, or goes at least as far as all warps since the last jump. -/
theorem warps_historyBelow_iff (hcr : SlotHashesCrates cr) (targets : List UInt64) :
    (∀ pre slot post, targets = pre ++ slot :: post → 0 < slot →
        ((Sysvars.default cr).warps cr (pre ++ [slot])).HistoryBelow slot) ↔
      ∀ pre slot post, targets = pre ++ slot :: post → 0 < slot →
        (Horizon.initial.warps pre).JumpsTo slot ∨ (Horizon.initial.warps pre).top ≤ slot := by
  refine forall_congr' fun pre => forall_congr' fun slot => forall_congr' fun post => ?_
  refine imp_congr_right fun _ => imp_congr_right fun hpos => ?_
  have htracks := (Horizon.tracks_default hcr).warps hcr pre
  rw [warps_append]
  exact historyBelow_warpToSlot_iff hcr htracks hpos

/-- Two steps, a jump and a step. -/
theorem warps_historyBelow_iff_reference :
    ((Sysvars.default Reference.slotHashCrates).warps Reference.slotHashCrates
        [3, 7, 900]).HistoryBelow 900 ∧
      ∀ pre slot post, [3, 7, 900, 901] = pre ++ slot :: post → 0 < slot →
        ((Sysvars.default Reference.slotHashCrates).warps Reference.slotHashCrates
          (pre ++ [slot])).HistoryBelow slot := by
  have hforward : ∀ pre slot post, [3, 7, 900, 901] = pre ++ slot :: post → 0 < slot →
      (Horizon.initial.warps pre).JumpsTo slot ∨ (Horizon.initial.warps pre).top ≤ slot := by
    rintro (_ | ⟨a, _ | ⟨b, _ | ⟨c, _ | ⟨d, pre⟩⟩⟩⟩) slot post hsplit hpos
    · cases hsplit
      decide
    · cases hsplit
      decide
    · cases hsplit
      decide
    · cases hsplit
      decide
    · simp at hsplit
  have hall := (warps_historyBelow_iff Reference.slotHashCrates_ok _).2 hforward
  exact ⟨hall [3, 7] 900 [901] rfl (by decide), hall⟩

/-- Going back from slot 10 to slot 5 leaves the slots from 5 to 9 in the history. -/
theorem not_historyBelow_after_going_back :
    ¬ ((Sysvars.default Reference.slotHashCrates).warps Reference.slotHashCrates
      [10, 5]).HistoryBelow 5 := by
  have htracks := (Horizon.tracks_default Reference.slotHashCrates_ok).warps
    Reference.slotHashCrates_ok [10, 5]
  rw [historyBelow_iff htracks (by decide) (by decide)]
  decide

end Sysvars

end Svm
end Quasar
