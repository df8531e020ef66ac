import Quasar.Svm.TraceOrder

/-!
# TraceUnits — when the units of the trace add up to the total

The total is what the meter was charged, instruction by instruction.  A trace entry has the units of
the consumed line that the parser files under the entry's position.  The two agree only if every
instruction that was charged logs its units, and starts while its number is one that a top-level
frame has; a builtin program logs none.
-/

namespace Quasar
namespace Svm

open Lib QuasarSvm

/-! ## What the meter is charged -/

/-- The runtime reports the difference of the meter. -/
def ChargesMeter (rt : Runtime) : Prop :=
  ∀ inp, (rt.processInstruction inp).computeUnitsConsumed.toNat +
    (rt.processInstruction inp).computeMeter.toNat = inp.computeMeter.toNat

/-- The units that the runtime reports for the instructions of a run. -/
def chargedUnits (rt : Runtime) : List CompiledInstruction → InvokeContext → List UInt64
  | [], _ => []
  | _ :: rest, ic =>
      let o := rt.processInstruction ic.input
      o.computeUnitsConsumed ::
        match o.result with
        | .ok () => chargedUnits rt rest (ic.apply o)
        | .error _ => []

/-- The loop's counter adds the charges up; together they fit the meter, so the sum does not wrap. -/
theorem units_runInstructions {rt : Runtime} (hrt : ChargesMeter rt)
    (ixs : List CompiledInstruction) (ic : InvokeContext) (units : UInt64)
    (hfits : units.toNat + ic.computeMeter.toNat < 2 ^ 64) :
    (runInstructions rt ixs ic units).computeUnitsConsumed.toNat =
      units.toNat + ((chargedUnits rt ixs ic).map UInt64.toNat).sum := by
  induction ixs generalizing ic units with
  | nil => rfl
  | cons ix rest ih =>
      have hcharge := hrt ic.input
      have hinput : ic.input.computeMeter = ic.computeMeter := rfl
      rw [hinput] at hcharge
      have hsum : (units + (rt.processInstruction ic.input).computeUnitsConsumed).toNat =
          units.toNat + (rt.processInstruction ic.input).computeUnitsConsumed.toNat := by
        rw [UInt64.toNat_add]
        exact Nat.mod_eq_of_lt (by omega)
      cases hresult : (rt.processInstruction ic.input).result with
      | error e =>
          -- The failing instruction is charged as well.
          simp [runInstructions_of_error hresult, chargedUnits, hresult, hsum]
      | ok u =>
          have hmeter : (ic.apply (rt.processInstruction ic.input)).computeMeter =
              (rt.processInstruction ic.input).computeMeter := rfl
          have hrest := ih (ic.apply (rt.processInstruction ic.input))
            (units + (rt.processInstruction ic.input).computeUnitsConsumed)
            (by rw [hmeter, hsum]; omega)
          simp only [runInstructions_of_ok hresult, chargedUnits, hresult, List.map_cons,
            List.sum_cons, hrest, hsum]
          omega

/-! ## What the log says -/

/-- The units on the consumed line of an invocation. -/
def Invocation.reported (i : Invocation) : Option UInt64 :=
  i.consumed.map Prod.fst

/-- The units on the consumed line of the top-level invocation. -/
def Processed.reported : Processed → Option UInt64
  | .succeeded i _ => i.reported
  | .failed (.unresolved _) => none
  | .failed (.failed i _ _) => i.reported
  | .failed (.aborted i _ _ _) => i.reported

theorem Processed.units_top (p : Processed) :
    (p.top.logged.map Prod.snd).getD 0 = p.reported.getD 0 := by
  cases p with
  | succeeded i body => rfl
  | failed f =>
      cases f with
      | unresolved p => rfl
      | failed i body error => rfl
      | aborted i body cause error => rfl

section Heard

variable (name : Nat → String)

/-- The units that the parser reads for a placement: none where the id ends like the marker. -/
def heardUnits (p : Placement) (units : UInt64) : UInt64 :=
  if EndsLikeMarker (name p.programAccountIndexInTx) then 0 else units

theorem readsLines_heard : ReadsLines name RuntimeLine.heard (heardUnits name) := by
  refine ⟨fun _ _ => rfl, fun _ => rfl, ?_⟩
  intro i code last hlast
  have hheard : last.heard = some (.leave (codeUpdate code)) := by
    cases last with
    | consumed id units total => cases hlast
    | _ => exact hlast
  have hend : [last].filterMap RuntimeLine.heard = [.leave (codeUpdate code)] := by simp [hheard]
  rw [List.filterMap_append, filterMap_closingLines (fun _ => rfl), hend]
  rcases i with ⟨placement, consumed, notices⟩
  cases consumed with
  | none =>
      refine Table.Closing.leave none (codeUpdate code) ?_
      simp [codeUpdate, heardUnits, Invocation.units]
  | some c =>
      by_cases hid : EndsLikeMarker (name placement.programAccountIndexInTx)
      · -- The line is passed over.
        have hnone :
            (consumedLines name ⟨placement, some c, notices⟩).filterMap RuntimeLine.heard = [] := by
          simp [consumedLines, RuntimeLine.heard, hid]
        rw [hnone]
        refine Table.Closing.leave none (codeUpdate code) ?_
        simp [codeUpdate, heardUnits, hid]
      · have hnote : (consumedLines name ⟨placement, some c, notices⟩).filterMap RuntimeLine.heard =
            [.note (unitsUpdate c.1)] := by
          simp [consumedLines, RuntimeLine.heard, hid]
        rw [hnote]
        refine Table.Closing.note none _ _ (Table.Closing.leave _ _ ?_)
        simp [codeUpdate, unitsUpdate, heardUnits, hid, Invocation.units]

/-- The instruction logs its units, and the parser reads them. -/
def Processed.Heard (p : Processed) : Prop :=
  p.reported.isSome ∧ ¬ EndsLikeMarker (name p.top.placement.programAccountIndexInTx)

instance (p : Processed) : Decidable (p.Heard name) :=
  inferInstanceAs (Decidable (p.reported.isSome ∧
    ¬ EndsLikeMarker (name p.top.placement.programAccountIndexInTx)))

/-- What the parser counts for an invocation that stands where a top-level one is expected. -/
def topUnits (s : Started) : Nat :=
  if s.depth = 0 then (heardUnits name s.placement ((s.logged.map Prod.snd).getD 0)).toNat else 0

theorem zero_eq_toNat_iff {u : UInt64} : 0 = u.toNat ↔ u = 0 := by
  rw [← UInt64.toNat_inj]
  exact eq_comm

/-- A line that reports the charge is counted in full exactly where it is heard. -/
theorem topUnits_top {p : Processed} {u : UInt64} (h : ∀ c, p.reported = some c → c = u) :
    topUnits name p.top ≤ u.toNat ∧ (topUnits name p.top = u.toNat ↔ u ≠ 0 → p.Heard name) := by
  have hunits : topUnits name p.top =
      (heardUnits name p.top.placement (p.reported.getD 0)).toNat := by
    rw [topUnits, if_pos p.depth_top, p.units_top]
  rw [hunits]
  unfold Processed.Heard heardUnits
  cases hreported : p.reported with
  | none => simp [zero_eq_toNat_iff]
  | some c =>
      cases h c hreported
      by_cases hid : EndsLikeMarker (name p.top.placement.programAccountIndexInTx)
      · simp [hid, zero_eq_toNat_iff]
      · simp [hid]

/-! ## Counting the top-level invocations -/

/-- Every instruction that is charged is heard, and starts before `n` invocations have started. -/
def CountedIn (n : Nat) (ps : List Processed) (charges : List UInt64) : Prop :=
  ∀ j p u, ps[j]? = some p → charges[j]? = some u → u ≠ 0 →
    p.Heard name ∧ j + (innerStarted (ps.take j)).length < n

theorem countedIn_cons {n : Nat} {p : Processed} {ps : List Processed} {u : UInt64}
    {us : List UInt64} :
    CountedIn name n (p :: ps) (u :: us) ↔
      (u ≠ 0 → p.Heard name ∧ 0 < n) ∧ CountedIn name (n - 1 - p.inner.length) ps us := by
  -- The invocations of the first instruction start before those of the others.
  have hlength : ∀ j, (innerStarted ((p :: ps).take (j + 1))).length =
      p.inner.length + (innerStarted (ps.take j)).length := by
    intro j
    simp [innerStarted]
  constructor
  · intro h
    refine ⟨?_, ?_⟩
    · intro hne
      exact h 0 p u rfl rfl hne
    · intro j q v hq hv hne
      rcases h (j + 1) q v hq hv hne with ⟨hheard, hlt⟩
      rw [hlength] at hlt
      exact ⟨hheard, by omega⟩
  · rintro ⟨hfirst, hrest⟩ j q v hq hv hne
    cases j with
    | zero =>
        cases hq
        cases hv
        exact hfirst hne
    | succ j =>
        rcases hrest j q v hq hv hne with ⟨hheard, hlt⟩
        rw [hlength]
        exact ⟨hheard, by omega⟩

/-- Cross-program invocations do not count. -/
theorem sum_topUnits_inner (p : Processed) (n : Nat) :
    ((p.inner.take n).map (topUnits name)).sum = 0 := by
  refine List.sum_eq_zero ?_
  intro x hx
  rcases List.mem_map.1 hx with ⟨s, hs, rfl⟩
  have hpos := p.pos_of_mem_inner (List.mem_of_mem_take hs)
  exact if_neg (Nat.ne_of_gt hpos)

theorem sum_topUnits_cons (p : Processed) (rest : List Started) (n : Nat) :
    (((p.started ++ rest).take n).map (topUnits name)).sum =
      (if 0 < n then topUnits name p.top else 0) +
        ((rest.take (n - 1 - p.inner.length)).map (topUnits name)).sum := by
  cases n with
  | zero => simp
  | succ n =>
      have htake : (p.started ++ rest).take (n + 1) =
          p.top :: (p.inner.take n ++ rest.take (n - p.inner.length)) := by
        simp [Processed.started, List.take_append]
      simp only [htake, List.map_cons, List.sum_cons, List.map_append, List.sum_append,
        sum_topUnits_inner, Nat.succ_pos, if_true, Nat.zero_add, Nat.add_sub_cancel]

/-- Of the first `n` invocations that started the top-level ones count no more than was charged, and
all of it exactly when every instruction that was charged counts. -/
theorem sum_topUnits {ps : List Processed} {us : List UInt64}
    (h : List.Forall₂ (fun p u => ∀ c, Processed.reported p = some c → c = u) ps us) (n : Nat) :
    (((ps.flatMap Processed.started).take n).map (topUnits name)).sum ≤
        (us.map UInt64.toNat).sum ∧
      ((((ps.flatMap Processed.started).take n).map (topUnits name)).sum =
          (us.map UInt64.toNat).sum ↔ CountedIn name n ps us) := by
  induction h generalizing n with
  | nil => simp [CountedIn]
  | @cons p u ps us hpu hrest ih =>
      rcases ih (n - 1 - p.inner.length) with ⟨hle, hiff⟩
      rcases topUnits_top name hpu with ⟨htop, htopiff⟩
      have hfirst : (if 0 < n then topUnits name p.top else 0) ≤ u.toNat := by
        by_cases hn : 0 < n
        · simpa only [hn, if_true] using htop
        · simp [hn]
      have hfirstiff : (if 0 < n then topUnits name p.top else 0) = u.toNat ↔
          (u ≠ 0 → p.Heard name ∧ 0 < n) := by
        by_cases hn : 0 < n
        · simpa only [hn, if_true, and_true] using htopiff
        · simp [hn, zero_eq_toNat_iff]
      rw [countedIn_cons, ← hfirstiff, ← hiff, List.flatMap_cons, sum_topUnits_cons, List.map_cons,
        List.sum_cons]
      constructor
      · exact Nat.add_le_add hfirst hle
      · omega

end Heard

/-! ## The trace of a chain -/

/-- The units of the entries at depth 0 add up to the units of the call. -/
def ExecutionResult.UnitsConserved (r : ExecutionResult) : Prop :=
  ((r.executionTrace.instructions.filter fun e => e.stackDepth = 0).map
    fun e => e.computeUnitsConsumed.toNat).sum = r.computeUnitsConsumed.toNat

/-- A total over positions of another list is a total over a prefix of it. -/
theorem sum_mapIdx_eq {α β : Type} {f : Nat → α → Nat} {g : β → Nat} {l : List α} {l' : List β}
    (h : ∀ k a, f k a = ((l'[k]?).map g).getD 0) :
    (l.mapIdx f).sum = ((l'.take l.length).map g).sum := by
  induction l generalizing l' f with
  | nil => simp
  | cons a l ih =>
      cases l' with
      | nil =>
          have hnil : ∀ k a, f (k + 1) a = ((([] : List β)[k]?).map g).getD 0 := fun k a =>
            h (k + 1) a
          simpa [h 0 a] using ih hnil
      | cons b l' =>
          have hrest : (l.mapIdx fun k => f (k + 1)).sum = ((l'.take l.length).map g).sum :=
            ih fun k a => h (k + 1) a
          simp [h 0 a, hrest]

namespace Chain

variable {cr : Crates} {rt : Runtime} {svm : QuasarSvm} {ixs : List Instruction}
  {accounts : List Account} (chain : Chain cr rt svm ixs accounts)

/-- The units that the runtime reports, instruction by instruction. -/
def charged : List UInt64 :=
  chargedUnits rt (svm.message cr ixs accounts).message.instructions
    (svm.startContext cr ixs accounts
      (InstructionTrace.ofPlacements (chain.placed.map fun p => (0, p))))

/-- The runtime reports what it charges, and a consumed line of a top-level program the same. -/
structure Metered : Prop where
  meter : ChargesMeter rt
  lines : List.Forall₂ (fun p u => ∀ c, Processed.reported p = some c → c = u) chain.processed
    chain.charged

/-- No line is taken for another kind of line, and the collector dropped none that says something
about an invocation. -/
structure Plain : Prop where
  read : ∀ l ∈ chain.lines, readLine l.text = l.heard
  shallow : ∀ l ∈ chain.lines, l.Shallow
  kept : chain.kept.filter RuntimeLine.speaks = chain.lines.filter RuntimeLine.speaks

/-- Every instruction that was charged logs its units where the parser reads them, and starts before
as many invocations have started as there are instructions. -/
def Counted : Prop :=
  CountedIn (programText cr svm ixs accounts) chain.placed.length chain.processed chain.charged

variable {chain}

theorem Legible.plain (h : chain.Legible) (hread : ∀ l ∈ chain.lines, l.Unmistakable) :
    chain.Plain :=
  { read := fun l hl => (hread l hl).read.trans (hread l hl).heard_eq.symm
    shallow := fun l hl => (h.legible l hl).shallow
    kept := h.kept }

/-- A key holds the depth as one byte, which no depth of the chain overflows. -/
theorem Plain.ofNat_depth_ne (h : chain.Plain) {s : Started} (hs : s ∈ chain.started)
    (hne : s.depth ≠ 0) : UInt8.ofNat s.depth ≠ UInt8.ofNat 0 := fun heq =>
  hne (ofNat_injOn (depth_lt h.shallow s hs) (by decide) heq)

/-- The entry of a top-level frame has what the parser counts for the invocation that started at the
frame's position. -/
theorem Plain.units_traceEntry (h : chain.Plain) (k : Nat) (p : Placement) :
    (traceEntry chain.keys (parseLogResults chain.recorded) k (0, p)).computeUnitsConsumed.toNat =
      ((chain.started[k]?).map (topUnits (programText cr svm ixs accounts))).getD 0 := by
  have hlookup := Chain.lookup_eq (readsLines_heard (programText cr svm ixs accounts)) h.read h.kept
    (UInt8.ofNat 0, k)
  simp only [traceEntry, hlookup]
  cases hs : chain.started[k]? with
  | none => rfl
  | some s =>
      by_cases hzero : s.depth = 0
      · cases hlogged : s.logged with
        | none => simp [topUnits, heardUnits, hzero, hlogged]
        | some figures => simp [topUnits, hzero, hlogged]
      · have hbyte := h.ofNat_depth_ne (List.mem_of_getElem? hs) hzero
        rw [Option.bind_some, if_neg hbyte]
        simp [topUnits, hzero]

/-- The entries at depth 0 are those of the top-level frames. -/
theorem Plain.filter_entries (h : chain.Plain) {r : ExecutionResult} (hr : chain.ReportedBy r) :
    (r.executionTrace.instructions.filter fun e => e.stackDepth = 0) =
      chain.placed.mapIdx fun k p =>
        traceEntry chain.keys (parseLogResults chain.recorded) k (0, p) := by
  have hplaced : (chain.placed.map fun p => ((0 : Nat), p)).mapIdx
      (traceEntry chain.keys (parseLogResults chain.recorded)) =
        chain.placed.mapIdx fun k p =>
          traceEntry chain.keys (parseLogResults chain.recorded) k (0, p) := by
    refine List.ext_getElem? fun i => ?_
    simp [Function.comp_def]
  rw [hr.entries, frames, List.mapIdx_append, List.filter_append, hplaced]
  have htop : ∀ e ∈ (chain.placed.mapIdx fun k p =>
      traceEntry chain.keys (parseLogResults chain.recorded) k (0, p)),
        decide (e.stackDepth = 0) := by
    intro e he
    rcases List.mem_mapIdx.1 he with ⟨k, hk, rfl⟩
    rfl
  rw [List.filter_eq_self.2 htop, List.append_right_eq_self, List.filter_eq_nil_iff]
  intro e he
  rcases List.mem_mapIdx.1 he with ⟨k, hk, rfl⟩
  -- A frame of an inner invocation is at a depth between 1 and 255.
  rcases List.mem_map.1 (List.getElem_mem hk) with ⟨s, hs, hframe⟩
  rcases List.mem_flatMap.1 hs with ⟨p, hp, hinner⟩
  have hpos := p.pos_of_mem_inner hinner
  have hstarted : s ∈ chain.started :=
    List.mem_flatMap.2 ⟨p, hp, List.mem_cons_of_mem _ hinner⟩
  have hbyte := h.ofNat_depth_ne hstarted (Nat.ne_of_gt hpos)
  rw [← hframe]
  exact fun hzero => hbyte (of_decide_eq_true hzero)

/-- The call returns, and the units of its trace add up to its total exactly when every instruction
that was charged counts. -/
theorem unitsConserved_iff (chain : Chain cr rt svm ixs accounts) (hmetered : chain.Metered)
    (hplain : chain.Plain) (commit : Bool) :
    ∃ r, (svm.executeInner cr rt ixs accounts commit).2 = .ok r ∧
      (r.UnitsConserved ↔ chain.Counted) := by
  rcases chain.executeInner_eq commit with ⟨r, hcall, hr⟩
  refine ⟨r, hcall, ?_⟩
  have htotal : r.computeUnitsConsumed.toNat = (chain.charged.map UInt64.toNat).sum := by
    have hunits := (executeInner_execution cr rt svm ixs accounts commit).computeUnitsConsumed_eq
      hcall (run_of_prepare chain.prepared)
    rw [hunits, units_runInstructions hmetered.meter]
    · exact Nat.zero_add _
    · exact (Nat.zero_add _).trans_lt (UInt64.toNat_lt _)
  have hentries : (chain.placed.mapIdx fun k p =>
      traceEntry chain.keys (parseLogResults chain.recorded) k (0, p)).map
        (fun e => e.computeUnitsConsumed.toNat) =
      chain.placed.mapIdx fun k p => (traceEntry chain.keys (parseLogResults chain.recorded) k
        (0, p)).computeUnitsConsumed.toNat := by
    refine List.ext_getElem? fun i => ?_
    simp [Function.comp_def]
  rw [ExecutionResult.UnitsConserved, htotal, hplain.filter_entries hr, hentries,
    sum_mapIdx_eq hplain.units_traceEntry]
  exact (sum_topUnits _ hmetered.lines chain.placed.length).2

/-! ### Two metered instructions -/

/-- The scripted runtime with a meter: it charges instruction number `i` entry `i` of the list, or
what is left. -/
def meteredRuntime (name : Nat → String) (placed : List Placement) (script : List Processed)
    (charges : List UInt64) : Runtime :=
  { scriptedRuntime name placed script with
    processInstruction := fun inp =>
      let due := (charges[inp.transactionContext.topLevelInstructionIndex]?).getD 0
      let charge := if due ≤ inp.computeMeter then due else inp.computeMeter
      { (scriptedRuntime name placed script).processInstruction inp with
        computeUnitsConsumed := charge
        computeMeter := inp.computeMeter - charge } }

theorem chargesMeter_metered (name : Nat → String) (placed : List Placement)
    (script : List Processed) (charges : List UInt64) :
    ChargesMeter (meteredRuntime name placed script charges) := by
  intro inp
  have hdifference : ∀ {charge : UInt64}, charge ≤ inp.computeMeter →
      charge.toNat + (inp.computeMeter - charge).toNat = inp.computeMeter.toNat := by
    intro charge hle
    rw [UInt64.toNat_sub_of_le _ _ hle]
    exact Nat.add_sub_of_le hle
  dsimp only [meteredRuntime]
  split_ifs with hdue
  · exact hdifference hdue
  · exact hdifference (UInt64.le_refl _)

theorem follows_metered (name : Nat → String) (placed : List Placement) (script : List Processed)
    (charges : List UInt64) :
    Follows (meteredRuntime name placed script charges) name script := by
  intro inp p hp
  have hstep := follows_scripted name placed script inp p hp
  exact ⟨hstep.result, hstep.trace, hstep.log⟩

/-- The placements of an instruction of program `1` and one of program `2`. -/
def pairPlaced : List Placement :=
  [(plainInvocation 0 0).placement, (plainInvocation 1 0).placement]

/-- The metered runtime for the two instructions. -/
def meteredPair (script : List Processed) (charges : List UInt64) : Runtime :=
  meteredRuntime
    (programText Reference.crates Reference.emptyVm [plainInstruction 1, plainInstruction 2] [])
    pairPlaced script charges

/-- The chain of the two instructions on an empty VM. -/
def meteredChain (script : List Processed) (charges : List UInt64) (hfits : FitsMessage 2 script)
    (hstarted : script.map (fun p => p.top.placement) <+: pairPlaced) :
    Chain Reference.crates (meteredPair script charges) Reference.emptyVm
      [plainInstruction 1, plainInstruction 2] [] :=
  { placed := pairPlaced
    processed := script
    prepared := rfl
    length_placed := rfl
    performs := (follows_metered _ _ script charges).performs [] (by exact hfits) rfl
    placed_prefix := hstarted }

/-- Two programs that log their units, of which the second calls the first. -/
theorem unitsConserved_iff_logged :
    ∃ r, (Reference.emptyVm.executeInner Reference.crates (meteredPair lastCalls [10, 7])
        [plainInstruction 1, plainInstruction 2] [] true).2 = .ok r ∧ r.UnitsConserved := by
  have hcharged : (meteredChain lastCalls [10, 7] rfl (by decide)).charged = [10, 7] := by
    decide +kernel
  have hlegible : (meteredChain lastCalls [10, 7] rfl (by decide)).Legible :=
    .of_reference (by decide +kernel) (by decide +kernel)
  have hmetered : (meteredChain lastCalls [10, 7] rfl (by decide)).Metered := by
    refine ⟨chargesMeter_metered _ _ _ _, ?_⟩
    rw [hcharged]
    exact .cons (fun c hc => (Option.some.inj hc).symm)
      (.cons (fun c hc => (Option.some.inj hc).symm) .nil)
  rcases unitsConserved_iff (meteredChain lastCalls [10, 7] rfl (by decide)) hmetered
    (hlegible.plain (by decide +kernel)) true with ⟨r, hcall, hiff⟩
  refine ⟨r, hcall, hiff.2 ?_⟩
  rw [Counted, hcharged]
  refine (countedIn_cons _).2 ⟨fun _ => ⟨by decide +kernel, by decide⟩, ?_⟩
  refine (countedIn_cons _).2 ⟨fun _ => ⟨by decide +kernel, by decide⟩, ?_⟩
  intro j p u hp
  cases hp

/-- The second instruction runs a builtin program, which logs no units. -/
def builtinLast : List Processed :=
  [.succeeded (plainInvocation 0 10) .nil,
    .succeeded { plainInvocation 1 0 with consumed := none } .nil]

/-- The units of the builtin program are in the total and not in the trace. -/
theorem builtin_units_missing :
    ∃ r, (Reference.emptyVm.executeInner Reference.crates (meteredPair builtinLast [10, 150])
        [plainInstruction 1, plainInstruction 2] [] true).2 = .ok r ∧
      r.executionTrace.instructions.map (fun e => (e.stackDepth, e.computeUnitsConsumed)) =
        [(0, 10), (0, 0)] ∧
      r.computeUnitsConsumed = 160 ∧ ¬ r.UnitsConserved := by
  rcases (meteredChain builtinLast [10, 150] rfl (by decide)).executeInner_eq true with
    ⟨r, hcall, hr⟩
  have hlegible : (meteredChain builtinLast [10, 150] rfl (by decide)).Legible :=
    .of_reference (by decide +kernel) (by decide +kernel)
  have hentries : r.executionTrace.instructions.map
      (fun e => (e.stackDepth, e.computeUnitsConsumed)) = [(0, 10), (0, 0)] := by
    rw [hr.entries, hlegible.depths_and_units]
    decide +kernel
  have htotal : r.computeUnitsConsumed = 160 := by
    have hunits := (executeInner_execution _ _ _ _ _ true).computeUnitsConsumed_eq hcall
      (run_of_prepare (meteredChain builtinLast [10, 150] rfl (by decide)).prepared)
    rw [hunits]
    decide +kernel
  refine ⟨r, hcall, hentries, htotal, ?_⟩
  intro h
  have hsum : (((r.executionTrace.instructions.map
      fun e => (e.stackDepth, e.computeUnitsConsumed)).filter fun e => e.1 = 0).map
        fun e => e.2.toNat).sum = r.computeUnitsConsumed.toNat := by
    rw [List.filter_map, List.map_map]
    exact h
  rw [hentries, htotal] at hsum
  exact absurd hsum (by decide)

end Chain

end Svm
end Quasar
