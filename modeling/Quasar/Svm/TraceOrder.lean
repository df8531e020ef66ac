import Quasar.Svm.Scripted

/-!
# TraceOrder — when the trace is the list of the invocations that started

The runtime places the frames of all top-level instructions before any of them runs.  The trace
therefore lists the invocations in the order in which they started only for chains in which every
instruction started and none but the last makes cross-program invocations; for these it does, with
the figures of the log.
-/

namespace Quasar
namespace Svm

open Lib

/-! ## Depths of the invocations -/

theorem one_le_of_mem_bodyStarted {d : Nat} {body : Body} {s : Started}
    (h : s ∈ bodyStarted d body) : d ≤ s.depth := by
  rcases List.mem_map.1 h with ⟨p, hp, rfl⟩
  exact Forest.le_of_mem_preorder hp

theorem Failure.depth_top (f : Failure) (d : Nat) : (f.top d).depth = d := by
  cases f with
  | unresolved p => rfl
  | failed i body error => rfl
  | aborted i body cause error => rfl

theorem Failure.lt_of_mem_inner (f : Failure) {d : Nat} {s : Started} (h : s ∈ f.inner d) :
    d < s.depth := by
  induction f generalizing d with
  | unresolved p => cases h
  | failed i body error => exact one_le_of_mem_bodyStarted h
  | aborted i body cause error ih =>
      rcases List.mem_append.1 h with h | h
      · exact one_le_of_mem_bodyStarted h
      · rcases List.mem_cons.1 h with rfl | h
        · simpa only [cause.depth_top] using Nat.lt_succ_self d
        · exact Nat.lt_of_succ_lt (ih h)

theorem Processed.depth_top (p : Processed) : p.top.depth = 0 := by
  cases p with
  | succeeded i body => rfl
  | failed f => exact f.depth_top 0

theorem Processed.pos_of_mem_inner (p : Processed) {s : Started} (h : s ∈ p.inner) :
    0 < s.depth := by
  cases p with
  | succeeded i body => exact one_le_of_mem_bodyStarted h
  | failed f => exact f.lt_of_mem_inner h

/-! ## Two orders of the same invocations -/

theorem length_started (ps : List Processed) :
    (ps.flatMap Processed.started).length = ps.length + (innerStarted ps).length := by
  induction ps with
  | nil => rfl
  | cons p ps ih =>
      calc ((p :: ps).flatMap Processed.started).length
          = p.inner.length + 1 + (ps.flatMap Processed.started).length :=
            List.length_append
        _ = p.inner.length + 1 + (ps.length + (innerStarted ps).length) := by rw [ih]
        _ = ps.length + 1 + (p.inner.length + (innerStarted ps).length) := by omega
        _ = (p :: ps).length + (innerStarted (p :: ps)).length :=
            congrArg (ps.length + 1 + ·) List.length_append.symm

/-- When only the last instruction makes invocations, placing all top-level frames first does not
change the order. -/
theorem started_eq_of_onlyLast {ps : List Processed} (h : ∀ p ∈ ps.dropLast, p.inner = []) :
    ps.flatMap Processed.started = ps.map Processed.top ++ innerStarted ps := by
  induction ps with
  | nil => rfl
  | cons p ps ih =>
      cases ps with
      | nil => rfl
      | cons p' ps =>
          have hp : p.inner = [] := h p List.mem_cons_self
          have hrest := ih fun q hq => h q (List.mem_cons_of_mem _ hq)
          have hinner : innerStarted (p :: p' :: ps) = innerStarted (p' :: ps) := by
            calc innerStarted (p :: p' :: ps)
                = p.inner ++ innerStarted (p' :: ps) := rfl
              _ = innerStarted (p' :: ps) := by rw [hp, List.nil_append]
          calc (p :: p' :: ps).flatMap Processed.started
              = p.started ++ (p' :: ps).flatMap Processed.started := rfl
            _ = [p.top] ++ ((p' :: ps).map Processed.top ++ innerStarted (p' :: ps)) := by
                rw [hrest, Processed.started, hp]
            _ = (p :: p' :: ps).map Processed.top ++ innerStarted (p :: p' :: ps) := by
                rw [hinner]
                rfl

/-- When as many top-level invocations come first as there are instructions, only the last
instruction makes invocations. -/
theorem onlyLast_of_zeros {ps : List Processed}
    (h : List.replicate ps.length 0 <+: (ps.flatMap Processed.started).map Started.depth) :
    ∀ p ∈ ps.dropLast, p.inner = [] := by
  induction ps with
  | nil => simp
  | cons p ps ih =>
      cases ps with
      | nil => simp
      | cons p' ps =>
          -- After the first top-level one, as many are due as instructions remain.
          have hdepths : ((p :: p' :: ps).flatMap Processed.started).map Started.depth =
              p.top.depth :: (p.inner.map Started.depth ++
                ((p' :: ps).flatMap Processed.started).map Started.depth) := by
            simp [Processed.started]
          have htail : List.replicate (p' :: ps).length 0 <+:
              p.inner.map Started.depth ++
                ((p' :: ps).flatMap Processed.started).map Started.depth := by
            rw [hdepths] at h
            exact (List.cons_prefix_cons.1 h).2
          have hp : p.inner = [] := by
            cases hinner : p.inner with
            | nil => rfl
            | cons s rest =>
                -- The invocation `s` would stand where a top-level one is due.
                have hpos : 0 < s.depth := p.pos_of_mem_inner (by rw [hinner]; simp)
                rw [hinner] at htail
                have hzero := (List.cons_prefix_cons.1 htail).1
                exact absurd hzero (Nat.ne_of_lt hpos)
          intro q hq
          rcases List.mem_cons.1 hq with rfl | hq
          · exact hp
          · exact ih (by simpa [hp] using htail) q hq

/-! ## The trace of a chain -/

/-- The entry is that of the invocation: same depth, program, accounts and data, and its figures
where they were logged. -/
def Matches (keys : List Pubkey) (e : ExecutedInstruction) (s : Started) : Prop :=
  e.stackDepth.toNat = s.depth ∧ e.instruction = s.placement.instruction keys ∧
    ∀ figures, s.logged = some figures → (e.result, e.computeUnitsConsumed) = figures

namespace Chain

variable {cr : Crates} {rt : Runtime} {svm : QuasarSvm} {ixs : List Instruction}
  {accounts : List Account} (chain : Chain cr rt svm ixs accounts)

/-- The trace has one entry for each invocation that started, in the order in which they started. -/
def TraceIsStarted (r : ExecutionResult) : Prop :=
  List.Forall₂ (Matches chain.keys) r.executionTrace.instructions chain.started

/-- Every instruction of the chain started. -/
def AllStarted : Prop :=
  chain.processed.length = chain.placed.length

/-- No instruction but the last one that started makes cross-program invocations. -/
def OnlyLastCalls : Prop :=
  ∀ p ∈ chain.processed.dropLast, p.inner = []

variable {chain}

/-- The depths of matching entries are those of the invocations. -/
theorem depths_of_matches {keys : List Pubkey} {results : LogResults}
    {frames : List (Nat × Placement)} {started : List Started}
    (h : List.Forall₂ (Matches keys) (frames.mapIdx (traceEntry keys results)) started) :
    frames.map (fun p => p.1 % 256) = started.map Started.depth := by
  have hdepths : List.Forall₂ (fun e s => e.stackDepth.toNat = s.depth)
      (frames.mapIdx (traceEntry keys results)) started := h.imp fun _ _ hm => hm.1
  have hmaps : (frames.mapIdx (traceEntry keys results)).map (fun e => e.stackDepth.toNat) =
      started.map Started.depth := by
    rw [← List.forall₂_eq_eq_eq, List.forall₂_map_left_iff, List.forall₂_map_right_iff]
    exact hdepths
  -- An entry holds its depth as one byte.
  have hentries : frames.map (fun p => p.1 % 256) =
      (frames.mapIdx (traceEntry keys results)).map (fun e => e.stackDepth.toNat) := by
    refine List.ext_getElem (by simp) ?_
    intro k h₁ h₂
    simp [traceEntry]
  exact hentries.trans hmaps

/-- A trace that is the list of the invocations needs every instruction to have started, and no
invocations below any but the last; whatever the log says. -/
theorem shape_of_traceIsStarted {r : ExecutionResult} (hr : chain.ReportedBy r)
    (h : chain.TraceIsStarted r) : chain.AllStarted ∧ chain.OnlyLastCalls := by
  rw [TraceIsStarted, hr.entries] at h
  have hdepths := depths_of_matches h
  -- Frames and invocations count the same inner calls, so they count the same instructions.
  have hlen : chain.placed.length + (innerStarted chain.processed).length =
      chain.processed.length + (innerStarted chain.processed).length := by
    calc chain.placed.length + (innerStarted chain.processed).length
        = (chain.frames.map fun p => p.1 % 256).length := by simp [frames]
      _ = (chain.started.map Started.depth).length := congrArg List.length hdepths
      _ = chain.processed.length + (innerStarted chain.processed).length := by
          rw [List.length_map, started, length_started]
  have hall : chain.processed.length = chain.placed.length := (Nat.add_right_cancel hlen).symm
  refine ⟨hall, onlyLast_of_zeros ?_⟩
  -- The frames begin with one of depth 0 for each instruction.
  have hzeros : (chain.placed.map fun p => ((0 : Nat), p)).map (fun p => p.1 % 256) =
      List.replicate chain.processed.length 0 := by
    rw [hall, List.map_map]
    exact List.map_const' ..
  have hzerosFirst : List.replicate chain.processed.length 0 <+:
      chain.frames.map fun p => p.1 % 256 := by
    rw [frames, List.map_append, hzeros]
    exact List.prefix_append _ _
  simpa only [hdepths, started] using hzerosFirst

/-- The frames of such a chain are those of its invocations in the order in which they started. -/
theorem frames_eq (hall : chain.AllStarted) (honly : chain.OnlyLastCalls) :
    chain.frames = chain.started.map Started.placed := by
  have hplaced : chain.processed.map (fun p => p.top.placement) = chain.placed := by
    refine chain.placed_prefix.eq_of_length ?_
    rw [List.length_map]
    exact hall
  have htop : chain.placed.map (fun p => ((0 : Nat), p)) =
      (chain.processed.map Processed.top).map Started.placed := by
    rw [← hplaced, List.map_map, List.map_map]
    refine List.map_congr_left ?_
    intro p _
    simp [Started.placed, p.depth_top]
  calc chain.frames
      = (chain.processed.map Processed.top).map Started.placed ++
          (innerStarted chain.processed).map Started.placed := by rw [frames, htop]
    _ = (chain.processed.map Processed.top ++ innerStarted chain.processed).map Started.placed :=
        List.map_append.symm
    _ = chain.started.map Started.placed := by
        rw [started, started_eq_of_onlyLast honly]

/-- With a legible log each entry has the figures of its invocation. -/
theorem traceIsStarted_of_shape {r : ExecutionResult} (hlegible : chain.Legible)
    (hr : chain.ReportedBy r) (hall : chain.AllStarted) (honly : chain.OnlyLastCalls) :
    chain.TraceIsStarted r := by
  rw [TraceIsStarted, hr.entries, frames_eq hall honly, List.forall₂_iff_get]
  refine ⟨by simp, ?_⟩
  intro k h₁ h₂
  have hdepth := depth_lt_of_legible hlegible.legible (chain.started.get ⟨k, h₂⟩) (List.get_mem _ _)
  refine ⟨?_, ?_, ?_⟩
  · simpa [traceEntry, Started.placed] using Nat.mod_eq_of_lt hdepth
  · simp [traceEntry, Started.placed]
  · -- The log files the figures under the depth and the number of the invocation.
    intro figures hlogged
    have hlookup := hlegible.lookup_eq
      (UInt8.ofNat (chain.started.get ⟨k, h₂⟩).depth, k)
    have hget : chain.started[k]? = some (chain.started.get ⟨k, h₂⟩) :=
      List.getElem?_eq_getElem h₂
    rw [hget, Option.bind_some, if_pos rfl, hlogged] at hlookup
    have hentry : ((chain.started.map Started.placed).mapIdx
        (traceEntry chain.keys (parseLogResults chain.recorded))).get ⟨k, h₁⟩ =
          traceEntry chain.keys (parseLogResults chain.recorded) k
            (chain.started.get ⟨k, h₂⟩).placed := by
      simp
    simp only [hentry, traceEntry, Started.placed, hlookup, Option.getD_some]

/-- The call returns, and its trace is the list of the invocations that started only if every
instruction started and none but the last makes invocations; where the log is legible, if and only
if. -/
theorem traceIsStarted_iff (chain : Chain cr rt svm ixs accounts) (commit : Bool) :
    ∃ r, (svm.executeInner cr rt ixs accounts commit).2 = .ok r ∧
      (chain.TraceIsStarted r → chain.AllStarted ∧ chain.OnlyLastCalls) ∧
      (chain.Legible →
        (chain.TraceIsStarted r ↔ chain.AllStarted ∧ chain.OnlyLastCalls)) := by
  rcases chain.executeInner_eq commit with ⟨r, hcall, hr⟩
  refine ⟨r, hcall, shape_of_traceIsStarted hr, ?_⟩
  intro hlegible
  constructor
  · exact shape_of_traceIsStarted hr
  · rintro ⟨hall, honly⟩
    exact traceIsStarted_of_shape hlegible hr hall honly

/-- In a legible log the entry of a frame has the figures of the invocation with the frame's
number, when their depths agree. -/
theorem Legible.depths_and_units (hlegible : chain.Legible) :
    (chain.frames.mapIdx (traceEntry chain.keys (parseLogResults chain.recorded))).map
        (fun e => (e.stackDepth, e.computeUnitsConsumed)) =
      chain.frames.mapIdx fun k p =>
        (UInt8.ofNat p.1, (((chain.started[k]?).bind fun s =>
          if UInt8.ofNat s.depth = UInt8.ofNat p.1 then s.logged else none).getD (0, 0)).2) := by
  refine List.ext_getElem (by simp) fun k h₁ h₂ => ?_
  simp only [List.getElem_map, List.getElem_mapIdx, traceEntry, hlegible.lookup_eq]

/-! ### Two instructions, one of which calls -/

/-- A runtime for two instructions, the first of program `1` and the second of program `2`. -/
def pairRuntime (script : List Processed) : Runtime :=
  scriptedRuntime
    (programText Reference.crates Reference.emptyVm [plainInstruction 1, plainInstruction 2] [])
    [(plainInvocation 0 0).placement, (plainInvocation 1 0).placement] script

/-- A chain of the two instructions on an empty VM. -/
def pairChain (script : List Processed) (hfits : FitsMessage 2 script)
    (hstarted : script.map (fun p => p.top.placement) <+:
      [(plainInvocation 0 0).placement, (plainInvocation 1 0).placement]) :
    Chain Reference.crates (pairRuntime script) Reference.emptyVm
      [plainInstruction 1, plainInstruction 2] [] :=
  scriptedChain _ _ _ _ _ script rfl hfits hstarted

/-- The first instruction calls program `2`, the second does not call. -/
def firstCalls : List Processed :=
  [.succeeded (plainInvocation 0 10) (.node (plainInvocation 1 5) .nil .nil),
    .succeeded (plainInvocation 1 7) .nil]

/-- The second instruction calls program `1`. -/
def lastCalls : List Processed :=
  [.succeeded (plainInvocation 0 10) .nil,
    .succeeded (plainInvocation 1 7) (.node (plainInvocation 0 5) .nil .nil)]

theorem legible_lastCalls :
    (pairChain lastCalls rfl (by decide)).Legible :=
  .of_reference (by decide +kernel) (by decide +kernel)

/-- When only the second instruction calls, the trace is the list of the invocations. -/
theorem traceIsStarted_iff_lastCalls :
    ∃ r, (Reference.emptyVm.executeInner Reference.crates (pairRuntime lastCalls)
        [plainInstruction 1, plainInstruction 2] [] true).2 = .ok r ∧
      (pairChain lastCalls rfl (by decide)).TraceIsStarted r := by
  rcases traceIsStarted_iff (pairChain lastCalls rfl (by decide)) true with
    ⟨r, hr, _, hiff⟩
  refine ⟨r, hr, (hiff legible_lastCalls).2 ⟨rfl, ?_⟩⟩
  unfold OnlyLastCalls
  decide +kernel

theorem legible_firstCalls :
    (pairChain firstCalls rfl (by decide)).Legible :=
  .of_reference (by decide +kernel) (by decide +kernel)

/-- When the first instruction calls, its call comes last in the trace, with the figures of no
invocation. -/
theorem firstCalls_reordered :
    ∃ r, (Reference.emptyVm.executeInner Reference.crates (pairRuntime firstCalls)
        [plainInstruction 1, plainInstruction 2] [] true).2 = .ok r ∧
      ¬ (pairChain firstCalls rfl (by decide)).TraceIsStarted r ∧
      r.executionTrace.instructions.map (fun e => (e.stackDepth, e.computeUnitsConsumed)) =
        [(0, 10), (0, 0), (1, 0)] ∧
      (pairChain firstCalls rfl (by decide)).started.map
          (fun s => (s.depth, s.logged)) =
        [(0, some (0, 10)), (1, some (0, 5)), (0, some (0, 7))] := by
  rcases (pairChain firstCalls rfl (by decide)).executeInner_eq true with
    ⟨r, hcall, hr⟩
  refine ⟨r, hcall, ?_, ?_, by decide +kernel⟩
  · intro htrace
    have honly := (shape_of_traceIsStarted hr htrace).2
    have hnil := honly _ List.mem_cons_self
    cases hnil
  · -- The lines are legible, so the figures need not be read from their texts.
    rw [hr.entries, legible_firstCalls.depths_and_units]
    decide +kernel

end Chain

end Svm
end Quasar
