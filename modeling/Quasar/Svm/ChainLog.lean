import Quasar.Svm.Chain

/-!
# ChainLog — reading back the log of a chain

Where every line of a chain is legible and the collector dropped no line about an invocation, the
parser's table has a row for each invocation that was logged, in the order in which they started.
An invocation of an unknown program has no row; it is the last one.  Where only lines of units were
dropped the rows still have the right result codes; whatever was dropped, the codes are those of the
invocations that the remaining lines open and close.
-/

namespace Quasar
namespace Svm

open Lib

/-! ## Reading legible lines -/

/-- Texts that a reader of lines understands are read like the lines. -/
theorem read_texts {reader : RuntimeLine → Option (Mark UInt8 Figures)} {lines : List RuntimeLine}
    (h : ∀ l ∈ lines, readLine l.text = reader l) (t : Table UInt8 Figures) :
    t.read readLine (lines.map RuntimeLine.text) = t.read reader lines := by
  have hmarks : (lines.map RuntimeLine.text).filterMap readLine = lines.filterMap reader := by
    rw [List.filterMap_map]
    exact List.filterMap_congr h
  simp only [Table.read, hmarks]

/-- The row that an invocation has in the parser's table, where `units` says which units are read
for a placement. -/
def Started.rowBy (units : Placement → UInt64 → UInt64) (s : Started) :
    Option (UInt8 × Option Figures) :=
  s.logged.map fun f => (UInt8.ofNat s.depth, some (f.1, units s.placement f.2))

section Lines

variable (name : Nat → String)

/-- A reader of the runtime's lines, and the units that it reads for a placement. -/
structure ReadsLines (reader : RuntimeLine → Option (Mark UInt8 Figures))
    (units : Placement → UInt64 → UInt64) : Prop where
  enter : ∀ (d : Nat) (i : Invocation),
    (enterLines name d i).filterMap reader = [.enter (UInt8.ofNat d)]
  other : ∀ text, reader (.other text) = none
  closing : ∀ (i : Invocation) (code : UInt64) (last : RuntimeLine),
    last.mark = some (.leave (codeUpdate code)) →
      Table.Closing (code, units i.placement i.units) none
        ((closingLines name i ++ [last]).filterMap reader)

/-- Lines that are read as they are meant: the closing lines amount to the figures. -/
theorem readsLines_mark : ReadsLines name RuntimeLine.mark fun _ units => units := by
  refine ⟨fun _ _ => rfl, fun _ => rfl, ?_⟩
  intro i code last hlast
  have hend : [last].filterMap RuntimeLine.mark = [.leave (codeUpdate code)] := by simp [hlast]
  rw [List.filterMap_append, filterMap_closingLines (fun _ => rfl), hend]
  rcases i with ⟨placement, consumed, notices⟩
  cases consumed with
  | none => exact Table.Closing.leave none (codeUpdate code) rfl
  | some c => exact Table.Closing.note none _ _ (Table.Closing.leave _ _ rfl)

variable {name} {reader : RuntimeLine → Option (Mark UInt8 Figures)}
  {units : Placement → UInt64 → UInt64}

theorem read_bodyLines (h : ReadsLines name reader units) (d : Nat) (body : Body)
    (t : Table UInt8 Figures) :
    t.read reader (bodyLines name d body) =
      { t with rows := t.rows ++ (bodyStarted d body).filterMap (Started.rowBy units) } := by
  have hother : ∀ text, [RuntimeLine.other text].filterMap reader = [] := by
    intro text
    simp [h.other]
  have hclosing : ∀ i, Table.Closing (0, units i.placement i.units) none
      ((succeedLines name i).filterMap reader) := fun i => h.closing i 0 _ rfl
  have hread : t.read reader (bodyLines name d body) =
      { t with
        rows := t.rows ++ (body.preorder d).map fun p =>
          (UInt8.ofNat p.1, some ((0 : UInt64), units p.2.placement p.2.units)) } :=
    Table.read_forest UInt8.ofNat (fun i : Invocation => (0, units i.placement i.units)) body d t
      (fun p _ => h.enter p.1 p.2) (fun p _ => hclosing p.2) (fun text _ => hother text)
  -- All invocations below a successful one are logged, so none of them lacks a row.
  have hrows : (bodyStarted d body).filterMap (Started.rowBy units) =
      (body.preorder d).map fun p =>
        (UInt8.ofNat p.1, some ((0 : UInt64), units p.2.placement p.2.units)) := by
    rw [bodyStarted, List.filterMap_map, ← List.filterMap_eq_map]
    rfl
  simpa only [hrows] using hread

theorem Failure.read_lines (h : ReadsLines name reader units) (f : Failure) (d : Nat)
    (t : Table UInt8 Figures) :
    t.read reader (f.lines name d) =
      { t with rows := t.rows ++ (f.started d).filterMap (Started.rowBy units) } := by
  induction f generalizing d t with
  | unresolved p =>
      -- No line and no row.
      have hrow : ((Failure.unresolved p).started d).filterMap (Started.rowBy units) = [] := rfl
      rw [hrow, List.append_nil]
      rfl
  | failed i body error =>
      exact Table.read_call t (h.enter d i) (read_bodyLines h (d + 1) body) (h.closing i 1 _ rfl)
  | aborted i body cause error ih =>
      -- Between the opening and the closing lines stand the earlier calls and then the cause.
      have hinside : ∀ t : Table UInt8 Figures,
          t.read reader (bodyLines name (d + 1) body ++ cause.lines name (d + 1)) =
            { t with
              rows := t.rows ++ (bodyStarted (d + 1) body ++
                cause.started (d + 1)).filterMap (Started.rowBy units) } := by
        intro t
        simp only [Table.read_append, read_bodyLines h, ih, List.filterMap_append,
          List.append_assoc]
      exact Table.read_call t (h.enter d i) hinside (h.closing i 1 _ rfl)

theorem Processed.read_lines (h : ReadsLines name reader units) (p : Processed)
    (t : Table UInt8 Figures) :
    t.read reader (p.lines name) =
      { t with rows := t.rows ++ p.started.filterMap (Started.rowBy units) } := by
  cases p with
  | succeeded i body =>
      exact Table.read_call t (h.enter 0 i) (read_bodyLines h 1 body) (h.closing i 0 _ rfl)
  | failed f => exact f.read_lines h 0 t

theorem read_processed (h : ReadsLines name reader units) (ps : List Processed)
    (t : Table UInt8 Figures) :
    t.read reader (ps.flatMap (Processed.lines name)) =
      { t with
        rows := t.rows ++ (ps.flatMap Processed.started).filterMap (Started.rowBy units) } := by
  induction ps generalizing t with
  | nil => simp
  | cons p ps ih =>
      simp only [List.flatMap_cons, Table.read_append, p.read_lines h, ih, List.filterMap_append,
        List.append_assoc]

end Lines

/-! ## Which invocations are logged -/

/-- Every invocation that another one follows is logged. -/
def LoggedFirst (l : List Started) : Prop :=
  l.Pairwise fun s _ => s.logged.isSome

theorem LoggedFirst.append {l l' : List Started} (h : ∀ s ∈ l, s.logged.isSome)
    (h' : LoggedFirst l') : LoggedFirst (l ++ l') := by
  induction l with
  | nil => exact h'
  | cons s l ih =>
      have hrest := ih fun s' hs' => h s' (List.mem_cons_of_mem _ hs')
      exact List.Pairwise.cons (fun _ _ => h s List.mem_cons_self) hrest

theorem loggedFirst_of_logged {l : List Started} (h : ∀ s ∈ l, s.logged.isSome) :
    LoggedFirst l :=
  List.pairwise_of_forall_mem_list fun s hs _ _ => h s hs

theorem logged_bodyStarted {d : Nat} {body : Body} {s : Started} (h : s ∈ bodyStarted d body) :
    ∃ units, s.logged = some (0, units) := by
  rcases List.mem_map.1 h with ⟨p, _, rfl⟩
  exact ⟨p.2.units, rfl⟩

theorem isSome_bodyStarted {d : Nat} {body : Body} :
    ∀ s ∈ bodyStarted d body, s.logged.isSome := by
  intro s hs
  rcases logged_bodyStarted hs with ⟨units, hunits⟩
  simp [hunits]

theorem Failure.loggedFirst (f : Failure) (d : Nat) : LoggedFirst (f.started d) := by
  induction f generalizing d with
  | unresolved p => exact List.pairwise_singleton _ _
  | failed i body error =>
      refine List.Pairwise.cons (fun _ _ => rfl) ?_
      exact loggedFirst_of_logged isSome_bodyStarted
  | aborted i body cause error ih =>
      -- Only the cause may end in an invocation that is not logged, and it comes last.
      refine List.Pairwise.cons (fun _ _ => rfl) ?_
      exact LoggedFirst.append isSome_bodyStarted (ih (d + 1))

/-- All invocations of an instruction that succeeded are logged as successes. -/
theorem Processed.logged_of_isOk {p : Processed} (hok : p.isOk) {s : Started} (h : s ∈ p.started) :
    ∃ units, s.logged = some (0, units) := by
  cases p with
  | failed f => cases hok
  | succeeded i body =>
      rcases List.mem_cons.1 h with rfl | h
      · exact ⟨i.units, rfl⟩
      · exact logged_bodyStarted h

theorem Processed.loggedFirst (p : Processed) : LoggedFirst p.started := by
  cases p with
  | failed f => exact f.loggedFirst 0
  | succeeded i body =>
      refine List.Pairwise.cons (fun _ _ => rfl) ?_
      exact loggedFirst_of_logged isSome_bodyStarted

theorem loggedFirst_processed {ps : List Processed} (h : ∀ p ∈ ps.dropLast, p.isOk) :
    LoggedFirst (ps.flatMap Processed.started) := by
  induction ps with
  | nil => exact List.Pairwise.nil
  | cons p ps ih =>
      cases ps with
      | nil => simpa using p.loggedFirst
      | cons p' ps =>
          have hp : p.isOk := h p List.mem_cons_self
          rw [List.flatMap_cons]
          refine LoggedFirst.append ?_ (ih fun q hq => h q (List.mem_cons_of_mem _ hq))
          intro s hs
          rcases Processed.logged_of_isOk hp hs with ⟨units, hunits⟩
          simp [hunits]

/-- The rows of the logged invocations stand at the positions of the invocations. -/
theorem getElem?_rows {l : List Started} (h : LoggedFirst l)
    (units : Placement → UInt64 → UInt64) (k : Nat) :
    (l.filterMap (Started.rowBy units))[k]? = (l[k]?).bind (Started.rowBy units) := by
  induction l generalizing k with
  | nil => rfl
  | cons s l ih =>
      rcases List.pairwise_cons.1 h with ⟨hs, hl⟩
      cases hlogged : s.logged with
      | some f =>
          have hrow : s.rowBy units =
              some (UInt8.ofNat s.depth, some (f.1, units s.placement f.2)) := by
            simp [Started.rowBy, hlogged]
          rw [List.filterMap_cons_some hrow]
          cases k with
          | zero => simp [hrow]
          | succ k => simpa using ih hl k
      | none =>
          -- Nothing follows an invocation that is not logged.
          have hrow : s.rowBy units = none := by simp [Started.rowBy, hlogged]
          have hnil : l = [] := by
            refine List.eq_nil_iff_forall_not_mem.2 ?_
            intro s' hs'
            simpa [hlogged] using hs s' hs'
          subst hnil
          cases k with
          | zero => simp [hrow]
          | succ k => simp [hrow]

/-- What the table of a chain's log says under a key. -/
theorem tableLookup_rows {l : List Started} (h : LoggedFirst l)
    (units : Placement → UInt64 → UInt64) (key : UInt8 × Nat) :
    tableLookup (l.filterMap (Started.rowBy units)) key =
      (l[key.2]?).bind fun s =>
        if UInt8.ofNat s.depth = key.1 then
          s.logged.map fun f => (f.1, units s.placement f.2)
        else
          none := by
  simp only [tableLookup, getElem?_rows h units]
  cases l[key.2]? with
  | none => rfl
  | some s =>
      cases hlogged : s.logged with
      | none => simp [Started.rowBy, hlogged]
      | some f => simp [Started.rowBy, hlogged]

/-! ## How deep logs go -/

/-- Depths that fit a byte are told apart by it. -/
theorem ofNat_injOn {a b : Nat} (ha : a < 256) (hb : b < 256)
    (h : UInt8.ofNat a = UInt8.ofNat b) : a = b := by
  have hnat := congrArg UInt8.toNat h
  rwa [UInt8.toNat_ofNat_of_lt' ha, UInt8.toNat_ofNat_of_lt' hb] at hnat

section Depth

variable {name : Nat → String}

theorem depth_of_shallow_enter {d : Nat} {i : Invocation} {ls : List RuntimeLine}
    (h : ∀ l ∈ enterLines name d i ++ ls, l.Shallow) : d < 255 :=
  h _ (List.mem_append_left _ (List.mem_singleton.2 rfl)) _ _ rfl

theorem depth_of_mem_bodyStarted {d : Nat} {body : Body}
    (h : ∀ l ∈ bodyLines name d body, l.Shallow) {s : Started} (hs : s ∈ bodyStarted d body) :
    s.depth < 256 := by
  rcases List.mem_map.1 hs with ⟨p, hp, rfl⟩
  have hmem : RuntimeLine.invoke (name p.2.placement.programAccountIndexInTx) p.1 ∈
      bodyLines name d body :=
    Forest.mem_log_of_mem_enter hp (List.mem_singleton.2 rfl)
  exact Nat.lt_succ_of_lt (h _ hmem _ _ rfl)

/-- Only logged invocations call others, so an invocation that is not logged is one level deeper
than an invoke line at most. -/
theorem Failure.depth_lt (f : Failure) {d : Nat} (hd : d < 256)
    (h : ∀ l ∈ f.lines name d, l.Shallow) : ∀ s ∈ f.started d, s.depth < 256 := by
  induction f generalizing d with
  | unresolved p =>
      intro s hs
      cases List.mem_singleton.1 hs
      exact hd
  | failed i body error =>
      intro s hs
      rcases List.mem_cons.1 hs with rfl | hs
      · exact hd
      · have hbody : ∀ l ∈ bodyLines name (d + 1) body, l.Shallow := fun l hl =>
          h l (List.mem_append_right _ (List.mem_append_left _ hl))
        exact depth_of_mem_bodyStarted hbody hs
  | aborted i body cause error ih =>
      -- The caller's own opening line bounds its depth, and the cause is one level deeper.
      intro s hs
      rcases List.mem_cons.1 hs with rfl | hs
      · exact hd
      · have hinside : ∀ l ∈ bodyLines name (d + 1) body ++ cause.lines name (d + 1), l.Shallow :=
          fun l hl => h l (List.mem_append_right _ (List.mem_append_left _ hl))
        rcases List.mem_append.1 hs with hs | hs
        · exact depth_of_mem_bodyStarted (fun l hl => hinside l (List.mem_append_left _ hl)) hs
        · exact ih (Nat.succ_lt_succ (depth_of_shallow_enter h))
            (fun l hl => hinside l (List.mem_append_right _ hl)) s hs

theorem Processed.depth_lt (p : Processed) (h : ∀ l ∈ p.lines name, l.Shallow) :
    ∀ s ∈ p.started, s.depth < 256 := by
  cases p with
  | failed f => exact f.depth_lt (by decide) h
  | succeeded i body =>
      intro s hs
      rcases List.mem_cons.1 hs with rfl | hs
      · exact Nat.succ_pos 255
      · have hbody : ∀ l ∈ bodyLines name 1 body, l.Shallow := fun l hl =>
          h l (List.mem_append_right _ (List.mem_append_left _ hl))
        exact depth_of_mem_bodyStarted hbody hs

end Depth

/-! ## Result codes -/

/-- The line says something about an invocation. -/
def RuntimeLine.speaks : RuntimeLine → Bool
  | .other _ => false
  | _ => true

/-- The line opens an invocation or closes one. -/
def RuntimeLine.opensOrCloses : RuntimeLine → Bool
  | .consumed _ _ _ => false
  | .other _ => false
  | _ => true

/-- Lines that say nothing about an invocation can be left out. -/
theorem read_speaks {reader : RuntimeLine → Option (Mark UInt8 Figures)}
    (hother : ∀ text, reader (.other text) = none) (lines : List RuntimeLine)
    (t : Table UInt8 Figures) :
    t.read reader lines = t.read reader (lines.filter RuntimeLine.speaks) := by
  have hmarks : lines.filterMap reader = (lines.filter RuntimeLine.speaks).filterMap reader := by
    rw [List.filterMap_filter]
    refine List.filterMap_congr ?_
    intro l _
    cases l with
    | other text => simp [RuntimeLine.speaks, hother]
    | _ => rfl
  simp only [Table.read, hmarks]

namespace Chain

variable {cr : Crates} {rt : Runtime} {svm : QuasarSvm} {ixs : List Instruction}
  {accounts : List Account} (chain : Chain cr rt svm ixs accounts)

/-- The lines that the log collector kept. -/
def kept : List RuntimeLine :=
  (LogCollector.newRef cr.logBytesLimit).keeps RuntimeLine.text chain.lines

/-- Every line of the chain is read as it is meant, and the collector dropped none that says
something about an invocation. -/
structure Legible : Prop where
  legible : ∀ l ∈ chain.lines, l.Legible
  kept : chain.kept.filter RuntimeLine.speaks = chain.lines.filter RuntimeLine.speaks

/-- Every line of the chain is read as it is meant, and the collector dropped none that opens or
closes an invocation. -/
structure CallsLegible : Prop where
  legible : ∀ l ∈ chain.lines, l.Legible
  kept : chain.kept.filter RuntimeLine.opensOrCloses =
    chain.lines.filter RuntimeLine.opensOrCloses

variable {chain}

/-- Legible lines that stay below the byte limit make a legible log. -/
theorem Legible.of_size (hlegible : ∀ l ∈ chain.lines, l.Legible)
    (hsize : ∀ limit, cr.logBytesLimit = some limit →
      ((chain.lines.map RuntimeLine.text).map String.utf8ByteSize).sum < limit) :
    chain.Legible := by
  refine ⟨hlegible, congrArg (List.filter _) (LogCollector.keeps_of_size ?_)⟩
  intro limit hlimit
  simpa [LogCollector.newRef] using hsize limit hlimit

/-- In a legible log every invocation is opened and closed. -/
theorem Legible.calls (h : chain.Legible) : chain.CallsLegible := by
  refine ⟨h.legible, ?_⟩
  have hspeaks : ∀ l : RuntimeLine, (l.opensOrCloses && l.speaks) = l.opensOrCloses := by
    intro l
    cases l <;> rfl
  have hfilter := congrArg (List.filter RuntimeLine.opensOrCloses) h.kept
  simpa only [List.filter_filter, hspeaks] using hfilter

theorem loggedFirst (chain : Chain cr rt svm ixs accounts) : LoggedFirst chain.started :=
  loggedFirst_processed chain.performs.isOk_of_mem_dropLast

theorem depth_lt (hshallow : ∀ l ∈ chain.lines, l.Shallow) :
    ∀ s ∈ chain.started, s.depth < 256 := by
  intro s hs
  rcases List.mem_flatMap.1 hs with ⟨p, hp, hs⟩
  have hlines : ∀ l ∈ p.lines (programText cr svm ixs accounts), l.Shallow := fun l hl =>
    hshallow l (List.mem_flatMap.2 ⟨p, hp, hl⟩)
  exact p.depth_lt hlines s hs

theorem depth_lt_of_legible (hlegible : ∀ l ∈ chain.lines, l.Legible) :
    ∀ s ∈ chain.started, s.depth < 256 :=
  depth_lt fun l hl => (hlegible l hl).shallow

/-- What was recorded of lines that a reader understands is read like the lines that were kept. -/
theorem read_recorded {reader : RuntimeLine → Option (Mark UInt8 Figures)}
    (hread : ∀ l ∈ chain.lines, readLine l.text = reader l) :
    Table.init.read readLine chain.recorded = Table.init.read reader chain.kept := by
  have hkept : ∀ l ∈ chain.kept, readLine l.text = reader l := fun l hl =>
    hread l (LogCollector.mem_of_mem_keeps hl)
  exact (LogCollector.read_messages_logAll chain.lines _ _).trans (read_texts hkept _)

/-- The lines of a chain have a row for each invocation that was logged. -/
theorem rows_lines (chain : Chain cr rt svm ixs accounts)
    {reader : RuntimeLine → Option (Mark UInt8 Figures)} {units : Placement → UInt64 → UInt64}
    (hreader : ReadsLines (programText cr svm ixs accounts) reader units) :
    (Table.init.read reader chain.lines).rows =
      chain.started.filterMap (Started.rowBy units) := by
  rw [lines, read_processed hreader]
  rfl

/-- Under a key the parser has the figures of the invocation that started at the key's number, when
its depth is the key's. -/
theorem lookup_eq {reader : RuntimeLine → Option (Mark UInt8 Figures)}
    {units : Placement → UInt64 → UInt64}
    (hreader : ReadsLines (programText cr svm ixs accounts) reader units)
    (hread : ∀ l ∈ chain.lines, readLine l.text = reader l)
    (hkept : chain.kept.filter RuntimeLine.speaks = chain.lines.filter RuntimeLine.speaks)
    (key : UInt8 × Nat) :
    (parseLogResults chain.recorded).lookup key =
      (chain.started[key.2]?).bind fun s =>
        if UInt8.ofNat s.depth = key.1 then
          s.logged.map fun f => (f.1, units s.placement f.2)
        else
          none := by
  have hrows : (Table.init.read readLine chain.recorded).rows =
      chain.started.filterMap (Started.rowBy units) := by
    calc (Table.init.read readLine chain.recorded).rows
        = (Table.init.read reader chain.kept).rows := by rw [read_recorded hread]
      _ = (Table.init.read reader (chain.kept.filter RuntimeLine.speaks)).rows := by
          rw [← read_speaks hreader.other]
      _ = (Table.init.read reader chain.lines).rows := by
          rw [hkept, ← read_speaks hreader.other]
      _ = chain.started.filterMap (Started.rowBy units) := chain.rows_lines hreader
  rw [lookup_parseLogResults, hrows]
  exact tableLookup_rows chain.loggedFirst units key

theorem Legible.lookup_eq (h : chain.Legible) (key : UInt8 × Nat) :
    (parseLogResults chain.recorded).lookup key =
      (chain.started[key.2]?).bind fun s =>
        if UInt8.ofNat s.depth = key.1 then s.logged else none := by
  have hlookup := Chain.lookup_eq (readsLines_mark _) (fun l hl => (h.legible l hl).read) h.kept key
  simpa only [Prod.mk.eta, Option.map_id'] using hlookup

end Chain

end Svm
end Quasar
