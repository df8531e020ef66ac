import Mathlib.Data.List.Basic

/-!
# Numbering — nested calls, their log, and the table a reader fills from it

A forest of calls is logged call by call: a line where a call is entered, then what happens inside
it, then the lines where it is left.  A reader with a stack and a counter gives each call that it
sees entered the next row of a table, and writes what it reads to the row of the innermost open
call.  For the log of a forest the rows are the calls of the forest in the order of entry.
-/

namespace Lib

/-! ## Forests -/

/-- Ordered forests of `α`-labelled nodes, with `β`-labelled leaves in between. -/
inductive Forest (α β : Type)
  | nil
  | leaf (b : β) (rest : Forest α β)
  | node (a : α) (children rest : Forest α β)

namespace Forest

variable {α β γ : Type}

/-- The nodes in the order of entry, each with its depth; the roots are at depth `d`. -/
def preorder (d : Nat) : Forest α β → List (Nat × α)
  | nil => []
  | leaf _ rest => preorder d rest
  | node a children rest => (d, a) :: (preorder (d + 1) children ++ preorder d rest)

/-- The leaves in order. -/
def leaves : Forest α β → List β
  | nil => []
  | leaf b rest => b :: leaves rest
  | node _ children rest => leaves children ++ leaves rest

/-- The log of a forest: what a node writes on entry and on exit, and what a leaf writes. -/
def log (enter leave : Nat → α → List γ) (write : β → List γ) (d : Nat) : Forest α β → List γ
  | nil => []
  | leaf b rest => write b ++ log enter leave write d rest
  | node a children rest =>
      enter d a ++ (log enter leave write (d + 1) children ++
        (leave d a ++ log enter leave write d rest))

/-- No node lies above the roots. -/
theorem le_of_mem_preorder {d : Nat} {f : Forest α β} {p : Nat × α} (h : p ∈ preorder d f) :
    d ≤ p.1 := by
  induction f generalizing d with
  | nil => cases h
  | leaf b rest ih => exact ih h
  | node a children rest ihc ihr =>
      rcases List.mem_cons.1 h with rfl | h
      · exact Nat.le_refl d
      · rcases List.mem_append.1 h with h | h
        · exact Nat.le_of_succ_le (ihc h)
        · exact ihr h

/-- The number of nodes. -/
def size : Forest α β → Nat
  | nil => 0
  | leaf _ rest => size rest
  | node _ children rest => size children + size rest + 1

/-- What a node writes on entry is in the log. -/
theorem mem_log_of_mem_enter {enter leave : Nat → α → List γ} {write : β → List γ} {d : Nat}
    {f : Forest α β} {p : Nat × α} (h : p ∈ preorder d f) {x : γ} (hx : x ∈ enter p.1 p.2) :
    x ∈ log enter leave write d f := by
  induction f generalizing d with
  | nil => cases h
  | leaf b rest ih => exact List.mem_append_right _ (ih h)
  | node a children rest ihc ihr =>
      rcases List.mem_cons.1 h with rfl | h
      · exact List.mem_append_left _ hx
      · refine List.mem_append_right _ ?_
        rcases List.mem_append.1 h with h | h
        · exact List.mem_append_left _ (ihc h)
        · exact List.mem_append_right _ (List.mem_append_right _ (ihr h))

end Forest

/-! ## Reading a log -/

/-- What a figure becomes, given the figure so far. -/
abbrev Update (φ : Type) := Option φ → φ

/-- What a reader makes of a line: a call is entered, or something is said about the innermost open
call, or that call is left. -/
inductive Mark (δ φ : Type)
  | enter (d : δ)
  | note (u : Update φ)
  | leave (u : Update φ)

/-- The table under construction: a row for each call entered so far, with its label and its figure,
and the rows of the open calls, innermost first. -/
structure Table (δ φ : Type) where
  rows : List (δ × Option φ)
  stack : List Nat

namespace Table

variable {δ φ γ : Type}

def init : Table δ φ :=
  { rows := []
    stack := [] }

/-- Apply an update to the figure of row `i`. -/
def updateRow (t : Table δ φ) (i : Nat) (u : Update φ) : List (δ × Option φ) :=
  t.rows.modify i fun r => (r.1, some (u r.2))

def step (t : Table δ φ) : Mark δ φ → Table δ φ
  | .enter d =>
      { rows := t.rows ++ [(d, none)]
        stack := t.rows.length :: t.stack }
  | .note u =>
      match t.stack with
      | [] => t
      | i :: _ => { t with rows := t.updateRow i u }
  | .leave u =>
      match t.stack with
      | [] => t
      | i :: stack =>
          { rows := t.updateRow i u
            stack := stack }

/-- Read the lines that the reader understands, in order. -/
def read (reader : γ → Option (Mark δ φ)) (t : Table δ φ) (lines : List γ) : Table δ φ :=
  (lines.filterMap reader).foldl step t

variable {reader : γ → Option (Mark δ φ)}

@[simp] theorem read_nil (t : Table δ φ) : t.read reader [] = t := rfl

theorem read_append (t : Table δ φ) (xs ys : List γ) :
    t.read reader (xs ++ ys) = (t.read reader xs).read reader ys := by
  simp [read, List.filterMap_append, List.foldl_append]

theorem read_of_marks {t : Table δ φ} {lines : List γ} {marks : List (Mark δ φ)}
    (h : lines.filterMap reader = marks) : t.read reader lines = marks.foldl step t := by
  rw [read, h]

/-- An update of the row that follows the rows `pre`. -/
theorem modify_append_cons {ρ : Type} (pre post : List ρ) (r : ρ) (f : ρ → ρ) :
    (pre ++ r :: post).modify pre.length f = pre ++ f r :: post := by
  induction pre with
  | nil => rfl
  | cons x pre ih => simp [ih]

/-! ### What a log says of one call -/

/-- The figure of a call after marks that follow its entry, where it was `o` before them; `n` calls
are open inside it. -/
def final : Nat → Option φ → List (Mark δ φ) → Option φ
  | _, o, [] => o
  | n, o, .enter _ :: ms => final (n + 1) o ms
  | 0, o, .note u :: ms => final 0 (some (u o)) ms
  | n + 1, o, .note _ :: ms => final (n + 1) o ms
  | 0, o, .leave u :: _ => some (u o)
  | n + 1, o, .leave _ :: ms => final n o ms

/-- Label and figure of the call that is entered as number `k`. -/
def entered : Nat → List (Mark δ φ) → Option (δ × Option φ)
  | _, [] => none
  | 0, .enter d :: ms => some (d, final 0 none ms)
  | k + 1, .enter _ :: ms => entered k ms
  | k, .note _ :: ms => entered k ms
  | k, .leave _ :: ms => entered k ms

/-- Row `i` is there, and its call is not open. -/
def Done (t : Table δ φ) (i : Nat) : Prop :=
  i < t.rows.length ∧ i ∉ t.stack

/-- A row whose call is not open is not written to, and its call is not opened again. -/
theorem Done.step {i : Nat} {t : Table δ φ} (h : t.Done i) (m : Mark δ φ) :
    (t.step m).rows[i]? = t.rows[i]? ∧ (t.step m).Done i := by
  rcases t with ⟨rows, stack⟩
  obtain ⟨hrow, hclosed⟩ := h
  cases m with
  | enter d =>
      have hne : i ≠ rows.length := Nat.ne_of_lt hrow
      refine ⟨List.getElem?_append_left hrow, ?_, ?_⟩
      · simpa [Table.step] using Nat.lt_succ_of_lt hrow
      · simpa [Table.step] using And.intro hne hclosed
  | note u =>
      cases stack with
      | nil => exact ⟨rfl, hrow, hclosed⟩
      | cons j stack =>
          have hne : j ≠ i := fun h => hclosed (by simp [h])
          refine ⟨List.getElem?_modify_ne _ _ hne, ?_, hclosed⟩
          simpa [Table.step, updateRow] using hrow
  | leave u =>
      cases stack with
      | nil => exact ⟨rfl, hrow, hclosed⟩
      | cons j stack =>
          have hne : j ≠ i := fun h => hclosed (by simp [h])
          refine ⟨List.getElem?_modify_ne _ _ hne, ?_, fun h => hclosed (List.mem_cons_of_mem _ h)⟩
          simpa [Table.step, updateRow] using hrow

theorem Done.getElem? {i : Nat} {t : Table δ φ} (h : t.Done i) (ms : List (Mark δ φ)) :
    (ms.foldl Table.step t).rows[i]? = t.rows[i]? := by
  induction ms generalizing t with
  | nil => rfl
  | cons m ms ih =>
      obtain ⟨hget, hdone⟩ := h.step m
      exact (ih hdone).trans hget

/-- The row of an open call ends with the figure that the marks lead to. -/
theorem getElem?_of_open {i : Nat} {d : δ} {below : List Nat} (hbelow : i ∉ below)
    (ms : List (Mark δ φ)) {rows : List (δ × Option φ)} {above : List Nat} {o : Option φ}
    (hrow : rows[i]? = some (d, o)) (habove : i ∉ above) :
    (ms.foldl step { rows := rows, stack := above ++ i :: below }).rows[i]? =
      some (d, final above.length o ms) := by
  induction ms generalizing rows above o with
  | nil => simpa [final] using hrow
  | cons m ms ih =>
      have hlt : i < rows.length := (List.getElem?_eq_some_iff.1 hrow).1
      have hmodify : ∀ {j : Nat} {f : δ × Option φ → δ × Option φ}, j ≠ i →
          (rows.modify j f)[i]? = some (d, o) := by
        intro j f hne
        rw [List.getElem?_modify_ne _ _ hne, hrow]
      have hupdate : ∀ u : Update φ,
          (rows.modify i fun r => (r.1, some (u r.2)))[i]? = some (d, some (u o)) := by
        intro u
        rw [List.getElem?_modify_eq, hrow]
        rfl
      cases m with
      | enter d' =>
          have hne : i ≠ rows.length := Nat.ne_of_lt hlt
          have hrow' : (rows ++ [(d', none)])[i]? = some (d, o) := by
            rw [List.getElem?_append_left hlt, hrow]
          exact @ih (rows ++ [(d', none)]) (rows.length :: above) o hrow' (by simp [hne, habove])
      | note u =>
          cases above with
          | nil => exact @ih _ [] _ (hupdate u) habove
          | cons j above =>
              have hne : j ≠ i := fun h => habove (by simp [h])
              exact @ih _ (j :: above) o (hmodify hne) habove
      | leave u =>
          cases above with
          | nil =>
              -- The call is left; from here on its row is not open.
              have hdone : Done (step { rows := rows, stack := [] ++ i :: below } (.leave u)) i := by
                refine ⟨?_, hbelow⟩
                simpa [step, updateRow] using hlt
              exact (hdone.getElem? ms).trans (hupdate u)
          | cons j above =>
              have hne : j ≠ i := fun h => habove (by simp [h])
              exact @ih _ above o (hmodify hne) fun h => habove (List.mem_cons_of_mem _ h)

/-- The rows that are added are those of the calls that are entered. -/
theorem getElem?_of_entered (ms : List (Mark δ φ)) (k : Nat) {t : Table δ φ}
    (hopen : ∀ i ∈ t.stack, i < t.rows.length) :
    (ms.foldl step t).rows[t.rows.length + k]? = entered k ms := by
  induction ms generalizing t k with
  | nil => simp [entered]
  | cons m ms ih =>
      rcases t with ⟨rows, stack⟩
      cases m with
      | enter d =>
          have hopen' : ∀ i ∈ rows.length :: stack,
              i < (rows ++ [(d, (none : Option φ))]).length := by
            intro i hi
            rw [List.length_append]
            rcases List.mem_cons.1 hi with rfl | hi
            · exact Nat.lt_succ_self _
            · exact Nat.lt_succ_of_lt (hopen i hi)
          cases k with
          | zero =>
              have hfresh : rows.length ∉ stack := fun h => Nat.lt_irrefl _ (hopen _ h)
              exact @getElem?_of_open _ _ rows.length d stack hfresh ms (rows ++ [(d, none)]) []
                none (by simp) (by simp)
          | succ k =>
              have hrest := @ih k { rows := rows ++ [(d, none)]
                                    stack := rows.length :: stack } hopen'
              simpa [step, entered, Nat.add_assoc, Nat.add_comm 1 k] using hrest
      | note u =>
          cases stack with
          | nil => simpa [step, entered] using ih k hopen
          | cons j stack =>
              have hrest := @ih k { rows := rows.modify j fun r => (r.1, some (u r.2))
                                    stack := j :: stack } (by simpa using hopen)
              simpa [step, updateRow, entered] using hrest
      | leave u =>
          cases stack with
          | nil => simpa [step, entered] using ih k hopen
          | cons j stack =>
              have hopen' : ∀ i ∈ stack, i < rows.length := fun i hi =>
                hopen i (List.mem_cons_of_mem _ hi)
              have hrest := @ih k { rows := rows.modify j fun r => (r.1, some (u r.2))
                                    stack := stack } (by simpa using hopen')
              simpa [step, updateRow, entered] using hrest

/-- The row of a call in the table of a log. -/
theorem getElem?_read (lines : List γ) (k : Nat) :
    (init.read reader lines).rows[k]? = entered k (lines.filterMap reader) := by
  have hrow := getElem?_of_entered (lines.filterMap reader) k (t := init)
    (by simp [init])
  simpa [init, read] using hrow

/-! ### What a view sees -/

section View

variable {ψ : Type} (view : Option φ → ψ)

/-- The table with a view of its figures in place of the figures. -/
def erase (t : Table δ φ) : List (δ × ψ) × List Nat :=
  (t.rows.map fun r => (r.1, view r.2), t.stack)

variable {view}

end View

/-! ### Closing a call -/

/-- Marks that end in one leaving mark and bring an empty figure to `fig`. -/
inductive Closing (fig : φ) : Option φ → List (Mark δ φ) → Prop
  | leave (o : Option φ) (u : Update φ) (h : u o = fig) : Closing fig o [.leave u]
  | note (o : Option φ) (u : Update φ) (ms : List (Mark δ φ)) (h : Closing fig (some (u o)) ms) :
      Closing fig o (.note u :: ms)

/-- Closing marks complete the row of the innermost open call and close it. -/
theorem foldl_closing {fig : φ} {o : Option φ} {ms : List (Mark δ φ)} (h : Closing fig o ms)
    (pre post : List (δ × Option φ)) (d : δ) (stack : List Nat) :
    ms.foldl step { rows := pre ++ (d, o) :: post, stack := pre.length :: stack } =
      { rows := pre ++ (d, some fig) :: post, stack := stack } := by
  induction h with
  | leave o u h =>
      subst h
      simp [step, updateRow, modify_append_cons]
  | note o u ms h ih =>
      have hrow : step { rows := pre ++ (d, o) :: post, stack := pre.length :: stack } (.note u) =
          { rows := pre ++ (d, some (u o)) :: post, stack := pre.length :: stack } := by
        simp [step, updateRow, modify_append_cons]
      rw [List.foldl_cons, hrow]
      exact ih

/-! ### The log of a forest -/

section Forest

variable {α β : Type} {enter leave : Nat → α → List γ} {write : β → List γ}

/-- A call whose log is read as it is meant adds its row, then the rows of what happens inside. -/
theorem read_call {d : δ} {fig : φ} {first inside last : List γ}
    {rows : List (δ × Option φ)} (t : Table δ φ)
    (hfirst : first.filterMap reader = [.enter d])
    (hinside : ∀ t : Table δ φ, t.read reader inside = { t with rows := t.rows ++ rows })
    (hlast : Closing fig none (last.filterMap reader)) :
    t.read reader (first ++ (inside ++ last)) =
      { t with rows := t.rows ++ (d, some fig) :: rows } := by
  rw [read_append, read_append, read_of_marks hfirst, hinside, read]
  have hclose := foldl_closing hlast t.rows rows d t.stack
  simpa [step] using hclose

/-- Reading the log of a forest appends one row for each node, in the order of entry. -/
theorem read_forest (label : Nat → δ) (figure : α → φ) (f : Forest α β) (d : Nat) (t : Table δ φ)
    (henter : ∀ p ∈ f.preorder d, (enter p.1 p.2).filterMap reader = [.enter (label p.1)])
    (hleave : ∀ p ∈ f.preorder d, Closing (figure p.2) none ((leave p.1 p.2).filterMap reader))
    (hwrite : ∀ b ∈ f.leaves, (write b).filterMap reader = []) :
    t.read reader (f.log enter leave write d) =
      { t with
        rows := t.rows ++ (f.preorder d).map fun p => (label p.1, some (figure p.2)) } := by
  induction f generalizing d t with
  | nil => simp [Forest.log, Forest.preorder]
  | leaf b rest ih =>
      have hb := hwrite b (by simp [Forest.leaves])
      have hrest := ih d t henter hleave fun b' h => hwrite b' (by simp [Forest.leaves, h])
      simp only [Forest.log, read_append, read_of_marks hb, List.foldl_nil]
      exact hrest
  | node a children rest ihc ihr =>
      have hchildren : ∀ t : Table δ φ,
          t.read reader (children.log enter leave write (d + 1)) =
            { t with
              rows := t.rows ++
                (children.preorder (d + 1)).map fun p => (label p.1, some (figure p.2)) } := by
        intro t
        refine ihc (d + 1) t ?_ ?_ ?_
        · exact fun p hp => henter p (by simp [Forest.preorder, hp])
        · exact fun p hp => hleave p (by simp [Forest.preorder, hp])
        · exact fun b hb => hwrite b (by simp [Forest.leaves, hb])
      have hcall := read_call t (henter (d, a) (by simp [Forest.preorder])) hchildren
        (hleave (d, a) (by simp [Forest.preorder]))
      have hsplit : (Forest.node a children rest).log enter leave write d =
          (enter d a ++ (children.log enter leave write (d + 1) ++ leave d a)) ++
            rest.log enter leave write d := by
        simp [Forest.log]
      rw [hsplit, read_append, hcall, ihr]
      · simp [Forest.preorder]
      · exact fun p hp => henter p (by simp [Forest.preorder, hp])
      · exact fun p hp => hleave p (by simp [Forest.preorder, hp])
      · exact fun b hb => hwrite b (by simp [Forest.leaves, hb])

end Forest

end Table
end Lib
