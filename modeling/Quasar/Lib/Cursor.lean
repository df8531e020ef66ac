import Mathlib.Data.List.Basic

/-!
# Cursor — decoders that read a buffer at an offset

A decoder takes the whole buffer and the current offset, and either fails or returns a value with
the next offset.  `Decodes p bytes a` is the specification used for round trips: wherever `bytes`
stands in a buffer, `p` started at its first byte returns `a` and stops right after its last byte.
The rules below compose it along `pure`, `bind` and counted repetition, so the proof that a decoder
inverts an encoder follows the decoder's own text.
-/

namespace Lib

/-- Decoders over a byte buffer with an offset as their only state. -/
abbrev Decoder (ε : Type) := ReaderT (List UInt8) (StateT Nat (Except ε))

namespace Decoder

variable {ε α β : Type}

/-- Run a decoder from the start of a buffer. -/
def run (p : Decoder ε α) (data : List UInt8) : Except ε (α × Nat) :=
  p data 0

/-! ## Primitive reads -/

/-- The next `n` bytes; fails when the buffer ends before them. -/
def takeExact (err : ε) (n : Nat) : Decoder ε (List UInt8) := fun data o =>
  if data.length < o + n then .error err else .ok ((data.drop o).take n, o + n)

/-- The next `n` bytes or as many as there are; the offset moves by `n` either way. -/
def slice (n : Nat) : Decoder ε (List UInt8) := fun data o =>
  .ok ((data.drop o).take n, o + n)

/-- The byte under the cursor, absent past the end; the offset moves by one either way. -/
def peek : Decoder ε (Option UInt8) := fun data o =>
  .ok (data[o]?, o + 1)

/-- `p` repeated `n` times, results in order. -/
def many (p : Decoder ε α) : Nat → Decoder ε (List α)
  | 0 => pure []
  | n + 1 => do
      let x ← p
      let xs ← many p n
      pure (x :: xs)

end Decoder

/-- Whatever buffer `p` is run on, a value that it returns satisfies `P`. -/
def Returns {ε α : Type} (p : Decoder ε α) (P : α → Prop) : Prop :=
  ∀ data o a o', p data o = .ok (a, o') → P a

namespace Returns

variable {ε α β : Type} {p : Decoder ε α} {f : α → Decoder ε β} {P : β → Prop}

theorem pure {b : β} (h : P b) : Returns (Pure.pure b : Decoder ε β) P := by
  intro data o a o' hrun
  cases hrun
  exact h

/-- What the continuation guarantees for every value, the whole guarantees. -/
theorem bind (hf : ∀ x, Returns (f x) P) : Returns (p >>= f) P := by
  intro data o b o' hrun
  change (p data o >>= fun r => f r.1 data r.2) = .ok (b, o') at hrun
  cases hp : p data o with
  | error e =>
      rw [hp] at hrun
      cases hrun
  | ok r =>
      rw [hp] at hrun
      exact hf r.1 data r.2 b o' hrun

end Returns

/-- Whatever buffer `p` is run on, an error that it raises satisfies `P`. -/
def Raises {ε α : Type} (p : Decoder ε α) (P : ε → Prop) : Prop :=
  ∀ data o e, p data o = .error e → P e

namespace Raises

variable {ε α β : Type} {p : Decoder ε α} {f : α → Decoder ε β} {P : ε → Prop}

theorem pure (a : α) : Raises (Pure.pure a : Decoder ε α) P := by
  intro data o e hrun
  cases hrun

theorem takeExact {err : ε} (h : P err) (n : Nat) : Raises (Decoder.takeExact err n) P := by
  intro data o e hrun
  unfold Decoder.takeExact at hrun
  split at hrun
  · cases hrun
    exact h
  · cases hrun

theorem bind (hp : Raises p P) (hf : ∀ x, Raises (f x) P) : Raises (p >>= f) P := by
  intro data o e hrun
  change (p data o >>= fun r => f r.1 data r.2) = .error e at hrun
  cases hread : p data o with
  | error e' =>
      rw [hread] at hrun
      cases hrun
      exact hp data o _ hread
  | ok r =>
      rw [hread] at hrun
      exact hf r.1 data r.2 e hrun

theorem many (hp : Raises p P) (n : Nat) : Raises (Decoder.many p n) P := by
  induction n with
  | zero => exact pure []
  | succ n ih => exact hp.bind fun x => ih.bind fun xs => pure (x :: xs)

end Raises

/-- `p` reads exactly `bytes` at the cursor, whatever stands around them, and returns `a`. -/
def Decodes {ε α : Type} (p : Decoder ε α) (bytes : List UInt8) (a : α) : Prop :=
  ∀ pre post : List UInt8,
    p (pre ++ bytes ++ post) pre.length = .ok (a, pre.length + bytes.length)

namespace Decodes

open Decoder

variable {ε α β : Type} {p : Decoder ε α} {f : α → Decoder ε β} {bs bs' : List UInt8} {a : α} {b : β}

/-! ## Composition -/

theorem pure (a : α) : Decodes (Pure.pure a : Decoder ε α) [] a := by
  intro pre post
  rfl

theorem bind (hp : Decodes p bs a) (hf : Decodes (f a) bs' b) :
    Decodes (p >>= f) (bs ++ bs') b := by
  intro pre post
  have h₁ : p (pre ++ (bs ++ bs') ++ post) pre.length = .ok (a, pre.length + bs.length) := by
    simpa [List.append_assoc] using hp pre (bs' ++ post)
  have h₂ : f a (pre ++ (bs ++ bs') ++ post) (pre.length + bs.length) =
      .ok (b, pre.length + (bs ++ bs').length) := by
    simpa [List.append_assoc, Nat.add_assoc] using hf (pre ++ bs) post
  calc
    (p >>= f) (pre ++ (bs ++ bs') ++ post) pre.length
        = (p (pre ++ (bs ++ bs') ++ post) pre.length >>= fun r =>
            f r.1 (pre ++ (bs ++ bs') ++ post) r.2) := rfl
    _ = f a (pre ++ (bs ++ bs') ++ post) (pre.length + bs.length) := by rw [h₁]; rfl
    _ = .ok (b, pre.length + (bs ++ bs').length) := h₂

theorem map (g : α → β) (hp : Decodes p bs a) : Decodes (g <$> p) bs (g a) := by
  intro pre post
  calc
    (g <$> p) (pre ++ bs ++ post) pre.length
        = (p (pre ++ bs ++ post) pre.length >>= fun r => .ok (g r.1, r.2)) := rfl
    _ = .ok (g a, pre.length + bs.length) := by rw [hp pre post]; rfl

/-- Reading `p` and then returning a function of the value consumes what `p` consumes. -/
theorem bind_pure (g : α → β) (hp : Decodes p bs a) :
    Decodes (p >>= fun x => Pure.pure (g x)) bs (g a) := by
  have h := hp.bind (f := fun x => Pure.pure (g x)) (Decodes.pure (g a))
  simpa using h

/-- Counted repetition inverts the concatenation of the element encodings. -/
theorem many {γ : Type} (enc : γ → List UInt8) (val : γ → α) (xs : List γ)
    (hp : ∀ x ∈ xs, Decodes p (enc x) (val x)) :
    Decodes (Decoder.many p xs.length) (xs.flatMap enc) (xs.map val) := by
  induction xs with
  | nil => exact Decodes.pure []
  | cons x xs ih =>
      have hx : Decodes p (enc x) (val x) := hp x (by simp)
      have hxs := ih fun y hy => hp y (by simp [hy])
      simpa [Decoder.many] using hx.bind (hxs.bind_pure (fun ys => val x :: ys))

/-- At the start of a buffer that holds nothing else the decoder stops at its end. -/
theorem run_eq (hp : Decodes p bs a) : p.run bs = .ok (a, bs.length) := by
  simpa [Decoder.run] using hp [] []

/-- One decoder finds both byte strings at the front of a buffer: then they are one, with one value. -/
theorem eq_of_append_eq {a' : α} {rest rest' : List UInt8} (hp : Decodes p bs a)
    (hp' : Decodes p bs' a') (h : bs ++ rest = bs' ++ rest') :
    a = a' ∧ bs = bs' ∧ rest = rest' := by
  have hfirst : p (bs ++ rest) 0 = .ok (a, bs.length) := by
    simpa using hp [] rest
  have hsecond : p (bs ++ rest) 0 = .ok (a', bs'.length) := by
    rw [h]
    simpa using hp' [] rest'
  have hboth : (a, bs.length) = (a', bs'.length) := Except.ok.inj (hfirst.symm.trans hsecond)
  exact ⟨(Prod.mk.inj hboth).1, List.append_inj h (Prod.mk.inj hboth).2⟩

/-! ## Primitives -/

theorem slice (bs : List UInt8) : Decodes (Decoder.slice bs.length : Decoder ε _) bs bs := by
  intro pre post
  simp [Decoder.slice, List.append_assoc]

theorem takeExact (err : ε) (bs : List UInt8) :
    Decodes (Decoder.takeExact err bs.length) bs bs := by
  intro pre post
  simp [Decoder.takeExact]

/-- A fixed number of bytes, read as a value. -/
theorem fixed (err : ε) {n : Nat} {bs : List UInt8} (hn : bs.length = n) (g : List UInt8 → α) :
    Decodes (Decoder.takeExact err n >>= fun b => Pure.pure (g b)) bs (g bs) := by
  subst hn
  exact (takeExact err bs).bind_pure g

theorem peek (x : UInt8) : Decodes (Decoder.peek : Decoder ε _) [x] (some x) := by
  intro pre post
  simp [Decoder.peek, List.append_assoc]

/-! ## Counts, lengths and flags -/

/-- A count and then as many elements. -/
theorem counted {γ : Type} {count : Decoder ε Nat} {cs : List UInt8} {enc : γ → List UInt8}
    {val : γ → α} {xs : List γ} (hcount : Decodes count cs xs.length)
    (hp : ∀ x ∈ xs, Decodes p (enc x) (val x)) :
    Decodes (count >>= Decoder.many p) (cs ++ xs.flatMap enc) (xs.map val) :=
  hcount.bind (many enc val xs hp)

/-- A list whose elements decode to themselves. -/
theorem counted_self {count : Decoder ε Nat} {cs : List UInt8} {enc : α → List UInt8}
    {xs : List α} (hcount : Decodes count cs xs.length)
    (hp : ∀ x ∈ xs, Decodes p (enc x) x) :
    Decodes (count >>= Decoder.many p) (cs ++ xs.flatMap enc) xs := by
  have hread : Decodes (count >>= Decoder.many p) (cs ++ xs.flatMap enc) (xs.map id) :=
    counted hcount hp
  rwa [List.map_id] at hread

/-- A length and then as many bytes. -/
theorem sized {len : Decoder ε Nat} {ls data : List UInt8}
    (hlen : Decodes len ls data.length) :
    Decodes (len >>= Decoder.slice) (ls ++ data) data :=
  hlen.bind (slice data)

/-- A flag and then the value, when the flag announces one. -/
theorem flagged {γ : Type} {flag : Decoder ε Bool} {tag : Bool → List UInt8}
    {enc : γ → List UInt8} (val : γ → α) (o : Option γ) (hflag : ∀ b, Decodes flag (tag b) b)
    (hp : ∀ x ∈ o, Decodes p (enc x) (val x)) :
    Decodes (flag >>= fun present => if present then some <$> p else Pure.pure none)
      (match o with
        | some x => tag true ++ enc x
        | none => tag false)
      (o.map val) := by
  cases o with
  | none =>
      have hnone : Decodes (Pure.pure none : Decoder ε (Option α)) [] none := Decodes.pure none
      have h := (hflag false).bind
        (f := fun present => if present then some <$> p else Pure.pure none)
        (by simpa using hnone)
      simpa using h
  | some x =>
      have hx : Decodes p (enc x) (val x) := hp x (by simp)
      exact (hflag true).bind (by simpa using hx.map some)

end Decodes
end Lib
