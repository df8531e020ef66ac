import Mathlib.Data.List.Forall2

/-!
# Buffer — encoders that fill a buffer of fixed size

An encoder of this kind computes the size of its output, allocates that many bytes, and writes one
field after another at an offset that it moves by hand.  `Writes w bs` is the specification used to
compose such encoders: wherever the buffer has room for `bs` at the offset, `w` puts `bs` there,
touches nothing else and moves the offset behind it.  A buffer of exactly the right size then holds
exactly the bytes written.
-/

namespace Lib

/-- A buffer whose length does not change, and the offset of the next write. -/
structure Buffer where
  bytes : List UInt8
  offset : Nat

/-- Writers into a buffer, which may throw. -/
abbrev BufferWriter (ε : Type) := StateT Buffer (Except ε)

namespace Buffer

/-- A buffer of `n` zero bytes. -/
def alloc (n : Nat) : Buffer :=
  { bytes := List.replicate n 0
    offset := 0 }

/-- The buffer with `bs` at the offset, as far as it reaches; the offset stays. -/
def overwrite (b : Buffer) (bs : List UInt8) : Buffer :=
  { b with
    bytes := b.bytes.take b.offset ++ (bs.take (b.bytes.length - b.offset) ++
      b.bytes.drop (b.offset + bs.length)) }

theorem overwrite_of_room (pre rest bs : List UInt8) (h : bs.length ≤ rest.length) :
    overwrite { bytes := pre ++ rest, offset := pre.length } bs =
      { bytes := pre ++ bs ++ rest.drop bs.length, offset := pre.length } := by
  have hdrop : (pre ++ rest).drop (pre.length + bs.length) = rest.drop bs.length := by
    rw [List.drop_append, List.drop_eq_nil_of_le (Nat.le_add_right _ _), Nat.add_sub_cancel_left,
      List.nil_append]
  simp [overwrite, hdrop, List.take_of_length_le h]

end Buffer

namespace BufferWriter

variable {ε : Type}

/-- Move the offset. -/
def advance (n : Nat) : BufferWriter ε Unit := fun b =>
  .ok ((), { b with offset := b.offset + n })

/-- Write all of `bs` at the offset; throws where the buffer ends before it. -/
def set (err : ε) (bs : List UInt8) : BufferWriter ε Unit := fun b =>
  if b.bytes.length < b.offset + bs.length then .error err else .ok ((), b.overwrite bs)

/-- Write as much of `bs` as there is room for. -/
def copy (bs : List UInt8) : BufferWriter ε Unit := fun b =>
  .ok ((), b.overwrite bs)

/-- Allocate a buffer, fill it and return its bytes. -/
def fill (size : Nat) (w : BufferWriter ε Unit) : Except ε (List UInt8) :=
  (w (Buffer.alloc size)).map fun r => r.2.bytes

end BufferWriter

/-- Where there is room for `bs`, `w` writes `bs` at the offset and moves behind it. -/
def Writes {ε : Type} (w : BufferWriter ε Unit) (bs : List UInt8) : Prop :=
  ∀ pre rest : List UInt8, bs.length ≤ rest.length →
    w { bytes := pre ++ rest, offset := pre.length } =
      .ok ((), { bytes := pre ++ bs ++ rest.drop bs.length, offset := pre.length + bs.length })

namespace Writes

open BufferWriter

variable {ε α β : Type} {w v : BufferWriter ε Unit} {bs cs : List UInt8}

/-! ## Composition -/

theorem nothing : Writes (pure () : BufferWriter ε Unit) [] := by
  intro pre rest _
  have hpure : (pure () : BufferWriter ε Unit) { bytes := pre ++ rest, offset := pre.length } =
      .ok ((), { bytes := pre ++ rest, offset := pre.length }) := rfl
  simpa using hpure

theorem andThen (hw : Writes w bs) (hv : Writes v cs) : Writes (w >>= fun _ => v) (bs ++ cs) := by
  intro pre rest hroom
  have hlength : bs.length + cs.length ≤ rest.length := by simpa using hroom
  have hfirst := hw pre rest (Nat.le_of_add_right_le hlength)
  have hroom' : cs.length ≤ (rest.drop bs.length).length := by
    rw [List.length_drop]
    omega
  have hsecond := hv (pre ++ bs) (rest.drop bs.length) hroom'
  rw [List.length_append] at hsecond
  calc
    (w >>= fun _ => v) { bytes := pre ++ rest, offset := pre.length }
        = (w { bytes := pre ++ rest, offset := pre.length } >>= fun r => v r.2) := rfl
    _ = v { bytes := pre ++ bs ++ rest.drop bs.length, offset := pre.length + bs.length } := by
        rw [hfirst]
        rfl
    _ = _ := by
        rw [hsecond]
        simp [List.append_assoc, Nat.add_assoc]

/-- A loop writes what its rounds write, in order. -/
theorem forM {xs : List α} {ys : List β} {body : α → BufferWriter ε Unit} {enc : β → List UInt8}
    (h : List.Forall₂ (fun x y => Writes (body x) (enc y)) xs ys) :
    Writes (xs.forM body) (ys.flatMap enc) := by
  induction h with
  | nil => exact nothing
  | cons hx _ ih => exact hx.andThen ih

/-! ## Primitive writes -/

/-- What overwrites the room at the offset, followed by a move of the offset, writes. -/
theorem then_advance {n : Nat} (hn : bs.length = n)
    (hw : ∀ pre rest : List UInt8, bs.length ≤ rest.length →
      w { bytes := pre ++ rest, offset := pre.length } =
        .ok ((), Buffer.overwrite { bytes := pre ++ rest, offset := pre.length } bs)) :
    Writes (w >>= fun _ => advance n) bs := by
  intro pre rest hroom
  subst hn
  calc
    (w >>= fun _ => advance bs.length) { bytes := pre ++ rest, offset := pre.length }
        = (w { bytes := pre ++ rest, offset := pre.length } >>= fun r =>
            advance bs.length r.2) := rfl
    _ = advance bs.length
          (Buffer.overwrite { bytes := pre ++ rest, offset := pre.length } bs) := by
        rw [hw pre rest hroom]
        rfl
    _ = _ := by
        rw [Buffer.overwrite_of_room pre rest bs hroom]
        rfl

theorem set_advance (err : ε) {n : Nat} (hn : bs.length = n) :
    Writes (BufferWriter.set err bs >>= fun _ => advance n) bs := by
  refine then_advance hn ?_
  intro pre rest hroom
  have hfits : ¬ (pre ++ rest).length < pre.length + bs.length := by
    rw [List.length_append]
    omega
  rw [BufferWriter.set, if_neg hfits]

theorem copy_advance {n : Nat} (hn : bs.length = n) :
    Writes (BufferWriter.copy bs >>= fun _ => advance n : BufferWriter ε Unit) bs :=
  then_advance hn fun _ _ _ => rfl

/-! ## Whole buffers -/

/-- A buffer of the size of what is written holds exactly that. -/
theorem fill_eq (hw : Writes w bs) {size : Nat} (hsize : size = bs.length) :
    fill size w = .ok bs := by
  subst hsize
  have hroom : bs.length ≤ (List.replicate bs.length (0 : UInt8)).length := by simp
  have hrun := hw [] (List.replicate bs.length 0) hroom
  have halloc : Buffer.alloc bs.length =
      { bytes := [] ++ List.replicate bs.length 0, offset := ([] : List UInt8).length } := rfl
  rw [fill, halloc, hrun]
  simp [Except.map]

end Writes
end Lib
