import Quasar.Lib.LittleEndian

/-!
# Packed — values of a fixed width, written in place

A packed value has a writer that works over the bytes that are there, and a reader.  The layout of a
record is put together from those of its fields: `pair` places one behind the other, `map` gives
them their names.  An absent value writes its tag only, so what is behind the tag stays;
`fresh` writes over zeros.
-/

namespace Lib

open LittleEndian

/-- A layout of the values of `α`: what is written over as many bytes reads back. -/
structure Packed (α : Type) where
  width : Nat
  put : α → List UInt8 → List UInt8
  get : List UInt8 → Option α
  length_put : ∀ a {dst : List UInt8}, dst.length = width → (put a dst).length = width
  get_put : ∀ a {dst : List UInt8}, dst.length = width → get (put a dst) = some a

namespace Packed

variable {α β : Type}

/-! ## Fields -/

/-- A string of `n` bytes. -/
def bytes (n : Nat) : Packed {bs : List UInt8 // bs.length = n} :=
  { width := n
    put := fun bs _ => bs.1
    get := fun src => if h : src.length = n then some ⟨src, h⟩ else none
    length_put := fun bs _ _ => bs.2
    get_put := fun bs _ _ => dif_pos bs.2 }

/-- A 64-bit word in little-endian order. -/
def word64 : Packed UInt64 :=
  { width := 8
    put := fun v _ => putU64 v
    get := fun src => some (getU64 src)
    length_put := fun v _ _ => length_putU64 v
    get_put := fun v _ _ => congrArg some (getU64_putU64 v) }

/-- A value that one byte stands for; other bytes do not read. -/
def byte (toByte : α → UInt8) (ofByte : UInt8 → Option α)
    (h : ∀ a, ofByte (toByte a) = some a) : Packed α :=
  { width := 1
    put := fun a _ => [toByte a]
    get := fun src => src.head?.bind ofByte
    length_put := fun _ _ _ => rfl
    get_put := fun a _ _ => h a }

/-- A value behind a four-byte tag that says whether it is there. -/
def optional (p : Packed α) : Packed (Option α) :=
  { width := 4 + p.width
    put := fun v dst =>
      match v with
      -- The bytes of an absent value stay.
      | none => toBytes 4 0 ++ dst.drop 4
      | some a => toBytes 4 1 ++ p.put a (dst.drop 4)
    get := fun src =>
      if src.take 4 = toBytes 4 0 then
        some none
      else if src.take 4 = toBytes 4 1 then
        (p.get (src.drop 4)).map some
      else
        none
    length_put := by
      intro v dst hdst
      have hrest : (dst.drop 4).length = p.width := by simp [hdst]
      cases v with
      | none => simp [hrest]
      | some a => simp [p.length_put a hrest]
    get_put := by
      intro v dst hdst
      have hrest : (dst.drop 4).length = p.width := by simp [hdst]
      have htags : toBytes 4 1 ≠ toBytes 4 0 := by decide
      cases v with
      | none => simp
      | some a => simp [htags, p.get_put a hrest] }

/-! ## Records -/

/-- One value behind the other. -/
def pair (p : Packed α) (q : Packed β) : Packed (α × β) :=
  { width := p.width + q.width
    put := fun v dst => p.put v.1 (dst.take p.width) ++ q.put v.2 (dst.drop p.width)
    get := fun src =>
      (p.get (src.take p.width)).bind fun a => (q.get (src.drop p.width)).map fun b => (a, b)
    length_put := by
      intro v dst hdst
      have hfront : (dst.take p.width).length = p.width := by simp [hdst]
      have hback : (dst.drop p.width).length = q.width := by simp [hdst]
      simp [p.length_put v.1 hfront, q.length_put v.2 hback]
    get_put := by
      intro v dst hdst
      have hfront : (dst.take p.width).length = p.width := by simp [hdst]
      have hback : (dst.drop p.width).length = q.width := by simp [hdst]
      -- The first value ends where the second one begins.
      have hlen := p.length_put v.1 hfront
      rw [List.take_left' hlen, List.drop_left' hlen, p.get_put v.1 hfront, q.get_put v.2 hback]
      rfl }

/-- The same bytes for other values. -/
def map (p : Packed α) (f : α → β) (g : β → α) (h : ∀ b, f (g b) = b) : Packed β :=
  { width := p.width
    put := fun b dst => p.put (g b) dst
    get := fun src => (p.get src).map f
    length_put := fun b _ hdst => p.length_put (g b) hdst
    get_put := by
      intro b dst hdst
      rw [p.get_put (g b) hdst, Option.map_some, h] }

/-! ## Writing over zeros -/

/-- A value written over zeros. -/
def fresh (p : Packed α) (a : α) : List UInt8 :=
  p.put a (List.replicate p.width 0)

theorem length_fresh (p : Packed α) (a : α) : (p.fresh a).length = p.width :=
  p.length_put a List.length_replicate

@[simp] theorem fresh_bytes {n : Nat} (bs : {bs : List UInt8 // bs.length = n}) :
    (bytes n).fresh bs = bs.1 := rfl

@[simp] theorem fresh_word64 (v : UInt64) : word64.fresh v = putU64 v := rfl

@[simp] theorem fresh_byte (toByte : α → UInt8) (ofByte : UInt8 → Option α)
    (h : ∀ a, ofByte (toByte a) = some a) (a : α) : (byte toByte ofByte h).fresh a = [toByte a] :=
  rfl

@[simp] theorem fresh_optional_none (p : Packed α) :
    p.optional.fresh none = toBytes 4 0 ++ List.replicate p.width 0 := by
  simp [fresh, optional]

@[simp] theorem fresh_optional_some (p : Packed α) (a : α) :
    p.optional.fresh (some a) = toBytes 4 1 ++ p.fresh a := by
  simp [fresh, optional]

@[simp] theorem fresh_pair (p : Packed α) (q : Packed β) (v : α × β) :
    (p.pair q).fresh v = p.fresh v.1 ++ q.fresh v.2 := by
  simp [fresh, pair]

@[simp] theorem fresh_map (p : Packed α) (f : α → β) (g : β → α) (h : ∀ b, f (g b) = b) (b : β) :
    (p.map f g h).fresh b = p.fresh (g b) := rfl

/-! ## Initialized values -/

/-- Read bytes of the right number that hold an initialized value. -/
def unpack (p : Packed α) (isInitialized : α → Bool) (src : List UInt8) : Option α :=
  if src.length = p.width then (p.get src).filter isInitialized else none

variable {p : Packed α} {isInitialized : α → Bool}

/-- A written value unpacks exactly when it is initialized. -/
theorem unpack_put (a : α) {dst : List UInt8} (h : dst.length = p.width) :
    p.unpack isInitialized (p.put a dst) = if isInitialized a then some a else none := by
  rw [unpack, if_pos (p.length_put a h), p.get_put a h]
  rfl

theorem unpack_fresh (a : α) :
    p.unpack isInitialized (p.fresh a) = if isInitialized a then some a else none :=
  unpack_put a List.length_replicate

end Packed
end Lib
