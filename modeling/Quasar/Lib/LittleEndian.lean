import Mathlib.Data.Nat.Basic
import Mathlib.Tactic.Ring

/-!
# LittleEndian — fixed-width integers as little-endian bytes

`toBytes w n` writes the `w` low bytes of `n`, least significant first, and `ofBytes` reads them
back.  The fixed-width codecs below instantiate the pair at the machine integers a binary format
carries; a decoder only needs their `get (put v) = v` laws and their lengths.
-/

namespace Lib
namespace LittleEndian

/-! ## Natural numbers -/

/-- The `w` low bytes of `n`, least significant byte first. -/
def toBytes : Nat → Nat → List UInt8
  | 0, _ => []
  | w + 1, n => UInt8.ofNat n :: toBytes w (n / 256)

/-- The number whose little-endian bytes are `bs`. -/
def ofBytes : List UInt8 → Nat
  | [] => 0
  | b :: bs => b.toNat + 256 * ofBytes bs

@[simp] theorem length_toBytes (w n : Nat) : (toBytes w n).length = w := by
  induction w generalizing n with
  | zero => rfl
  | succ w ih => simp [toBytes, ih]

theorem ofBytes_toBytes (w n : Nat) : ofBytes (toBytes w n) = n % 256 ^ w := by
  induction w generalizing n with
  | zero => simp [toBytes, ofBytes, Nat.mod_one]
  | succ w ih =>
      have hsplit : n % 256 ^ (w + 1) = n % 256 + 256 * (n / 256 % 256 ^ w) := by
        rw [Nat.pow_succ', Nat.mod_mul]
      simp [toBytes, ofBytes, ih, hsplit]

/-- Byte strings of one length are told apart by their numbers. -/
theorem ofBytes_injective {a b : List UInt8} (hlen : a.length = b.length)
    (h : ofBytes a = ofBytes b) : a = b := by
  induction a generalizing b with
  | nil => exact (List.length_eq_zero_iff.1 hlen.symm).symm
  | cons x xs ih =>
      cases b with
      | nil => cases hlen
      | cons y ys =>
          have hx := x.toNat_lt
          have hy := y.toNat_lt
          simp only [ofBytes] at h
          have hhead : x.toNat = y.toNat := by omega
          have htail : ofBytes xs = ofBytes ys := by omega
          rw [UInt8.toNat_inj.1 hhead, ih (Nat.succ.inj hlen) htail]

theorem ofBytes_lt (bs : List UInt8) : ofBytes bs < 256 ^ bs.length := by
  induction bs with
  | nil => simp [ofBytes]
  | cons b bs ih =>
      have hb := b.toNat_lt
      simp only [ofBytes, List.length_cons, Nat.pow_succ]
      omega

/-- A byte string is the encoding of its number in as many bytes. -/
theorem toBytes_ofBytes (bs : List UInt8) : toBytes bs.length (ofBytes bs) = bs := by
  refine ofBytes_injective (length_toBytes _ _) ?_
  rw [ofBytes_toBytes, Nat.mod_eq_of_lt (ofBytes_lt bs)]

/-! ## Machine integers -/

def putU32 (v : UInt32) : List UInt8 :=
  toBytes 4 v.toNat

def getU32 (bs : List UInt8) : UInt32 :=
  UInt32.ofNat (ofBytes bs)

def putU64 (v : UInt64) : List UInt8 :=
  toBytes 8 v.toNat

def getU64 (bs : List UInt8) : UInt64 :=
  UInt64.ofNat (ofBytes bs)

/-- Two's complement: the bytes of a signed integer are those of its unsigned image. -/
def putI32 (v : Int32) : List UInt8 :=
  putU32 v.toUInt32

def getI32 (bs : List UInt8) : Int32 :=
  (getU32 bs).toInt32

@[simp] theorem length_putU32 (v : UInt32) : (putU32 v).length = 4 := by
  simp [putU32]

@[simp] theorem length_putU64 (v : UInt64) : (putU64 v).length = 8 := by
  simp [putU64]

@[simp] theorem length_putI32 (v : Int32) : (putI32 v).length = 4 := by
  simp [putI32]

@[simp] theorem getU32_putU32 (v : UInt32) : getU32 (putU32 v) = v := by
  simp [getU32, putU32, ofBytes_toBytes]

@[simp] theorem getU64_putU64 (v : UInt64) : getU64 (putU64 v) = v := by
  simp [getU64, putU64, ofBytes_toBytes]

theorem putU32_getU32 {bs : List UInt8} (h : bs.length = 4) : putU32 (getU32 bs) = bs := by
  have hlt : ofBytes bs < 2 ^ 32 := by simpa [h] using ofBytes_lt bs
  rw [putU32, getU32, UInt32.toNat_ofNat_of_lt' hlt, ← h, toBytes_ofBytes]

theorem putU64_getU64 {bs : List UInt8} (h : bs.length = 8) : putU64 (getU64 bs) = bs := by
  have hlt : ofBytes bs < 2 ^ 64 := by simpa [h] using ofBytes_lt bs
  rw [putU64, getU64, UInt64.toNat_ofNat_of_lt' hlt, ← h, toBytes_ofBytes]

@[simp] theorem getI32_putI32 (v : Int32) : getI32 (putI32 v) = v := by
  simp [getI32, putI32, UInt32.toInt32]

/-- A number below `2 ^ 32` survives the truncation to the 32-bit word it is written as. -/
theorem toNat_ofNat_of_lt {n : Nat} (h : n < 2 ^ 32) : (UInt32.ofNat n).toNat = n := by
  simp [UInt32.toNat_ofNat_of_lt' h]

end LittleEndian
end Lib
