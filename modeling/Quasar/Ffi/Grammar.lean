import Quasar.Ffi.Wire
import Quasar.Lib.Layout

/-!
# Grammar — the documented layout of instructions and accounts

The layouts below follow the tables in the format's documentation.  The decoders recognize them: a
buffer is accepted as a value exactly when it is an encoding of the value, with any non-zero byte for
a flag that is set.
-/

namespace Quasar
namespace Ffi

open Lib
open Lib.LittleEndian
open Svm (Bytes Pubkey SolanaAccount AccountMeta Instruction)

/-! ## Layouts -/

/-- A length in 32 bits. -/
def lengthField (n : Nat) : Field :=
  .bytes (putU32 (UInt32.ofNat n))

def metaLayout (acc : AccountMeta) : Layout :=
  [.bytes acc.pubkey.bytes, .flag acc.isSigner, .flag acc.isWritable]

def instructionLayout (ix : Instruction) : Layout :=
  [.bytes ix.programId.bytes, lengthField ix.data.length, .bytes ix.data,
    lengthField ix.accounts.length] ++ ix.accounts.flatMap metaLayout

def accountLayout (p : Pubkey × SolanaAccount) : Layout :=
  [.bytes p.1.bytes, .bytes p.2.owner.bytes, .bytes (putU64 p.2.lamports),
    lengthField p.2.data.length, .bytes p.2.data, .flag p.2.executable]

def listLayout {α : Type} (one : α → Layout) (xs : List α) : Layout :=
  lengthField xs.length :: xs.flatMap one

/-- The lengths of an instruction fit into their fields. -/
def InstructionFits (ix : Instruction) : Prop :=
  ix.data.length < 2 ^ 32 ∧ ix.accounts.length < 2 ^ 32

/-- The length of the data fits, and there is no rent epoch, which the format does not carry. -/
def AccountFits (p : Pubkey × SolanaAccount) : Prop :=
  p.2.data.length < 2 ^ 32 ∧ p.2.rentEpoch = 0

def ListFits {α : Type} (one : α → Prop) (xs : List α) : Prop :=
  xs.length < 2 ^ 32 ∧ ∀ x ∈ xs, one x

/-! ## Primitive readers -/

namespace Reader

theorem readBytes_recognizes (n : Nat) :
    Recognizes (readBytes n) (fun bs => [.bytes bs]) (·.length = n) :=
  Recognizes.takeExact "unexpected end of input" n

theorem readU8_recognizes : Recognizes readU8 (fun x => [.bytes [x]]) fun _ => True := by
  refine (readBytes_recognizes 1).last (fun x => [x]) ?_ ?_
  · intro bytes hlen
    obtain ⟨y, rfl⟩ := List.length_eq_one_iff.1 hlen
    rfl
  · simp

theorem readBool_recognizes : Recognizes readBool (fun b => [.flag b]) fun _ => True :=
  Recognizes.flag readU8_recognizes

theorem readU32_recognizes : Recognizes readU32 (fun v => [.bytes (putU32 v)]) fun _ => True :=
  (readBytes_recognizes 4).last putU32 (fun _ hlen => putU32_getU32 hlen) (by simp)

theorem readU64_recognizes : Recognizes readU64 (fun v => [.bytes (putU64 v)]) fun _ => True :=
  (readBytes_recognizes 8).last putU64 (fun _ hlen => putU64_getU64 hlen) (by simp)

theorem readPubkey_recognizes :
    Recognizes readPubkey (fun k => [.bytes k.bytes]) fun _ => True := by
  refine (readBytes_recognizes 32).last Pubkey.bytes ?_ ?_
  · intro bytes hlen
    rw [dif_pos hlen]
  · intro k
    simp [k.size]

end Reader

/-! ## Records -/

open Reader

theorem readAccountMeta_recognizes :
    Recognizes readAccountMeta metaLayout fun _ => True := by
  refine readPubkey_recognizes.field AccountMeta.pubkey (by simp) fun pubkey _ => ?_
  refine readBool_recognizes.field AccountMeta.isSigner (by simp) fun isSigner _ => ?_
  refine readBool_recognizes.last AccountMeta.isWritable (fun _ _ => rfl) fun acc => ?_
  constructor
  · rintro ⟨rfl, rfl, -⟩
    exact ⟨trivial, rfl⟩
  · rintro ⟨-, h⟩
    rw [h]
    exact ⟨rfl, rfl, trivial⟩

theorem length_of_lengthField {n : Nat} {v : UInt32} (hn : n < 2 ^ 32)
    (h : UInt32.ofNat n = v) : n = v.toNat := by
  rw [← h, toNat_ofNat_of_lt hn]

theorem readOneInstruction_recognizes :
    Recognizes readOneInstruction instructionLayout InstructionFits := by
  refine readPubkey_recognizes.field Instruction.programId (by simp) fun programId _ => ?_
  refine readU32_recognizes.field (fun ix : Instruction => UInt32.ofNat ix.data.length)
    (by simp) fun dataLen _ => ?_
  refine (readBytes_recognizes dataLen.toNat).field Instruction.data ?_ fun data hdata => ?_
  · rintro ix ⟨hlen, -, hfits⟩
    exact length_of_lengthField hfits.1 hlen
  refine readU32_recognizes.field (fun ix : Instruction => UInt32.ofNat ix.accounts.length)
    (by simp) fun numMetas _ => ?_
  refine (readAccountMeta_recognizes.many numMetas.toNat).last Instruction.accounts
    (fun _ _ => rfl) fun ix => ?_
  constructor
  · rintro ⟨hmetas, rfl, -, rfl, hfits⟩
    exact ⟨⟨length_of_lengthField hfits.2 hmetas, fun _ _ => trivial⟩, rfl⟩
  · rintro ⟨⟨hmetas, -⟩, h⟩
    -- Both lengths came from 32-bit fields, so they fit.
    have hdataLen : ix.data.length = dataLen.toNat := by
      rw [h]
      exact hdata
    refine ⟨?_, ?_, ?_, ?_, ?_, ?_⟩
    · rw [hmetas, UInt32.ofNat_toNat]
    · rw [h]
    · rw [hdataLen, UInt32.ofNat_toNat]
    · rw [h]
    · rw [hdataLen]
      exact dataLen.toNat_lt
    · rw [hmetas]
      exact numMetas.toNat_lt

theorem readOneAccount_recognizes :
    Recognizes readOneAccount accountLayout AccountFits := by
  refine readPubkey_recognizes.field Prod.fst (by simp) fun pubkey _ => ?_
  refine readPubkey_recognizes.field (fun p : Pubkey × SolanaAccount => p.2.owner) (by simp)
    fun owner _ => ?_
  refine readU64_recognizes.field (fun p : Pubkey × SolanaAccount => p.2.lamports) (by simp)
    fun lamports _ => ?_
  refine readU32_recognizes.field
    (fun p : Pubkey × SolanaAccount => UInt32.ofNat p.2.data.length) (by simp) fun dataLen _ => ?_
  refine (readBytes_recognizes dataLen.toNat).field
    (fun p : Pubkey × SolanaAccount => p.2.data) ?_ fun data hdata => ?_
  · rintro p ⟨hlen, -, -, -, hfits⟩
    exact length_of_lengthField hfits.1 hlen
  refine readBool_recognizes.last (fun p : Pubkey × SolanaAccount => p.2.executable)
    (fun _ _ => rfl) fun p => ?_
  constructor
  · rintro ⟨rfl, -, rfl, rfl, rfl, -, hrent⟩
    -- The rent epoch is the one field that is not read but set to 0.
    refine ⟨trivial, ?_⟩
    rw [← hrent]
  · rintro ⟨-, h⟩
    have hdataLen : p.2.data.length = dataLen.toNat := by
      rw [h]
      exact hdata
    refine ⟨?_, ?_, ?_, ?_, ?_, ?_, ?_⟩
    · rw [h]
    · rw [hdataLen, UInt32.ofNat_toNat]
    · rw [h]
    · rw [h]
    · rw [h]
    · rw [hdataLen]
      exact dataLen.toNat_lt
    · rw [h]

theorem readList_recognizes {α : Type} {one : Reader α} {L : α → Layout} {P : α → Prop}
    (hone : Recognizes one L P) : Recognizes (readList one) (listLayout L) (ListFits P) := by
  refine readU32_recognizes.field (fun xs : List α => UInt32.ofNat xs.length) (by simp)
    fun count _ => ?_
  refine (hone.many count.toNat).congr fun xs => ?_
  constructor
  · rintro ⟨hlen, hall⟩
    refine ⟨by rw [hlen, UInt32.ofNat_toNat], ?_, hall⟩
    rw [hlen]
    exact count.toNat_lt
  · rintro ⟨hlen, hfits, hall⟩
    exact ⟨length_of_lengthField hfits hlen, hall⟩

/-! ## Whole buffers -/

section WholeBuffer

variable {α : Type} {one : Reader α} {L : α → Layout} {P : α → Prop}

/-- The buffer is an encoding of the value. -/
def Encodes (L : α → Layout) (P : α → Prop) (data : Bytes) (a : α) : Prop :=
  P a ∧ (L a).Matches data

/-- A decoder of whole buffers that accepts the encodings of its layout and nothing else. -/
structure AcceptsExactly (deserialize : Bytes → Except String α) (L : α → Layout)
    (P : α → Prop) : Prop where
  accepts : ∀ data a, deserialize data = .ok a ↔ Encodes L P data a
  rejects_prefix : ∀ data more a, more ≠ [] → deserialize (data ++ more) = .ok a →
    ∃ e, deserialize data = .error e
  rejects_trailing : ∀ data more a, more ≠ [] → deserialize data = .ok a →
    ∃ e, deserialize (data ++ more) = .error e
  unambiguous : ∀ data data' a, deserialize data = .ok a → deserialize data' = .ok a →
    Layout.SameButFlags (L a).flags data data'

theorem readAll_eq_ok_iff (h : Recognizes one L P) (trailing : String) (data : Bytes) (a : α) :
    readAll one trailing data = .ok a ↔ Encodes L P data a := by
  rw [Encodes, ← h.run_iff, readAll]
  cases hrun : Decoder.run one data with
  | error e => simp
  | ok r =>
      obtain ⟨a', pos⟩ := r
      have hpos : pos ≤ data.length := by
        obtain ⟨-, bs, rest, hsplit, -, rfl⟩ := (h data 0 a' pos (Nat.zero_le _)).1 hrun
        exact (drop_of_split (Nat.zero_le _) hsplit).1
      -- Unread bytes turn the value into the trailing error.
      by_cases hrest : data.length - pos > 0
      · have hne : pos ≠ data.length := by omega
        simp [hrest, hne]
      · have heq : pos = data.length := by omega
        simp [heq]

/-- A value and an error exclude each other. -/
theorem exists_error_of_not_ok {r : Except String α} (h : ∀ a, r ≠ .ok a) : ∃ e, r = .error e := by
  cases r with
  | error e => exact ⟨e, rfl⟩
  | ok a => exact absurd rfl (h a)

theorem readAll_acceptsExactly (h : Recognizes one L P) (trailing : String) :
    AcceptsExactly (readAll one trailing) L P := by
  have haccepts := readAll_eq_ok_iff h trailing
  refine ⟨haccepts, ?_, ?_, ?_⟩
  · intro data more a hmore hlong
    refine exists_error_of_not_ok fun a' hshort => hmore ?_
    obtain ⟨hP, ha⟩ := (haccepts data a').1 hshort
    obtain ⟨hP', ha'⟩ := (haccepts (data ++ more) a).1 hlong
    exact h.prefix_free hP ha hP' ha'
  · intro data more a hmore hshort
    refine exists_error_of_not_ok fun a' hlong => hmore ?_
    obtain ⟨hP, ha⟩ := (haccepts data a).1 hshort
    obtain ⟨hP', ha'⟩ := (haccepts (data ++ more) a').1 hlong
    exact h.prefix_free hP ha hP' ha'
  · intro data data' a hdata hdata'
    exact ((haccepts data a).1 hdata).2.sameButFlags ((haccepts data' a).1 hdata').2

end WholeBuffer

theorem deserializeInstructions_acceptsExactly :
    AcceptsExactly deserializeInstructions (listLayout instructionLayout)
      (ListFits InstructionFits) :=
  readAll_acceptsExactly (readList_recognizes readOneInstruction_recognizes) _

theorem deserializeAccounts_acceptsExactly :
    AcceptsExactly deserializeAccounts (listLayout accountLayout) (ListFits AccountFits) :=
  readAll_acceptsExactly (readList_recognizes readOneAccount_recognizes) _

end Ffi
end Quasar
