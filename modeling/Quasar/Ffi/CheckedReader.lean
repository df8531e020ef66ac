import Quasar.Ffi.Grammar
import Quasar.Lib.Checked

/-!
# CheckedReader — the reader of the wire format with the machine's own arithmetic

The readers of `Wire` work on natural positions and can only fail with a message.  Here every step of
the reader is written out: sums of 64-bit words, the slice, the first byte of a slice, the conversion
to an array, and the capacity that is reserved for each list.  They simulate the readers of `Wire`, so
the bounds check before the slice is all that the slice and the conversions need.
-/

namespace Quasar
namespace Ffi

open Lib
open Lib.LittleEndian
open Svm (Bytes Pubkey SolanaAccount AccountMeta Instruction)

/-! ## Reader -/

/-- Checked readers that fail with one of the reader's messages. -/
abbrev CheckedReader := Checked String

namespace CheckedReader

def remaining : CheckedReader UInt64 := do
  let len ← Checked.length
  let pos ← Checked.position
  pure (len - pos)

def readBytes (n : UInt64) : CheckedReader Bytes := do
  let pos ← Checked.position
  let len ← Checked.length
  if pos + n > len then
    Checked.fail "unexpected end of input"
  else do
    let slice ← Checked.slice pos (pos + n)
    Checked.seek (pos + n)
    pure slice

def readU8 : CheckedReader UInt8 := do
  let bytes ← readBytes 1
  Checked.index bytes 0

def readBool : CheckedReader Bool := do
  let byte ← readU8
  pure (byte != 0)

def readU32 : CheckedReader UInt32 := do
  let bytes ← readBytes 4
  let bytes ← Checked.toArray 4 bytes
  pure (getU32 bytes.1)

def readU64 : CheckedReader UInt64 := do
  let bytes ← readBytes 8
  let bytes ← Checked.toArray 8 bytes
  pure (getU64 bytes.1)

def readPubkey : CheckedReader Pubkey := do
  let bytes ← readBytes 32
  let bytes ← Checked.toArray 32 bytes
  pure ⟨bytes.1, bytes.2⟩

/-! ## Deserialization -/

def readAccountMeta : CheckedReader AccountMeta := do
  let pubkey ← readPubkey
  let isSigner ← readBool
  let isWritable ← readBool
  pure { pubkey := pubkey, isSigner := isSigner, isWritable := isWritable }

/-- The least size of an encoded account meta: a key and two flags. -/
def metaSize : ℕ := 34

/-- The least size of an encoded instruction: a program id, no data and no metas. -/
def instructionSize : ℕ := 40

/-- The least size of an encoded account: two keys, the lamports, no data and a flag. -/
def accountSize : ℕ := 77

def readOneInstruction : CheckedReader Instruction := do
  let programId ← readPubkey
  let dataLen ← readU32
  let data ← readBytes dataLen.toUInt64
  let numMetas ← readU32
  Checked.withCapacity numMetas.toNat metaSize
  let accounts ← Checked.many readAccountMeta numMetas.toNat
  pure { programId := programId, accounts := accounts, data := data }

def readOneAccount : CheckedReader (Pubkey × SolanaAccount) := do
  let pubkey ← readPubkey
  let owner ← readPubkey
  let lamports ← readU64
  let dataLen ← readU32
  let data ← readBytes dataLen.toUInt64
  let executable ← readBool
  pure (pubkey,
    { lamports := lamports
      data := data
      owner := owner
      executable := executable
      rentEpoch := 0 })

/-- A count, the capacity for as many elements of `size` bytes at least, and every element. -/
def readList {α : Type} (size : ℕ) (one : CheckedReader α) : CheckedReader (List α) := do
  let count ← readU32
  Checked.withCapacity count.toNat size
  Checked.many one count.toNat

/-- A reader of a whole buffer; bytes that it leaves unread are an error. -/
def readAll {α : Type} (one : CheckedReader α) (trailing : String) : CheckedReader α := do
  let a ← one
  let rest ← remaining
  if rest > 0 then Checked.fail trailing else pure a

def deserializeInstructions (data : Bytes) : Outcome String (List Instruction) :=
  (readAll (readList instructionSize readOneInstruction) "trailing data after instructions").run data

def deserializeAccounts (data : Bytes) : Outcome String (List (Pubkey × SolanaAccount)) :=
  (readAll (readList accountSize readOneAccount) "trailing data after accounts").run data

end CheckedReader

/-! ## Simulation of the readers -/

namespace CheckedReader

/-- A sum with a length stays below the end of the word. -/
theorem toNat_add_of_addressable {data : Bytes} {pos n : UInt64} (hdata : Addressable data)
    (hpos : pos.toNat ≤ data.length) (hn : n.toNat < 2 ^ 63) :
    (pos + n).toNat = pos.toNat + n.toNat := by
  unfold Addressable at hdata
  have hsum : pos.toNat + n.toNat < 2 ^ 64 := by omega
  rw [UInt64.toNat_add, Nat.mod_eq_of_lt hsum]

theorem readBytes_of_end {data : Bytes} {pos n : UInt64} (h : pos + n > UInt64.ofNat data.length) :
    (readBytes n data pos).result = .error (.fail "unexpected end of input") := by
  have hread : readBytes n data pos = (if pos + n > UInt64.ofNat data.length then
      Checked.fail "unexpected end of input" else _ : CheckedReader Bytes) data pos := rfl
  rw [hread, if_pos h]
  rfl

theorem readBytes_of_fits {data : Bytes} {pos n : UInt64}
    (h : ¬ pos + n > UInt64.ofNat data.length) (hle : pos ≤ pos + n)
    (hend : (pos + n).toNat ≤ data.length) :
    (readBytes n data pos).result =
      .ok ((data.drop pos.toNat).take ((pos + n).toNat - pos.toNat), pos + n) := by
  have hread : readBytes n data pos = (if pos + n > UInt64.ofNat data.length then
      Checked.fail "unexpected end of input" else _ : CheckedReader Bytes) data pos := rfl
  have hslice : (Checked.slice pos (pos + n) data pos : Outcome String (Bytes × UInt64)).result =
      .ok ((data.drop pos.toNat).take ((pos + n).toNat - pos.toNat), pos) := by
    rw [Checked.slice, if_pos ⟨hle, hend⟩]
  rw [hread, if_neg h, (Checked.bind_of_ok hslice).1]
  rfl

theorem readBytes_simulates {n : UInt64} (hn : n.toNat < 2 ^ 63) :
    Simulates (readBytes n) (Reader.readBytes n.toNat) := by
  have hcheck : ∀ {data : Bytes} {pos : UInt64}, Addressable data → pos.toNat ≤ data.length →
      (pos + n > UInt64.ofNat data.length ↔ data.length < pos.toNat + n.toNat) := by
    intro data pos hdata hpos
    rw [gt_iff_lt, UInt64.lt_iff_toNat_lt, toNat_ofNat_of_le hdata le_rfl,
      toNat_add_of_addressable hdata hpos hn]
  constructor
  · intro data pos bytes o hdata hpos h
    have hsum := toNat_add_of_addressable hdata hpos hn
    by_cases hend : data.length < pos.toNat + n.toNat
    · rw [Reader.readBytes, Decoder.takeExact, if_pos hend] at h
      cases h
    · rw [Reader.readBytes, Decoder.takeExact, if_neg hend] at h
      cases h
      refine ⟨by omega, ?_⟩
      have hle : pos ≤ pos + n := by
        rw [UInt64.le_iff_toNat_le, hsum]
        omega
      rw [readBytes_of_fits (mt (hcheck hdata hpos).1 hend) hle (by omega), hsum,
        Nat.add_sub_cancel_left, ← hsum, UInt64.ofNat_toNat]
  · intro data pos e hdata hpos h
    by_cases hend : data.length < pos.toNat + n.toNat
    · rw [Reader.readBytes, Decoder.takeExact, if_pos hend] at h
      cases h
      exact readBytes_of_end ((hcheck hdata hpos).2 hend)
    · rw [Reader.readBytes, Decoder.takeExact, if_neg hend] at h
      cases h

/-- What is read has the length that was asked for. -/
theorem returns_readBytes (n : ℕ) : Returns (Reader.readBytes n) (·.length = n) := by
  intro data o bytes o' h
  rw [Reader.readBytes, Decoder.takeExact] at h
  split at h
  · cases h
  · cases h
    rw [List.length_take, List.length_drop]
    omega

theorem returns_true {α : Type} (p : Reader α) : Returns p fun _ => True :=
  fun _ _ _ _ _ => trivial

theorem readU8_simulates : Simulates readU8 Reader.readU8 := by
  refine (readBytes_simulates (n := 1) (by decide)).bind (returns_readBytes 1) fun bytes hlen => ?_
  obtain ⟨x, rfl⟩ := List.length_eq_one_iff.1 hlen
  exact Simulates.pure x

theorem readBool_simulates : Simulates readBool Reader.readBool :=
  readU8_simulates.bind (returns_true _) fun byte _ => Simulates.pure (byte != 0)

theorem readU32_simulates : Simulates readU32 Reader.readU32 := by
  refine (readBytes_simulates (n := 4) (by decide)).bind (returns_readBytes 4) fun bytes hlen => ?_
  exact Simulates.toArray hlen (Simulates.pure (getU32 bytes))

theorem readU64_simulates : Simulates readU64 Reader.readU64 := by
  refine (readBytes_simulates (n := 8) (by decide)).bind (returns_readBytes 8) fun bytes hlen => ?_
  exact Simulates.toArray hlen (Simulates.pure (getU64 bytes))

theorem readPubkey_simulates : Simulates readPubkey Reader.readPubkey := by
  refine (readBytes_simulates (n := 32) (by decide)).bind (returns_readBytes 32) fun bytes hlen => ?_
  rw [dif_pos hlen]
  exact Simulates.toArray hlen (Simulates.pure _)

/-- A length from the wire is far from the end of the word. -/
theorem readData_simulates (dataLen : UInt32) :
    Simulates (readBytes dataLen.toUInt64) (Reader.readBytes dataLen.toNat) := by
  have hlen := dataLen.toNat_lt
  rw [← UInt32.toNat_toUInt64]
  refine readBytes_simulates ?_
  rw [UInt32.toNat_toUInt64]
  omega

theorem readAccountMeta_simulates : Simulates readAccountMeta Ffi.readAccountMeta := by
  refine readPubkey_simulates.bind (returns_true _) fun pubkey _ => ?_
  refine readBool_simulates.bind (returns_true _) fun isSigner _ => ?_
  exact readBool_simulates.bind (returns_true _) fun isWritable _ => Simulates.pure _

theorem readOneInstruction_simulates : Simulates readOneInstruction Ffi.readOneInstruction := by
  refine readPubkey_simulates.bind (returns_true _) fun programId _ => ?_
  refine readU32_simulates.bind (returns_true _) fun dataLen _ => ?_
  refine (readData_simulates dataLen).bind (returns_true _) fun data _ => ?_
  refine readU32_simulates.bind (returns_true _) fun numMetas _ => ?_
  refine Simulates.withCapacity _ _ ?_
  refine (readAccountMeta_simulates.many numMetas.toNat).bind (returns_true _) fun accounts _ => ?_
  exact Simulates.pure _

theorem readOneAccount_simulates : Simulates readOneAccount Ffi.readOneAccount := by
  refine readPubkey_simulates.bind (returns_true _) fun pubkey _ => ?_
  refine readPubkey_simulates.bind (returns_true _) fun owner _ => ?_
  refine readU64_simulates.bind (returns_true _) fun lamports _ => ?_
  refine readU32_simulates.bind (returns_true _) fun dataLen _ => ?_
  refine (readData_simulates dataLen).bind (returns_true _) fun data _ => ?_
  exact readBool_simulates.bind (returns_true _) fun executable _ => Simulates.pure _

section WholeBuffer

variable {α : Type} {size : ℕ} {one : CheckedReader α} {reader : Reader α}

theorem readList_simulates (hone : Simulates one reader) :
    Simulates (readList size one) (Ffi.readList reader) := by
  refine readU32_simulates.bind (returns_true _) fun count _ => ?_
  exact Simulates.withCapacity _ _ (hone.many count.toNat)

/-- What is left behind a position in the buffer: the subtraction does not go below zero. -/
theorem remaining_pos_iff {data : Bytes} {o : ℕ} (hdata : Addressable data) (ho : o ≤ data.length) :
    UInt64.ofNat data.length - UInt64.ofNat o > 0 ↔ data.length - o > 0 := by
  have hlen := toNat_ofNat_of_le hdata le_rfl
  have hpos := toNat_ofNat_of_le hdata ho
  have hle : UInt64.ofNat o ≤ UInt64.ofNat data.length := by
    rw [UInt64.le_iff_toNat_le, hlen, hpos]
    exact ho
  rw [gt_iff_lt, UInt64.lt_iff_toNat_lt, UInt64.toNat_sub_of_le _ _ hle, hlen, hpos]
  exact Iff.rfl

/-- The whole buffer is read as the reader of `Wire` reads it. -/
theorem run_readAll (hone : Simulates one reader) (trailing : String) {data : Bytes}
    (hdata : Addressable data) :
    ((readAll one trailing).run data).result =
      (Ffi.readAll reader trailing data).mapError Stop.fail := by
  have hzero : Decoder.run reader data = reader data (0 : UInt64).toNat := rfl
  rw [Checked.run, Ffi.readAll, hzero]
  cases h : reader data (0 : UInt64).toNat with
  | error e =>
      rw [readAll, (Checked.bind_of_error (hone.error hdata (Nat.zero_le _) h)).1]
      rfl
  | ok s =>
      obtain ⟨a, o⟩ := s
      obtain ⟨hle, hresult⟩ := hone.ok hdata (Nat.zero_le _) h
      have hrest : (remaining data (UInt64.ofNat o) : Outcome String (UInt64 × UInt64)).result =
          .ok (UInt64.ofNat data.length - UInt64.ofNat o, UInt64.ofNat o) := rfl
      rw [readAll, (Checked.bind_of_ok hresult).1, (Checked.bind_of_ok hrest).1]
      by_cases hleft : data.length - o > 0
      · rw [if_pos ((remaining_pos_iff hdata hle).2 hleft)]
        simp only [hleft, if_true]
        rfl
      · rw [if_neg (mt (remaining_pos_iff hdata hle).1 hleft)]
        simp only [hleft, if_false]
        rfl

end WholeBuffer

theorem run_deserializeInstructions {data : Bytes} (hdata : Addressable data) :
    (deserializeInstructions data).result =
      (Ffi.deserializeInstructions data).mapError Stop.fail :=
  run_readAll (readList_simulates readOneInstruction_simulates) _ hdata

theorem run_deserializeAccounts {data : Bytes} (hdata : Addressable data) :
    (deserializeAccounts data).result = (Ffi.deserializeAccounts data).mapError Stop.fail :=
  run_readAll (readList_simulates readOneAccount_simulates) _ hdata

end CheckedReader

/-! ## The grammar is what the decoders accept -/

/-- Both decoders accept the encodings of the documented layout and nothing else, reject every proper
prefix and every extension of what they accept, and accept two buffers as one value only when these
differ in flags that are set.  On a 64-bit machine they give these results without a panic. -/
theorem decoders_accept_exactly_their_grammar :
    AcceptsExactly deserializeInstructions (listLayout instructionLayout)
        (ListFits InstructionFits) ∧
      AcceptsExactly deserializeAccounts (listLayout accountLayout) (ListFits AccountFits) ∧
      ∀ data : Bytes, Addressable data →
        ((CheckedReader.deserializeInstructions data).result =
            (deserializeInstructions data).mapError Stop.fail ∧
          ¬ (CheckedReader.deserializeInstructions data).Panics) ∧
        ((CheckedReader.deserializeAccounts data).result =
            (deserializeAccounts data).mapError Stop.fail ∧
          ¬ (CheckedReader.deserializeAccounts data).Panics) := by
  refine ⟨deserializeInstructions_acceptsExactly, deserializeAccounts_acceptsExactly, ?_⟩
  intro data hdata
  have hinstructions := CheckedReader.run_deserializeInstructions hdata
  have haccounts := CheckedReader.run_deserializeAccounts hdata
  exact ⟨⟨hinstructions, Outcome.not_panics hinstructions⟩,
    haccounts, Outcome.not_panics haccounts⟩

/-- One instruction without data and with one meta, whose signer flag is 7. -/
theorem decoders_accept_exactly_their_grammar_reference :
    let data : Bytes := putU32 1 ++ List.replicate 32 5 ++ putU32 0 ++ putU32 1 ++
      List.replicate 32 6 ++ [7, 0]
    let ix : Instruction :=
      { programId := ⟨List.replicate 32 5, rfl⟩
        accounts :=
          [{ pubkey := ⟨List.replicate 32 6, rfl⟩
             isSigner := true
             isWritable := false }]
        data := [] }
    (CheckedReader.deserializeInstructions data).result = .ok [ix] ∧
      (∃ e, deserializeInstructions (data ++ [0]) = .error e) ∧
      ¬ (CheckedReader.deserializeAccounts data).Panics := by
  intro data ix
  have haddressable : Addressable data := by
    unfold Addressable
    decide
  have haccepted : deserializeInstructions data = .ok [ix] := rfl
  obtain ⟨hinstructions, -, hrun⟩ := decoders_accept_exactly_their_grammar
  refine ⟨?_, hinstructions.rejects_trailing data [0] [ix] (by decide) haccepted,
    (hrun data haddressable).2.2⟩
  rw [(hrun data haddressable).1.1, haccepted]
  rfl

end Ffi
end Quasar
