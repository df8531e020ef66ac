import Quasar.Bindings.Node
import Quasar.Bindings.Python
import Quasar.Ffi.Wire

/-!
# RoundTrip — both bindings read back what the engine writes

Each writer of the wire format has a specification for the reader that either binding pairs with
it: placed anywhere in a buffer, its bytes decode to the value and the offset ends right after
them.  Every value whose lengths fit 32 bits is covered.
-/

namespace Quasar
namespace Bindings

open Lib
open Lib.LittleEndian
open Ffi (Conversion statusAndMessage serializeResult writeAccount writeAccountMeta
  writeErrorMessage writeExecutedInstruction writeTokenBalance)
open Ffi.Writer
open Svm (Bytes F64 InstructionError)

/-! ## Results that fit the format -/

/-- A length or an index that fits the 32-bit word it is written as. -/
def FitsU32 (n : Nat) : Prop := n < 2 ^ 32

instance (n : Nat) : Decidable (FitsU32 n) :=
  inferInstanceAs (Decidable (n < 2 ^ 32))

structure FitsTokenBalance (tb : Svm.TokenBalance) : Prop where
  accountIndex : FitsU32 tb.accountIndex
  mint : FitsU32 (utf8 tb.mint).length
  owner : ∀ owner ∈ tb.owner, FitsU32 (utf8 owner).length
  amount : FitsU32 (utf8 tb.uiTokenAmount.amount).length

structure FitsExecutedInstruction (instr : Svm.ExecutedInstruction) : Prop where
  accounts : FitsU32 instr.instruction.accounts.length
  data : FitsU32 instr.instruction.data.length

/-- Byte strings and lists are shorter than `2 ^ 32` and account indices are below it. -/
structure FitsResult (r : Svm.ExecutionResult) : Prop where
  returnData : FitsU32 r.returnData.length
  accounts : FitsU32 r.accounts.length
  accountData : ∀ a ∈ r.accounts, FitsU32 a.data.length
  logs : FitsU32 r.logs.length
  logText : ∀ log ∈ r.logs, FitsU32 (utf8 log).length
  preBalances : FitsU32 r.preBalances.length
  postBalances : FitsU32 r.postBalances.length
  preTokenBalances : FitsU32 r.preTokenBalances.length
  preTokenBalance : ∀ tb ∈ r.preTokenBalances, FitsTokenBalance tb
  postTokenBalances : FitsU32 r.postTokenBalances.length
  postTokenBalance : ∀ tb ∈ r.postTokenBalances, FitsTokenBalance tb
  instructions : FitsU32 r.executionTrace.instructions.length
  instruction : ∀ instr ∈ r.executionTrace.instructions, FitsExecutedInstruction instr

/-- An error's debug text is short enough by itself. -/
theorem fits_debug (e : InstructionError) : FitsU32 (utf8 e.debug).length := by
  have hbound : e.debug.toList.length ≤ 50 := by
    cases e with
    | custom code =>
        -- `Custom(` and `)` around at most ten digits.
        have hdigits : (Nat.toDigits 10 code.toNat).length ≤ 10 :=
          (Nat.length_toDigits_le_iff (by decide) (by decide)).2
            (Nat.lt_trans code.toNat_lt (by decide))
        have hlen : (InstructionError.custom code).debug.toList.length =
            (Nat.toDigits 10 code.toNat).length + 8 := by
          simp [InstructionError.debug]
        omega
    | _ => decide +kernel
  have hbytes := length_utf8_le e.debug
  have hlt : (utf8 e.debug).length < 2 ^ 32 := by omega
  exact hlt

/-- A message is the debug text of an error. -/
theorem exists_of_message {tryFrom : Conversion} {rawResult : Except InstructionError Unit}
    {s : String} (hs : s ∈ (statusAndMessage tryFrom rawResult).2) :
    ∃ e : InstructionError, s = e.debug := by
  cases rawResult with
  | ok u => cases hs
  | error e =>
      cases hs
      exact ⟨e, rfl⟩

theorem message_fits (tryFrom : Conversion) (rawResult : Except InstructionError Unit) :
    ∀ s ∈ (statusAndMessage tryFrom rawResult).2, FitsU32 (utf8 s).length := by
  intro s hs
  rcases exists_of_message hs with ⟨e, rfl⟩
  exact fits_debug e

theorem message_ne_empty (tryFrom : Conversion) (rawResult : Except InstructionError Unit) :
    ∀ s ∈ (statusAndMessage tryFrom rawResult).2, s ≠ "" := by
  intro s hs
  rcases exists_of_message hs with ⟨e, rfl⟩
  exact e.debug_ne_empty

/-! ## Bytes of the primitive writers -/

theorem writeBool_decodes {ε : Type} {flag : Decoder ε Bool}
    (hflag : ∀ x : UInt8, Decodes flag [x] (x != 0)) (b : Bool) :
    Decodes flag (writeBool b) b := by
  cases b with
  | false => simpa [writeBool] using hflag 0
  | true => simpa [writeBool] using hflag 1

theorem writeLen_decodes {ε : Type} (err : ε) {n : Nat} (h : FitsU32 n) :
    Decodes (Decoder.takeExact err 4 >>= fun bytes => pure (getU32 bytes).toNat) (writeLen n) n := by
  have hread := Decodes.fixed err (length_putU32 (UInt32.ofNat n)) (fun bytes => (getU32 bytes).toNat)
  have hvalue : (getU32 (putU32 (UInt32.ofNat n))).toNat = n := by
    simpa using toNat_ofNat_of_lt h
  rw [hvalue] at hread
  exact hread

theorem writeU64_decodes {ε : Type} (err : ε) (v : UInt64) :
    Decodes (Decoder.takeExact err 8 >>= fun bytes => pure (getU64 bytes)) (writeU64 v) v := by
  have hread := Decodes.fixed err (length_putU64 v) getU64
  simpa [writeU64] using hread

theorem writeI32_decodes {ε : Type} (err : ε) (v : Int32) :
    Decodes (Decoder.takeExact err 4 >>= fun bytes => pure (getI32 bytes).toInt) (writeI32 v)
      v.toInt := by
  have hread := Decodes.fixed err (length_putI32 v) (fun bytes => (getI32 bytes).toInt)
  simpa [writeI32] using hread

theorem writePubkey_decodes {ε : Type} (k : Svm.Pubkey) :
    Decodes (Decoder.slice 32 : Decoder ε _) (writePubkey k) k.bytes := by
  have hread : Decodes (Decoder.slice k.bytes.length : Decoder ε _) k.bytes k.bytes :=
    Decodes.slice k.bytes
  rw [k.size] at hread
  exact hread

/-! ## TypeScript -/

namespace Node

def InternalAccount.ofAccount (a : Svm.Account) : InternalAccount :=
  { address := a.address.bytes
    owner := a.owner.bytes
    lamports := a.lamports
    data := a.data
    executable := a.executable }

def TokenBalance.ofTokenBalance (tb : Svm.TokenBalance) : TokenBalance :=
  { accountIndex := tb.accountIndex
    mint := tb.mint
    owner := tb.owner
    uiTokenAmount :=
      { uiAmount := tb.uiTokenAmount.uiAmount
        decimals := some tb.uiTokenAmount.decimals
        amount := tb.uiTokenAmount.amount } }

def AccountMeta.ofAccountMeta (m : Svm.AccountMeta) : AccountMeta :=
  { pubkey := m.pubkey.bytes
    isSigner := m.isSigner
    isWritable := m.isWritable }

def ExecutedInstruction.ofExecutedInstruction (instr : Svm.ExecutedInstruction) :
    ExecutedInstruction :=
  { stackDepth := some instr.stackDepth
    instruction :=
      { programId := instr.instruction.programId.bytes
        accounts := instr.instruction.accounts.map AccountMeta.ofAccountMeta
        data := instr.instruction.data }
    computeUnitsConsumed := instr.computeUnitsConsumed
    result := instr.result }

/-- Every field of a result, as the decoder is to find it. -/
def ResultFields.ofResult (tryFrom : Conversion) (r : Svm.ExecutionResult) : ResultFields :=
  { rawStatus := (statusAndMessage tryFrom r.rawResult).1.toInt
    computeUnits := r.computeUnitsConsumed
    executionTimeUs := r.executionTimeUs
    returnData := r.returnData
    accounts := r.accounts.map InternalAccount.ofAccount
    logs := r.logs
    errorMessage := (statusAndMessage tryFrom r.rawResult).2
    preBalances := r.preBalances
    postBalances := r.postBalances
    preTokenBalances := r.preTokenBalances.map TokenBalance.ofTokenBalance
    postTokenBalances := r.postTokenBalances.map TokenBalance.ofTokenBalance
    executionTrace :=
      { instructions :=
          r.executionTrace.instructions.map ExecutedInstruction.ofExecutedInstruction } }

theorem byte_decodes (x : UInt8) : Decodes byte [x] (some x) :=
  Decodes.peek x

theorem flag_decodes (b : Bool) : Decodes flag (writeBool b) b := by
  refine writeBool_decodes ?_ b
  intro x
  exact (byte_decodes x).bind_pure (fun b => b != some 0)

theorem readUInt32LE_decodes {n : Nat} (h : FitsU32 n) : Decodes readUInt32LE (writeLen n) n :=
  writeLen_decodes _ h

theorem readBigUInt64LE_decodes (v : UInt64) : Decodes readBigUInt64LE (writeU64 v) v :=
  writeU64_decodes _ v

theorem readBytes_decodes {data : Bytes} (h : FitsU32 data.length) :
    Decodes readBytes (writeLengthPrefixed data) data :=
  (readUInt32LE_decodes h).sized

theorem readList_decodes {α γ : Type} {one : Reader α} {enc : γ → Bytes} {val : γ → α}
    {xs : List γ} (hlen : FitsU32 xs.length) (hone : ∀ x ∈ xs, Decodes one (enc x) (val x)) :
    Decodes (readList one) (writeList enc xs) (xs.map val) :=
  (readUInt32LE_decodes hlen).counted hone

/-- A list whose elements decode to themselves. -/
theorem readList_decodes_self {α : Type} {one : Reader α} {enc : α → Bytes} {xs : List α}
    (hlen : FitsU32 xs.length) (hone : ∀ x ∈ xs, Decodes one (enc x) x) :
    Decodes (readList one) (writeList enc xs) xs :=
  (readUInt32LE_decodes hlen).counted_self hone

theorem readOptional_decodes {α : Type} {one : Reader α} {enc : α → Bytes} (o : Option α)
    (hone : ∀ x ∈ o, Decodes one (enc x) x) :
    Decodes (readOptional one) (writeOption enc o) o := by
  have hread := Decodes.flagged id o flag_decodes hone
  cases o with
  | none => exact hread
  | some x => exact hread

theorem readAccount_decodes {a : Svm.Account} (h : FitsU32 a.data.length) :
    Decodes readAccount (writeAccount a) (InternalAccount.ofAccount a) := by
  refine (writePubkey_decodes a.address).bind ?_
  refine (writePubkey_decodes a.owner).bind ?_
  refine (readBigUInt64LE_decodes a.lamports).bind ?_
  refine (readBytes_decodes h).bind ?_
  exact (flag_decodes a.executable).bind_pure _

theorem readAccountMeta_decodes (m : Svm.AccountMeta) :
    Decodes readAccountMeta (writeAccountMeta m) (AccountMeta.ofAccountMeta m) := by
  refine (writePubkey_decodes m.pubkey).bind ?_
  refine (flag_decodes m.isSigner).bind ?_
  exact (flag_decodes m.isWritable).bind_pure _

theorem readExecutedInstruction_decodes {instr : Svm.ExecutedInstruction}
    (h : FitsExecutedInstruction instr) :
    Decodes readExecutedInstruction (writeExecutedInstruction instr)
      (ExecutedInstruction.ofExecutedInstruction instr) := by
  refine (byte_decodes instr.stackDepth).bind ?_
  refine (writePubkey_decodes instr.instruction.programId).bind ?_
  refine (readList_decodes h.accounts fun m _ => readAccountMeta_decodes m).bind ?_
  refine (readBytes_decodes h.data).bind ?_
  refine (readBigUInt64LE_decodes instr.computeUnitsConsumed).bind ?_
  exact (readBigUInt64LE_decodes instr.result).bind_pure _

section Text

-- The decoder's text function only has to be the inverse of the encoding on valid UTF-8.
variable {toUtf8 : Bytes → String} (hutf8 : ∀ s, toUtf8 (utf8 s) = s)

include hutf8

theorem readString_decodes {s : String} (h : FitsU32 (utf8 s).length) :
    Decodes (readString toUtf8) (writeString s) s := by
  have hread := (readBytes_decodes h).map toUtf8
  rw [hutf8 s] at hread
  exact hread

theorem readErrorMessage_decodes {message : Option String}
    (hfits : ∀ s ∈ message, FitsU32 (utf8 s).length) (hne : ∀ s ∈ message, s ≠ "") :
    Decodes (readErrorMessage toUtf8) (writeErrorMessage message) message := by
  cases message with
  | none =>
      -- An absent message is written as the length 0 alone.
      have hlen := readUInt32LE_decodes (n := 0) (by simp [FitsU32])
      have hbytes : Decodes (subarray 0) [] [] := Decodes.slice []
      exact hlen.bind (hbytes.bind_pure _)
  | some s =>
      -- A message that is there is not empty, so the decoder does not take it for absent.
      have hpos : (utf8 s).length > 0 := length_utf8_pos (hne s rfl)
      have hlen := readUInt32LE_decodes (hfits s rfl)
      have hbytes : Decodes (subarray (utf8 s).length) (utf8 s) (utf8 s) := Decodes.slice _
      have hread := hbytes.bind_pure
        (fun bytes => if (utf8 s).length > 0 then some (toUtf8 bytes) else none)
      rw [if_pos hpos, hutf8 s] at hread
      exact hlen.bind hread

theorem readTokenBalance_decodes {tb : Svm.TokenBalance} (h : FitsTokenBalance tb) :
    Decodes (readTokenBalance toUtf8) (writeTokenBalance tb)
      (TokenBalance.ofTokenBalance tb) := by
  refine (readUInt32LE_decodes h.accountIndex).bind ?_
  refine (readString_decodes hutf8 h.mint).bind ?_
  refine (readOptional_decodes tb.owner fun s hs => readString_decodes hutf8 (h.owner s hs)).bind ?_
  refine (byte_decodes tb.uiTokenAmount.decimals).bind ?_
  refine (readString_decodes hutf8 h.amount).bind ?_
  exact (readOptional_decodes _ fun v _ => writeU64_decodes _ v).bind_pure _

theorem readResult_decodes (tryFrom : Conversion) {r : Svm.ExecutionResult} (h : FitsResult r) :
    Decodes (readResult toUtf8) (serializeResult tryFrom r) (ResultFields.ofResult tryFrom r) := by
  -- The reads of the decoder, in the order in which the writer wrote the fields.
  refine (writeI32_decodes _ _).bind ?_
  refine (readBigUInt64LE_decodes r.computeUnitsConsumed).bind ?_
  refine (readBigUInt64LE_decodes r.executionTimeUs).bind ?_
  refine (readBytes_decodes h.returnData).bind ?_
  refine (readList_decodes h.accounts fun a ha => readAccount_decodes (h.accountData a ha)).bind ?_
  refine (readList_decodes_self h.logs fun s hs =>
    readString_decodes hutf8 (h.logText s hs)).bind ?_
  refine (readErrorMessage_decodes hutf8 (message_fits tryFrom r.rawResult)
    (message_ne_empty tryFrom r.rawResult)).bind ?_
  refine (readList_decodes_self h.preBalances fun v _ => readBigUInt64LE_decodes v).bind ?_
  refine (readList_decodes_self h.postBalances fun v _ => readBigUInt64LE_decodes v).bind ?_
  refine (readList_decodes h.preTokenBalances fun tb htb =>
    readTokenBalance_decodes hutf8 (h.preTokenBalance tb htb)).bind ?_
  refine (readList_decodes h.postTokenBalances fun tb htb =>
    readTokenBalance_decodes hutf8 (h.postTokenBalance tb htb)).bind ?_
  exact (readList_decodes h.instructions fun instr hi =>
    readExecutedInstruction_decodes (h.instruction instr hi)).bind_pure _

end Text

end Node

/-! ## Python -/

namespace Python

def ResultAccount.ofAccount (a : Svm.Account) : ResultAccount :=
  { pubkey := a.address.bytes
    owner := a.owner.bytes
    lamports := a.lamports
    data := a.data
    executable := a.executable }

def TokenBalance.ofTokenBalance (tb : Svm.TokenBalance) : TokenBalance :=
  { accountIndex := tb.accountIndex
    mint := tb.mint
    owner := tb.owner
    decimals := tb.uiTokenAmount.decimals
    amount := tb.uiTokenAmount.amount
    uiAmount := tb.uiTokenAmount.uiAmount }

def AccountMeta.ofAccountMeta (m : Svm.AccountMeta) : AccountMeta :=
  { pubkey := m.pubkey.bytes
    isSigner := m.isSigner
    isWritable := m.isWritable }

def ExecutedInstruction.ofExecutedInstruction (instr : Svm.ExecutedInstruction) :
    ExecutedInstruction :=
  { stackDepth := instr.stackDepth
    instruction :=
      { programId := instr.instruction.programId.bytes
        data := instr.instruction.data
        accounts := instr.instruction.accounts.map AccountMeta.ofAccountMeta }
    computeUnitsConsumed := instr.computeUnitsConsumed
    result := instr.result }

/-- Every field of a result, as the decoder is to find it. -/
def ExecutionResult.ofResult (tryFrom : Conversion) (r : Svm.ExecutionResult) : ExecutionResult :=
  { status := (statusAndMessage tryFrom r.rawResult).1.toInt
    computeUnits := r.computeUnitsConsumed
    executionTimeUs := r.executionTimeUs
    returnData := r.returnData
    accounts := r.accounts.map ResultAccount.ofAccount
    logs := r.logs
    errorMessage := (statusAndMessage tryFrom r.rawResult).2
    preBalances := r.preBalances
    postBalances := r.postBalances
    preTokenBalances := r.preTokenBalances.map TokenBalance.ofTokenBalance
    postTokenBalances := r.postTokenBalances.map TokenBalance.ofTokenBalance
    executionTrace :=
      r.executionTrace.instructions.map ExecutedInstruction.ofExecutedInstruction }

theorem byte_decodes (x : UInt8) : Decodes byte [x] x :=
  Decodes.fixed DecodeError.indexError (rfl : ([x] : Bytes).length = 1) fun bytes => bytes.headD 0

theorem flag_decodes (b : Bool) : Decodes flag (writeBool b) b := by
  refine writeBool_decodes ?_ b
  intro x
  exact (byte_decodes x).bind_pure (fun b => b != 0)

theorem unpackU32_decodes {n : Nat} (h : FitsU32 n) : Decodes unpackU32 (writeLen n) n :=
  writeLen_decodes _ h

theorem unpackU64_decodes (v : UInt64) : Decodes unpackU64 (writeU64 v) v :=
  writeU64_decodes _ v

/-- Decoding text consumes nothing more, and gives the text back. -/
theorem decodeUtf8_decodes (s : String) : Decodes (decodeUtf8 (utf8 s)) [] s := by
  intro pre post
  simp [decodeUtf8]

theorem readBytes_decodes {data : Bytes} (h : FitsU32 data.length) :
    Decodes readBytes (writeLengthPrefixed data) data :=
  (unpackU32_decodes h).sized

theorem readString_decodes {s : String} (h : FitsU32 (utf8 s).length) :
    Decodes readString (writeString s) s := by
  have hread := (readBytes_decodes h).bind (decodeUtf8_decodes s)
  rw [List.append_nil] at hread
  exact hread

theorem readList_decodes {α γ : Type} {one : Reader α} {enc : γ → Bytes} {val : γ → α}
    {xs : List γ} (hlen : FitsU32 xs.length) (hone : ∀ x ∈ xs, Decodes one (enc x) (val x)) :
    Decodes (readList one) (writeList enc xs) (xs.map val) :=
  (unpackU32_decodes hlen).counted hone

/-- A list whose elements decode to themselves. -/
theorem readList_decodes_self {α : Type} {one : Reader α} {enc : α → Bytes} {xs : List α}
    (hlen : FitsU32 xs.length) (hone : ∀ x ∈ xs, Decodes one (enc x) x) :
    Decodes (readList one) (writeList enc xs) xs :=
  (unpackU32_decodes hlen).counted_self hone

theorem readOptional_decodes {α : Type} {one : Reader α} {enc : α → Bytes} (o : Option α)
    (hone : ∀ x ∈ o, Decodes one (enc x) x) :
    Decodes (readOptional one) (writeOption enc o) o := by
  have hread := Decodes.flagged id o flag_decodes hone
  cases o with
  | none => exact hread
  | some x => exact hread

theorem readErrorMessage_decodes {message : Option String}
    (hfits : ∀ s ∈ message, FitsU32 (utf8 s).length) (hne : ∀ s ∈ message, s ≠ "") :
    Decodes readErrorMessage (writeErrorMessage message) message := by
  cases message with
  | none =>
      have hlen := unpackU32_decodes (n := 0) (by simp [FitsU32])
      have hbytes : Decodes (slice 0) [] [] := Decodes.slice []
      exact hlen.bind (hbytes.bind (Decodes.pure none))
  | some s =>
      -- A message that is there is not empty, so the decoder does not take it for absent.
      have hpos : (utf8 s).length > 0 := length_utf8_pos (hne s rfl)
      have hlen := unpackU32_decodes (hfits s rfl)
      have hbytes : Decodes (slice (utf8 s).length) (utf8 s) (utf8 s) := Decodes.slice _
      have hread := hbytes.bind
        (f := fun bytes => if (utf8 s).length > 0 then some <$> decodeUtf8 bytes else pure none)
        (by simpa [hpos] using (decodeUtf8_decodes s).map some)
      rw [List.append_nil] at hread
      exact hlen.bind hread

theorem readAccount_decodes {a : Svm.Account} (h : FitsU32 a.data.length) :
    Decodes readAccount (writeAccount a) (ResultAccount.ofAccount a) := by
  refine (writePubkey_decodes a.address).bind ?_
  refine (writePubkey_decodes a.owner).bind ?_
  refine (unpackU64_decodes a.lamports).bind ?_
  refine (readBytes_decodes h).bind ?_
  exact (flag_decodes a.executable).bind_pure _

theorem readTokenBalance_decodes {tb : Svm.TokenBalance} (h : FitsTokenBalance tb) :
    Decodes readTokenBalance (writeTokenBalance tb) (TokenBalance.ofTokenBalance tb) := by
  refine (unpackU32_decodes h.accountIndex).bind ?_
  refine (readString_decodes h.mint).bind ?_
  refine (readOptional_decodes tb.owner fun s hs => readString_decodes (h.owner s hs)).bind ?_
  refine (byte_decodes tb.uiTokenAmount.decimals).bind ?_
  refine (readString_decodes h.amount).bind ?_
  exact (readOptional_decodes _ fun v _ => writeU64_decodes _ v).bind_pure _

theorem readAccountMeta_decodes (m : Svm.AccountMeta) :
    Decodes readAccountMeta (writeAccountMeta m) (AccountMeta.ofAccountMeta m) := by
  refine (writePubkey_decodes m.pubkey).bind ?_
  refine (flag_decodes m.isSigner).bind ?_
  exact (flag_decodes m.isWritable).bind_pure _

theorem readExecutedInstruction_decodes {instr : Svm.ExecutedInstruction}
    (h : FitsExecutedInstruction instr) :
    Decodes readExecutedInstruction (writeExecutedInstruction instr)
      (ExecutedInstruction.ofExecutedInstruction instr) := by
  refine (byte_decodes instr.stackDepth).bind ?_
  refine (writePubkey_decodes instr.instruction.programId).bind ?_
  refine (readList_decodes h.accounts fun m _ => readAccountMeta_decodes m).bind ?_
  refine (readBytes_decodes h.data).bind ?_
  refine (unpackU64_decodes instr.computeUnitsConsumed).bind ?_
  exact (unpackU64_decodes instr.result).bind_pure _

theorem readResult_decodes (tryFrom : Conversion) {r : Svm.ExecutionResult} (h : FitsResult r) :
    Decodes readResult (serializeResult tryFrom r) (ExecutionResult.ofResult tryFrom r) := by
  refine (writeI32_decodes _ _).bind ?_
  refine (unpackU64_decodes r.computeUnitsConsumed).bind ?_
  refine (unpackU64_decodes r.executionTimeUs).bind ?_
  refine (readBytes_decodes h.returnData).bind ?_
  refine (readList_decodes h.accounts fun a ha => readAccount_decodes (h.accountData a ha)).bind ?_
  refine (readList_decodes_self h.logs fun s hs => readString_decodes (h.logText s hs)).bind ?_
  refine (readErrorMessage_decodes (message_fits tryFrom r.rawResult)
    (message_ne_empty tryFrom r.rawResult)).bind ?_
  refine (readList_decodes_self h.preBalances fun v _ => unpackU64_decodes v).bind ?_
  refine (readList_decodes_self h.postBalances fun v _ => unpackU64_decodes v).bind ?_
  refine (readList_decodes h.preTokenBalances fun tb htb =>
    readTokenBalance_decodes (h.preTokenBalance tb htb)).bind ?_
  refine (readList_decodes h.postTokenBalances fun tb htb =>
    readTokenBalance_decodes (h.postTokenBalance tb htb)).bind ?_
  exact (readList_decodes h.instructions fun instr hi =>
    readExecutedInstruction_decodes (h.instruction instr hi)).bind_pure _

end Python

/-! ## The round trip -/

theorem message_eq_none_iff (tryFrom : Conversion) (rawResult : Except InstructionError Unit) :
    (statusAndMessage tryFrom rawResult).2 = none ↔ rawResult = .ok () := by
  cases rawResult with
  | ok u => simp [statusAndMessage]
  | error e => simp [statusAndMessage]

/-- Both decoders find every field of a serialized result and end at the end of the buffer; the
error message is absent exactly for a successful execution. -/
theorem serializeResult_roundTrip (tryFrom : Conversion) (toUtf8 : Bytes → String)
    (hutf8 : ∀ s, toUtf8 (utf8 s) = s) (r : Svm.ExecutionResult) (h : FitsResult r) :
    Decoder.run (Node.readResult toUtf8) (serializeResult tryFrom r) =
        .ok (Node.ResultFields.ofResult tryFrom r, (serializeResult tryFrom r).length) ∧
      Node.deserializeResult toUtf8 (serializeResult tryFrom r) =
        .ok ((Node.ResultFields.ofResult tryFrom r).toResult,
          (serializeResult tryFrom r).length) ∧
      Python.deserializeResult (serializeResult tryFrom r) =
        .ok (Python.ExecutionResult.ofResult tryFrom r, (serializeResult tryFrom r).length) ∧
      ((Node.ResultFields.ofResult tryFrom r).errorMessage = none ↔ r.rawResult = .ok ()) ∧
      ((Python.ExecutionResult.ofResult tryFrom r).errorMessage = none ↔
        r.rawResult = .ok ()) := by
  have hnode := (Node.readResult_decodes hutf8 tryFrom h).run_eq
  have hpython := (Python.readResult_decodes tryFrom h).run_eq
  refine ⟨hnode, ?_, hpython, message_eq_none_iff _ _, message_eq_none_iff _ _⟩
  simp [Node.deserializeResult, hnode, Except.map]

/-- A failed execution with an entry in every section, and both kinds of token balance. -/
def sampleResult : Svm.ExecutionResult :=
  { computeUnitsConsumed := 150
    executionTimeUs := 7
    rawResult := .error (.custom 6000)
    returnData := [1, 2, 3]
    accounts :=
      [{ address := Svm.Pubkey.filled 1
         lamports := 5
         data := [9]
         owner := Svm.Pubkey.filled 2
         executable := false }]
    logs := ["Program log: hi"]
    preBalances := [5]
    postBalances := [5]
    preTokenBalances :=
      [{ accountIndex := 0
         mint := "mint"
         owner := some "owner"
         uiTokenAmount := { uiAmount := some 3, decimals := 6, amount := "10" } }]
    postTokenBalances :=
      [{ accountIndex := 1
         mint := "mint"
         owner := none
         uiTokenAmount := { uiAmount := none, decimals := 0, amount := "0" } }]
    executionTrace :=
      { instructions :=
          [{ stackDepth := 0
             instruction :=
               { programId := Svm.Pubkey.filled 3
                 accounts :=
                   [{ pubkey := Svm.Pubkey.filled 1
                      isSigner := true
                      isWritable := false }]
                 data := [4] }
             computeUnitsConsumed := 150
             result := 1 }] } }

theorem sampleResult_fits : FitsResult sampleResult := by
  constructor
  case preTokenBalance =>
    intro tb htb
    rcases List.mem_singleton.1 htb with rfl
    refine ⟨by decide, by decide, ?_, by decide⟩
    intro owner howner
    cases howner
    decide
  case postTokenBalance =>
    intro tb htb
    rcases List.mem_singleton.1 htb with rfl
    refine ⟨by decide, by decide, ?_, by decide⟩
    intro owner howner
    cases howner
  case instruction =>
    intro instr hi
    rcases List.mem_singleton.1 hi with rfl
    exact ⟨by decide, by decide⟩
  all_goals decide

theorem serializeResult_roundTrip_sample :
    Python.deserializeResult (serializeResult Ffi.ProgramError.tryFrom sampleResult) =
      .ok (Python.ExecutionResult.ofResult Ffi.ProgramError.tryFrom sampleResult,
        (serializeResult Ffi.ProgramError.tryFrom sampleResult).length) :=
  (serializeResult_roundTrip Ffi.ProgramError.tryFrom utf8Lossy utf8Lossy_utf8 sampleResult
    sampleResult_fits).2.2.1

end Bindings
end Quasar
