import Quasar.Ffi.CheckedReader

/-!
# Capacity — what the counts of a buffer reserve

A list is reserved as soon as its count is read, for as many elements as the count says.  Nothing
compares the count with what is left of the buffer, as it is done for the length of a data field.  The
counts that a decoder reaches are those of `InstructionCount` and `AccountCount`, and the capacity is
backed by unread bytes exactly when each of them is.
-/

namespace Quasar
namespace Ffi

open Lib
open Lib.LittleEndian
open Svm (Bytes Pubkey SolanaAccount AccountMeta Instruction)

namespace CheckedReader

/-! ## Readers without a request -/

theorem readBytes_silent (n : UInt64) : Silent (readBytes n) := by
  refine Silent.bind (fun _ _ => rfl) fun pos => ?_
  refine Silent.bind (fun _ _ => rfl) fun len => ?_
  split
  · exact fun _ _ => rfl
  · refine Silent.bind ?_ fun slice => ?_
    · intro data pos'
      rw [Checked.slice]
      split
      · rfl
      · rfl
    · exact Silent.bind (fun _ _ => rfl) fun _ => Silent.pure slice

theorem readBool_silent : Silent readBool := by
  refine Silent.bind ?_ fun byte => Silent.pure _
  exact Silent.bind (readBytes_silent 1) fun bytes => Silent.index bytes 0

theorem readU32_silent : Silent readU32 := by
  refine Silent.bind (readBytes_silent 4) fun bytes => ?_
  exact Silent.bind (Silent.toArray 4 bytes) fun _ => Silent.pure _

theorem readU64_silent : Silent readU64 := by
  refine Silent.bind (readBytes_silent 8) fun bytes => ?_
  exact Silent.bind (Silent.toArray 8 bytes) fun _ => Silent.pure _

theorem readPubkey_silent : Silent readPubkey := by
  refine Silent.bind (readBytes_silent 32) fun bytes => ?_
  exact Silent.bind (Silent.toArray 32 bytes) fun _ => Silent.pure _

theorem readAccountMeta_silent : Silent readAccountMeta := by
  refine Silent.bind readPubkey_silent fun pubkey => ?_
  refine Silent.bind readBool_silent fun isSigner => ?_
  exact Silent.bind readBool_silent fun isWritable => Silent.pure _

theorem readOneAccount_silent : Silent readOneAccount := by
  refine Silent.bind readPubkey_silent fun pubkey => ?_
  refine Silent.bind readPubkey_silent fun owner => ?_
  refine Silent.bind readU64_silent fun lamports => ?_
  refine Silent.bind readU32_silent fun dataLen => ?_
  refine Silent.bind (readBytes_silent dataLen.toUInt64) fun data => ?_
  exact Silent.bind readBool_silent fun executable => Silent.pure _

/-- What is behind the last element asks for nothing. -/
theorem silent_rest {α : Type} (trailing : String) (a : α) :
    Silent (do
      let rest ← remaining
      if rest > 0 then Checked.fail trailing else pure a : CheckedReader α) := by
  refine Silent.bind (Silent.bind (fun _ _ => rfl) fun len => ?_) fun rest => ?_
  · exact Silent.bind (fun _ _ => rfl) fun pos => Silent.pure (len - pos)
  · split
    · exact fun _ _ => rfl
    · exact Silent.pure a

end CheckedReader

/-! ## The counts of a buffer -/

/-- An instruction up to the count of its metas: the bytes read so far, and the count. -/
inductive MetaCount : Bytes → ℕ → ℕ → Prop
  | metas (programId : Pubkey) (data : Bytes) (numMetas : UInt32) (hdata : data.length < 2 ^ 32) :
      MetaCount
        (programId.bytes ++ putU32 (UInt32.ofNat data.length) ++ data ++ putU32 numMetas)
        numMetas.toNat CheckedReader.metaSize

/-- `InstructionCount pre n k` : behind `pre` a list of `n` elements of at least `k` bytes begins,
which are the instructions themselves or the metas of one of them. -/
inductive InstructionCount : Bytes → ℕ → ℕ → Prop
  | instructions (count : UInt32) :
      InstructionCount (putU32 count) count.toNat CheckedReader.instructionSize
  | metas {count : UInt32} {ixs : List Instruction} {records pre : Bytes} {n k : ℕ}
      (hcount : ixs.length < count.toNat) (hfits : ∀ ix ∈ ixs, InstructionFits ix)
      (hrecords : Layout.Matches (ixs.flatMap instructionLayout) records)
      (hmetas : MetaCount pre n k) :
      InstructionCount (putU32 count ++ records ++ pre) n k

inductive AccountCount : Bytes → ℕ → ℕ → Prop
  | accounts (count : UInt32) :
      AccountCount (putU32 count) count.toNat CheckedReader.accountSize

/-- Every count that is reached is backed by the bytes behind it. -/
def CountsBacked (Count : Bytes → ℕ → ℕ → Prop) (data : Bytes) : Prop :=
  ∀ pre rest n k, data = pre ++ rest → Count pre n k → n * k ≤ rest.length

/-! ## Where the readers ask for capacity -/

namespace CheckedReader

theorem matches_bytes_iff {bs b : Bytes} : Layout.Matches [.bytes bs] b ↔ b = bs := by
  simp [Layout.matches_cons_iff, Field.Matches]

theorem readOneInstruction_requests : Requests readOneInstruction MetaCount := by
  have hmetas : ∀ (programId : Pubkey) (data : Bytes) (numMetas : UInt32), Requests
      (Checked.many readAccountMeta numMetas.toNat >>= fun accounts =>
        pure { programId := programId, accounts := accounts, data := data : Instruction })
      fun _ _ _ => False := by
    intro programId data numMetas
    -- The metas are of fixed size and ask for nothing.
    refine Requests.before ?_ fun accounts => Silent.pure _
    refine ((Requests.silent readAccountMeta_silent).many readAccountMeta_simulates
      readAccountMeta_recognizes numMetas.toNat).congr fun pre n k => ?_
    simp
  -- Field by field, along the text of the reader.
  have hchain := Requests.after readPubkey_silent readPubkey_simulates
    Reader.readPubkey_recognizes fun programId _ =>
      Requests.after readU32_silent readU32_simulates Reader.readU32_recognizes fun dataLen _ =>
        Requests.after (readBytes_silent dataLen.toUInt64) (readData_simulates dataLen)
          (Reader.readBytes_recognizes dataLen.toNat) fun data _ =>
            Requests.after readU32_silent readU32_simulates Reader.readU32_recognizes
              fun numMetas _ => (hmetas programId data numMetas).withCapacity numMetas.toNat metaSize
  refine hchain.congr fun pre n k => ?_
  simp only [matches_bytes_iff, or_false, true_and]
  constructor
  · rintro ⟨programId, _, _, rfl, rfl, dataLen, _, _, rfl, rfl, _, data, _, hlen, rfl, rfl,
      numMetas, _, _, rfl, rfl, rfl, rfl, rfl⟩
    have hdata : data.length < 2 ^ 32 := by
      rw [hlen]
      exact dataLen.toNat_lt
    have hfield : UInt32.ofNat data.length = dataLen := by rw [hlen, UInt32.ofNat_toNat]
    simpa [hfield] using MetaCount.metas programId data numMetas hdata
  · rintro ⟨programId, data, numMetas, hdata⟩
    exact ⟨programId, _, _, rfl, by simp only [List.append_assoc], UInt32.ofNat data.length, _, _,
      rfl, rfl, data, _, _, (toNat_ofNat_of_lt hdata).symm, rfl, rfl, numMetas, putU32 numMetas, [],
      rfl, (List.append_nil _).symm, rfl, rfl, rfl⟩

/-- A list asks for its own capacity, and then each element behind the elements before it. -/
theorem readList_requests {α : Type} {size : ℕ} {one : CheckedReader α} {reader : Reader α}
    {L : α → Layout} {P : α → Prop} {C : Bytes → ℕ → ℕ → Prop} (hone : Requests one C)
    (hsim : Simulates one reader) (hrec : Recognizes reader L P) :
    Requests (readList size one) fun pre n k => ∃ count : UInt32,
      (pre = putU32 count ∧ n = count.toNat ∧ k = size) ∨
        ∃ (xs : List α) (records tail : Bytes), xs.length < count.toNat ∧ (∀ x ∈ xs, P x) ∧
          Layout.Matches (xs.flatMap L) records ∧ pre = putU32 count ++ records ++ tail ∧
            C tail n k := by
  have hlist := Requests.after readU32_silent readU32_simulates Reader.readU32_recognizes
    fun count _ => (hone.many hsim hrec count.toNat).withCapacity count.toNat size
  refine hlist.congr fun pre n k => ?_
  simp only [matches_bytes_iff, true_and]
  constructor
  · rintro ⟨count, _, tail, rfl, rfl,
      ⟨rfl, rfl, rfl⟩ | ⟨xs, records, tail', hlen, hall, hxs, rfl, h⟩⟩
    · exact ⟨count, Or.inl ⟨List.append_nil _, rfl, rfl⟩⟩
    · exact ⟨count, Or.inr ⟨xs, records, tail', hlen, hall, hxs,
        (List.append_assoc _ _ _).symm, h⟩⟩
  · rintro ⟨count, ⟨rfl, rfl, rfl⟩ | ⟨xs, records, tail, hlen, hall, hxs, rfl, h⟩⟩
    · exact ⟨count, _, [], rfl, (List.append_nil _).symm, Or.inl ⟨rfl, rfl, rfl⟩⟩
    · exact ⟨count, _, records ++ tail, rfl, List.append_assoc _ _ _,
        Or.inr ⟨xs, records, tail, hlen, hall, hxs, rfl, h⟩⟩

theorem instructions_requests :
    Requests (readList instructionSize readOneInstruction) InstructionCount := by
  refine (readList_requests readOneInstruction_requests readOneInstruction_simulates
    readOneInstruction_recognizes).congr fun pre n k => ?_
  constructor
  · rintro ⟨count, ⟨rfl, rfl, rfl⟩ | ⟨ixs, records, tail, hcount, hfits, hrecords, rfl, hmetas⟩⟩
    · exact InstructionCount.instructions count
    · exact InstructionCount.metas hcount hfits hrecords hmetas
  · intro h
    cases h with
    | instructions count => exact ⟨count, Or.inl ⟨rfl, rfl, rfl⟩⟩
    | metas hcount hfits hrecords hmetas =>
        exact ⟨_, Or.inr ⟨_, _, _, hcount, hfits, hrecords, rfl, hmetas⟩⟩

theorem accounts_requests : Requests (readList accountSize readOneAccount) AccountCount := by
  refine (readList_requests (Requests.silent readOneAccount_silent) readOneAccount_simulates
    readOneAccount_recognizes).congr fun pre n k => ?_
  constructor
  · rintro ⟨count, ⟨rfl, rfl, rfl⟩ | ⟨-, -, -, -, -, -, -, h⟩⟩
    · exact AccountCount.accounts count
    · exact h.elim
  · rintro ⟨count⟩
    exact ⟨count, Or.inl ⟨rfl, rfl, rfl⟩⟩

end CheckedReader

/-! ## Capacity and input -/

/-- At each request for capacity at least as many bytes are unread as the elements take. -/
def Backed {ε α : Type} (o : Outcome ε α) : Prop :=
  ∀ r ∈ o.reserved, r.Backed

theorem readAll_backed_iff {α : Type} {one : CheckedReader α} {C : Bytes → ℕ → ℕ → Prop}
    (hone : Requests one C) (trailing : String) {data : Bytes} (hdata : Addressable data) :
    Backed ((CheckedReader.readAll one trailing).run data) ↔ CountsBacked C data := by
  have hall : Requests (CheckedReader.readAll one trailing) C :=
    hone.before fun a => CheckedReader.silent_rest trailing a
  have hmem := fun r => hall data 0 r hdata (Nat.zero_le _)
  simp only [UInt64.toNat_zero, List.drop_zero] at hmem
  constructor
  · intro hbacked pre rest n k hsplit hC
    exact hbacked ⟨n, k, rest.length⟩ ((hmem _).2 ⟨pre, rest, hsplit, hC, rfl⟩)
  · intro hcounts r hr
    obtain ⟨pre, rest, hsplit, hC, hunread⟩ := (hmem r).1 hr
    rw [Reservation.Backed, hunread]
    exact hcounts pre rest _ _ hsplit hC

/-- The capacity that the decoders reserve is backed by unread bytes if and only if every count that
they reach promises no more than the bytes behind it can hold. -/
theorem reserved_capacity_backed_iff (data : Bytes) (hdata : Addressable data) :
    (Backed (CheckedReader.deserializeInstructions data) ↔ CountsBacked InstructionCount data) ∧
      (Backed (CheckedReader.deserializeAccounts data) ↔ CountsBacked AccountCount data) :=
  ⟨readAll_backed_iff CheckedReader.instructions_requests _ hdata,
    readAll_backed_iff CheckedReader.accounts_requests _ hdata⟩

/-- Two instructions, the first of which has one byte of data and two metas. -/
def twoInstructions : Bytes :=
  putU32 2 ++ (Pubkey.filled 9).bytes ++ putU32 1 ++ [7] ++ putU32 2 ++
      (Pubkey.filled 1).bytes ++ [1, 1] ++ (Pubkey.filled 2).bytes ++ [0, 1] ++
    (Pubkey.filled 8).bytes ++ putU32 0 ++ putU32 0

/-- The counts of the list and of both lists of metas are backed. -/
theorem reserved_capacity_backed_iff_reference :
    (CheckedReader.deserializeInstructions twoInstructions).reserved =
        [⟨2, 40, 149⟩, ⟨2, 34, 108⟩, ⟨0, 34, 0⟩] ∧
      CountsBacked InstructionCount twoInstructions := by
  have hreserved : (CheckedReader.deserializeInstructions twoInstructions).reserved =
      [⟨2, 40, 149⟩, ⟨2, 34, 108⟩, ⟨0, 34, 0⟩] := by
    decide +kernel
  have haddressable : Addressable twoInstructions := by
    unfold Addressable
    decide +kernel
  refine ⟨hreserved, (reserved_capacity_backed_iff twoInstructions haddressable).1.1 ?_⟩
  intro r hr
  rw [hreserved] at hr
  revert r
  unfold Reservation.Backed
  decide

/-- Four bytes announce more than four billion instructions: the capacity is reserved first, and only
then is the end of the input found. -/
theorem reserved_capacity_unbacked :
    let data : Bytes := [255, 255, 255, 255]
    (CheckedReader.deserializeInstructions data).reserved = [⟨4294967295, 40, 0⟩] ∧
      ¬ Backed (CheckedReader.deserializeInstructions data) ∧
      deserializeInstructions data = .error "unexpected end of input" := by
  intro data
  have hreserved : (CheckedReader.deserializeInstructions data).reserved = [⟨4294967295, 40, 0⟩] :=
    rfl
  refine ⟨hreserved, fun hbacked => ?_, rfl⟩
  have hfirst := hbacked ⟨4294967295, 40, 0⟩ (by rw [hreserved]; exact List.mem_singleton_self _)
  exact absurd hfirst (by unfold Reservation.Backed; decide)

/-! ## Accepted buffers -/

section Sizes

variable {bs : Bytes}

theorem metaSize_le {acc : AccountMeta} (h : Layout.Matches (metaLayout acc) bs) :
    CheckedReader.metaSize ≤ bs.length := by
  rw [← h.length_flags]
  simp [metaLayout, Layout.flags, Field.flags, acc.pubkey.size, CheckedReader.metaSize]

theorem instructionSize_le {ix : Instruction} (h : Layout.Matches (instructionLayout ix) bs) :
    CheckedReader.instructionSize ≤ bs.length := by
  rw [← h.length_flags]
  simp [instructionLayout, lengthField, Layout.flags, Field.flags, ix.programId.size,
    CheckedReader.instructionSize]
  omega

theorem accountSize_le {p : Pubkey × SolanaAccount} (h : Layout.Matches (accountLayout p) bs) :
    CheckedReader.accountSize ≤ bs.length := by
  rw [← h.length_flags]
  simp [accountLayout, lengthField, Layout.flags, Field.flags, p.1.size, p.2.owner.size,
    CheckedReader.accountSize]

end Sizes

namespace CheckedReader

theorem readOneInstruction_thrifty : Thrifty readOneInstruction := by
  refine (Thrifty.silent readPubkey_silent).bind readPubkey_simulates fun programId => ?_
  refine (Thrifty.silent readU32_silent).bind readU32_simulates fun dataLen => ?_
  refine (Thrifty.silent (readBytes_silent _)).bind (readData_simulates dataLen) fun data => ?_
  refine (Thrifty.silent readU32_silent).bind readU32_simulates fun numMetas => ?_
  exact Thrifty.withCapacity (Thrifty.silent readAccountMeta_silent) readAccountMeta_simulates
    readAccountMeta_recognizes (fun _ _ _ h => metaSize_le h)
    (fun accounts => Thrifty.silent (Silent.pure _)) numMetas.toNat

theorem readList_thrifty {α : Type} {size : ℕ} {one : CheckedReader α} {reader : Reader α}
    {L : α → Layout} {P : α → Prop} (hone : Thrifty one) (hsim : Simulates one reader)
    (hrec : Recognizes reader L P) (hsize : ∀ a bs, P a → (L a).Matches bs → size ≤ bs.length) :
    Thrifty (readList size one) := by
  refine (Thrifty.silent readU32_silent).bind readU32_simulates fun count => ?_
  rw [← Checked.bind_pure (Checked.many one count.toNat)]
  exact Thrifty.withCapacity hone hsim hrec hsize (fun _ => Thrifty.silent (Silent.pure _)) _

theorem backed_of_result {α : Type} {one : CheckedReader α} {reader : Reader α} {trailing : String}
    (hone : Thrifty one) (hsim : Simulates one reader) {data : Bytes} (hdata : Addressable data)
    {a : α} (h : ((readAll one trailing).run data).result = .ok a) :
    Backed ((readAll one trailing).run data) := by
  have hthrifty : Thrifty (readAll one trailing) :=
    hone.bind hsim fun a => Thrifty.silent (silent_rest trailing a)
  cases hresult : (readAll one trailing data 0).result with
  | error stop =>
      rw [Checked.run, hresult] at h
      cases h
  | ok s => exact hthrifty data 0 s hdata (Nat.zero_le _) hresult

end CheckedReader

/-- Only a buffer that is rejected reserves more than it holds. -/
theorem backed_of_accepted {data : Bytes} (hdata : Addressable data) :
    (∀ ixs, deserializeInstructions data = .ok ixs →
      Backed (CheckedReader.deserializeInstructions data)) ∧
    ∀ accounts, deserializeAccounts data = .ok accounts →
      Backed (CheckedReader.deserializeAccounts data) := by
  constructor
  · intro ixs h
    have hthrifty := CheckedReader.readList_thrifty CheckedReader.readOneInstruction_thrifty
      CheckedReader.readOneInstruction_simulates readOneInstruction_recognizes
      fun _ _ _ => instructionSize_le
    refine CheckedReader.backed_of_result hthrifty
      (CheckedReader.readList_simulates CheckedReader.readOneInstruction_simulates) hdata (a := ixs) ?_
    exact (CheckedReader.run_deserializeInstructions hdata).trans (by rw [h]; rfl)
  · intro accounts h
    have hthrifty := CheckedReader.readList_thrifty
      (Thrifty.silent CheckedReader.readOneAccount_silent) CheckedReader.readOneAccount_simulates
      readOneAccount_recognizes fun _ _ _ => accountSize_le
    refine CheckedReader.backed_of_result hthrifty
      (CheckedReader.readList_simulates CheckedReader.readOneAccount_simulates) hdata
      (a := accounts) ?_
    exact (CheckedReader.run_deserializeAccounts hdata).trans (by rw [h]; rfl)

end Ffi
end Quasar
