import Quasar.Bindings.Encoders
import Quasar.Bindings.RoundTrip

/-!
# InputFormat — the engine reads back what the bindings write

All encoders of the bindings write the same bytes for the same instructions and accounts, and the
engine's decoder returns these.
-/

namespace Quasar
namespace Bindings

open Lib
open Lib.LittleEndian
open Ffi (writeAccount writeAccountMeta)
open Ffi.Writer
open Svm (Bytes)

/-! ## The format -/

def writeInstruction (ix : Svm.Instruction) : Bytes :=
  writePubkey ix.programId ++ (writeLengthPrefixed ix.data ++ writeList writeAccountMeta ix.accounts)

structure FitsInstruction (ix : Svm.Instruction) : Prop where
  data : FitsU32 ix.data.length
  accounts : FitsU32 ix.accounts.length

/-- Byte strings and lists are shorter than `2 ^ 32`. -/
structure FitsInstructions (ixs : List Svm.Instruction) : Prop where
  length : FitsU32 ixs.length
  instruction : ∀ ix ∈ ixs, FitsInstruction ix

structure FitsAccounts (accounts : List Svm.Account) : Prop where
  length : FitsU32 accounts.length
  data : ∀ a ∈ accounts, FitsU32 a.data.length

theorem writeLen_eq {n : Nat} (h : FitsU32 n) : writeLen n = toBytes 4 n := by
  rw [writeLen, writeU32, putU32, toNat_ofNat_of_lt h]

theorem length_writeLen (n : Nat) : (writeLen n).length = 4 := by
  simp [writeLen, writeU32]

theorem length_writeAccountMeta (m : Svm.AccountMeta) : (writeAccountMeta m).length = 34 := by
  simp [writeAccountMeta, writePubkey, writeBool, m.pubkey.size]

theorem length_writeInstruction (ix : Svm.Instruction) :
    (writeInstruction ix).length = 32 + 4 + ix.data.length + 4 + ix.accounts.length * 34 := by
  simp [writeInstruction, writePubkey, writeLengthPrefixed, writeList, length_writeLen,
    length_writeAccountMeta, ix.programId.size, List.length_flatMap]
  omega

theorem length_writeAccount (a : Svm.Account) :
    (writeAccount a).length = 32 + 32 + 8 + 4 + a.data.length + 1 := by
  simp [writeAccount, writePubkey, writeLengthPrefixed, writeU64, writeBool, length_writeLen,
    a.address.size, a.owner.size]
  omega

/-! ## The engine's decoder -/

section Engine

open Ffi.Reader

theorem readPubkey_decodes (k : Svm.Pubkey) : Decodes readPubkey (writePubkey k) k := by
  have hread := Decodes.fixed "unexpected end of input" k.size
    fun bytes => if h : bytes.length = 32 then (⟨bytes, h⟩ : Svm.Pubkey) else Svm.Pubkey.default
  have hkey : (if h : k.bytes.length = 32 then (⟨k.bytes, h⟩ : Svm.Pubkey)
      else Svm.Pubkey.default) = k := dif_pos k.size
  rw [hkey] at hread
  exact hread

theorem readBool_decodes (b : Bool) : Decodes readBool (writeBool b) b := by
  refine writeBool_decodes (fun x => ?_) b
  have hbyte : Decodes readU8 [x] x :=
    Decodes.fixed "unexpected end of input" List.length_singleton fun bytes => bytes.headD 0
  exact hbyte.bind_pure fun byte => byte != 0

theorem readU64_decodes (v : UInt64) : Decodes readU64 (writeU64 v) v :=
  writeU64_decodes _ v

theorem readU32_decodes (n : Nat) : Decodes readU32 (writeLen n) (UInt32.ofNat n) := by
  have hread := Decodes.fixed "unexpected end of input" (length_putU32 (UInt32.ofNat n)) getU32
  rw [getU32_putU32] at hread
  exact hread

/-- The bytes behind a length that fits. -/
theorem readBytes_decodes {data : Bytes} (h : FitsU32 data.length) :
    Decodes (readBytes (UInt32.ofNat data.length).toNat) data data := by
  rw [toNat_ofNat_of_lt h]
  exact Decodes.takeExact _ data

theorem many_decodes {α β : Type} {one : Ffi.Reader α} {write : β → Bytes} {val : β → α}
    {xs : List β} (h : FitsU32 xs.length) (hone : ∀ x ∈ xs, Decodes one (write x) (val x)) :
    Decodes (Decoder.many one (UInt32.ofNat xs.length).toNat) (xs.flatMap write) (xs.map val) := by
  rw [toNat_ofNat_of_lt h]
  exact Decodes.many write val xs hone

theorem readAccountMeta_decodes (m : Svm.AccountMeta) :
    Decodes Ffi.readAccountMeta (writeAccountMeta m) m := by
  refine (readPubkey_decodes m.pubkey).bind ?_
  refine (readBool_decodes m.isSigner).bind ?_
  exact (readBool_decodes m.isWritable).bind_pure _

theorem readOneInstruction_decodes {ix : Svm.Instruction} (h : FitsInstruction ix) :
    Decodes Ffi.readOneInstruction (writeInstruction ix) ix := by
  have hmetas := many_decodes h.accounts fun m _ => readAccountMeta_decodes m
  rw [List.map_id'] at hmetas
  simp only [writeInstruction, writeLengthPrefixed, writeList, List.append_assoc]
  refine (readPubkey_decodes ix.programId).bind ?_
  refine (readU32_decodes ix.data.length).bind ?_
  refine (readBytes_decodes h.data).bind ?_
  refine (readU32_decodes ix.accounts.length).bind ?_
  exact hmetas.bind_pure _

theorem readOneAccount_decodes {a : Svm.Account} (h : FitsU32 a.data.length) :
    Decodes Ffi.readOneAccount (writeAccount a) a.toPair := by
  simp only [writeAccount, writeLengthPrefixed, List.append_assoc]
  refine (readPubkey_decodes a.address).bind ?_
  refine (readPubkey_decodes a.owner).bind ?_
  refine (readU64_decodes a.lamports).bind ?_
  refine (readU32_decodes a.data.length).bind ?_
  refine (readBytes_decodes h).bind ?_
  exact (readBool_decodes a.executable).bind_pure _

/-- A reader that ends at the end of the buffer leaves no trailing data. -/
theorem readAll_eq {α : Type} {one : Ffi.Reader α} {bytes : Bytes} {a : α}
    (h : Decodes one bytes a) (trailing : String) : Ffi.readAll one trailing bytes = .ok a := by
  simp [Ffi.readAll, h.run_eq]

theorem deserializeInstructions_write {ixs : List Svm.Instruction} (h : FitsInstructions ixs) :
    Ffi.deserializeInstructions (writeList writeInstruction ixs) = .ok ixs := by
  have hmany := many_decodes h.length fun ix hix => readOneInstruction_decodes (h.instruction ix hix)
  rw [List.map_id'] at hmany
  exact readAll_eq ((readU32_decodes ixs.length).bind hmany) _

theorem deserializeAccounts_write {accounts : List Svm.Account} (h : FitsAccounts accounts) :
    Ffi.deserializeAccounts (writeList writeAccount accounts) =
      .ok (accounts.map Svm.Account.toPair) := by
  have hmany := many_decodes h.length fun a ha => readOneAccount_decodes (h.data a ha)
  exact readAll_eq ((readU32_decodes accounts.length).bind hmany) _

end Engine

/-! ## The encoders -/

/-- When every element is encoded, so is the list. -/
theorem mapM_eq {α β γ ε : Type} {encode : α → Except ε γ} {write : β → γ} {xs : List α}
    {ys : List β} (h : List.Forall₂ (fun x y => encode x = .ok (write y)) xs ys) :
    xs.mapM encode = .ok (ys.map write) := by
  induction h with
  | nil => rfl
  | cons hx _ ih =>
      rw [List.mapM_cons, hx, ih]
      rfl

theorem forall₂_of_mem {α β : Type} {R S : α → β → Prop} {xs : List α} {ys : List β}
    (h : List.Forall₂ R xs ys) (hS : ∀ x, ∀ y ∈ ys, R x y → S x y) : List.Forall₂ S xs ys := by
  induction h with
  | nil => exact List.Forall₂.nil
  | cons hxy _ ih =>
      refine List.Forall₂.cons (hS _ _ List.mem_cons_self hxy) (ih ?_)
      exact fun x y hy => hS x y (List.mem_cons_of_mem _ hy)

/-- Parts that are joined element by element. -/
theorem flatten_flatMap_eq {α : Type} {parts : α → List Bytes} {write : α → Bytes} (xs : List α)
    (h : ∀ x, (parts x).flatten = write x) : (xs.flatMap parts).flatten = xs.flatMap write := by
  have hwrite : (fun x => (parts x).flatMap id) = write := by
    funext x
    rw [List.flatMap_id, h x]
  rw [← List.flatMap_id, List.flatMap_assoc, hwrite]

/-! ### Python -/

namespace Python

def Instruction.ofInstruction (ix : Svm.Instruction) : Instruction :=
  { programId := ix.programId.bytes
    data := ix.data
    accounts := ix.accounts.map AccountMeta.ofAccountMeta }

def Account.ofAccount (a : Svm.Account) : Account :=
  { pubkey := a.address.bytes
    owner := a.owner.bytes
    lamports := a.lamports.toNat
    data := a.data
    executable := a.executable }

theorem packU32_eq {n : Nat} (h : FitsU32 n) : packU32 n = .ok (writeLen n) := by
  have hrange : (0 : Int) ≤ n ∧ (n : Int) < 256 ^ 4 := by
    have hlt : n < 2 ^ 32 := h
    omega
  rw [packU32, pack, if_pos hrange, writeLen_eq h, Int.toNat_natCast]

theorem packBool_eq (b : Bool) : packBool b = writeBool b := by
  cases b <;> rfl

theorem packU64_eq (v : UInt64) : packU64 v.toNat = .ok (writeU64 v) := by
  have hrange : (0 : Int) ≤ v.toNat ∧ (v.toNat : Int) < 256 ^ 8 := by
    have hlt := v.toNat_lt
    omega
  rw [packU64, pack, if_pos hrange, Int.toNat_natCast]
  rfl

theorem serializeInstruction_eq {ix : Svm.Instruction} (h : FitsInstruction ix) :
    serializeInstruction (Instruction.ofInstruction ix) = .ok (writeInstruction ix) := by
  have hcount : packU32 ((Instruction.ofInstruction ix).accounts.length : Nat) =
      .ok (writeLen ix.accounts.length) := by
    simpa [Instruction.ofInstruction] using packU32_eq h.accounts
  have hmetas : ((Instruction.ofInstruction ix).accounts.flatMap fun m =>
      [m.pubkey, packBool m.isSigner, packBool m.isWritable]).flatten =
        ix.accounts.flatMap writeAccountMeta := by
    rw [Instruction.ofInstruction, List.flatMap_map]
    refine flatten_flatMap_eq _ fun m => ?_
    simp [AccountMeta.ofAccountMeta, packBool_eq, writeAccountMeta, writePubkey]
  calc serializeInstruction (Instruction.ofInstruction ix)
      = .ok (([ix.programId.bytes, writeLen ix.data.length, ix.data,
          writeLen ix.accounts.length] ++
            (Instruction.ofInstruction ix).accounts.flatMap fun m =>
              [m.pubkey, packBool m.isSigner, packBool m.isWritable]).flatten) := by
        rw [serializeInstruction, hcount]
        simp only [Instruction.ofInstruction, packU32_eq h.data]
        rfl
    _ = .ok (writeInstruction ix) := by
        rw [List.flatten_append, hmetas]
        simp [writeInstruction, writePubkey, writeLengthPrefixed, writeList]

theorem serializeInstructions_eq {ixs : List Svm.Instruction} (h : FitsInstructions ixs) :
    serializeInstructions (ixs.map Instruction.ofInstruction) =
      .ok (writeList writeInstruction ixs) := by
  have hparts : (ixs.map Instruction.ofInstruction).mapM serializeInstruction =
      .ok (ixs.map writeInstruction) := by
    refine mapM_eq ?_
    rw [List.forall₂_map_left_iff, List.forall₂_same]
    intro ix hix
    exact serializeInstruction_eq (h.instruction ix hix)
  rw [serializeInstructions, List.length_map, packU32_eq h.length, hparts]
  simp [writeList, List.flatMap, Bind.bind, Except.bind, Pure.pure, Except.pure]

theorem accountParts_eq {a : Svm.Account} (h : FitsU32 a.data.length) :
    accountParts (Account.ofAccount a) =
      .ok [a.address.bytes, a.owner.bytes, writeU64 a.lamports, writeLen a.data.length, a.data,
        writeBool a.executable] := by
  simp only [accountParts, Account.ofAccount, packU64_eq, packU32_eq h]
  rfl

theorem serializeAccounts_eq {accounts : List Svm.Account} (h : FitsAccounts accounts) :
    serializeAccounts (accounts.map Account.ofAccount) = .ok (writeList writeAccount accounts) := by
  have hparts : (accounts.map Account.ofAccount).mapM accountParts =
      .ok (accounts.map fun a =>
        [a.address.bytes, a.owner.bytes, writeU64 a.lamports, writeLen a.data.length, a.data,
          writeBool a.executable]) := by
    refine mapM_eq ?_
    rw [List.forall₂_map_left_iff, List.forall₂_same]
    intro a ha
    exact accountParts_eq (h.data a ha)
  -- The parts of all accounts are joined at once.
  have hjoined : (accounts.flatMap fun a =>
      [a.address.bytes, a.owner.bytes, writeU64 a.lamports, writeLen a.data.length, a.data,
        writeBool a.executable]).flatten = accounts.flatMap writeAccount := by
    refine flatten_flatMap_eq _ fun a => ?_
    simp [writeAccount, writePubkey, writeLengthPrefixed]
  rw [serializeAccounts, List.length_map, packU32_eq h.length, hparts]
  exact congrArg (fun bytes => Except.ok (writeLen accounts.length ++ bytes)) hjoined

end Python

/-! ### TypeScript -/

namespace Node

theorem set_writes {bytes : Bytes} {n : Nat} (hn : bytes.length = n) : Writes (set bytes n) bytes :=
  Writes.set_advance _ hn

theorem writeUInt32LE_writes {n : Nat} (h : FitsU32 n) : Writes (writeUInt32LE n) (writeLen n) := by
  have hlt : n < 2 ^ 32 := h
  rw [writeUInt32LE, if_pos hlt, writeLen_eq h]
  exact set_writes (by simp)

theorem writeBigUInt64LE_writes (v : UInt64) :
    Writes (writeBigUInt64LE v.toNat) (writeU64 v) := by
  have hrange : (0 : Int) ≤ v.toNat ∧ (v.toNat : Int) < 2 ^ 64 := by
    have hlt := v.toNat_lt
    omega
  rw [writeBigUInt64LE, if_pos hrange, Int.toNat_natCast]
  exact set_writes (by simp)

theorem setFlag_writes (b : Bool) : Writes (setFlag b) (writeBool b) :=
  Writes.copy_advance rfl

theorem setAddress_writes {toBytes : String → Option Bytes} {text : String} {k : Svm.Pubkey}
    (h : toBytes text = some k.bytes) : Writes (setAddress toBytes text) (writePubkey k) := by
  rw [setAddress, h]
  exact set_writes k.size

theorem foldl_length (parts : List Bytes) (n : Nat) :
    parts.foldl (fun s p => s + p.length) n = n + parts.flatten.length := by
  induction parts generalizing n with
  | nil => simp
  | cons p parts ih =>
      rw [List.foldl_cons, ih, List.flatten_cons, List.length_append, Nat.add_assoc]

theorem joinParts_eq {α : Type} {write : α → Bytes} {xs : List α} {length : Nat}
    (hlength : length = xs.length) (h : FitsU32 xs.length) :
    joinParts length (xs.map write) = .ok (writeList write xs) := by
  subst hlength
  have hparts : List.Forall₂ (fun p x => Writes (copyPart p) (write x)) (xs.map write) xs := by
    rw [List.forall₂_map_left_iff, List.forall₂_same]
    exact fun x _ => Writes.copy_advance rfl
  refine ((writeUInt32LE_writes h).andThen (Writes.forM hparts)).fill_eq ?_
  rw [foldl_length, List.length_append, length_writeLen, Nat.zero_add]
  rfl

/-! The fields in order, however the keys are written. -/

theorem meta_writes {pubkey : Writer Unit} {m : Svm.AccountMeta}
    (hpubkey : Writes pubkey (writePubkey m.pubkey)) :
    Writes
      (do
        pubkey
        setFlag m.isSigner
        setFlag m.isWritable)
      (writeAccountMeta m) :=
  hpubkey.andThen ((setFlag_writes m.isSigner).andThen (setFlag_writes m.isWritable))

theorem instruction_writes {program metas : Writer Unit} {ix : Svm.Instruction}
    (hprogram : Writes program (writePubkey ix.programId)) (hfits : FitsInstruction ix)
    (hmetas : Writes metas (ix.accounts.flatMap writeAccountMeta)) :
    Writes
      (do
        program
        writeUInt32LE ix.data.length
        set ix.data ix.data.length
        writeUInt32LE ix.accounts.length
        metas)
      (writeInstruction ix) := by
  have hwrites := hprogram.andThen ((writeUInt32LE_writes hfits.data).andThen
    ((set_writes (rfl : ix.data.length = _)).andThen
      ((writeUInt32LE_writes hfits.accounts).andThen hmetas)))
  simpa [writeInstruction, writeLengthPrefixed, writeList] using hwrites

theorem account_writes {address owner : Writer Unit} {a : Svm.Account}
    (haddress : Writes address (writePubkey a.address)) (howner : Writes owner (writePubkey a.owner))
    (hfits : FitsU32 a.data.length) :
    Writes
      (do
        address
        owner
        writeBigUInt64LE a.lamports.toNat
        writeUInt32LE a.data.length
        set a.data a.data.length
        setFlag a.executable)
      (writeAccount a) := by
  have hwrites := haddress.andThen (howner.andThen ((writeBigUInt64LE_writes a.lamports).andThen
    ((writeUInt32LE_writes hfits).andThen ((set_writes (rfl : a.data.length = _)).andThen
      (setFlag_writes a.executable)))))
  simpa [writeAccount, writeLengthPrefixed] using hwrites

/-- The size that is computed for a list of accounts. -/
theorem accounts_size {α : Type} {dataLength : α → Nat} {as : List α}
    {accounts : List Svm.Account}
    (h : List.Forall₂ (fun a b => dataLength a = b.data.length) as accounts) :
    as.foldl (fun total a => total + (32 + 32 + 8 + 4 + dataLength a + 1)) 4 =
      (writeLen accounts.length ++ accounts.flatMap writeAccount).length := by
  have hsum : ∀ n, as.foldl (fun total a => total + (32 + 32 + 8 + 4 + dataLength a + 1)) n =
      n + (accounts.flatMap writeAccount).length := by
    induction h with
    | nil => simp
    | cons ha _ ih =>
        intro n
        rw [List.foldl_cons, ih, ha, List.flatMap_cons, List.length_append, length_writeAccount,
          Nat.add_assoc]
  rw [hsum, List.length_append, length_writeLen]

/-- A buffer of the computed size holds the accounts, however the fields are accessed. -/
theorem fillAccounts_eq {α : Type} {fields : α → Writer Unit} {dataLength : α → Nat} {as : List α}
    {accounts : List Svm.Account}
    (hfields : List.Forall₂ (fun a b => Writes (fields a) (writeAccount b)) as accounts)
    (hlength : List.Forall₂ (fun a b => dataLength a = b.data.length) as accounts)
    (hfits : FitsU32 accounts.length) :
    BufferWriter.fill (as.foldl (fun total a => total + (32 + 32 + 8 + 4 + dataLength a + 1)) 4)
      (do
        writeUInt32LE as.length
        as.forM fields) = .ok (writeList writeAccount accounts) := by
  have hwrites := (writeUInt32LE_writes hfits).andThen (Writes.forM hfields)
  -- The size was computed before any field is written.
  rw [hfields.length_eq]
  exact hwrites.fill_eq (accounts_size hlength)

end Node

namespace Kit

open Node

/-- A Kit instruction says what `ix` says, read with `toBytes`. -/
structure Represents (toBytes : String → Option Bytes) (i : Instruction) (ix : Svm.Instruction) :
    Prop where
  program : toBytes i.programAddress = some ix.programId.bytes
  data : i.data.getD [] = ix.data
  accounts : List.Forall₂
    (fun m m' => toBytes m.address = some m'.pubkey.bytes ∧ isSignerRole m.role = m'.isSigner ∧
      isWritableRole m.role = m'.isWritable)
    (i.accounts.getD []) ix.accounts

structure RepresentsAccount (toBytes : String → Option Bytes) (a : Account) (b : Svm.Account) :
    Prop where
  address : toBytes a.address = some b.address.bytes
  owner : toBytes a.programAddress = some b.owner.bytes
  lamports : a.lamports = b.lamports.toNat
  data : a.data = b.data
  executable : a.executable = b.executable

theorem serializeWith_eq {toBytes : String → Option Bytes} {i : Instruction}
    {ix : Svm.Instruction} (h : Represents toBytes i ix) (hfits : FitsInstruction ix) :
    serializeWith toBytes i = .ok (writeInstruction ix) := by
  -- The buffer is as long as the metas that are represented, however their keys are written.
  have hlength := h.accounts.length_eq
  have hmetas : Writes
      ((i.accounts.getD []).forM fun m => do
        setAddress toBytes m.address
        setFlag (isSignerRole m.role)
        setFlag (isWritableRole m.role))
      (ix.accounts.flatMap writeAccountMeta) := by
    refine Writes.forM (h.accounts.imp fun m m' hm => ?_)
    rcases hm with ⟨haddress, hsigner, hwritable⟩
    rw [hsigner, hwritable]
    exact meta_writes (setAddress_writes haddress)
  have hwrites := instruction_writes (setAddress_writes h.program) hfits hmetas
  rw [serializeWith, h.data, hlength]
  exact hwrites.fill_eq (length_writeInstruction ix).symm

variable {codec : AddressCodec}

theorem serializeInstructions_eq {is : List Instruction} {ixs : List Svm.Instruction}
    (h : List.Forall₂ (Represents codec.encode) is ixs) (hfits : FitsInstructions ixs) :
    serializeInstructions codec is = .ok (writeList writeInstruction ixs) := by
  have hparts : is.mapM (serializeInstruction codec) = .ok (ixs.map writeInstruction) :=
    mapM_eq (forall₂_of_mem h fun i ix hix hi =>
      serializeWith_eq hi (hfits.instruction ix hix))
  rw [serializeInstructions, hparts]
  exact joinParts_eq h.length_eq hfits.length

theorem serializeAccounts_eq {as : List Account} {accounts : List Svm.Account}
    (h : List.Forall₂ (RepresentsAccount codec.encode) as accounts) (hfits : FitsAccounts accounts) :
    serializeAccounts codec as = .ok (writeList writeAccount accounts) := by
  have hlength : List.Forall₂ (fun a b => a.data.length = b.data.length) as accounts :=
    h.imp fun a b ha => congrArg List.length ha.data
  refine fillAccounts_eq ?_ hlength hfits.length
  refine forall₂_of_mem h fun a b hb ha => ?_
  rw [ha.lamports, ha.data, ha.executable]
  exact account_writes (setAddress_writes ha.address) (setAddress_writes ha.owner)
    (hfits.data b hb)

end Kit

namespace Web3

open Node

/-- A supported instruction of either package says what `ix` says. -/
def Represents (codec : AddressCodec) : SupportedInstruction → Svm.Instruction → Prop
  | .kit i, ix => Kit.Represents codec.addressBytes i ix
  | .web3 i, ix =>
      i.programId.bytes = ix.programId.bytes ∧ i.data = ix.data ∧
        List.Forall₂
          (fun m m' => m.pubkey.bytes = m'.pubkey.bytes ∧ m.isSigner = m'.isSigner ∧
            m.isWritable = m'.isWritable)
          i.keys ix.accounts

structure RepresentsAccount (a : KeyedAccountInfo) (b : Svm.Account) : Prop where
  address : a.accountId.bytes = b.address.bytes
  owner : a.accountInfo.owner.bytes = b.owner.bytes
  lamports : a.accountInfo.lamports = b.lamports.toNat
  data : a.accountInfo.data = b.data
  executable : a.accountInfo.executable = b.executable

theorem serializeWeb3Instruction_eq {codec : AddressCodec} {i : TransactionInstruction}
    {ix : Svm.Instruction} (h : Represents codec (.web3 i) ix) (hfits : FitsInstruction ix) :
    serializeWeb3Instruction i = .ok (writeInstruction ix) := by
  rcases h with ⟨hprogram, hdata, haccounts⟩
  have hlength := haccounts.length_eq
  have hmetas : Writes
      (i.keys.forM fun m => do
        set m.pubkey.bytes 32
        setFlag m.isSigner
        setFlag m.isWritable)
      (ix.accounts.flatMap writeAccountMeta) := by
    refine Writes.forM (haccounts.imp fun m m' hm => ?_)
    rcases hm with ⟨hpubkey, hsigner, hwritable⟩
    rw [hpubkey, hsigner, hwritable]
    exact meta_writes (set_writes m'.pubkey.size)
  have hwrites := instruction_writes (set_writes ix.programId.size) hfits hmetas
  rw [serializeWeb3Instruction, hprogram, hdata, hlength]
  exact hwrites.fill_eq (length_writeInstruction ix).symm

theorem serializeInstruction_eq {codec : AddressCodec} {i : SupportedInstruction}
    {ix : Svm.Instruction} (h : Represents codec i ix) (hfits : FitsInstruction ix) :
    serializeInstruction codec i = .ok (writeInstruction ix) := by
  cases i with
  | web3 i => exact serializeWeb3Instruction_eq h hfits
  | kit i => exact Kit.serializeWith_eq h hfits

theorem serializeInstructions_eq {codec : AddressCodec} {is : List SupportedInstruction}
    {ixs : List Svm.Instruction} (h : List.Forall₂ (Represents codec) is ixs)
    (hfits : FitsInstructions ixs) :
    serializeInstructions codec is = .ok (writeList writeInstruction ixs) := by
  have hparts : is.mapM (serializeInstruction codec) = .ok (ixs.map writeInstruction) :=
    mapM_eq (forall₂_of_mem h fun i ix hix hi =>
      serializeInstruction_eq hi (hfits.instruction ix hix))
  rw [serializeInstructions, hparts]
  exact joinParts_eq h.length_eq hfits.length

theorem serializeAccounts_eq {as : List KeyedAccountInfo} {accounts : List Svm.Account}
    (h : List.Forall₂ RepresentsAccount as accounts) (hfits : FitsAccounts accounts) :
    serializeAccounts as = .ok (writeList writeAccount accounts) := by
  have hlength : List.Forall₂ (fun a b => a.accountInfo.data.length = b.data.length) as accounts :=
    h.imp fun a b ha => congrArg List.length ha.data
  refine fillAccounts_eq ?_ hlength hfits.length
  refine forall₂_of_mem h fun a b hb ha => ?_
  rw [ha.address, ha.owner, ha.lamports, ha.data, ha.executable]
  exact account_writes (set_writes b.address.size) (set_writes b.owner.size) (hfits.data b hb)

end Web3

/-! ## The round trip -/

open Node (AddressCodec)

/-- The same instructions and accounts become the same bytes in every binding, and the engine reads
them back; the accounts get rent epoch 0. -/
theorem serializeInput_roundTrip {codec : AddressCodec} {ixs : List Svm.Instruction}
    {accounts : List Svm.Account} (hixs : FitsInstructions ixs) (haccounts : FitsAccounts accounts)
    {web3Ixs : List Web3.SupportedInstruction} {kitIxs : List Kit.Instruction}
    {web3Accounts : List Web3.KeyedAccountInfo} {kitAccounts : List Kit.Account}
    (hweb3 : List.Forall₂ (Web3.Represents codec) web3Ixs ixs)
    (hkit : List.Forall₂ (Kit.Represents codec.encode) kitIxs ixs)
    (hweb3Accounts : List.Forall₂ Web3.RepresentsAccount web3Accounts accounts)
    (hkitAccounts : List.Forall₂ (Kit.RepresentsAccount codec.encode) kitAccounts accounts) :
    (∃ bytes,
        Python.serializeInstructions (ixs.map Python.Instruction.ofInstruction) = .ok bytes ∧
        Web3.serializeInstructions codec web3Ixs = .ok bytes ∧
        Kit.serializeInstructions codec kitIxs = .ok bytes ∧
        Ffi.deserializeInstructions bytes = .ok ixs) ∧
      ∃ bytes,
        Python.serializeAccounts (accounts.map Python.Account.ofAccount) = .ok bytes ∧
        Web3.serializeAccounts web3Accounts = .ok bytes ∧
        Kit.serializeAccounts codec kitAccounts = .ok bytes ∧
        Ffi.deserializeAccounts bytes = .ok (accounts.map Svm.Account.toPair) := by
  refine ⟨⟨writeList writeInstruction ixs, ?_, ?_, ?_, ?_⟩,
    ⟨writeList writeAccount accounts, ?_, ?_, ?_, ?_⟩⟩
  · exact Python.serializeInstructions_eq hixs
  · exact Web3.serializeInstructions_eq hweb3 hixs
  · exact Kit.serializeInstructions_eq hkit hixs
  · exact deserializeInstructions_write hixs
  · exact Python.serializeAccounts_eq haccounts
  · exact Web3.serializeAccounts_eq hweb3Accounts haccounts
  · exact Kit.serializeAccounts_eq hkitAccounts haccounts
  · exact deserializeAccounts_write haccounts

/-! ### Two instructions and an account -/

def base58Alphabet : List Char :=
  "123456789ABCDEFGHJKLMNPQRSTUVWXYZabcdefghijkmnopqrstuvwxyz".toList

/-- The number that a base-58 text stands for. -/
def base58Value (text : String) : Option Nat :=
  text.toList.foldlM (fun n c => (base58Alphabet.idxOf? c).map fun digit => n * 58 + digit) 0

/-- The 32 bytes of an address; a leading `1` stands for a leading zero byte. -/
def base58Address (text : String) : Option Bytes :=
  (base58Value text).bind fun n =>
    let bytes := (toBytes 32 n).reverse
    let ones := (text.toList.takeWhile fun c => c = '1').length
    let zeros := (bytes.takeWhile fun b => b = 0).length
    if n < 256 ^ 32 ∧ ones = zeros then some bytes else none

def base58Codec : AddressCodec :=
  { addressBytes := base58Address
    encode := base58Address }

/-- One instruction with two metas and data, and one with neither. -/
def sampleInstructions : List Svm.Instruction :=
  [{ programId := Svm.Pubkey.filled 1
     accounts :=
       [{ pubkey := Svm.Pubkey.filled 2
          isSigner := true
          isWritable := true },
        { pubkey := Svm.Pubkey.default
          isSigner := false
          isWritable := false }]
     data := [7, 8, 9] },
   { programId := Svm.Pubkey.default
     accounts := []
     data := [] }]

def sampleKitInstruction : Kit.Instruction :=
  { programAddress := "4vJ9JU1bJJE96FWSJKvHsmmFADCg4gpZQff4P3bkLKi"
    accounts := some
      [{ address := "8qbHbw2BbbTHBW1sbeqakYXVKRQM8Ne7pLK7m6CVfeR"
         role := .writableSigner },
       { address := "11111111111111111111111111111111"
         role := .readonly }]
    data := some [7, 8, 9] }

/-- Without `accounts` and `data`. -/
def sampleBareInstruction : Kit.Instruction :=
  { programAddress := "11111111111111111111111111111111"
    accounts := none
    data := none }

def sampleAccounts : List Svm.Account :=
  [{ address := Svm.Pubkey.filled 2
     lamports := 18446744073709551615
     data := [1, 2]
     owner := Svm.Pubkey.default
     executable := true }]

def sampleWeb3Account : Web3.KeyedAccountInfo :=
  { accountId := { bytes := (Svm.Pubkey.filled 2).bytes }
    accountInfo :=
      { owner := { bytes := Svm.Pubkey.default.bytes }
        lamports := 18446744073709551615
        data := [1, 2]
        executable := true } }

def sampleKitAccount : Kit.Account :=
  { address := "8qbHbw2BbbTHBW1sbeqakYXVKRQM8Ne7pLK7m6CVfeR"
    programAddress := "11111111111111111111111111111111"
    lamports := 18446744073709551615
    data := [1, 2]
    executable := true }

def sampleWeb3Instructions : List Web3.SupportedInstruction :=
  [.kit sampleKitInstruction,
    .web3
      { programId := { bytes := Svm.Pubkey.default.bytes }
        keys := []
        data := [] }]

theorem base58Address_filled_one :
    base58Address "4vJ9JU1bJJE96FWSJKvHsmmFADCg4gpZQff4P3bkLKi" =
      some (Svm.Pubkey.filled 1).bytes := by
  decide +kernel

theorem base58Address_filled_two :
    base58Address "8qbHbw2BbbTHBW1sbeqakYXVKRQM8Ne7pLK7m6CVfeR" =
      some (Svm.Pubkey.filled 2).bytes := by
  decide +kernel

theorem base58Address_default :
    base58Address "11111111111111111111111111111111" = some Svm.Pubkey.default.bytes := by
  decide +kernel

theorem represents_sampleKitInstruction :
    Kit.Represents base58Address sampleKitInstruction
      { programId := Svm.Pubkey.filled 1
        accounts :=
          [{ pubkey := Svm.Pubkey.filled 2
             isSigner := true
             isWritable := true },
           { pubkey := Svm.Pubkey.default
             isSigner := false
             isWritable := false }]
        data := [7, 8, 9] } := by
  refine ⟨base58Address_filled_one, rfl, ?_⟩
  exact .cons ⟨base58Address_filled_two, rfl, rfl⟩ (.cons ⟨base58Address_default, rfl, rfl⟩ .nil)

theorem kit_represents_sample :
    List.Forall₂ (Kit.Represents base58Codec.encode) [sampleKitInstruction, sampleBareInstruction]
      sampleInstructions :=
  .cons represents_sampleKitInstruction (.cons ⟨base58Address_default, rfl, .nil⟩ .nil)

theorem web3_represents_sample :
    List.Forall₂ (Web3.Represents base58Codec) sampleWeb3Instructions sampleInstructions :=
  .cons represents_sampleKitInstruction (.cons ⟨rfl, rfl, .nil⟩ .nil)

theorem kit_representsAccount_sample :
    List.Forall₂ (Kit.RepresentsAccount base58Codec.encode) [sampleKitAccount] sampleAccounts :=
  .cons ⟨base58Address_filled_two, base58Address_default, rfl, rfl, rfl⟩ .nil

theorem web3_representsAccount_sample :
    List.Forall₂ Web3.RepresentsAccount [sampleWeb3Account] sampleAccounts :=
  .cons ⟨rfl, rfl, rfl, rfl, rfl⟩ .nil

theorem fits_sampleInstructions : FitsInstructions sampleInstructions := by
  refine ⟨by decide, ?_⟩
  intro ix hix
  rcases List.mem_cons.1 hix with rfl | hix
  · exact ⟨by decide, by decide⟩
  · rcases List.mem_singleton.1 hix with rfl
    exact ⟨by decide, by decide⟩

theorem fits_sampleAccounts : FitsAccounts sampleAccounts :=
  ⟨by decide, by decide⟩

/-- Both instruction paths of the web3.js package, and left-out fields. -/
theorem serializeInput_roundTrip_sample :
    (∃ bytes,
        Python.serializeInstructions (sampleInstructions.map Python.Instruction.ofInstruction) =
          .ok bytes ∧
        Web3.serializeInstructions base58Codec sampleWeb3Instructions = .ok bytes ∧
        Kit.serializeInstructions base58Codec [sampleKitInstruction, sampleBareInstruction] =
          .ok bytes ∧
        Ffi.deserializeInstructions bytes = .ok sampleInstructions) ∧
      ∃ bytes,
        Python.serializeAccounts (sampleAccounts.map Python.Account.ofAccount) = .ok bytes ∧
        Web3.serializeAccounts [sampleWeb3Account] = .ok bytes ∧
        Kit.serializeAccounts base58Codec [sampleKitAccount] = .ok bytes ∧
        Ffi.deserializeAccounts bytes = .ok (sampleAccounts.map Svm.Account.toPair) :=
  serializeInput_roundTrip fits_sampleInstructions fits_sampleAccounts web3_represents_sample
    kit_represents_sample web3_representsAccount_sample kit_representsAccount_sample

end Bindings
end Quasar
