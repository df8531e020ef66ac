import Quasar.Bindings.InputFormat
import Quasar.Svm.Equivalence
import Mathlib.Data.Nat.Digits.Defs

/-!
# Lookups — the account of an address, in every interface

A result lists its accounts, and each interface looks an address up in its own way: Rust and the two
TypeScript clients take the first account of the address, Python and the TypeScript base class the
last one, and the store keeps the last one.  They agree where an address that was passed twice is a
key of the message, since its accounts are then one.
-/

namespace Quasar
namespace Bindings

open Lib
open Ffi (Conversion)
open Svm (Bytes Crates Runtime QuasarSvm)
open Svm.QuasarSvm

/-! ## The interfaces -/

/-- Two lowercase hexadecimal digits for each byte. -/
def hexKey (bytes : Bytes) : String :=
  String.ofList (bytes.flatMap fun b => [Nat.digitChar (b.toNat / 16), Nat.digitChar (b.toNat % 16)])

namespace Node

/-- The index that the constructor of the base class fills. -/
def index (accounts : List InternalAccount) : HashMap String Nat :=
  HashMap.positions (fun a => hexKey a.address) accounts

def findAccount (accounts : List InternalAccount) (addressBytes : Bytes) : Option InternalAccount :=
  match (index accounts).lookup (hexKey addressBytes) with
  | some idx => accounts[idx]?
  | none => none

end Node

namespace Web3

/-- A reported account; `rentEpoch` is always 0. -/
structure ResultAccountInfo where
  owner : Address
  lamports : UInt64
  data : Bytes
  executable : Bool
  rentEpoch : Nat
  space : Nat
  deriving DecidableEq

structure ResultAccount where
  accountId : Address
  accountInfo : ResultAccountInfo
  deriving DecidableEq

def resultAccount (a : Node.InternalAccount) : ResultAccount :=
  { accountId := ⟨a.address⟩
    accountInfo :=
      { owner := ⟨a.owner⟩
        lamports := a.lamports
        data := a.data
        executable := a.executable
        rentEpoch := 0
        space := a.data.length } }

def account (accounts : List Node.InternalAccount) (address : Address) : Option ResultAccount :=
  (accounts.map resultAccount).find? fun a => a.accountId = address

end Web3

namespace Kit

structure ResultAccount where
  address : String
  programAddress : String
  lamports : UInt64
  data : Bytes
  executable : Bool
  space : Nat
  deriving DecidableEq

/-- `decode` is `getAddressDecoder().decode`. -/
def resultAccount (decode : Bytes → String) (a : Node.InternalAccount) : ResultAccount :=
  { address := decode a.address
    programAddress := decode a.owner
    lamports := a.lamports
    data := a.data
    executable := a.executable
    space := a.data.length }

def account (decode : Bytes → String) (accounts : List Node.InternalAccount) (address : String) :
    Option ResultAccount :=
  (accounts.map (resultAccount decode)).find? fun a => a.address = address

end Kit

namespace Python

/-- A reported account, with its addresses as their bytes. -/
structure KeyedAccount where
  address : Bytes
  owner : Bytes
  lamports : UInt64
  data : Bytes
  executable : Bool
  deriving DecidableEq

def wireAccountToKeyed (acct : ResultAccount) : KeyedAccount :=
  { address := acct.pubkey
    owner := acct.owner
    lamports := acct.lamports
    data := acct.data
    executable := acct.executable }

/-- The index that the constructor fills, over the converted accounts. -/
def accountIndex (accounts : List KeyedAccount) : HashMap String Nat :=
  HashMap.positions (fun acct => hexKey acct.address) accounts

def account (wireAccounts : List ResultAccount) (address : Bytes) : Option KeyedAccount :=
  let accounts := wireAccounts.map wireAccountToKeyed
  match (accountIndex accounts).lookup (hexKey address) with
  | none => none
  | some idx => accounts[idx]?

end Python

/-! ## First and last -/

theorem hexKey_injective {a b : Bytes} (h : hexKey a = hexKey b) : a = b := by
  have hdigit : ∀ m < 16, ∀ n < 16, Nat.digitChar m = Nat.digitChar n → m = n := by
    decide
  have hchars := String.ofList_injective h
  clear h
  induction a generalizing b with
  | nil =>
      cases b with
      | nil => rfl
      | cons y ys => simp at hchars
  | cons x xs ih =>
      cases b with
      | nil => simp at hchars
      | cons y ys =>
          simp only [List.flatMap_cons, List.cons_append, List.nil_append, List.cons.injEq] at hchars
          -- The two digits of a byte are its quotient and its remainder.
          rcases hchars with ⟨hhigh, hlow, hrest⟩
          have hx := x.toNat_lt
          have hy := y.toNat_lt
          have hdiv := hdigit _ (by omega) _ (by omega) hhigh
          have hmod := hdigit _ (by omega) _ (by omega) hlow
          have hnat : x.toNat = y.toNat := by omega
          rw [UInt8.toNat_inj.1 hnat, ih hrest]

/-- The first account of an address. -/
def firstAccount (accounts : List Svm.Account) (k : Svm.Pubkey) : Option Svm.Account :=
  accounts.find? fun a => a.address = k

/-- The last account of an address. -/
def lastAccount (accounts : List Svm.Account) (k : Svm.Pubkey) : Option Svm.Account :=
  accounts.reverse.find? fun a => a.address = k

theorem bytes_inj {k k' : Svm.Pubkey} : k.bytes = k'.bytes ↔ k = k' := by
  constructor
  · intro h
    rcases k with ⟨bytes, size⟩
    rcases k' with ⟨bytes', size'⟩
    cases h
    rfl
  · exact congrArg Svm.Pubkey.bytes

/-- A search among converted accounts that asks for the same address. -/
theorem find_map_of_iff {β : Type} {f : Svm.Account → β} {p : β → Bool} {k : Svm.Pubkey}
    (h : ∀ a, p (f a) = decide (a.address = k)) (accounts : List Svm.Account) :
    (accounts.map f).find? p = (accounts.find? fun a => a.address = k).map f := by
  rw [List.find?_map]
  exact congrArg (Option.map f) (congrArg (List.find? · accounts) (funext h))

/-- What an index by hexadecimal address finds among converted accounts is the last account. -/
theorem getElem_positions_hexKey {β : Type} (f : Svm.Account → β) (address : β → Bytes)
    (h : ∀ a, address (f a) = a.address.bytes) (accounts : List Svm.Account) (k : Svm.Pubkey) :
    ((HashMap.positions (fun b => hexKey (address b)) (accounts.map f)).lookup
        (hexKey k.bytes)).bind (fun i => (accounts.map f)[i]?) =
      (lastAccount accounts k).map f := by
  have hsame : ∀ a, decide (hexKey (address (f a)) = hexKey k.bytes) = decide (a.address = k) := by
    intro a
    have hiff : hexKey a.address.bytes = hexKey k.bytes ↔ a.address = k :=
      ⟨fun hkey => bytes_inj.1 (hexKey_injective hkey), fun hkey => by rw [hkey]⟩
    simp only [h, hiff]
  have hfind := find_map_of_iff (p := fun b => decide (hexKey (address b) = hexKey k.bytes)) hsame
    accounts.reverse
  rw [HashMap.getElem_positions, HashMap.lastOf, ← List.map_reverse, List.find?_map, Option.map_map,
    ← List.map_reverse]
  exact (congrArg (Option.map _) hfind).trans (congrFun Option.map_id _)

section Interfaces

variable (tryFrom : Conversion) (decode : Bytes → String) (r : Svm.ExecutionResult)
  (k : Svm.Pubkey)

/-- The base class finds the last account of an address in a decoded result. -/
theorem Node.findAccount_ofResult :
    Node.findAccount (Node.ResultFields.ofResult tryFrom r).accounts k.bytes =
      (lastAccount r.accounts k).map Node.InternalAccount.ofAccount := by
  have hbind : ∀ accounts, Node.findAccount accounts k.bytes =
      ((Node.index accounts).lookup (hexKey k.bytes)).bind fun i => accounts[i]? := by
    intro accounts
    unfold Node.findAccount
    cases (Node.index accounts).lookup (hexKey k.bytes) with
    | none => rfl
    | some i => rfl
  refine (hbind _).trans ?_
  exact getElem_positions_hexKey Node.InternalAccount.ofAccount Node.InternalAccount.address
    (fun _ => rfl) r.accounts k

/-- The client for web3.js finds the first one. -/
theorem Web3.account_ofResult :
    Web3.account (Node.ResultFields.ofResult tryFrom r).accounts ⟨k.bytes⟩ =
      (r.account k).map fun a => Web3.resultAccount (Node.InternalAccount.ofAccount a) := by
  have hsame : ∀ a : Svm.Account, decide ((Web3.resultAccount
      (Node.InternalAccount.ofAccount a)).accountId = ⟨k.bytes⟩) = decide (a.address = k) := by
    intro a
    simp only [Web3.resultAccount, Node.InternalAccount.ofAccount, Web3.Address.mk.injEq,
      bytes_inj]
  have hmap : (Node.ResultFields.ofResult tryFrom r).accounts.map Web3.resultAccount =
      r.accounts.map fun a => Web3.resultAccount (Node.InternalAccount.ofAccount a) :=
    List.map_map
  rw [Web3.account, hmap]
  exact find_map_of_iff hsame r.accounts

/-- So does the client for kit, which compares the texts of addresses. -/
theorem Kit.account_ofResult
    (hdecode : ∀ a b : Svm.Pubkey, decode a.bytes = decode b.bytes → a = b) :
    Kit.account decode (Node.ResultFields.ofResult tryFrom r).accounts (decode k.bytes) =
      (r.account k).map fun a => Kit.resultAccount decode (Node.InternalAccount.ofAccount a) := by
  have hsame : ∀ a : Svm.Account, decide ((Kit.resultAccount decode
      (Node.InternalAccount.ofAccount a)).address = decode k.bytes) = decide (a.address = k) := by
    intro a
    have hiff : decode a.address.bytes = decode k.bytes ↔ a.address = k :=
      ⟨hdecode a.address k, fun h => by rw [h]⟩
    simp only [Kit.resultAccount, Node.InternalAccount.ofAccount, hiff]
  have hmap : (Node.ResultFields.ofResult tryFrom r).accounts.map (Kit.resultAccount decode) =
      r.accounts.map fun a => Kit.resultAccount decode (Node.InternalAccount.ofAccount a) :=
    List.map_map
  rw [Kit.account, hmap]
  exact find_map_of_iff hsame r.accounts

/-- Python finds the last one. -/
theorem Python.account_ofResult :
    Python.account (Python.ExecutionResult.ofResult tryFrom r).accounts k.bytes =
      (lastAccount r.accounts k).map fun a =>
        Python.wireAccountToKeyed (Python.ResultAccount.ofAccount a) := by
  have hbind : ∀ accounts, Python.account accounts k.bytes =
      ((Python.accountIndex (accounts.map Python.wireAccountToKeyed)).lookup
        (hexKey k.bytes)).bind fun i => (accounts.map Python.wireAccountToKeyed)[i]? := by
    intro accounts
    unfold Python.account
    dsimp only
    cases (Python.accountIndex (accounts.map Python.wireAccountToKeyed)).lookup
        (hexKey k.bytes) with
    | none => rfl
    | some i => rfl
  have hmap : (Python.ExecutionResult.ofResult tryFrom r).accounts.map Python.wireAccountToKeyed =
      r.accounts.map fun a => Python.wireAccountToKeyed (Python.ResultAccount.ofAccount a) :=
    List.map_map
  rw [hbind, hmap]
  exact getElem_positions_hexKey
    (fun a => Python.wireAccountToKeyed (Python.ResultAccount.ofAccount a))
    Python.KeyedAccount.address (fun _ => rfl) r.accounts k

variable {decode r k} in
/-- Where the first and the last reported account of an address are one, every binding finds it. -/
theorem bindings_agree (hdecode : ∀ a b : Svm.Pubkey, decode a.bytes = decode b.bytes → a = b)
    {a : Svm.Account} (hfirst : r.account k = some a) (hlast : lastAccount r.accounts k = some a) :
    Python.account (Python.ExecutionResult.ofResult tryFrom r).accounts k.bytes =
        some (Python.wireAccountToKeyed (Python.ResultAccount.ofAccount a)) ∧
      Web3.account (Node.ResultFields.ofResult tryFrom r).accounts ⟨k.bytes⟩ =
        some (Web3.resultAccount (Node.InternalAccount.ofAccount a)) ∧
      Kit.account decode (Node.ResultFields.ofResult tryFrom r).accounts (decode k.bytes) =
        some (Kit.resultAccount decode (Node.InternalAccount.ofAccount a)) ∧
      Node.findAccount (Node.ResultFields.ofResult tryFrom r).accounts k.bytes =
        some (Node.InternalAccount.ofAccount a) := by
  refine ⟨?_, ?_, ?_, ?_⟩
  · rw [Python.account_ofResult, hlast]
    rfl
  · rw [Web3.account_ofResult, hfirst]
    rfl
  · rw [Kit.account_ofResult _ _ _ _ hdecode, hfirst]
    rfl
  · rw [Node.findAccount_ofResult, hlast]
    rfl

end Interfaces

/-! ## One account for each address -/

section Commit

variable {cr : Crates} {rt : Runtime} {svm svm' : QuasarSvm} {ixs : List Svm.Instruction}
  {accounts : List Svm.Account} {o : MessageOutcome} {r : Svm.ExecutionResult} {k : Svm.Pubkey}

/-- The account that an execution used for an address: that of the transaction, or else the one that
its sysvar cache was filled from. -/
def usedAccount (svm : QuasarSvm) (accounts : List Svm.Account) (o : MessageOutcome)
    (k : Svm.Pubkey) : Option Svm.Account :=
  ((o.context.transactionContext.findAccount k).or
    (HashMap.firstOf k (svm.mergedAccounts accounts))).map (Svm.Account.fromPair k)

/-- After the call every interface returns one account for each reported address: the one that the
execution used. -/
def OneAccount (tryFrom : Conversion) (decode : Bytes → String) (svm : QuasarSvm)
    (accounts : List Svm.Account) (o : MessageOutcome) (svm' : QuasarSvm)
    (r : Svm.ExecutionResult) : Prop :=
  ∀ k ∈ r.accounts.map Svm.Account.address, ∃ a,
    usedAccount svm accounts o k = some a ∧
      r.account k = some a ∧
      Python.account (Python.ExecutionResult.ofResult tryFrom r).accounts k.bytes =
        some (Python.wireAccountToKeyed (Python.ResultAccount.ofAccount a)) ∧
      Web3.account (Node.ResultFields.ofResult tryFrom r).accounts ⟨k.bytes⟩ =
        some (Web3.resultAccount (Node.InternalAccount.ofAccount a)) ∧
      Kit.account decode (Node.ResultFields.ofResult tryFrom r).accounts (decode k.bytes) =
        some (Kit.resultAccount decode (Node.InternalAccount.ofAccount a)) ∧
      Node.findAccount (Node.ResultFields.ofResult tryFrom r).accounts k.bytes =
        some (Node.InternalAccount.ofAccount a) ∧
      svm'.getAccount k = some a

/-- An address that is passed more than once and is no key of the message is passed with the same
account first and last. -/
def DuplicatesAgree (cr : Crates) (ixs : List Svm.Instruction) (accounts : List Svm.Account) :
    Prop :=
  ∀ k, k ∉ (cr.messageNew ixs).accountKeys → firstAccount accounts k = lastAccount accounts k

theorem lastAccount_pairsToSvmAccounts (l : List (Svm.Pubkey × Svm.SolanaAccount))
    (k : Svm.Pubkey) :
    lastAccount (pairsToSvmAccounts l) k =
      (HashMap.lastOf k l).map (Svm.Account.fromPair k) := by
  have hreverse : (pairsToSvmAccounts l).reverse = pairsToSvmAccounts l.reverse := by
    simp [pairsToSvmAccounts]
  rw [lastAccount, hreverse, HashMap.lastOf_eq_firstOf_reverse]
  exact find_pairsToSvmAccounts l.reverse k

/-- Explicit accounts come back from their pairs as they were. -/
theorem pairsToSvmAccounts_map_toPair (accounts : List Svm.Account) :
    pairsToSvmAccounts (accounts.map Svm.Account.toPair) = accounts := by
  rw [pairsToSvmAccounts, List.map_map]
  exact List.map_id _

theorem firstAccount_eq (accounts : List Svm.Account) (k : Svm.Pubkey) :
    firstAccount accounts k =
      (HashMap.firstOf k (accounts.map Svm.Account.toPair)).map (Svm.Account.fromPair k) := by
  rw [← find_pairsToSvmAccounts, pairsToSvmAccounts_map_toPair, firstAccount]

theorem lastAccount_eq (accounts : List Svm.Account) (k : Svm.Pubkey) :
    lastAccount accounts k =
      (HashMap.lastOf k (accounts.map Svm.Account.toPair)).map (Svm.Account.fromPair k) := by
  rw [← lastAccount_pairsToSvmAccounts, pairsToSvmAccounts_map_toPair]

/-- What Rust and TypeScript return for an address. -/
theorem account_of_commit (cr : Crates) (o : MessageOutcome)
    (merged : List (Svm.Pubkey × Svm.SolanaAccount)) (logs : List String)
    (hsupplied : Supplied svm accounts k) :
    (report cr merged (svm.resultingAccounts accounts o) logs o).account k =
      usedAccount svm accounts o k := by
  rw [account_report_eq, firstOf_resultingAccounts, usedAccount]
  cases hfirst : HashMap.firstOf k (svm.mergedAccounts accounts) with
  | none => exact absurd hsupplied (firstOf_mergedAccounts_eq_none_iff.1 hfirst)
  | some a =>
      cases hfinal : o.context.transactionContext.findAccount k with
      | none => simp [finalAccount, hfinal]
      | some final => simp [finalAccount, hfinal]

/-- The first and the last reported account of an address are one exactly when the message names the
address, or it was passed with the same account first and last. -/
theorem account_eq_lastAccount_iff (hrun : svm.run cr rt ixs accounts = some o)
    (merged : List (Svm.Pubkey × Svm.SolanaAccount)) (logs : List String)
    (hsupplied : Supplied svm accounts k) :
    (report cr merged (svm.resultingAccounts accounts o) logs o).account k =
        lastAccount (report cr merged (svm.resultingAccounts accounts o) logs o).accounts k ↔
      k ∈ (cr.messageNew ixs).accountKeys ∨
        firstAccount accounts k = lastAccount accounts k := by
  have hlast : lastAccount (report cr merged (svm.resultingAccounts accounts o) logs o).accounts k =
      (HashMap.lastOf k (svm.resultingAccounts accounts o)).map (Svm.Account.fromPair k) :=
    lastAccount_pairsToSvmAccounts _ k
  have hfind := findAccount_isSome_iff hrun hsupplied
  rw [hlast, account_report_eq, firstOf_resultingAccounts, lastOf_resultingAccounts]
  by_cases hk : k ∈ (cr.messageNew ixs).accountKeys
  · -- Every copy of a key of the message is replaced by the transaction's account.
    rcases Option.isSome_iff_exists.1 (hfind.2 hk) with ⟨final, hfinal⟩
    have hmem := mem_mergedKeys_iff.2 hsupplied
    rcases Option.isSome_iff_exists.1 (HashMap.isSome_firstOf_iff.2 hmem) with ⟨a, ha⟩
    rcases HashMap.exists_lastOf hmem with ⟨b, hb, _⟩
    simp [hk, ha, hb, finalAccount, hfinal]
  · -- The transaction has no such account, so every copy is reported as it was supplied.
    rw [finalAccount_eq_id hrun hsupplied hk, Option.map_id, id, id, firstOf_mergedAccounts, lastOf_mergedAccounts, firstAccount_eq,
      lastAccount_eq]
    by_cases hpassed : k ∈ (accounts.map Svm.Account.toPair).map Prod.fst
    · rcases Option.isSome_iff_exists.1 (HashMap.isSome_firstOf_iff.2 hpassed) with ⟨a, ha⟩
      rcases HashMap.exists_lastOf hpassed with ⟨b, hb, _⟩
      simp [hk, ha, hb]
    · simp [HashMap.firstOf_eq_none_iff.2 hpassed, HashMap.lastOf_eq_none_iff.2 hpassed]

/-- What the store returns for an address is what the lookups by index return. -/
theorem getAccount_of_commit (cr : Crates) (o : MessageOutcome)
    (merged : List (Svm.Pubkey × Svm.SolanaAccount)) (logs : List String) :
    ((svm.afterRun o).commitAccounts (svm.resultingAccounts accounts o)).getAccount k =
      lastAccount (report cr merged (svm.resultingAccounts accounts o) logs o).accounts k := by
  have hlast : lastAccount (report cr merged (svm.resultingAccounts accounts o) logs o).accounts k =
      (HashMap.lastOf k (svm.resultingAccounts accounts o)).map (Svm.Account.fromPair k) :=
    lastAccount_pairsToSvmAccounts _ k
  rw [hlast, QuasarSvm.getAccount, lookup_commitAccounts, lastOf_resultingAccounts]

/-- The reported addresses are the supplied ones. -/
theorem mem_reported_iff (cr : Crates) (o : MessageOutcome)
    (merged : List (Svm.Pubkey × Svm.SolanaAccount)) (logs : List String) :
    k ∈ (report cr merged (svm.resultingAccounts accounts o) logs o).accounts.map
        Svm.Account.address ↔ Supplied svm accounts k := by
  rw [← mem_mergedKeys_iff]
  simp [report, pairsToSvmAccounts, resultingAccounts_eq, Function.comp_def]

/-- An address that is not passed has neither a first nor a last account. -/
theorem firstAccount_eq_lastAccount_of_not_passed (h : ¬ ∃ a ∈ accounts, a.address = k) :
    firstAccount accounts k = lastAccount accounts k := by
  have hnone : ∀ l : List Svm.Account, (∀ a ∈ l, a ∈ accounts) →
      l.find? (fun a => a.address = k) = none := by
    intro l hl
    refine List.find?_eq_none.2 ?_
    intro a ha hak
    exact h ⟨a, hl a ha, by simpa using hak⟩
  exact (hnone _ fun _ ha => ha).trans (hnone _ fun _ ha => List.mem_reverse.1 ha).symm

/-- The execution used some account for every supplied address. -/
theorem exists_usedAccount (o : MessageOutcome) (hsupplied : Supplied svm accounts k) :
    ∃ a, usedAccount svm accounts o k = some a := by
  cases hused : usedAccount svm accounts o k with
  | some a => exact ⟨a, rfl⟩
  | none =>
      rw [usedAccount, Option.map_eq_none_iff, Option.or_eq_none_iff] at hused
      exact absurd hsupplied (firstOf_mergedAccounts_eq_none_iff.1 hused.2)

/-- After a successful call every interface returns one account for each reported address exactly
when no address outside the message is passed with different accounts first and last. -/
theorem oneAccount_iff (cr : Crates) (rt : Runtime) (tryFrom : Conversion)
    (decode : Bytes → String)
    (hdecode : ∀ a b : Svm.Pubkey, decode a.bytes = decode b.bytes → a = b)
    (svm : QuasarSvm) (ixs : List Svm.Instruction) (accounts : List Svm.Account)
    (hcall : svm.processInstructionChain cr rt ixs accounts = (svm', .ok r))
    (hok : r.rawResult = .ok ()) (hrun : svm.run cr rt ixs accounts = some o) :
    OneAccount tryFrom decode svm accounts o svm' r ↔ DuplicatesAgree cr ixs accounts := by
  have hresult : o.rawResult = .ok () :=
    ((executeInner_execution cr rt svm ixs accounts true).rawResult_eq
      (congrArg Prod.snd hcall) hrun).symm.trans hok
  rw [processInstructionChain_of_ok hrun hresult] at hcall
  cases hcall
  constructor
  · intro h k hk
    by_cases hpassed : ∃ a ∈ accounts, a.address = k
    · -- Rust returns the first account of the address, the store the last one.
      have hsupplied : Supplied svm accounts k := Or.inr hpassed
      rcases h k ((mem_reported_iff cr o _ _).2 hsupplied) with
        ⟨a, _, hrust, _, _, _, _, hstore⟩
      rw [getAccount_of_commit cr o (svm.mergedAccounts accounts)
        (svm.afterRun o).drainLogs] at hstore
      have hsame := (account_eq_lastAccount_iff hrun _ _ hsupplied).1 (hrust.trans hstore.symm)
      exact hsame.resolve_left hk
    · exact firstAccount_eq_lastAccount_of_not_passed hpassed
  · intro hagree k hk
    have hsupplied := (mem_reported_iff cr o _ _).1 hk
    have hrust := account_of_commit cr o (svm.mergedAccounts accounts)
      (svm.afterRun o).drainLogs hsupplied
    have hsame := (account_eq_lastAccount_iff hrun (svm.mergedAccounts accounts)
      (svm.afterRun o).drainLogs hsupplied).2 (by
        by_cases hnamed : k ∈ (cr.messageNew ixs).accountKeys
        · exact Or.inl hnamed
        · exact Or.inr (hagree k hnamed))
    rcases exists_usedAccount o hsupplied with ⟨a, hused⟩
    have hfirst := hrust.trans hused
    have hlast := hsame.symm.trans hfirst
    rcases bindings_agree tryFrom hdecode hfirst hlast with
      ⟨hpython, hweb3, hkit, hnode⟩
    exact ⟨a, hused, hfirst, hpython, hweb3, hkit, hnode,
      (getAccount_of_commit cr o _ _).trans hlast⟩

end Commit

/-! ### Two accounts for one address -/

/-- The base-58 text of an address. -/
def base58Text (bytes : Bytes) : String :=
  let n := LittleEndian.ofBytes bytes.reverse
  let ones := (bytes.takeWhile fun b => b = 0).length
  String.ofList (List.replicate ones '1' ++
    ((Nat.digits 58 n).map fun d => base58Alphabet.getD d '1').reverse)

/-- The number of an address can be read off its text. -/
theorem ofDigits_base58Text (bytes : Bytes) :
    Nat.ofDigits 58 ((base58Text bytes).toList.reverse.map base58Alphabet.idxOf) =
      LittleEndian.ofBytes bytes.reverse := by
  have hdigit : ∀ d < 58, base58Alphabet.idxOf (base58Alphabet.getD d '1') = d := by
    decide +kernel
  have hone : base58Alphabet.idxOf '1' = 0 := by
    decide +kernel
  have hdigits : ((Nat.digits 58 (LittleEndian.ofBytes bytes.reverse)).map
      fun d => base58Alphabet.getD d '1').map base58Alphabet.idxOf =
        Nat.digits 58 (LittleEndian.ofBytes bytes.reverse) := by
    rw [List.map_map]
    refine (List.map_congr_left ?_).trans (List.map_id _)
    intro d hd
    exact hdigit d (Nat.digits_lt_base (by decide) hd)
  simp only [base58Text, String.toList_ofList, List.reverse_append, List.reverse_reverse,
    List.reverse_replicate, List.map_append, List.map_replicate, hdigits, hone,
    Nat.ofDigits_append_replicate_zero, Nat.ofDigits_digits]

theorem base58Text_injective {a b : Svm.Pubkey} (h : base58Text a.bytes = base58Text b.bytes) :
    a = b := by
  -- The number does not tell the leading zeros, but every address has 32 bytes.
  have hnumber : LittleEndian.ofBytes a.bytes.reverse = LittleEndian.ofBytes b.bytes.reverse := by
    rw [← ofDigits_base58Text, ← ofDigits_base58Text, h]
  have hbytes := LittleEndian.ofBytes_injective (by simp [a.size, b.size]) hnumber
  exact bytes_inj.1 (List.reverse_injective hbytes)

/-- An account of the address `2`. -/
def accountTwo (lamports : UInt64) : Svm.Account :=
  Svm.Account.fromPair (Svm.Pubkey.filled 2)
    { Svm.SolanaAccount.default with lamports := lamports }

/-- An address that the message names is passed twice: there is one account for it afterwards. -/
theorem oneAccount_iff_named :
    ∃ svm' r o,
      Svm.Reference.emptyVm.processInstructionChain Svm.Reference.crates Svm.Reference.idleRuntime
          [Svm.Reference.instructionOn (Svm.Pubkey.filled 9) [Svm.Pubkey.filled 2]]
          [accountTwo 1, accountTwo 5] = (svm', .ok r) ∧
        Svm.Reference.emptyVm.run Svm.Reference.crates Svm.Reference.idleRuntime
            [Svm.Reference.instructionOn (Svm.Pubkey.filled 9) [Svm.Pubkey.filled 2]]
            [accountTwo 1, accountTwo 5] = some o ∧
          OneAccount Ffi.ProgramError.tryFrom base58Text Svm.Reference.emptyVm
            [accountTwo 1, accountTwo 5] o svm' r := by
  refine ⟨_, _, _, processInstructionChain_of_ok (run_of_prepare rfl) rfl, run_of_prepare rfl, ?_⟩
  refine (oneAccount_iff Svm.Reference.crates Svm.Reference.idleRuntime Ffi.ProgramError.tryFrom
    base58Text (fun _ _ => base58Text_injective) Svm.Reference.emptyVm
    [Svm.Reference.instructionOn (Svm.Pubkey.filled 9) [Svm.Pubkey.filled 2]]
    [accountTwo 1, accountTwo 5] (processInstructionChain_of_ok (run_of_prepare rfl) rfl) rfl
    (run_of_prepare rfl)).2 ?_
  intro k hk
  have hne : Svm.Pubkey.filled 2 ≠ k := by
    rintro rfl
    exact hk (by decide +kernel)
  simp [firstAccount, lastAccount, accountTwo, hne]

/-- An address that the message does not name is passed twice: Rust returns the first account, the
store and Python the second. -/
theorem lookups_disagree :
    ∃ svm' r o,
      Svm.Reference.emptyVm.processInstructionChain Svm.Reference.crates Svm.Reference.idleRuntime
          [Svm.Reference.instructionOn (Svm.Pubkey.filled 9) []]
          [accountTwo 1, accountTwo 5] = (svm', .ok r) ∧
        Svm.Reference.emptyVm.run Svm.Reference.crates Svm.Reference.idleRuntime
            [Svm.Reference.instructionOn (Svm.Pubkey.filled 9) []]
            [accountTwo 1, accountTwo 5] = some o ∧
        r.rawResult = .ok () ∧
        r.account (Svm.Pubkey.filled 2) = some (accountTwo 1) ∧
        svm'.getAccount (Svm.Pubkey.filled 2) = some (accountTwo 5) ∧
        Python.account (Python.ExecutionResult.ofResult Ffi.ProgramError.tryFrom r).accounts
            (Svm.Pubkey.filled 2).bytes =
          some (Python.wireAccountToKeyed (Python.ResultAccount.ofAccount (accountTwo 5))) ∧
        ¬ OneAccount Ffi.ProgramError.tryFrom base58Text Svm.Reference.emptyVm
          [accountTwo 1, accountTwo 5] o svm' r := by
  refine ⟨_, _, _, processInstructionChain_of_ok (run_of_prepare rfl) rfl, run_of_prepare rfl, rfl,
    by decide +kernel, by decide +kernel, by decide +kernel, ?_⟩
  intro h
  rcases h (Svm.Pubkey.filled 2) (by decide +kernel) with ⟨a, _, hrust, _, _, _, _, hstore⟩
  have hne : some (accountTwo 1) = some (accountTwo 5) :=
    (hrust.trans hstore.symm : _ = _)
  exact absurd hne (by decide)

end Bindings
end Quasar
