import Quasar.Svm.SplToken
import Quasar.Svm.StoreLedger

/-!
# TokenBook — mints and token accounts over a history

The book has the mint or the token account that the engine reads under each key.  An operation puts
an account there as a whole, or it sets the amount or the supply of what is there, or it leaves the
entry alone.  Between two accounts that are put there as a whole nothing but the amount and the
supply changes, and each of these is what was set last.
-/

namespace Quasar
namespace Svm

open Lib

/-! ## Holdings -/

/-- What the engine reads in the data of an account. -/
inductive Holding
  | mint (mint : SplMint)
  | token (token : SplTokenAccount)

namespace Holding

/-- The data of a mint and of a token account differ in length, so at most one of them reads. -/
def ofData (cr : Crates) (data : Bytes) : Option Holding :=
  ((cr.unpackMint data).map .mint).or ((cr.unpackTokenAccount data).map .token)

/-- A mint has no amount. -/
def withAmount (amount : UInt64) : Holding → Holding
  | .mint m => .mint m
  | .token t => .token { t with amount := amount }

/-- A token account has no supply. -/
def withSupply (supply : UInt64) : Holding → Holding
  | .mint m => .mint { m with supply := supply }
  | .token t => .token t

def isToken : Holding → Bool
  | .mint _ => false
  | .token _ => true

@[simp] theorem isToken_withAmount (amount : UInt64) (h : Holding) :
    (h.withAmount amount).isToken = h.isToken := by
  cases h with
  | _ => rfl

@[simp] theorem isToken_withSupply (supply : UInt64) (h : Holding) :
    (h.withSupply supply).isToken = h.isToken := by
  cases h with
  | _ => rfl

variable {cr : Crates} {mints : Packed SplMint} {tokens : Packed SplTokenAccount}

theorem length_of_unpackMint (h : TokenCodecs cr mints tokens) {data : Bytes} {m : SplMint}
    (hunpack : cr.unpackMint data = some m) :
    data.length = splMintLen ∧ m.isInitialized = true := by
  rw [h.unpackMint, Packed.unpack, h.mintWidth] at hunpack
  split at hunpack
  · rename_i hlen
    exact ⟨hlen, (Option.filter_eq_some_iff.1 hunpack).2⟩
  · cases hunpack

theorem length_of_unpackTokenAccount (h : TokenCodecs cr mints tokens) {data : Bytes}
    {t : SplTokenAccount} (hunpack : cr.unpackTokenAccount data = some t) :
    data.length = splTokenAccountLen ∧ t.isInitialized = true := by
  rw [h.unpackTokenAccount, Packed.unpack, h.tokenWidth] at hunpack
  split at hunpack
  · rename_i hlen
    exact ⟨hlen, (Option.filter_eq_some_iff.1 hunpack).2⟩
  · cases hunpack

/-- Data of another length holds no mint. -/
theorem unpackMint_eq_none (h : TokenCodecs cr mints tokens) {data : Bytes}
    (hlen : data.length ≠ splMintLen) : cr.unpackMint data = none := by
  cases hunpack : cr.unpackMint data with
  | none => rfl
  | some m => exact absurd (length_of_unpackMint h hunpack).1 hlen

theorem unpackTokenAccount_eq_none (h : TokenCodecs cr mints tokens) {data : Bytes}
    (hlen : data.length ≠ splTokenAccountLen) : cr.unpackTokenAccount data = none := by
  cases hunpack : cr.unpackTokenAccount data with
  | none => rfl
  | some t => exact absurd (length_of_unpackTokenAccount h hunpack).1 hlen

theorem ofData_nil (h : TokenCodecs cr mints tokens) : ofData cr [] = none := by
  rw [ofData, unpackMint_eq_none h (by decide), unpackTokenAccount_eq_none h (by decide)]
  rfl

/-- The data after a balance was set reads as what was there, with the new amount. -/
theorem ofData_withAmount (h : TokenCodecs cr mints tokens) (amount : UInt64) (data : Bytes) :
    ofData cr (Svm.withAmount cr amount data) = (ofData cr data).map (withAmount amount) := by
  cases hunpack : cr.unpackTokenAccount data with
  | none =>
      have hsame : Svm.withAmount cr amount data = data := by
        simp only [Svm.withAmount, hunpack]
      rw [hsame, ofData, hunpack]
      cases cr.unpackMint data with
      | none => rfl
      | some m => rfl
  | some t =>
      rcases length_of_unpackTokenAccount h hunpack with ⟨hlen, hmarked⟩
      have hdst : data.length = tokens.width := hlen.trans h.tokenWidth.symm
      have hdata :
          Svm.withAmount cr amount data = tokens.put { t with amount := amount } data := by
        simp only [Svm.withAmount, hunpack, h.packTokenAccount]
      have hne : splTokenAccountLen ≠ splMintLen := by decide
      -- As many bytes are written as were there, and they hold the same kind of state.
      have hlen' : (tokens.put { t with amount := amount } data).length = splTokenAccountLen :=
        (tokens.length_put _ hdst).trans h.tokenWidth
      have hread : cr.unpackTokenAccount (tokens.put { t with amount := amount } data) =
          some { t with amount := amount } := by
        have hmarked' :
            SplTokenAccount.isInitialized { t with amount := amount } = true := hmarked
        rw [h.unpackTokenAccount, Packed.unpack_put _ hdst, if_pos hmarked']
      have hnomint : cr.unpackMint data = none := unpackMint_eq_none h (by rw [hlen]; exact hne)
      have hnomint' := unpackMint_eq_none h (by rw [hlen']; exact hne)
      rw [hdata, ofData, ofData, hunpack, hread, hnomint, hnomint']
      rfl

theorem ofData_withSupply (h : TokenCodecs cr mints tokens) (supply : UInt64) (data : Bytes) :
    ofData cr (Svm.withSupply cr supply data) = (ofData cr data).map (withSupply supply) := by
  cases hunpack : cr.unpackMint data with
  | none =>
      have hsame : Svm.withSupply cr supply data = data := by
        simp only [Svm.withSupply, hunpack]
      rw [hsame, ofData, hunpack]
      cases cr.unpackTokenAccount data with
      | none => rfl
      | some t => rfl
  | some m =>
      rcases length_of_unpackMint h hunpack with ⟨hlen, hmarked⟩
      have hdst : data.length = mints.width := hlen.trans h.mintWidth.symm
      have hdata :
          Svm.withSupply cr supply data = mints.put { m with supply := supply } data := by
        simp only [Svm.withSupply, hunpack, h.packMint]
      have hread : cr.unpackMint (mints.put { m with supply := supply } data) =
          some { m with supply := supply } := by
        have hmarked' : SplMint.isInitialized { m with supply := supply } = true := hmarked
        rw [h.unpackMint, Packed.unpack_put _ hdst, if_pos hmarked']
      rw [hdata, ofData, ofData, hunpack, hread]
      rfl

end Holding

/-! ## The book -/

namespace QuasarSvm

/-- The mint or the token account under a key, as the engine reads it. -/
def holding (cr : Crates) (svm : QuasarSvm) (k : Pubkey) : Option Holding :=
  (svm.view k).bind fun e => Holding.ofData cr e.data

/-- What is read in an account that an operation puts under the key as a whole. -/
def restated (cr : Crates) (rt : Runtime) (svm : QuasarSvm) (k : Pubkey) :
    Operation → Option (Option Holding)
  | .setAccount account =>
      if account.address = k then some (Holding.ofData cr account.data) else none
  | .createAccount pubkey space _ =>
      if pubkey = k then some (Holding.ofData cr (List.replicate space 0)) else none
  | .execute ixs accounts true =>
      (HashMap.lastOf k (writtenBack (ownKeys cr (.execute ixs accounts true))
        (svm.executeInner cr rt ixs accounts true).2)).map fun e => Holding.ofData cr e.data
  | _ => none

/-- What an operation does to the holding that is under the key. -/
def adjusted (k : Pubkey) : Operation → Holding → Holding
  | .setTokenBalance address amount => if address = k then Holding.withAmount amount else id
  | .setMintSupply address supply => if address = k then Holding.withSupply supply else id
  | _ => id

variable {cr : Crates} {rt : Runtime} {mints : Packed SplMint} {tokens : Packed SplTokenAccount}
  {svm svm' : QuasarSvm} {k : Pubkey}

theorem holding_of_view (hview : svm'.view k = svm.view k) :
    svm'.holding cr k = svm.holding cr k := by
  rw [holding, hview, holding]

theorem holding_insert (svm : QuasarSvm) (k' : Pubkey) (a : SolanaAccount) (k : Pubkey) :
    ({ svm with accounts := svm.accounts.insert k' a } : QuasarSvm).holding cr k =
      if k' = k then Holding.ofData cr a.data else svm.holding cr k := by
  rw [holding, view_insert]
  by_cases hk : k' = k
  · rw [if_pos hk, if_pos hk.symm]
    rfl
  · rw [if_neg hk, if_neg (Ne.symm hk)]
    rfl

/-- A call that rewrites the data under one key. -/
theorem holding_of_appliesToData {address : Pubkey} {f : Bytes → Bytes} {g : Holding → Holding}
    (happlies : AppliesToData svm svm' address f)
    (hdata : ∀ data, Holding.ofData cr (f data) = (Holding.ofData cr data).map g) :
    svm'.holding cr k = (svm.holding cr k).map (if address = k then g else id) := by
  have hview := view_of_appliesToData happlies k
  by_cases hk : address = k
  · rw [if_pos hk.symm] at hview
    rw [if_pos hk, holding, hview, hk]
    cases hk' : svm.view k with
    | none => simp [holding, hk']
    | some e => simp [holding, hk', LedgerEntry.mapData, hdata]
  · rw [if_neg (Ne.symm hk)] at hview
    rw [if_neg hk, Option.map_id, holding_of_view hview]
    rfl

/-- One operation: an account is put under the key as a whole, or the holding there is adjusted. -/
theorem holding_operate (h : TokenCodecs cr mints tokens) (svm : QuasarSvm) (op : Operation)
    (k : Pubkey) :
    (svm.operate cr rt op).1.holding cr k =
      (restated cr rt svm k op).getD ((svm.holding cr k).map (adjusted k op)) := by
  have hkept : ∀ {svm' : QuasarSvm}, svm'.view k = svm.view k →
      svm'.holding cr k = (svm.holding cr k).map id := by
    intro svm' hview
    rw [Option.map_id, holding_of_view hview]
    rfl
  cases op with
  | setAccount account =>
      refine (holding_insert svm account.address account.toPair.2 k).trans ?_
      by_cases hk : account.address = k
      · simp [restated, hk, Account.toPair]
      · simp [restated, hk, adjusted]
  | createAccount pubkey space owner =>
      refine (holding_insert svm pubkey _ k).trans ?_
      by_cases hk : pubkey = k
      · simp [restated, hk]
      · simp [restated, hk, adjusted]
  | airdrop pubkey lamports =>
      -- The data of an account that is there stays; a new account has none.
      have hdata : (svm.airdrop cr pubkey lamports).holding cr pubkey = svm.holding cr pubkey := by
        refine (holding_insert svm pubkey _ pubkey).trans ?_
        rw [if_pos rfl, holding, view_eq]
        cases svm.accounts.lookup pubkey with
        | none => exact Holding.ofData_nil h
        | some a => rfl
      by_cases hk : pubkey = k
      · subst hk
        simp only [restated, adjusted, Option.getD_none, Option.map_id]
        exact hdata
      · refine (holding_insert svm pubkey _ k).trans ?_
        simp [restated, hk, adjusted]
  | setTokenBalance address amount =>
      refine (holding_of_appliesToData (appliesToData_setTokenBalance svm address amount)
        (Holding.ofData_withAmount h amount)).trans ?_
      simp [restated, adjusted]
  | setMintSupply address supply =>
      refine (holding_of_appliesToData (appliesToData_setMintSupply svm address supply)
        (Holding.ofData_withSupply h supply)).trans ?_
      simp [restated, adjusted]
  | execute ixs accounts commit =>
      cases commit with
      | false => exact hkept (view_simulate svm ixs accounts k)
      | true =>
          have hview : (svm.executeInner cr rt ixs accounts true).1.view k = _ :=
            view_execute svm ixs accounts k
          refine (congrArg (fun v => Option.bind v fun e => Holding.ofData cr e.data) hview).trans ?_
          -- What is written back under the key stands for what was there.
          cases hwritten : HashMap.lastOf k (writtenBack (ownKeys cr (.execute ixs accounts true))
              (svm.executeInner cr rt ixs accounts true).2) with
          | none => simp [restated, hwritten, adjusted, holding]
          | some e => simp [restated, hwritten]
  | addProgram programId loaderKey elf =>
      have hstore : (svm.addProgram cr programId loaderKey elf).1.accounts = svm.accounts := by
        unfold addProgram
        cases svm.programCache.addProgram cr programId loaderKey elf with
        | none => rfl
        | some programCache => rfl
      refine hkept ?_
      rw [view_eq, view_eq, operate, hstore]
  | _ => exact hkept rfl

/-! ## Histories -/

/-- The amount that a history sets last under the key. -/
def lastAmount (k : Pubkey) (ops : List Operation) : Option UInt64 :=
  (ops.filterMap fun op =>
    match op with
    | .setTokenBalance address amount => if address = k then some amount else none
    | _ => none).getLast?

/-- The supply that a history sets last under the key. -/
def lastSupply (k : Pubkey) (ops : List Operation) : Option UInt64 :=
  (ops.filterMap fun op =>
    match op with
    | .setMintSupply address supply => if address = k then some supply else none
    | _ => none).getLast?

end QuasarSvm

/-- A holding with what was set last, as far as it has it. -/
def Holding.settled (amount supply : Option UInt64) : Holding → Holding
  | .mint m => .mint { m with supply := supply.getD m.supply }
  | .token t => .token { t with amount := amount.getD t.amount }

namespace QuasarSvm

variable {cr : Crates} {rt : Runtime} {mints : Packed SplMint} {tokens : Packed SplTokenAccount}
  {svm : QuasarSvm} {k : Pubkey}

theorem settled_cons (op : Operation) (ops : List Operation) (held : Holding) :
    (adjusted k op held).settled (lastAmount k ops) (lastSupply k ops) =
      held.settled (lastAmount k (op :: ops)) (lastSupply k (op :: ops)) := by
  cases op with
  | setTokenBalance address amount =>
      by_cases hk : address = k
      · cases held with
        | mint m => simp [adjusted, hk, lastSupply, Holding.settled, Holding.withAmount]
        | token t =>
            simp [adjusted, hk, lastAmount, Holding.settled, Holding.withAmount, List.getLast?_cons]
      · simp [adjusted, hk, lastAmount, lastSupply]
  | setMintSupply address supply =>
      by_cases hk : address = k
      · cases held with
        | mint m =>
            simp [adjusted, hk, lastSupply, Holding.settled, Holding.withSupply, List.getLast?_cons]
        | token t => simp [adjusted, hk, lastAmount, Holding.settled, Holding.withSupply]
      · simp [adjusted, hk, lastAmount, lastSupply]
  | _ => simp [adjusted, lastAmount, lastSupply]

theorem isToken_adjusted (k : Pubkey) (op : Operation) (held : Holding) :
    (adjusted k op held).isToken = held.isToken := by
  unfold adjusted
  split
  · split
    · exact Holding.isToken_withAmount _ held
    · rfl
  · split
    · exact Holding.isToken_withSupply _ held
    · rfl
  · rfl

/-- Whether a key holds a token account or a mint. -/
def holdsToken (cr : Crates) (svm : QuasarSvm) (k : Pubkey) : Option Bool :=
  (svm.holding cr k).map Holding.isToken

theorem holdsToken_of_lookup {acct : SolanaAccount} (hlookup : svm.accounts.lookup k = some acct) :
    svm.holdsToken cr k = (Holding.ofData cr acct.data).map Holding.isToken := by
  rw [holdsToken, holding, view_eq, hlookup]
  rfl

theorem holdsToken_of_lookup_none (hlookup : svm.accounts.lookup k = none) :
    svm.holdsToken cr k = none := by
  rw [holdsToken, holding, view_eq, hlookup]
  rfl

/-- A balance is set where a token account is, and nowhere else. -/
theorem setTokenBalance_ok_iff (h : TokenCodecs cr mints tokens) (svm : QuasarSvm) (k : Pubkey)
    (amount : UInt64) :
    (svm.setTokenBalance cr k amount).2 = .ok () ↔ svm.holdsToken cr k = some true := by
  unfold setTokenBalance
  cases hlookup : svm.accounts.lookup k with
  | none => simp [holdsToken_of_lookup_none hlookup]
  | some acct =>
      rw [holdsToken_of_lookup hlookup, Holding.ofData]
      cases hunpack : cr.unpackTokenAccount acct.data with
      | none =>
          cases cr.unpackMint acct.data with
          | none => simp [hunpack]
          | some m => simp [hunpack, Holding.isToken]
      | some t =>
          have hlen := (Holding.length_of_unpackTokenAccount h hunpack).1
          have hnomint : cr.unpackMint acct.data = none :=
            Holding.unpackMint_eq_none h (by rw [hlen]; decide)
          simp [hunpack, hnomint, Holding.isToken]

theorem setMintSupply_ok_iff (svm : QuasarSvm) (k : Pubkey) (supply : UInt64) :
    (svm.setMintSupply cr k supply).2 = .ok () ↔ svm.holdsToken cr k = some false := by
  unfold setMintSupply
  cases hlookup : svm.accounts.lookup k with
  | none => simp [holdsToken_of_lookup_none hlookup]
  | some acct =>
      rw [holdsToken_of_lookup hlookup, Holding.ofData]
      cases hunpack : cr.unpackMint acct.data with
      | some m => simp [hunpack, Holding.isToken]
      | none =>
          cases cr.unpackTokenAccount acct.data with
          | none => simp [hunpack]
          | some t => simp [hunpack, Holding.isToken]

/-- As long as no account is put under the key as a whole, the mint or the token account there keeps
all its fields but the amount or the supply, which is what was set last; and setting one of these
succeeds exactly when there was a token account, or a mint, to begin with. -/
theorem holding_after (h : TokenCodecs cr mints tokens) (svm : QuasarSvm) {ops : List Operation}
    (hkept : ∀ p ∈ (machine cr rt).steps svm ops, restated cr rt p.1 k p.2 = none) :
    (svm.after cr rt ops).holding cr k =
        (svm.holding cr k).map (Holding.settled (lastAmount k ops) (lastSupply k ops)) ∧
      ∀ p ∈ (machine cr rt).steps svm ops,
        (∀ amount, p.2 = .setTokenBalance k amount →
          ((p.1.operate cr rt p.2).2 = .done (.ok ()) ↔ svm.holdsToken cr k = some true)) ∧
        ∀ supply, p.2 = .setMintSupply k supply →
          ((p.1.operate cr rt p.2).2 = .done (.ok ()) ↔ svm.holdsToken cr k = some false) := by
  induction ops generalizing svm with
  | nil =>
      refine ⟨?_, fun p hp => absurd hp List.not_mem_nil⟩
      have hsame : Holding.settled (lastAmount k []) (lastSupply k []) = id := by
        funext held
        cases held with
        | _ => rfl
      rw [hsame, Option.map_id]
      rfl
  | cons op ops ih =>
      rcases List.forall_mem_cons.1 hkept with ⟨hop, hkept⟩
      have hstep :
          (svm.operate cr rt op).1.holding cr k = (svm.holding cr k).map (adjusted k op) := by
        rw [holding_operate h svm op k, hop, Option.getD_none]
      have hkind : (svm.operate cr rt op).1.holdsToken cr k = svm.holdsToken cr k := by
        rw [holdsToken, hstep, Option.map_map, holdsToken]
        exact congrArg (fun f => (svm.holding cr k).map f) (funext (isToken_adjusted k op))
      rcases ih (svm.operate cr rt op).1 hkept with ⟨hrest, hreplies⟩
      refine ⟨?_, ?_⟩
      · calc
          (svm.after cr rt (op :: ops)).holding cr k
              = ((svm.operate cr rt op).1.holding cr k).map
                  (Holding.settled (lastAmount k ops) (lastSupply k ops)) := hrest
          _ = (svm.holding cr k).map fun held =>
                (adjusted k op held).settled (lastAmount k ops) (lastSupply k ops) := by
              rw [hstep, Option.map_map]
              rfl
          _ = (svm.holding cr k).map
                (Holding.settled (lastAmount k (op :: ops)) (lastSupply k (op :: ops))) :=
              congrArg (fun f => (svm.holding cr k).map f) (funext (settled_cons op ops))
      · intro p hp
        rcases List.mem_cons.1 hp with rfl | hp
        · refine ⟨?_, ?_⟩
          · rintro amount rfl
            rw [← setTokenBalance_ok_iff h svm k amount]
            exact ⟨Reply.done.inj, congrArg Reply.done⟩
          · rintro supply rfl
            rw [← setMintSupply_ok_iff svm k supply]
            exact ⟨Reply.done.inj, congrArg Reply.done⟩
        · have hreply := hreplies p hp
          rw [hkind] at hreply
          exact hreply

def sampleToken : SplTokenAccount :=
  { mint := Pubkey.filled 1
    owner := Pubkey.filled 2
    amount := 100
    delegate := none
    state := .frozen
    isNative := none
    delegatedAmount := 0
    closeAuthority := some (Pubkey.filled 3) }

/-- A VM with a token account. -/
def sampleTokenVm : QuasarSvm :=
  Reference.emptyVm.setAccount
    { address := Pubkey.filled 7
      lamports := 2039280
      data := SplToken.tokenAccountLayout.fresh sampleToken
      owner := splTokenProgramId
      executable := false }

/-- The balance is set twice, and what is tried in between fails or has nothing to do with it. -/
theorem holding_after_sample :
    (sampleTokenVm.after Reference.splCrates Reference.idleRuntime
        [.setTokenBalance (Pubkey.filled 7) 5, .setMintSupply (Pubkey.filled 7) 9,
          .airdrop (Pubkey.filled 7) 1, .warpToSlot 3,
          .setTokenBalance (Pubkey.filled 7) 8]).holding Reference.splCrates (Pubkey.filled 7) =
      some (.token { sampleToken with amount := 8 }) := by
  have hheld : sampleTokenVm.holding Reference.splCrates (Pubkey.filled 7) =
      some (.token sampleToken) := by
    have hread := Reference.splCrates_codecs.unpackTokenAccount_fresh sampleToken
    have hdata : Holding.ofData Reference.splCrates
        (SplToken.tokenAccountLayout.fresh sampleToken) = some (.token sampleToken) := by
      have hlen : (SplToken.tokenAccountLayout.fresh sampleToken).length ≠ splMintLen := by
        rw [Packed.length_fresh]
        decide
      rw [Holding.ofData, hread, Holding.unpackMint_eq_none Reference.splCrates_codecs hlen]
      rfl
    exact (holding_insert Reference.emptyVm (Pubkey.filled 7) _ (Pubkey.filled 7)).trans
      ((if_pos rfl).trans hdata)
  have hkept : ∀ p ∈ (machine Reference.splCrates Reference.idleRuntime).steps sampleTokenVm
      [.setTokenBalance (Pubkey.filled 7) 5, .setMintSupply (Pubkey.filled 7) 9,
        .airdrop (Pubkey.filled 7) 1, .warpToSlot 3, .setTokenBalance (Pubkey.filled 7) 8],
      restated Reference.splCrates Reference.idleRuntime p.1 (Pubkey.filled 7) p.2 = none := by
    intro p hp
    simp only [Machine.steps, List.mem_cons, List.not_mem_nil, or_false] at hp
    rcases hp with rfl | rfl | rfl | rfl | rfl
    all_goals rfl
  rw [(holding_after Reference.splCrates_codecs sampleTokenVm hkept).1, hheld]
  rfl

end QuasarSvm
end Svm
end Quasar
