import Quasar.Svm.SplToken

/-!
# Token — the account factories, and what the engine reads back

A factory packs the value it is given, marked as initialized or not.  The engine unpacks initialized
states only, so a factory's account is read back exactly when the value was marked.
-/

namespace Quasar
namespace Svm

open Lib
open QuasarSvm

/-! ## Default values -/

/-- `Mint::default()` -/
def SplMint.default : SplMint :=
  { mintAuthority := none
    supply := 0
    decimals := 0
    isInitialized := false
    freezeAuthority := none }

/-- `TokenAccount::default()` -/
def SplTokenAccount.default : SplTokenAccount :=
  { mint := Pubkey.default
    owner := Pubkey.default
    amount := 0
    delegate := none
    state := .uninitialized
    isNative := none
    delegatedAmount := 0
    closeAuthority := none }

/-- `ATokenGPvbdGVxr1b2hvZbsiqW5xWH25efTNsLJA8knL` -/
def splAssociatedTokenProgramId : Pubkey :=
  ⟨[140, 151, 37, 143, 78, 36, 137, 241, 187, 61, 16, 41, 20, 142, 13, 131, 11, 90, 19, 153, 218, 255,
    16, 132, 4, 142, 123, 216, 219, 233, 248, 89], rfl⟩

namespace Token

/-! ## Account factories -/

section Factories

variable (cr : Crates)

def createKeyedSystemAccount (address : Pubkey) (lamports : UInt64) : Account :=
  { address := address
    lamports := lamports
    data := []
    owner := cr.systemProgramId
    executable := false }

/-- An account of `len` bytes that a value is packed into; all factories build this one. -/
def keyedStateAccount (len : Nat) (pack : Bytes → Bytes) (address tokenProgramId : Pubkey) :
    Account :=
  { address := address
    lamports := cr.minimumBalance cr.rentDefault len
    -- `pack` writes over zeros, and does not check whether the value is initialized.
    data := pack (List.replicate len 0)
    owner := tokenProgramId
    executable := false }

def createKeyedMintAccountWithProgram (address : Pubkey) (mint : SplMint)
    (tokenProgramId : Pubkey) : Account :=
  keyedStateAccount cr splMintLen (cr.packMint mint) address tokenProgramId

def createKeyedMintAccount (address : Pubkey) (mint : SplMint) : Account :=
  createKeyedMintAccountWithProgram cr address mint splTokenProgramId

def createKeyedTokenAccountWithProgram (address : Pubkey) (token : SplTokenAccount)
    (tokenProgramId : Pubkey) : Account :=
  keyedStateAccount cr splTokenAccountLen (cr.packTokenAccount token) address tokenProgramId

def createKeyedTokenAccount (address : Pubkey) (token : SplTokenAccount) : Account :=
  createKeyedTokenAccountWithProgram cr address token splTokenProgramId

/-- The address derived from the wallet, the token program and the mint. -/
def associatedTokenAddress (wallet mint tokenProgramId : Pubkey) : Pubkey :=
  (cr.findProgramAddress [wallet.bytes, tokenProgramId.bytes, mint.bytes]
    splAssociatedTokenProgramId).1

/-- The value of an associated token account; unlike the other values it is always marked. -/
def associatedToken (wallet mint : Pubkey) (amount : UInt64) : SplTokenAccount :=
  { SplTokenAccount.default with
    mint := mint
    owner := wallet
    amount := amount
    state := .initialized }

def createKeyedAssociatedTokenAccountWithProgram (wallet mint : Pubkey) (amount : UInt64)
    (tokenProgramId : Pubkey) : Account :=
  createKeyedTokenAccountWithProgram cr (associatedTokenAddress cr wallet mint tokenProgramId)
    (associatedToken wallet mint amount) tokenProgramId

def createKeyedAssociatedTokenAccount (wallet mint : Pubkey) (amount : UInt64) : Account :=
  createKeyedAssociatedTokenAccountWithProgram cr wallet mint amount splTokenProgramId

end Factories

/-! ## What the accounts hold -/

variable {cr : Crates} {mints : Packed SplMint} {tokens : Packed SplTokenAccount}
  {mint : SplMint} {token : SplTokenAccount}
  {mintAddress tokenAddress mintProgram tokenProgram : Pubkey}

/-- The data of a factory's account is the value packed over zeros. -/
theorem data_keyedStateAccount {α : Type} {p : Packed α} {len : Nat} (hwidth : p.width = len)
    (a : α) (address tokenProgramId : Pubkey) :
    (keyedStateAccount cr len (p.put a) address tokenProgramId).data = p.fresh a := by
  subst hwidth
  rfl

theorem data_createKeyedMintAccountWithProgram (h : TokenCodecs cr mints tokens)
    (address : Pubkey) (mint : SplMint) (tokenProgramId : Pubkey) :
    (createKeyedMintAccountWithProgram cr address mint tokenProgramId).data = mints.fresh mint := by
  rw [createKeyedMintAccountWithProgram, h.packMint]
  exact data_keyedStateAccount h.mintWidth mint address tokenProgramId

theorem data_createKeyedTokenAccountWithProgram (h : TokenCodecs cr mints tokens)
    (address : Pubkey) (token : SplTokenAccount) (tokenProgramId : Pubkey) :
    (createKeyedTokenAccountWithProgram cr address token tokenProgramId).data =
      tokens.fresh token := by
  rw [createKeyedTokenAccountWithProgram, h.packTokenAccount]
  exact data_keyedStateAccount h.tokenWidth token address tokenProgramId

/-- The account of a mint holds the mint if it is marked, and never a token account. -/
theorem holds_createKeyedMintAccountWithProgram (h : TokenCodecs cr mints tokens)
    (address : Pubkey) (mint : SplMint) (tokenProgramId : Pubkey) :
    let account := (createKeyedMintAccountWithProgram cr address mint tokenProgramId).toPair.2
    mintOf cr account = (if mint.isInitialized then some mint else none) ∧
      tokenOf cr account = none := by
  have hdata := data_createKeyedMintAccountWithProgram h address mint tokenProgramId
  have hlen : (mints.fresh mint).length = splMintLen := (mints.length_fresh mint).trans h.mintWidth
  -- The two states are told apart by their lengths.
  have hother : splMintLen ≠ splTokenAccountLen := by decide
  refine ⟨?_, ?_⟩
  · simp only [mintOf, Account.toPair, hdata, hlen, if_true, h.unpackMint_fresh]
  · simp only [tokenOf, Account.toPair, hdata, hlen, hother, if_false]

theorem holds_createKeyedTokenAccountWithProgram (h : TokenCodecs cr mints tokens)
    (address : Pubkey) (token : SplTokenAccount) (tokenProgramId : Pubkey) :
    let account := (createKeyedTokenAccountWithProgram cr address token tokenProgramId).toPair.2
    tokenOf cr account = (if token.isInitialized then some token else none) ∧
      mintOf cr account = none := by
  have hdata := data_createKeyedTokenAccountWithProgram h address token tokenProgramId
  have hlen : (tokens.fresh token).length = splTokenAccountLen :=
    (tokens.length_fresh token).trans h.tokenWidth
  have hother : splTokenAccountLen ≠ splMintLen := by decide
  refine ⟨?_, ?_⟩
  · simp only [tokenOf, Account.toPair, hdata, hlen, if_true, h.unpackTokenAccount_fresh]
  · simp only [mintOf, Account.toPair, hdata, hlen, hother, if_false]

/-! ## One entry -/

theorem extractTokenBalances_pair (cr : Crates) (p q : Pubkey × SolanaAccount) :
    extractTokenBalances cr [p, q] =
      ((tokenOf cr p.2).map (balanceOf cr [p, q] 0)).toList ++
        ((tokenOf cr q.2).map (balanceOf cr [p, q] 1)).toList := by
  simp only [extractTokenBalances, List.zipIdx_cons, List.zipIdx_nil, List.filterMap_cons,
    List.filterMap_nil, tokenBalance_eq]
  cases tokenOf cr p.2 with
  | none =>
      cases tokenOf cr q.2 with
      | none => rfl
      | some t => rfl
  | some t =>
      cases tokenOf cr q.2 with
      | none => rfl
      | some t' => rfl

/-- Exactly one entry is reported, with the fields of the token account and the decimals of the
mint. -/
def ReportsOne (cr : Crates) (mint : SplMint) (token : SplTokenAccount)
    (accounts : List (Pubkey × SolanaAccount)) : Prop :=
  ∃ e, extractTokenBalances cr accounts = [e] ∧ e.mint = cr.pubkeyToString token.mint ∧
    e.owner = some (cr.pubkeyToString token.owner) ∧
    e.uiTokenAmount.amount = toString token.amount.toNat ∧
    e.uiTokenAmount.decimals = mint.decimals

/-- The engine reads both accounts back: they unpack as the given values, marked, and in either
order one token balance is reported. -/
structure ReadBack (cr : Crates) (mint : SplMint) (token : SplTokenAccount)
    (mintAccount tokenAccount : Account) : Prop where
  unpackMint : cr.unpackMint mintAccount.data = some mint.marked
  unpackToken : cr.unpackTokenAccount tokenAccount.data = some token.marked
  mintFirst : ReportsOne cr mint token [mintAccount.toPair, tokenAccount.toPair]
  tokenFirst : ReportsOne cr mint token [tokenAccount.toPair, mintAccount.toPair]

/-- The first account under the mint's address decides about the decimals. -/
theorem mintDecimals_cons (p : Pubkey × SolanaAccount) (rest : List (Pubkey × SolanaAccount))
    (mint : Pubkey) :
    mintDecimals cr (p :: rest) mint =
      if p.1 = mint then ((mintOf cr p.2).map SplMint.decimals).getD 0
      else mintDecimals cr rest mint := by
  by_cases h : p.1 = mint
  · simp [mintDecimals_eq, h]
  · simp [mintDecimals_eq, h]

theorem mintDecimals_mintFirst (h : TokenCodecs cr mints tokens) (hmint : mint.isInitialized = true)
    (token : SplTokenAccount) (tokenAddress mintProgram tokenProgram : Pubkey) :
    mintDecimals cr
      [(createKeyedMintAccountWithProgram cr token.mint mint mintProgram).toPair,
        (createKeyedTokenAccountWithProgram cr tokenAddress token tokenProgram).toPair]
      token.mint = mint.decimals := by
  have hholds := (holds_createKeyedMintAccountWithProgram h token.mint mint mintProgram).1
  rw [mintDecimals_cons, hholds, if_pos hmint]
  exact if_pos rfl

theorem mintDecimals_tokenFirst (h : TokenCodecs cr mints tokens)
    (hmint : mint.isInitialized = true) (token : SplTokenAccount)
    (tokenAddress mintProgram tokenProgram : Pubkey) :
    mintDecimals cr
      [(createKeyedTokenAccountWithProgram cr tokenAddress token tokenProgram).toPair,
        (createKeyedMintAccountWithProgram cr token.mint mint mintProgram).toPair]
      token.mint = if tokenAddress = token.mint then 0 else mint.decimals := by
  have hmintHolds := (holds_createKeyedMintAccountWithProgram h token.mint mint mintProgram).1
  have htokenHolds := (holds_createKeyedTokenAccountWithProgram h tokenAddress token tokenProgram).2
  -- A token account under the mint's address is no mint, so it shows 0.
  rw [mintDecimals_cons, mintDecimals_cons, hmintHolds, htokenHolds, if_pos hmint]
  exact congrArg (ite (tokenAddress = token.mint) 0) (if_pos rfl)

/-- A marked token account makes one entry, wherever the mint's account stands. -/
theorem extractTokenBalances_factories (h : TokenCodecs cr mints tokens)
    (htoken : token.isInitialized = true) (mint : SplMint)
    (mintAddress tokenAddress mintProgram tokenProgram : Pubkey) :
    let mintPair := (createKeyedMintAccountWithProgram cr mintAddress mint mintProgram).toPair
    let tokenPair := (createKeyedTokenAccountWithProgram cr tokenAddress token tokenProgram).toPair
    extractTokenBalances cr [mintPair, tokenPair] = [balanceOf cr [mintPair, tokenPair] 1 token] ∧
      extractTokenBalances cr [tokenPair, mintPair] =
        [balanceOf cr [tokenPair, mintPair] 0 token] := by
  have hmintHolds := (holds_createKeyedMintAccountWithProgram h mintAddress mint mintProgram).2
  have htokenHolds := (holds_createKeyedTokenAccountWithProgram h tokenAddress token tokenProgram).1
  rw [if_pos htoken] at htokenHolds
  refine ⟨?_, ?_⟩
  · rw [extractTokenBalances_pair, hmintHolds, htokenHolds]
    rfl
  · rw [extractTokenBalances_pair, hmintHolds, htokenHolds]
    rfl

theorem reportsOne_mintFirst (h : TokenCodecs cr mints tokens) (hmint : mint.isInitialized = true)
    (htoken : token.isInitialized = true) :
    ReportsOne cr mint token
      [(createKeyedMintAccountWithProgram cr token.mint mint mintProgram).toPair,
        (createKeyedTokenAccountWithProgram cr tokenAddress token tokenProgram).toPair] :=
  ⟨_, (extractTokenBalances_factories h htoken _ _ _ _ _).1, rfl, rfl, rfl,
    mintDecimals_mintFirst h hmint token tokenAddress mintProgram tokenProgram⟩

/-- One address for both accounts hides the decimals of the mint behind the token account. -/
theorem reportsOne_tokenFirst_iff (h : TokenCodecs cr mints tokens)
    (hmint : mint.isInitialized = true) (htoken : token.isInitialized = true) :
    ReportsOne cr mint token
        [(createKeyedTokenAccountWithProgram cr tokenAddress token tokenProgram).toPair,
          (createKeyedMintAccountWithProgram cr token.mint mint mintProgram).toPair] ↔
      (tokenAddress = token.mint → mint.decimals = 0) := by
  have hentry := (extractTokenBalances_factories h htoken mint token.mint tokenAddress mintProgram
    tokenProgram).2
  have hshown := mintDecimals_tokenFirst h hmint token tokenAddress mintProgram tokenProgram
  constructor
  · rintro ⟨e, he, -, -, -, hdecimals⟩ hsame
    rw [hentry] at he
    cases he
    rw [if_pos hsame] at hshown
    exact hdecimals.symm.trans hshown
  · intro hdistinct
    refine ⟨_, hentry, rfl, rfl, rfl, hshown.trans ?_⟩
    by_cases hsame : tokenAddress = token.mint
    · rw [if_pos hsame, hdistinct hsame]
    · rw [if_neg hsame]

/-- The accounts are read back exactly when both values are marked, unless one address is that of
both accounts and hides the mint's decimals. -/
theorem readBack_iff (h : TokenCodecs cr mints tokens) (haddress : token.mint = mintAddress) :
    ReadBack cr mint token (createKeyedMintAccountWithProgram cr mintAddress mint mintProgram)
        (createKeyedTokenAccountWithProgram cr tokenAddress token tokenProgram) ↔
      mint.isInitialized = true ∧ token.isInitialized = true ∧
        (tokenAddress = mintAddress → mint.decimals = 0) := by
  subst haddress
  have hmintData := data_createKeyedMintAccountWithProgram h token.mint mint mintProgram
  have htokenData := data_createKeyedTokenAccountWithProgram h tokenAddress token tokenProgram
  constructor
  · intro hread
    have hmint : mint.isInitialized = true := by
      have hunpack := hread.unpackMint
      rw [hmintData, h.unpackMint_fresh] at hunpack
      by_contra hnot
      simp [hnot] at hunpack
    have htoken : token.isInitialized = true := by
      have hunpack := hread.unpackToken
      rw [htokenData, h.unpackTokenAccount_fresh] at hunpack
      by_contra hnot
      simp [hnot] at hunpack
    exact ⟨hmint, htoken, (reportsOne_tokenFirst_iff h hmint htoken).1 hread.tokenFirst⟩
  · rintro ⟨hmint, htoken, hdistinct⟩
    refine ⟨?_, ?_, reportsOne_mintFirst h hmint htoken,
      (reportsOne_tokenFirst_iff h hmint htoken).2 hdistinct⟩
    · rw [hmintData, h.unpackMint_fresh, if_pos hmint, SplMint.marked_eq_self_iff.2 hmint]
    · rw [htokenData, h.unpackTokenAccount_fresh, if_pos htoken,
        SplTokenAccount.marked_eq_self_iff.2 htoken]

/-- All factories: what they build is read back exactly when the values were marked, and an
associated token account needs a marked mint only. -/
theorem factories_readBack_iff (h : TokenCodecs cr mints tokens) (mint : SplMint) :
    (∀ (token : SplTokenAccount) (mintAddress tokenAddress mintProgram tokenProgram : Pubkey),
      token.mint = mintAddress →
      (ReadBack cr mint token (createKeyedMintAccountWithProgram cr mintAddress mint mintProgram)
          (createKeyedTokenAccountWithProgram cr tokenAddress token tokenProgram) ↔
        mint.isInitialized = true ∧ token.state ≠ .uninitialized ∧
          (tokenAddress = mintAddress → mint.decimals = 0)) ∧
      (ReadBack cr mint token (createKeyedMintAccount cr mintAddress mint)
          (createKeyedTokenAccount cr tokenAddress token) ↔
        mint.isInitialized = true ∧ token.state ≠ .uninitialized ∧
          (tokenAddress = mintAddress → mint.decimals = 0))) ∧
    ∀ (wallet mintAddress : Pubkey) (amount : UInt64) (mintProgram tokenProgram : Pubkey),
      (ReadBack cr mint (associatedToken wallet mintAddress amount)
          (createKeyedMintAccountWithProgram cr mintAddress mint mintProgram)
          (createKeyedAssociatedTokenAccountWithProgram cr wallet mintAddress amount tokenProgram) ↔
        mint.isInitialized = true ∧
          (associatedTokenAddress cr wallet mintAddress tokenProgram = mintAddress →
            mint.decimals = 0)) ∧
      (ReadBack cr mint (associatedToken wallet mintAddress amount)
          (createKeyedMintAccount cr mintAddress mint)
          (createKeyedAssociatedTokenAccount cr wallet mintAddress amount) ↔
        mint.isInitialized = true ∧
          (associatedTokenAddress cr wallet mintAddress splTokenProgramId = mintAddress →
            mint.decimals = 0)) := by
  refine ⟨?_, ?_⟩
  · intro token mintAddress tokenAddress mintProgram tokenProgram haddress
    have hstate : token.isInitialized = true ↔ token.state ≠ .uninitialized := by
      simp [SplTokenAccount.isInitialized]
    rw [← hstate]
    exact ⟨readBack_iff h haddress, readBack_iff h haddress⟩
  · intro wallet mintAddress amount mintProgram tokenProgram
    have haddress : (associatedToken wallet mintAddress amount).mint = mintAddress := rfl
    have hmarked : (associatedToken wallet mintAddress amount).isInitialized = true := rfl
    refine ⟨?_, ?_⟩
    · refine (readBack_iff h haddress).trans ?_
      simp only [hmarked, true_and]
    · refine (readBack_iff h haddress).trans ?_
      simp only [hmarked, true_and]

/-- `Mint { decimals: 6, supply: 10_000, ..Default::default() }` -/
def readmeMint : SplMint :=
  { SplMint.default with
    decimals := 6
    supply := 10000 }

/-- `TokenAccount { mint, owner, amount: 5_000, ..Default::default() }` -/
def readmeToken (mint owner : Pubkey) : SplTokenAccount :=
  { SplTokenAccount.default with
    mint := mint
    owner := owner
    amount := 5000 }

theorem factories_readBack_iff_reference :
    let mint := { readmeMint with isInitialized := true }
    let token := { readmeToken (Pubkey.filled 1) (Pubkey.filled 3) with state := .initialized }
    ReadBack Reference.splCrates mint token
        (createKeyedMintAccount Reference.splCrates (Pubkey.filled 1) mint)
        (createKeyedTokenAccount Reference.splCrates (Pubkey.filled 2) token) ↔
      mint.isInitialized = true ∧ token.state ≠ .uninitialized ∧
        (Pubkey.filled 2 = Pubkey.filled 1 → mint.decimals = 0) :=
  ((factories_readBack_iff Reference.splCrates_codecs _).1 _ _ _ (Pubkey.filled 4)
    (Pubkey.filled 4) rfl).2

/-- The values in the form of the documentation: neither account unpacks, no balance is reported, and
beside an associated token account the mint shows 0 decimals. -/
theorem readme_accounts_not_readBack :
    let cr := Reference.splCrates
    let mintAccount := createKeyedMintAccount cr (Pubkey.filled 1) readmeMint
    let token := readmeToken (Pubkey.filled 1) (Pubkey.filled 3)
    let tokenAccount := createKeyedTokenAccount cr (Pubkey.filled 2) token
    let associated := createKeyedAssociatedTokenAccount cr (Pubkey.filled 3) (Pubkey.filled 1) 5000
    (cr.unpackMint mintAccount.data = none ∧ cr.unpackTokenAccount tokenAccount.data = none ∧
      extractTokenBalances cr [mintAccount.toPair, tokenAccount.toPair] = []) ∧
    (extractTokenBalances cr [mintAccount.toPair, associated.toPair]).map
      (fun e => (e.uiTokenAmount.amount, e.uiTokenAmount.decimals)) = [("5000", 0)] ∧
    ¬ ReadBack cr readmeMint token mintAccount tokenAccount ∧
    ¬ ReadBack cr readmeMint (associatedToken (Pubkey.filled 3) (Pubkey.filled 1) 5000) mintAccount
      associated := by
  have hmint : Reference.splCrates.unpackMint
      (createKeyedMintAccount Reference.splCrates (Pubkey.filled 1) readmeMint).data = none := by
    decide
  refine ⟨⟨hmint, ?_, ?_⟩, ?_, ?_, ?_⟩
  · decide +kernel
  · decide +kernel
  · decide +kernel
  · intro hread
    cases hmint.symm.trans hread.unpackMint
  · intro hread
    cases hmint.symm.trans hread.unpackMint

end Token

end Svm
end Quasar
