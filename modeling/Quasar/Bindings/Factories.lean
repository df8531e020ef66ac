import Quasar.Bindings.InputFormat
import Quasar.Svm.Token

/-!
# Factories — the account factories of the Python binding

Python joins the fields of a mint and of a token account by hand, and always marks them as
initialized.  The bytes are those that the engine's factories pack for the same values, so the
engine unpacks them.
-/

namespace Quasar
namespace Bindings

open Lib
open Lib.LittleEndian
open Ffi.Writer (writeList writeU64)
open Ffi (writeAccount)
open Svm (Bytes Crates Pubkey SplMint SplTokenAccount TokenCodecs splMintLen splTokenAccountLen
  splTokenProgramId)
open Svm.QuasarSvm (extractTokenBalances)
open Svm.SplToken
open Svm.Token (ReportsOne associatedToken)

namespace Python

/-! ## Account factories -/

def rentMinimumBalance (dataLen : Int) : Int :=
  (dataLen + 128) * 3480 * 2

/-- `struct.pack("<B", value)` -/
def packU8 (value : Int) : Except EncodeError Bytes := pack 1 value

/-- A tag and the 32 bytes of a key, or zeros in their place. -/
def encodeOptionPubkey : Option Pubkey → Except EncodeError Bytes
  | none => do
      let tag ← packU32 0
      pure (tag ++ List.replicate 32 0)
  | some pubkey => do
      let tag ← packU32 1
      pure (tag ++ pubkey.bytes)

def encodeOptionU64 : Option Int → Except EncodeError Bytes
  | none => do
      let tag ← packU32 0
      let zero ← packU64 0
      pure (tag ++ zero)
  | some value => do
      let tag ← packU32 1
      let bytes ← packU64 value
      pure (tag ++ bytes)

/-- The account of a factory, as it is handed to the encoder. -/
def keyedAccount (address owner : Pubkey) (lamports : Int) (data : Bytes) : Account :=
  { pubkey := address.bytes
    owner := owner.bytes
    lamports := lamports
    data := data
    executable := false }

def createKeyedMintAccount (address : Pubkey) (mintAuthority : Option Pubkey := none)
    (decimals : Int := 9) (supply : Int := 0) (freezeAuthority : Option Pubkey := none)
    (tokenProgramId : Pubkey := splTokenProgramId) : Except EncodeError Account := do
  let mintAuthority ← encodeOptionPubkey mintAuthority
  let supply ← packU64 supply
  let decimals ← packU8 decimals
  -- `is_initialized = true`, whatever the caller passes.
  let isInitialized ← packU8 1
  let freezeAuthority ← encodeOptionPubkey freezeAuthority
  let data := [mintAuthority, supply, decimals, isInitialized, freezeAuthority].flatten
  pure (keyedAccount address tokenProgramId (rentMinimumBalance data.length) data)

def createKeyedTokenAccount (address mint owner : Pubkey) (amount : Int := 0)
    (tokenProgramId : Pubkey := splTokenProgramId) : Except EncodeError Account := do
  let amount ← packU64 amount
  let delegate ← encodeOptionPubkey none
  -- The state is `Initialized`.
  let state ← packU8 1
  let isNative ← encodeOptionU64 none
  let delegatedAmount ← packU64 0
  let closeAuthority ← encodeOptionPubkey none
  let data := [mint.bytes, owner.bytes, amount, delegate, state, isNative, delegatedAmount,
    closeAuthority].flatten
  pure (keyedAccount address tokenProgramId (rentMinimumBalance data.length) data)

/-- The address is derived by the function that the engine uses. -/
def createKeyedAssociatedTokenAccount (cr : Crates) (owner mint : Pubkey) (amount : Int := 0)
    (tokenProgramId : Pubkey := splTokenProgramId) : Except EncodeError Account :=
  let ataAddress := (cr.findProgramAddress [owner.bytes, tokenProgramId.bytes, mint.bytes]
    Svm.splAssociatedTokenProgramId).1
  createKeyedTokenAccount ataAddress mint owner amount tokenProgramId

/-! ## The encoders -/

theorem packU8_eq (v : UInt8) : packU8 v.toNat = .ok [v] := by
  have hrange : (0 : Int) ≤ v.toNat ∧ (v.toNat : Int) < 256 ^ 1 := by
    have hlt := v.toNat_lt
    omega
  rw [packU8, pack, if_pos hrange, Int.toNat_natCast]
  simp [toBytes]

theorem encodeOptionPubkey_eq (k : Option Pubkey) :
    encodeOptionPubkey k = .ok (keyLayout.optional.fresh k) := by
  cases k with
  | none =>
      rw [Packed.fresh_optional_none]
      rfl
  | some k =>
      rw [Packed.fresh_optional_some]
      rfl

theorem encodeOptionU64_none :
    encodeOptionU64 none = .ok (Packed.word64.optional.fresh none) := by
  rw [Packed.fresh_optional_none]
  rfl

theorem length_mintLayout (mint : SplMint) : (mintLayout.fresh mint).length = splMintLen :=
  mintLayout.length_fresh mint

theorem length_tokenAccountLayout (token : SplTokenAccount) :
    (tokenAccountLayout.fresh token).length = splTokenAccountLen :=
  tokenAccountLayout.length_fresh token

/-- The fields of a mint that Python joins are the mint packed over zeros. -/
theorem mintFields_eq (mint : SplMint) (hmarked : mint.isInitialized = true) :
    [keyLayout.optional.fresh mint.mintAuthority, writeU64 mint.supply, [mint.decimals], [1],
      keyLayout.optional.fresh mint.freezeAuthority].flatten = mintLayout.fresh mint := by
  simp [mintLayout, u8Layout, boolLayout, hmarked, writeU64]

theorem createKeyedMintAccount_eq (address : Pubkey) (mint : SplMint)
    (hmarked : mint.isInitialized = true) (tokenProgramId : Pubkey) :
    createKeyedMintAccount address mint.mintAuthority mint.decimals.toNat mint.supply.toNat
        mint.freezeAuthority tokenProgramId =
      .ok (keyedAccount address tokenProgramId (rentMinimumBalance splMintLen)
        (mintLayout.fresh mint)) := by
  have hone : packU8 1 = .ok [1] := packU8_eq 1
  rw [createKeyedMintAccount, encodeOptionPubkey_eq, encodeOptionPubkey_eq, packU64_eq, packU8_eq,
    hone, ← length_mintLayout mint, ← mintFields_eq mint hmarked]
  rfl

/-- The fields of a token account that Python joins are the token account packed over zeros. -/
theorem tokenFields_eq (mint owner : Pubkey) (amount : UInt64) :
    [mint.bytes, owner.bytes, writeU64 amount, keyLayout.optional.fresh none, [1],
      Packed.word64.optional.fresh none, writeU64 0, keyLayout.optional.fresh none].flatten =
      tokenAccountLayout.fresh (associatedToken owner mint amount) := by
  simp [tokenAccountLayout, stateLayout, stateToByte, associatedToken, Svm.SplTokenAccount.default,
    writeU64]

theorem createKeyedTokenAccount_eq (address mint owner : Pubkey) (amount : UInt64)
    (tokenProgramId : Pubkey) :
    createKeyedTokenAccount address mint owner amount.toNat tokenProgramId =
      .ok (keyedAccount address tokenProgramId (rentMinimumBalance splTokenAccountLen)
        (tokenAccountLayout.fresh (associatedToken owner mint amount))) := by
  have hone : packU8 1 = .ok [1] := packU8_eq 1
  have hzero : packU64 0 = .ok (writeU64 0) := packU64_eq 0
  rw [createKeyedTokenAccount, packU64_eq, encodeOptionPubkey_eq, hone, encodeOptionU64_none, hzero,
    ← length_tokenAccountLayout (associatedToken owner mint amount), ← tokenFields_eq]
  rfl

/-- The derived address is that of the engine's factory. -/
theorem createKeyedAssociatedTokenAccount_eq (cr : Crates) (owner mint : Pubkey) (amount : UInt64)
    (tokenProgramId : Pubkey) :
    createKeyedAssociatedTokenAccount cr owner mint amount.toNat tokenProgramId =
      .ok (keyedAccount (Svm.Token.associatedTokenAddress cr owner mint tokenProgramId)
        tokenProgramId (rentMinimumBalance splTokenAccountLen)
        (tokenAccountLayout.fresh (associatedToken owner mint amount))) :=
  createKeyedTokenAccount_eq _ mint owner amount tokenProgramId

/-! ## The accounts of the engine's factories -/

/-- The default rent: 6960 lamports for each byte, and for 128 bytes more. -/
def DefaultRent (cr : Crates) : Prop :=
  ∀ n < 2 ^ 32, (cr.minimumBalance cr.rentDefault n).toNat = (128 + n) * 6960

theorem rentMinimumBalance_eq {cr : Crates} (hrent : DefaultRent cr) {n : Nat} (h : n < 2 ^ 32) :
    rentMinimumBalance n = (cr.minimumBalance cr.rentDefault n).toNat := by
  rw [hrent n h, rentMinimumBalance]
  push_cast
  omega

variable {cr : Crates}

theorem keyedAccount_mint (h : TokenCodecs cr mintLayout tokenAccountLayout)
    (hrent : DefaultRent cr) (address : Pubkey) (mint : SplMint) (tokenProgramId : Pubkey) :
    keyedAccount address tokenProgramId (rentMinimumBalance splMintLen) (mintLayout.fresh mint) =
      Account.ofAccount
        (Svm.Token.createKeyedMintAccountWithProgram cr address mint tokenProgramId) := by
  rw [rentMinimumBalance_eq hrent (by decide), keyedAccount, Account.ofAccount,
    Svm.Token.data_createKeyedMintAccountWithProgram h]
  rfl

theorem keyedAccount_token (h : TokenCodecs cr mintLayout tokenAccountLayout)
    (hrent : DefaultRent cr) (address : Pubkey) (token : SplTokenAccount)
    (tokenProgramId : Pubkey) :
    keyedAccount address tokenProgramId (rentMinimumBalance splTokenAccountLen)
        (tokenAccountLayout.fresh token) =
      Account.ofAccount
        (Svm.Token.createKeyedTokenAccountWithProgram cr address token tokenProgramId) := by
  rw [rentMinimumBalance_eq hrent (by decide), keyedAccount, Account.ofAccount,
    Svm.Token.data_createKeyedTokenAccountWithProgram h]
  rfl

/-- What the engine receives of accounts that Python sends. -/
def Sends (accounts : List Account) (received : List (Pubkey × Svm.SolanaAccount)) : Prop :=
  ∃ bytes, serializeAccounts accounts = .ok bytes ∧ Ffi.deserializeAccounts bytes = .ok received

theorem sends_ofAccount {accounts : List Svm.Account} (h : FitsAccounts accounts) :
    Sends (accounts.map Account.ofAccount) (accounts.map Svm.Account.toPair) :=
  ⟨_, serializeAccounts_eq h, deserializeAccounts_write h⟩

theorem sends_pair {a b : Svm.Account} (ha : FitsU32 a.data.length) (hb : FitsU32 b.data.length) :
    Sends [Account.ofAccount a, Account.ofAccount b] [a.toPair, b.toPair] := by
  have hfits : FitsAccounts [a, b] := by
    have htwo : FitsU32 2 := by decide
    refine ⟨htwo, ?_⟩
    intro x hx
    rcases List.mem_cons.1 hx with rfl | hx
    · exact ha
    · rcases List.mem_singleton.1 hx with rfl
      exact hb
  have hsends := sends_ofAccount hfits
  exact hsends

/-- The account that Python builds has the data of the engine's account, of the given length, and the
same lamports. -/
structure BuiltAs (py : Account) (account : Svm.Account) (length : Nat) : Prop where
  data : py.data = account.data
  length : py.data.length = length
  lamports : py.lamports = account.lamports.toNat

/-- What Python builds for a mint and a token account are the engine's accounts for the same values,
marked as initialized.  The engine unpacks them, and reports the token balance; behind a token
account of the same address it would not find the mint. -/
theorem python_factories_readBack (h : TokenCodecs cr mintLayout tokenAccountLayout)
    (hrent : DefaultRent cr) (mintAuthority freezeAuthority : Option Pubkey) (decimals : UInt8)
    (supply amount : UInt64) (mintAddress tokenAddress owner mintProgram tokenProgram : Pubkey) :
    let mint : SplMint :=
      { mintAuthority := mintAuthority
        supply := supply
        decimals := decimals
        isInitialized := true
        freezeAuthority := freezeAuthority }
    let token : SplTokenAccount :=
      { mint := mintAddress
        owner := owner
        amount := amount
        delegate := none
        state := .initialized
        isNative := none
        delegatedAmount := 0
        closeAuthority := none }
    let mintAccount := Svm.Token.createKeyedMintAccountWithProgram cr mintAddress mint mintProgram
    let tokenAccount :=
      Svm.Token.createKeyedTokenAccountWithProgram cr tokenAddress token tokenProgram
    ∃ pyMint pyToken,
      createKeyedMintAccount mintAddress mintAuthority decimals.toNat supply.toNat freezeAuthority
          mintProgram = .ok pyMint ∧
      createKeyedTokenAccount tokenAddress mintAddress owner amount.toNat tokenProgram =
          .ok pyToken ∧
      BuiltAs pyMint mintAccount 82 ∧ BuiltAs pyToken tokenAccount 165 ∧
      cr.unpackMint pyMint.data = some mint ∧ cr.unpackTokenAccount pyToken.data = some token ∧
      Sends [pyMint, pyToken] [mintAccount.toPair, tokenAccount.toPair] ∧
      ReportsOne cr mint token [mintAccount.toPair, tokenAccount.toPair] ∧
      Sends [pyToken, pyMint] [tokenAccount.toPair, mintAccount.toPair] ∧
      (ReportsOne cr mint token [tokenAccount.toPair, mintAccount.toPair] ↔
        (tokenAddress = mintAddress → decimals = 0)) := by
  intro mint token mintAccount tokenAccount
  have hmint : mint.isInitialized = true := rfl
  have htoken : token.isInitialized = true := rfl
  have hmintData : mintAccount.data = mintLayout.fresh mint :=
    Svm.Token.data_createKeyedMintAccountWithProgram h mintAddress mint mintProgram
  have htokenData : tokenAccount.data = tokenAccountLayout.fresh token :=
    Svm.Token.data_createKeyedTokenAccountWithProgram h tokenAddress token tokenProgram
  have hmintLength : mintAccount.data.length = splMintLen := by
    rw [hmintData, length_mintLayout]
  have htokenLength : tokenAccount.data.length = splTokenAccountLen := by
    rw [htokenData, length_tokenAccountLayout]
  have hmintFits : FitsU32 mintAccount.data.length := by
    rw [hmintLength]
    decide
  have htokenFits : FitsU32 tokenAccount.data.length := by
    rw [htokenLength]
    decide
  refine ⟨Account.ofAccount mintAccount, Account.ofAccount tokenAccount, ?_, ?_,
    ⟨rfl, hmintLength, rfl⟩, ⟨rfl, htokenLength, rfl⟩, ?_, ?_, ?_, ?_, ?_, ?_⟩
  · calc
      createKeyedMintAccount mintAddress mintAuthority decimals.toNat supply.toNat freezeAuthority
          mintProgram
          = .ok (keyedAccount mintAddress mintProgram (rentMinimumBalance splMintLen)
              (mintLayout.fresh mint)) :=
            createKeyedMintAccount_eq mintAddress mint hmint mintProgram
      _ = .ok (Account.ofAccount mintAccount) :=
            congrArg Except.ok (keyedAccount_mint h hrent mintAddress mint mintProgram)
  · calc
      createKeyedTokenAccount tokenAddress mintAddress owner amount.toNat tokenProgram
          = .ok (keyedAccount tokenAddress tokenProgram (rentMinimumBalance splTokenAccountLen)
              (tokenAccountLayout.fresh token)) :=
            createKeyedTokenAccount_eq tokenAddress mintAddress owner amount tokenProgram
      _ = .ok (Account.ofAccount tokenAccount) :=
            congrArg Except.ok (keyedAccount_token h hrent tokenAddress token tokenProgram)
  · calc
      cr.unpackMint mintAccount.data = cr.unpackMint (mintLayout.fresh mint) := by rw [hmintData]
      _ = if mint.isInitialized then some mint else none := h.unpackMint_fresh mint
      _ = some mint := if_pos hmint
  · calc
      cr.unpackTokenAccount tokenAccount.data
          = cr.unpackTokenAccount (tokenAccountLayout.fresh token) := by rw [htokenData]
      _ = if token.isInitialized then some token else none := h.unpackTokenAccount_fresh token
      _ = some token := if_pos htoken
  · exact sends_pair hmintFits htokenFits
  · exact Svm.Token.reportsOne_mintFirst h hmint htoken
  · exact sends_pair htokenFits hmintFits
  · exact Svm.Token.reportsOne_tokenFirst_iff h hmint htoken

theorem splCrates_rent : DefaultRent Svm.Reference.splCrates := by
  intro n hn
  have hlt : (128 + n) * 6960 < 2 ^ 64 := by omega
  exact UInt64.toNat_ofNat_of_lt' hlt

/-- A mint with a mint authority and without a freeze authority, in two token programs. -/
theorem python_factories_readBack_reference :
    let mint : SplMint :=
      { mintAuthority := some (Pubkey.filled 7)
        supply := 10000
        decimals := 6
        isInitialized := true
        freezeAuthority := none }
    let token : SplTokenAccount :=
      { mint := Pubkey.filled 1
        owner := Pubkey.filled 3
        amount := 5000
        delegate := none
        state := .initialized
        isNative := none
        delegatedAmount := 0
        closeAuthority := none }
    let cr := Svm.Reference.splCrates
    let mintAccount := Svm.Token.createKeyedMintAccountWithProgram cr (Pubkey.filled 1) mint
      splTokenProgramId
    let tokenAccount := Svm.Token.createKeyedTokenAccountWithProgram cr (Pubkey.filled 2) token
      Svm.splToken2022ProgramId
    ∃ pyMint pyToken,
      createKeyedMintAccount (Pubkey.filled 1) (some (Pubkey.filled 7)) 6 10000 none
          splTokenProgramId = .ok pyMint ∧
      createKeyedTokenAccount (Pubkey.filled 2) (Pubkey.filled 1) (Pubkey.filled 3) 5000
          Svm.splToken2022ProgramId = .ok pyToken ∧
      BuiltAs pyMint mintAccount 82 ∧ BuiltAs pyToken tokenAccount 165 ∧
      cr.unpackMint pyMint.data = some mint ∧ cr.unpackTokenAccount pyToken.data = some token ∧
      Sends [pyMint, pyToken] [mintAccount.toPair, tokenAccount.toPair] ∧
      ReportsOne cr mint token [mintAccount.toPair, tokenAccount.toPair] ∧
      Sends [pyToken, pyMint] [tokenAccount.toPair, mintAccount.toPair] ∧
      (ReportsOne cr mint token [tokenAccount.toPair, mintAccount.toPair] ↔
        (Pubkey.filled 2 = Pubkey.filled 1 → (6 : UInt8) = 0)) :=
  python_factories_readBack Svm.Reference.splCrates_codecs splCrates_rent
    (some (Pubkey.filled 7)) none 6 10000 5000 (Pubkey.filled 1) (Pubkey.filled 2) (Pubkey.filled 3)
    splTokenProgramId Svm.splToken2022ProgramId

end Python
end Bindings
end Quasar
