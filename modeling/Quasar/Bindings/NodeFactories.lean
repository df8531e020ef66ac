import Quasar.Bindings.Factories
import Quasar.Bindings.Lifetime
import Quasar.Bindings.Lookups

/-!
# NodeFactories — the account factories of the TypeScript packages

Both packages fill a record with the fields of a mint or a token account and leave the bytes to an
encoder of another package.  Where that encoder writes the states of the token program, the
accounts are those of the engine's own factories for the same values.
-/

namespace Quasar
namespace Bindings

open Lib
open Ffi (deserializeAccounts writeAccount)
open Ffi.Writer (writeList)
open Svm (AccountState Bytes Crates Pubkey SplMint SplTokenAccount TokenCodecs splMintLen
  splTokenAccountLen)
open Svm.SplToken
open Svm.Token (ReadBack associatedToken associatedTokenAddress readBack_iff)
open Python (DefaultRent length_mintLayout length_tokenAccountLayout)

namespace Node

def rentMinimumBalance (dataLen : Int) : Int :=
  (dataLen + 128) * 3480 * 2

def splTokenProgramText : String := "TokenkegQfeZyiNwAJbNbGKPFXCWuBvf9Ss623VQ5DA"

def splAssociatedTokenProgramText : String := "ATokenGPvbdGVxr1b2hvZbsiqW5xWH25efTNsLJA8knL"

def systemProgramText : String := "11111111111111111111111111111111"

def lamportsPerSol : Int := 1000000000

/-! ## The token package -/

/-- What the encoder of mints takes; addresses are texts. -/
structure MintRecord where
  mintAuthority : Option String
  supply : Int
  decimals : Int
  isInitialized : Bool
  freezeAuthority : Option String

/-- What the encoder of token accounts takes.  Nothing checks that the first three are there. -/
structure TokenRecord where
  mint : Option String
  owner : Option String
  amount : Option Int
  delegate : Option String
  state : AccountState
  isNative : Option Int
  delegatedAmount : Int
  closeAuthority : Option String

/-- The functions of other packages that the factories call; they may throw. -/
structure TokenPackage where
  /-- `getMintEncoder().encode` and `getTokenEncoder().encode` -/
  encodeMint : MintRecord → Except Thrown Bytes
  encodeToken : TokenRecord → Except Thrown Bytes
  getMintSize : Int
  getTokenSize : Int
  /-- `lamports` of `@solana/rpc-types` -/
  lamports : Int → Except Thrown Int
  /-- `getProgramDerivedAddress`, of a program and seeds -/
  getProgramDerivedAddress : String → List Bytes → Except Thrown String
  /-- `toBase58` and `findProgramAddress` of `@solana/web3.js` -/
  toBase58 : Web3.Address → String
  findProgramAddress : List Bytes → Web3.Address → Except Thrown Web3.Address

/-- An address in text form, or what the codec throws. -/
def encodeWith (toBytes : String → Option Bytes) (text : String) : Except Thrown Bytes :=
  match toBytes text with
  | some bytes => .ok bytes
  | none => .error (.encode .invalidAddress)

theorem encodeWith_eq {toBytes : String → Option Bytes} {text : String} {bytes : Bytes}
    (h : toBytes text = some bytes) : encodeWith toBytes text = .ok bytes := by
  simp only [encodeWith, h]

end Node

/-! ## Kit -/

namespace Kit

open Node

/-- `Partial<MintArgs>`; the factory takes no account of `isInitialized`. -/
structure MintArgs where
  mintAuthority : Option String := none
  supply : Option Int := none
  decimals : Option Int := none
  freezeAuthority : Option String := none

/-- `Partial<TokenArgs>` -/
structure TokenArgs where
  mint : Option String := none
  owner : Option String := none
  amount : Option Int := none
  delegate : Option String := none
  state : Option AccountState := none
  isNative : Option Int := none
  delegatedAmount : Option Int := none
  closeAuthority : Option String := none

/-- What the factory passes on. -/
def MintArgs.record (args : MintArgs) : MintRecord :=
  { mintAuthority := args.mintAuthority
    supply := args.supply.getD 0
    decimals := args.decimals.getD 9
    isInitialized := true
    freezeAuthority := args.freezeAuthority }

def TokenArgs.record (args : TokenArgs) : TokenRecord :=
  { mint := args.mint
    owner := args.owner
    amount := args.amount
    delegate := args.delegate
    state := args.state.getD .initialized
    isNative := args.isNative
    delegatedAmount := args.delegatedAmount.getD 0
    closeAuthority := args.closeAuthority }

variable (codec : AddressCodec) (pkg : TokenPackage)

def createKeyedSystemAccount (addr : String) (lamps : Int := lamportsPerSol) :
    Except Thrown Account := do
  let lamports ← pkg.lamports lamps
  pure
    { address := addr
      programAddress := systemProgramText
      lamports := lamports
      data := []
      executable := false }

def createKeyedMintAccount (addr : String) (args : MintArgs := {})
    (tokenProgramId : String := splTokenProgramText) : Except Thrown Account := do
  let data ← pkg.encodeMint args.record
  let lamports ← pkg.lamports (rentMinimumBalance pkg.getMintSize)
  pure
    { address := addr
      programAddress := tokenProgramId
      lamports := lamports
      data := data
      executable := false }

def createKeyedTokenAccount (addr : String) (args : TokenArgs)
    (tokenProgramId : String := splTokenProgramText) : Except Thrown Account := do
  let data ← pkg.encodeToken args.record
  let lamports ← pkg.lamports (rentMinimumBalance pkg.getTokenSize)
  pure
    { address := addr
      programAddress := tokenProgramId
      lamports := lamports
      data := data
      executable := false }

/-- The seeds are the bytes of the owner, the token program and the mint. -/
def createKeyedAssociatedTokenAccount (owner mint : String) (amount : Int)
    (tokenProgramId : String := splTokenProgramText) : Except Thrown Account := do
  let ownerBytes ← encodeWith codec.encode owner
  let programBytes ← encodeWith codec.encode tokenProgramId
  let mintBytes ← encodeWith codec.encode mint
  let ata ← pkg.getProgramDerivedAddress splAssociatedTokenProgramText
    [ownerBytes, programBytes, mintBytes]
  createKeyedTokenAccount pkg ata
    { mint := some mint, owner := some owner, amount := some amount } tokenProgramId

end Kit

/-! ## web3.js -/

namespace Web3

open Node

structure MintOpts where
  mintAuthority : Option Address := none
  supply : Option Int := none
  decimals : Option Int := none
  freezeAuthority : Option Address := none

structure TokenAccountOpts where
  mint : Address
  owner : Address
  amount : Int
  delegate : Option Address := none
  state : Option AccountState := none
  isNative : Option Int := none
  delegatedAmount : Option Int := none
  closeAuthority : Option Address := none

variable (codec : AddressCodec) (pkg : TokenPackage)

def MintOpts.record (opts : MintOpts) : MintRecord :=
  { mintAuthority := opts.mintAuthority.map pkg.toBase58
    supply := opts.supply.getD 0
    decimals := opts.decimals.getD 9
    isInitialized := true
    freezeAuthority := opts.freezeAuthority.map pkg.toBase58 }

def TokenAccountOpts.record (opts : TokenAccountOpts) : TokenRecord :=
  { mint := some (pkg.toBase58 opts.mint)
    owner := some (pkg.toBase58 opts.owner)
    amount := some opts.amount
    delegate := opts.delegate.map pkg.toBase58
    state := opts.state.getD .initialized
    isNative := opts.isNative
    delegatedAmount := opts.delegatedAmount.getD 0
    closeAuthority := opts.closeAuthority.map pkg.toBase58 }

/-- `new Address(text)` -/
def newAddress (text : String) : Except Thrown Address := do
  let bytes ← encodeWith codec.addressBytes text
  pure { bytes := bytes }

def keyed (addr owner : Address) (lamports : Int) (data : Bytes) (executable : Bool := false) :
    KeyedAccountInfo :=
  { accountId := addr
    accountInfo :=
      { owner := owner
        lamports := lamports
        data := data
        executable := executable } }

def createKeyedSystemAccount (address : Address) (lamports : Int := lamportsPerSol) :
    Except Thrown KeyedAccountInfo := do
  let systemProgram ← newAddress codec systemProgramText
  pure (keyed address systemProgram lamports [])

def createKeyedMintAccount (address : Address) (opts : MintOpts) (tokenProgramId : Address) :
    Except Thrown KeyedAccountInfo := do
  let data ← pkg.encodeMint (opts.record pkg)
  pure (keyed address tokenProgramId (rentMinimumBalance pkg.getMintSize) data)

def createKeyedTokenAccount (address : Address) (opts : TokenAccountOpts)
    (tokenProgramId : Address) : Except Thrown KeyedAccountInfo := do
  let data ← pkg.encodeToken (opts.record pkg)
  pure (keyed address tokenProgramId (rentMinimumBalance pkg.getTokenSize) data)

def createKeyedAssociatedTokenAccount (owner mint : Address) (amount : Int)
    (tokenProgramId : Address) : Except Thrown KeyedAccountInfo := do
  let associatedTokenProgram ← newAddress codec splAssociatedTokenProgramText
  let ata ← pkg.findProgramAddress [owner.bytes, tokenProgramId.bytes, mint.bytes]
    associatedTokenProgram
  -- All that is left out is what the factory of token accounts fills in.
  let data ← pkg.encodeToken
    (TokenAccountOpts.record pkg { mint := mint, owner := owner, amount := amount })
  pure (keyed ata tokenProgramId (rentMinimumBalance pkg.getTokenSize) data)

/-- Encodes the data with any encoder, and pays its rent unless lamports are given. -/
def createKeyedAccount {α : Type} (address owner : Address) (encode : α → Except Thrown Bytes)
    (data : α) (lamports : Option Int := none) : Except Thrown KeyedAccountInfo := do
  let encoded ← encode data
  pure (keyed address owner (lamports.getD (rentMinimumBalance encoded.length)) encoded)

end Web3

/-! ## What the records say -/

namespace Node

/-- A key, or none, as a text. -/
def KeyText (toBytes : String → Option Bytes) : Option String → Option Pubkey → Prop :=
  Option.Rel fun text k => toBytes text = some k.bytes

structure MeansMint (toBytes : String → Option Bytes) (record : MintRecord) (mint : SplMint) :
    Prop where
  mintAuthority : KeyText toBytes record.mintAuthority mint.mintAuthority
  supply : record.supply = mint.supply.toNat
  decimals : record.decimals = mint.decimals.toNat
  isInitialized : record.isInitialized = mint.isInitialized
  freezeAuthority : KeyText toBytes record.freezeAuthority mint.freezeAuthority

structure MeansToken (toBytes : String → Option Bytes) (record : TokenRecord)
    (token : SplTokenAccount) : Prop where
  mint : KeyText toBytes record.mint (some token.mint)
  owner : KeyText toBytes record.owner (some token.owner)
  amount : record.amount = some (token.amount.toNat : Int)
  delegate : KeyText toBytes record.delegate token.delegate
  state : record.state = token.state
  isNative : record.isNative = token.isNative.map fun n => (n.toNat : Int)
  delegatedAmount : record.delegatedAmount = token.delegatedAmount.toNat
  closeAuthority : KeyText toBytes record.closeAuthority token.closeAuthority

/-- The encoders write the states of the token program, and `lamports` passes what is a `u64`. -/
structure WritesStates (toBytes : String → Option Bytes) (pkg : TokenPackage) : Prop where
  encodeMint : ∀ record mint, MeansMint toBytes record mint →
    pkg.encodeMint record = .ok (mintLayout.fresh mint)
  encodeToken : ∀ record token, MeansToken toBytes record token →
    pkg.encodeToken record = .ok (tokenAccountLayout.fresh token)
  getMintSize : pkg.getMintSize = splMintLen
  getTokenSize : pkg.getTokenSize = splTokenAccountLen
  lamports : ∀ n : UInt64, pkg.lamports n.toNat = .ok n.toNat

theorem rentMinimumBalance_eq {cr : Crates} (hrent : DefaultRent cr) {n : Nat} (h : n < 2 ^ 32) :
    rentMinimumBalance n = (cr.minimumBalance cr.rentDefault n).toNat :=
  Python.rentMinimumBalance_eq hrent h

/-- Both ways to derive the address of an associated token account find what the engine finds. -/
structure DerivesAddress (cr : Crates) (codec : AddressCodec) (pkg : TokenPackage)
    (wallet mint tokenProgramId : Pubkey) : Prop where
  kit : ∃ text, pkg.getProgramDerivedAddress splAssociatedTokenProgramText
      [wallet.bytes, tokenProgramId.bytes, mint.bytes] = .ok text ∧
    codec.encode text = some (associatedTokenAddress cr wallet mint tokenProgramId).bytes
  web3 : pkg.findProgramAddress [wallet.bytes, tokenProgramId.bytes, mint.bytes]
      ⟨Svm.splAssociatedTokenProgramId.bytes⟩ =
    .ok ⟨(associatedTokenAddress cr wallet mint tokenProgramId).bytes⟩

end Node

/-! ## The accounts of the engine's factories -/

section Accounts

open Node

variable {cr : Crates} {codec : AddressCodec} {pkg : TokenPackage} {mint : SplMint}
  {token : SplTokenAccount} {wallet address mintAddress tokenProgramId : Pubkey}
  {walletText addressText mintText programText : String}

namespace Kit

theorem represents_system (hpkg : WritesStates codec.encode pkg)
    (hsystem : codec.encode systemProgramText = some cr.systemProgramId.bytes)
    (haddress : codec.encode addressText = some address.bytes) (lamports : UInt64) :
    ∃ a, createKeyedSystemAccount pkg addressText lamports.toNat = .ok a ∧
      RepresentsAccount codec.encode a
        (Svm.Token.createKeyedSystemAccount cr address lamports) := by
  rw [createKeyedSystemAccount, hpkg.lamports]
  exact ⟨_, rfl,
    { address := haddress
      owner := hsystem
      lamports := rfl
      data := rfl
      executable := rfl }⟩

theorem represents_mint (h : TokenCodecs cr mintLayout tokenAccountLayout)
    (hrent : DefaultRent cr) (hpkg : WritesStates codec.encode pkg)
    (haddress : codec.encode addressText = some address.bytes)
    (hprogram : codec.encode programText = some tokenProgramId.bytes) {args : MintArgs}
    (hargs : MeansMint codec.encode args.record mint) :
    ∃ a, createKeyedMintAccount pkg addressText args programText = .ok a ∧
      RepresentsAccount codec.encode a
        (Svm.Token.createKeyedMintAccountWithProgram cr address mint tokenProgramId) := by
  rw [createKeyedMintAccount, hpkg.encodeMint _ _ hargs, hpkg.getMintSize,
    rentMinimumBalance_eq hrent (by decide), hpkg.lamports]
  exact ⟨_, rfl,
    { address := haddress
      owner := hprogram
      lamports := rfl
      data := (Svm.Token.data_createKeyedMintAccountWithProgram h address mint tokenProgramId).symm
      executable := rfl }⟩

theorem represents_token (h : TokenCodecs cr mintLayout tokenAccountLayout)
    (hrent : DefaultRent cr) (hpkg : WritesStates codec.encode pkg)
    (haddress : codec.encode addressText = some address.bytes)
    (hprogram : codec.encode programText = some tokenProgramId.bytes) {args : TokenArgs}
    (hargs : MeansToken codec.encode args.record token) :
    ∃ a, createKeyedTokenAccount pkg addressText args programText = .ok a ∧
      RepresentsAccount codec.encode a
        (Svm.Token.createKeyedTokenAccountWithProgram cr address token tokenProgramId) := by
  rw [createKeyedTokenAccount, hpkg.encodeToken _ _ hargs, hpkg.getTokenSize,
    rentMinimumBalance_eq hrent (by decide), hpkg.lamports]
  exact ⟨_, rfl,
    { address := haddress
      owner := hprogram
      lamports := rfl
      data :=
        (Svm.Token.data_createKeyedTokenAccountWithProgram h address token tokenProgramId).symm
      executable := rfl }⟩

theorem represents_associatedToken (h : TokenCodecs cr mintLayout tokenAccountLayout)
    (hrent : DefaultRent cr) (hpkg : WritesStates codec.encode pkg)
    (hderives : DerivesAddress cr codec pkg wallet mintAddress tokenProgramId)
    (hwallet : codec.encode walletText = some wallet.bytes)
    (hmint : codec.encode mintText = some mintAddress.bytes)
    (hprogram : codec.encode programText = some tokenProgramId.bytes) (amount : UInt64) :
    ∃ a, createKeyedAssociatedTokenAccount codec pkg walletText mintText amount.toNat programText =
        .ok a ∧
      RepresentsAccount codec.encode a
        (Svm.Token.createKeyedAssociatedTokenAccountWithProgram cr wallet mintAddress amount
          tokenProgramId) := by
  rcases hderives.kit with ⟨ataText, hderive, hata⟩
  have hargs : MeansToken codec.encode
      (TokenArgs.record
        { mint := some mintText
          owner := some walletText
          amount := some amount.toNat })
      (associatedToken wallet mintAddress amount) :=
    { mint := .some hmint
      owner := .some hwallet
      amount := rfl
      delegate := .none
      state := rfl
      isNative := rfl
      delegatedAmount := rfl
      closeAuthority := .none }
  rcases represents_token h hrent hpkg hata hprogram hargs with ⟨a, ha, hrepresents⟩
  refine ⟨a, ?_, hrepresents⟩
  rw [createKeyedAssociatedTokenAccount, encodeWith_eq hwallet, encodeWith_eq hprogram,
    encodeWith_eq hmint]
  change (pkg.getProgramDerivedAddress splAssociatedTokenProgramText
    [wallet.bytes, tokenProgramId.bytes, mintAddress.bytes] >>= _) = _
  rw [hderive]
  exact ha

end Kit

namespace Web3

theorem newAddress_eq {text : String} {bytes : Bytes} (h : codec.addressBytes text = some bytes) :
    newAddress codec text = .ok ⟨bytes⟩ := by
  rw [newAddress, encodeWith_eq h]
  rfl

theorem represents_system (hsystem : codec.addressBytes systemProgramText =
      some cr.systemProgramId.bytes) (lamports : UInt64) :
    ∃ a, createKeyedSystemAccount codec ⟨address.bytes⟩ lamports.toNat = .ok a ∧
      RepresentsAccount a (Svm.Token.createKeyedSystemAccount cr address lamports) := by
  rw [createKeyedSystemAccount, newAddress_eq hsystem]
  exact ⟨_, rfl,
    { address := rfl
      owner := rfl
      lamports := rfl
      data := rfl
      executable := rfl }⟩

theorem represents_mint (h : TokenCodecs cr mintLayout tokenAccountLayout)
    (hrent : DefaultRent cr) (hpkg : WritesStates codec.encode pkg) {opts : MintOpts}
    (hopts : MeansMint codec.encode (opts.record pkg) mint) :
    ∃ a, createKeyedMintAccount pkg ⟨address.bytes⟩ opts ⟨tokenProgramId.bytes⟩ = .ok a ∧
      RepresentsAccount a
        (Svm.Token.createKeyedMintAccountWithProgram cr address mint tokenProgramId) := by
  rw [createKeyedMintAccount, hpkg.encodeMint _ _ hopts, hpkg.getMintSize,
    rentMinimumBalance_eq hrent (by decide)]
  exact ⟨_, rfl,
    { address := rfl
      owner := rfl
      lamports := rfl
      data := (Svm.Token.data_createKeyedMintAccountWithProgram h address mint tokenProgramId).symm
      executable := rfl }⟩

theorem represents_token (h : TokenCodecs cr mintLayout tokenAccountLayout)
    (hrent : DefaultRent cr) (hpkg : WritesStates codec.encode pkg)
    (address tokenProgramId : Pubkey) {opts : TokenAccountOpts}
    (hopts : MeansToken codec.encode (opts.record pkg) token) :
    ∃ a, createKeyedTokenAccount pkg ⟨address.bytes⟩ opts ⟨tokenProgramId.bytes⟩ = .ok a ∧
      RepresentsAccount a
        (Svm.Token.createKeyedTokenAccountWithProgram cr address token tokenProgramId) := by
  rw [createKeyedTokenAccount, hpkg.encodeToken _ _ hopts, hpkg.getTokenSize,
    rentMinimumBalance_eq hrent (by decide)]
  exact ⟨_, rfl,
    { address := rfl
      owner := rfl
      lamports := rfl
      data :=
        (Svm.Token.data_createKeyedTokenAccountWithProgram h address token tokenProgramId).symm
      executable := rfl }⟩

/-- The factory of associated token accounts does what that of token accounts does. -/
theorem represents_associatedToken (h : TokenCodecs cr mintLayout tokenAccountLayout)
    (hrent : DefaultRent cr) (hpkg : WritesStates codec.encode pkg)
    (hderives : DerivesAddress cr codec pkg wallet mintAddress tokenProgramId)
    (hassociated : codec.addressBytes splAssociatedTokenProgramText =
      some Svm.splAssociatedTokenProgramId.bytes)
    (hwallet : codec.encode (pkg.toBase58 ⟨wallet.bytes⟩) = some wallet.bytes)
    (hmint : codec.encode (pkg.toBase58 ⟨mintAddress.bytes⟩) = some mintAddress.bytes)
    (amount : UInt64) :
    ∃ a, createKeyedAssociatedTokenAccount codec pkg ⟨wallet.bytes⟩ ⟨mintAddress.bytes⟩ amount.toNat
        ⟨tokenProgramId.bytes⟩ = .ok a ∧
      RepresentsAccount a
        (Svm.Token.createKeyedAssociatedTokenAccountWithProgram cr wallet mintAddress amount
          tokenProgramId) := by
  have hopts : MeansToken codec.encode
      (TokenAccountOpts.record pkg
        { mint := ⟨mintAddress.bytes⟩
          owner := ⟨wallet.bytes⟩
          amount := amount.toNat })
      (associatedToken wallet mintAddress amount) :=
    { mint := .some hmint
      owner := .some hwallet
      amount := rfl
      delegate := .none
      state := rfl
      isNative := rfl
      delegatedAmount := rfl
      closeAuthority := .none }
  have htoken := represents_token h hrent hpkg
    (associatedTokenAddress cr wallet mintAddress tokenProgramId) tokenProgramId hopts
  rcases htoken with ⟨a, ha, hrepresents⟩
  refine ⟨a, ?_, hrepresents⟩
  rw [createKeyedAssociatedTokenAccount, newAddress_eq hassociated]
  change (pkg.findProgramAddress [wallet.bytes, tokenProgramId.bytes, mintAddress.bytes]
    ⟨Svm.splAssociatedTokenProgramId.bytes⟩ >>= _) = _
  rw [hderives.web3]
  exact ha

/-- With the encoder of mints and no lamports the generic factory is that of mints. -/
theorem createKeyedAccount_mint (hpkg : WritesStates codec.encode pkg) {opts : MintOpts}
    (hopts : MeansMint codec.encode (opts.record pkg) mint) (address owner : Address) :
    createKeyedAccount address owner pkg.encodeMint (opts.record pkg) =
      createKeyedMintAccount pkg address opts owner := by
  have hlength : ((mintLayout.fresh mint).length : Int) = pkg.getMintSize := by
    rw [length_mintLayout, hpkg.getMintSize]
  rw [createKeyedAccount, createKeyedMintAccount, hpkg.encodeMint _ _ hopts, ← hlength]
  simp only [Option.getD_none, bind, Except.bind]

theorem createKeyedAccount_token (hpkg : WritesStates codec.encode pkg) {opts : TokenAccountOpts}
    (hopts : MeansToken codec.encode (opts.record pkg) token) (address owner : Address) :
    createKeyedAccount address owner pkg.encodeToken (opts.record pkg) =
      createKeyedTokenAccount pkg address opts owner := by
  have hlength : ((tokenAccountLayout.fresh token).length : Int) = pkg.getTokenSize := by
    rw [length_tokenAccountLayout, hpkg.getTokenSize]
  rw [createKeyedAccount, createKeyedTokenAccount, hpkg.encodeToken _ _ hopts, ← hlength]
  simp only [Option.getD_none, bind, Except.bind]

end Web3

/-! ## Four accounts on their way to the engine -/

theorem fitsAccounts_factories (h : TokenCodecs cr mintLayout tokenAccountLayout) (mint : SplMint)
    (token token' : SplTokenAccount) (k k₁ k₂ k₃ p p₁ p₂ : Pubkey) (lamports : UInt64) :
    FitsAccounts
      [Svm.Token.createKeyedSystemAccount cr k lamports,
        Svm.Token.createKeyedMintAccountWithProgram cr k₁ mint p,
        Svm.Token.createKeyedTokenAccountWithProgram cr k₂ token p₁,
        Svm.Token.createKeyedTokenAccountWithProgram cr k₃ token' p₂] := by
  have htoken : ∀ (k : Pubkey) (token : SplTokenAccount) (p : Pubkey), FitsU32
      (Svm.Token.createKeyedTokenAccountWithProgram cr k token p).data.length := by
    intro k token p
    rw [Svm.Token.data_createKeyedTokenAccountWithProgram h, length_tokenAccountLayout]
    decide
  have hzero : FitsU32 0 := by decide
  have hfour : FitsU32 4 := by decide
  refine ⟨hfour, ?_⟩
  intro a ha
  rcases List.mem_cons.1 ha with rfl | ha
  · exact hzero
  rcases List.mem_cons.1 ha with rfl | ha
  · rw [Svm.Token.data_createKeyedMintAccountWithProgram h, length_mintLayout]
    decide
  rcases List.mem_cons.1 ha with rfl | ha
  · exact htoken _ _ _
  · rw [List.mem_singleton.1 ha]
    exact htoken _ _ _

/-- The four factories of both packages: for records that say what a mint, a token account and an
associated token account are, they build accounts that reach the engine as the same bytes, as the
accounts of the engine's own factories.  A mint is always read back, a token account unless its
state is uninitialized; one address for both hides the decimals of the mint. -/
theorem typescript_factories (h : TokenCodecs cr mintLayout tokenAccountLayout)
    (hrent : DefaultRent cr) (hpkg : WritesStates codec.encode pkg)
    (hsystem : codec.encode systemProgramText = some cr.systemProgramId.bytes)
    (hsystem' : codec.addressBytes systemProgramText = some cr.systemProgramId.bytes)
    (hprograms : KnowsPrograms codec.addressBytes)
    (hderives : DerivesAddress cr codec pkg wallet mintAddress tokenProgramId)
    (hwallet : codec.encode walletText = some wallet.bytes)
    (hmint : codec.encode mintText = some mintAddress.bytes)
    (haddress : codec.encode addressText = some address.bytes)
    (hprogram : codec.encode programText = some tokenProgramId.bytes)
    (hwallet' : codec.encode (pkg.toBase58 ⟨wallet.bytes⟩) = some wallet.bytes)
    (hmint' : codec.encode (pkg.toBase58 ⟨mintAddress.bytes⟩) = some mintAddress.bytes)
    {mintArgs : Kit.MintArgs} (hmintArgs : MeansMint codec.encode mintArgs.record mint)
    {tokenArgs : Kit.TokenArgs} (htokenArgs : MeansToken codec.encode tokenArgs.record token)
    {mintOpts : Web3.MintOpts} (hmintOpts : MeansMint codec.encode (mintOpts.record pkg) mint)
    {tokenOpts : Web3.TokenAccountOpts}
    (htokenOpts : MeansToken codec.encode (tokenOpts.record pkg) token)
    (htoken : token.mint = mintAddress) (lamports amount : UInt64) :
    let mintAccount :=
      Svm.Token.createKeyedMintAccountWithProgram cr mintAddress mint tokenProgramId
    let tokenAccount :=
      Svm.Token.createKeyedTokenAccountWithProgram cr address token tokenProgramId
    let associatedAccount :=
      Svm.Token.createKeyedAssociatedTokenAccountWithProgram cr wallet mintAddress amount
        tokenProgramId
    (∃ kit web3 bytes,
        [Kit.createKeyedSystemAccount pkg walletText lamports.toNat,
            Kit.createKeyedMintAccount pkg mintText mintArgs programText,
            Kit.createKeyedTokenAccount pkg addressText tokenArgs programText,
            Kit.createKeyedAssociatedTokenAccount codec pkg walletText mintText amount.toNat
              programText] = kit.map .ok ∧
          [Web3.createKeyedSystemAccount codec ⟨wallet.bytes⟩ lamports.toNat,
            Web3.createKeyedMintAccount pkg ⟨mintAddress.bytes⟩ mintOpts ⟨tokenProgramId.bytes⟩,
            Web3.createKeyedTokenAccount pkg ⟨address.bytes⟩ tokenOpts ⟨tokenProgramId.bytes⟩,
            Web3.createKeyedAssociatedTokenAccount codec pkg ⟨wallet.bytes⟩ ⟨mintAddress.bytes⟩
              amount.toNat ⟨tokenProgramId.bytes⟩] = web3.map .ok ∧
          Kit.serializeAccounts codec kit = .ok bytes ∧ Web3.serializeAccounts web3 = .ok bytes ∧
          deserializeAccounts bytes =
            .ok ([Svm.Token.createKeyedSystemAccount cr wallet lamports, mintAccount, tokenAccount,
              associatedAccount].map Svm.Account.toPair)) ∧
      (ReadBack cr mint token mintAccount tokenAccount ↔
        token.state ≠ .uninitialized ∧ (address = mintAddress → mint.decimals = 0)) ∧
      (ReadBack cr mint (associatedToken wallet mintAddress amount) mintAccount associatedAccount ↔
        (associatedTokenAddress cr wallet mintAddress tokenProgramId = mintAddress →
          mint.decimals = 0)) := by
  intro mintAccount tokenAccount associatedAccount
  have hmarked : mint.isInitialized = true := hmintArgs.isInitialized.symm
  have hstate : token.isInitialized = true ↔ token.state ≠ .uninitialized := by
    simp [SplTokenAccount.isInitialized]
  refine ⟨?_, ?_, ?_⟩
  · -- Each account represents the engine's, in both packages.
    rcases Kit.represents_system hpkg hsystem hwallet lamports with ⟨a₁, ha₁, hr₁⟩
    rcases Kit.represents_mint h hrent hpkg hmint hprogram hmintArgs with ⟨a₂, ha₂, hr₂⟩
    rcases Kit.represents_token h hrent hpkg haddress hprogram htokenArgs with ⟨a₃, ha₃, hr₃⟩
    rcases Kit.represents_associatedToken h hrent hpkg hderives hwallet hmint hprogram amount with
      ⟨a₄, ha₄, hr₄⟩
    rcases Web3.represents_system hsystem' lamports with ⟨b₁, hb₁, hs₁⟩
    rcases Web3.represents_mint h hrent hpkg hmintOpts with ⟨b₂, hb₂, hs₂⟩
    rcases Web3.represents_token h hrent hpkg address tokenProgramId htokenOpts with
      ⟨b₃, hb₃, hs₃⟩
    rcases Web3.represents_associatedToken h hrent hpkg hderives hprograms.associatedToken hwallet'
      hmint' amount with ⟨b₄, hb₄, hs₄⟩
    have hfits := fitsAccounts_factories h mint token (associatedToken wallet mintAddress amount)
      wallet mintAddress address (associatedTokenAddress cr wallet mintAddress tokenProgramId)
      tokenProgramId tokenProgramId tokenProgramId lamports
    refine ⟨[a₁, a₂, a₃, a₄], [b₁, b₂, b₃, b₄], _, ?_, ?_,
      Kit.serializeAccounts_eq (.cons hr₁ (.cons hr₂ (.cons hr₃ (.cons hr₄ .nil)))) hfits,
      Web3.serializeAccounts_eq (.cons hs₁ (.cons hs₂ (.cons hs₃ (.cons hs₄ .nil)))) hfits,
      deserializeAccounts_write hfits⟩
    · rw [ha₁, ha₂, ha₃, ha₄]
      rfl
    · rw [hb₁, hb₂, hb₃, hb₄]
      rfl
  · refine (readBack_iff h htoken).trans ?_
    simp only [hmarked, true_and, hstate]
  · have haddress : (associatedToken wallet mintAddress amount).mint = mintAddress := rfl
    refine (readBack_iff h haddress).trans ?_
    have hassociated : (associatedToken wallet mintAddress amount).isInitialized = true := rfl
    simp only [hmarked, hassociated, true_and]

end Accounts

/-! ### A token package -/

namespace Node

def readKey (text : String) : Except Thrown Pubkey := do
  let bytes ← encodeWith base58Address text
  if h : bytes.length = 32 then pure ⟨bytes, h⟩ else throw (.encode .invalidAddress)

def readOptionKey : Option String → Except Thrown (Option Pubkey)
  | none => pure none
  | some text => some <$> readKey text

/-- The field is missing. -/
def missing {α : Type} : Except Thrown α :=
  .error (.error "Cannot read properties of undefined")

def readSomeKey : Option String → Except Thrown Pubkey
  | none => missing
  | some text => readKey text

def readU8 (n : Int) : Except Thrown UInt8 :=
  if 0 ≤ n ∧ n < 256 then .ok (UInt8.ofNat n.toNat) else .error (.encode .rangeError)

def readU64 (n : Int) : Except Thrown UInt64 :=
  if 0 ≤ n ∧ n < 18446744073709551616 then .ok (UInt64.ofNat n.toNat)
  else .error (.encode .rangeError)

def readOptionU64 : Option Int → Except Thrown (Option UInt64)
  | none => pure none
  | some n => some <$> readU64 n

def readSomeU64 : Option Int → Except Thrown UInt64
  | none => missing
  | some n => readU64 n

def encodeSampleMint (record : MintRecord) : Except Thrown Bytes := do
  let mintAuthority ← readOptionKey record.mintAuthority
  let supply ← readU64 record.supply
  let decimals ← readU8 record.decimals
  let freezeAuthority ← readOptionKey record.freezeAuthority
  pure (mintLayout.fresh
    { mintAuthority := mintAuthority
      supply := supply
      decimals := decimals
      isInitialized := record.isInitialized
      freezeAuthority := freezeAuthority })

def encodeSampleToken (record : TokenRecord) : Except Thrown Bytes := do
  let mint ← readSomeKey record.mint
  let owner ← readSomeKey record.owner
  let amount ← readSomeU64 record.amount
  let delegate ← readOptionKey record.delegate
  let isNative ← readOptionU64 record.isNative
  let delegatedAmount ← readU64 record.delegatedAmount
  let closeAuthority ← readOptionKey record.closeAuthority
  pure (tokenAccountLayout.fresh
    { mint := mint
      owner := owner
      amount := amount
      delegate := delegate
      state := record.state
      isNative := isNative
      delegatedAmount := delegatedAmount
      closeAuthority := closeAuthority })

/-- The derived address of a program is the program, as in the reference instance. -/
def samplePackage : TokenPackage :=
  { encodeMint := encodeSampleMint
    encodeToken := encodeSampleToken
    getMintSize := 82
    getTokenSize := 165
    lamports := fun n => do
      let v ← readU64 n
      pure v.toNat
    getProgramDerivedAddress := fun program _ => .ok program
    toBase58 := fun address => base58Text address.bytes
    findProgramAddress := fun _ program => .ok program }

theorem readKey_eq {text : String} {k : Pubkey} (h : base58Address text = some k.bytes) :
    readKey text = .ok k := by
  rw [readKey, encodeWith_eq h]
  exact dif_pos k.size

theorem readOptionKey_eq {text : Option String} {k : Option Pubkey}
    (h : KeyText base58Address text k) : readOptionKey text = .ok k := by
  cases h with
  | none => rfl
  | some h =>
    rw [readOptionKey, readKey_eq h]
    rfl

theorem readSomeKey_eq {text : Option String} {k : Pubkey}
    (h : KeyText base58Address text (some k)) : readSomeKey text = .ok k := by
  cases h with
  | some h => exact readKey_eq h

theorem readU8_eq (v : UInt8) : readU8 v.toNat = .ok v := by
  have hlt := v.toNat_lt
  rw [readU8, if_pos (by omega), Int.toNat_natCast, UInt8.ofNat_toNat]

theorem readU64_eq (v : UInt64) : readU64 v.toNat = .ok v := by
  have hlt := v.toNat_lt
  rw [readU64, if_pos (by omega), Int.toNat_natCast, UInt64.ofNat_toNat]

theorem readSomeU64_eq (v : UInt64) : readSomeU64 (some (v.toNat : Int)) = .ok v :=
  readU64_eq v

theorem readOptionU64_eq (v : Option UInt64) :
    readOptionU64 (v.map fun n => (n.toNat : Int)) = .ok v := by
  cases v with
  | none => rfl
  | some n =>
    rw [Option.map_some, readOptionU64, readU64_eq]
    rfl

theorem writesStates_samplePackage : WritesStates base58Address samplePackage := by
  constructor
  case encodeMint =>
    intro record mint h
    change encodeSampleMint record = _
    rw [encodeSampleMint, readOptionKey_eq h.mintAuthority, h.supply, readU64_eq, h.decimals,
      readU8_eq, readOptionKey_eq h.freezeAuthority, h.isInitialized]
    rfl
  case encodeToken =>
    intro record token h
    change encodeSampleToken record = _
    rw [encodeSampleToken, readSomeKey_eq h.mint, readSomeKey_eq h.owner, h.amount,
      readSomeU64_eq, readOptionKey_eq h.delegate, h.isNative, readOptionU64_eq, h.delegatedAmount,
      readU64_eq, readOptionKey_eq h.closeAuthority, h.state]
    rfl
  case getMintSize => rfl
  case getTokenSize => rfl
  case lamports =>
    intro n
    change (readU64 n.toNat >>= _) = _
    rw [readU64_eq]
    rfl

end Node

/-- A mint with the default decimals. -/
def sampleMint : SplMint :=
  { mintAuthority := some (Pubkey.filled 7)
    supply := 10000
    decimals := 9
    isInitialized := true
    freezeAuthority := none }

/-- A frozen account of wrapped lamports. -/
def sampleToken : SplTokenAccount :=
  { mint := Pubkey.filled 1
    owner := Pubkey.filled 3
    amount := 5000
    delegate := none
    state := .frozen
    isNative := some 2039280
    delegatedAmount := 0
    closeAuthority := none }

def sampleMintArgs : Kit.MintArgs :=
  { mintAuthority := some "US517G5965aydkZ46HS38QLi7UQiSojurfbQfKCELFx"
    supply := some 10000 }

def sampleTokenArgs : Kit.TokenArgs :=
  { mint := some "4vJ9JU1bJJE96FWSJKvHsmmFADCg4gpZQff4P3bkLKi"
    owner := some "CktRuQ2mttgRGkXJtyksdKHjUdc2C4TgDzyB98oEzy8"
    amount := some 5000
    state := some .frozen
    isNative := some 2039280 }

def sampleMintOpts : Web3.MintOpts :=
  { mintAuthority := some ⟨(Pubkey.filled 7).bytes⟩
    supply := some 10000 }

def sampleTokenOpts : Web3.TokenAccountOpts :=
  { mint := ⟨(Pubkey.filled 1).bytes⟩
    owner := ⟨(Pubkey.filled 3).bytes⟩
    amount := 5000
    state := some .frozen
    isNative := some 2039280 }

/-- A mint and a frozen account of the token program, and an associated token account. -/
theorem typescript_factories_sample :
    let cr := Svm.Reference.splCrates
    let mintAccount :=
      Svm.Token.createKeyedMintAccountWithProgram cr (Pubkey.filled 1) sampleMint
        Svm.splTokenProgramId
    let tokenAccount :=
      Svm.Token.createKeyedTokenAccountWithProgram cr (Pubkey.filled 2) sampleToken
        Svm.splTokenProgramId
    let associatedAccount :=
      Svm.Token.createKeyedAssociatedTokenAccountWithProgram cr (Pubkey.filled 3) (Pubkey.filled 1)
        70 Svm.splTokenProgramId
    (∃ kit web3 bytes,
        [Kit.createKeyedSystemAccount Node.samplePackage
              "CktRuQ2mttgRGkXJtyksdKHjUdc2C4TgDzyB98oEzy8" 5,
            Kit.createKeyedMintAccount Node.samplePackage
              "4vJ9JU1bJJE96FWSJKvHsmmFADCg4gpZQff4P3bkLKi" sampleMintArgs
              Node.splTokenProgramText,
            Kit.createKeyedTokenAccount Node.samplePackage
              "8qbHbw2BbbTHBW1sbeqakYXVKRQM8Ne7pLK7m6CVfeR" sampleTokenArgs
              Node.splTokenProgramText,
            Kit.createKeyedAssociatedTokenAccount base58Codec Node.samplePackage
              "CktRuQ2mttgRGkXJtyksdKHjUdc2C4TgDzyB98oEzy8"
              "4vJ9JU1bJJE96FWSJKvHsmmFADCg4gpZQff4P3bkLKi" 70 Node.splTokenProgramText] =
          kit.map .ok ∧
          [Web3.createKeyedSystemAccount base58Codec ⟨(Pubkey.filled 3).bytes⟩ 5,
            Web3.createKeyedMintAccount Node.samplePackage ⟨(Pubkey.filled 1).bytes⟩ sampleMintOpts
              ⟨Svm.splTokenProgramId.bytes⟩,
            Web3.createKeyedTokenAccount Node.samplePackage ⟨(Pubkey.filled 2).bytes⟩
              sampleTokenOpts ⟨Svm.splTokenProgramId.bytes⟩,
            Web3.createKeyedAssociatedTokenAccount base58Codec Node.samplePackage
              ⟨(Pubkey.filled 3).bytes⟩ ⟨(Pubkey.filled 1).bytes⟩ 70
              ⟨Svm.splTokenProgramId.bytes⟩] = web3.map .ok ∧
          Kit.serializeAccounts base58Codec kit = .ok bytes ∧
          Web3.serializeAccounts web3 = .ok bytes ∧
          deserializeAccounts bytes =
            .ok ([Svm.Token.createKeyedSystemAccount cr (Pubkey.filled 3) 5, mintAccount,
              tokenAccount, associatedAccount].map Svm.Account.toPair)) ∧
      (ReadBack cr sampleMint sampleToken mintAccount tokenAccount ↔
        sampleToken.state ≠ .uninitialized ∧
          (Pubkey.filled 2 = Pubkey.filled 1 → sampleMint.decimals = 0)) ∧
      (ReadBack cr sampleMint (associatedToken (Pubkey.filled 3) (Pubkey.filled 1) 70) mintAccount
          associatedAccount ↔
        (associatedTokenAddress cr (Pubkey.filled 3) (Pubkey.filled 1) Svm.splTokenProgramId =
          Pubkey.filled 1 → sampleMint.decimals = 0)) := by
  have hone : base58Codec.encode "4vJ9JU1bJJE96FWSJKvHsmmFADCg4gpZQff4P3bkLKi" =
      some (Pubkey.filled 1).bytes := by decide +kernel
  have htwo : base58Codec.encode "8qbHbw2BbbTHBW1sbeqakYXVKRQM8Ne7pLK7m6CVfeR" =
      some (Pubkey.filled 2).bytes := by decide +kernel
  have hthree : base58Codec.encode "CktRuQ2mttgRGkXJtyksdKHjUdc2C4TgDzyB98oEzy8" =
      some (Pubkey.filled 3).bytes := by decide +kernel
  have hseven : base58Codec.encode "US517G5965aydkZ46HS38QLi7UQiSojurfbQfKCELFx" =
      some (Pubkey.filled 7).bytes := by decide +kernel
  have hsystem : base58Codec.encode Node.systemProgramText = some Pubkey.default.bytes := by
    decide +kernel
  have hprogram : base58Codec.encode Node.splTokenProgramText =
      some Svm.splTokenProgramId.bytes :=
    knowsPrograms_base58.token
  have htexts : ∀ k ∈ [Pubkey.filled 1, Pubkey.filled 3, Pubkey.filled 7],
      base58Codec.encode (base58Text k.bytes) = some k.bytes := by decide +kernel
  have hone' := htexts (Pubkey.filled 1) (by decide)
  have hthree' := htexts (Pubkey.filled 3) (by decide)
  have hseven' := htexts (Pubkey.filled 7) (by decide)
  have hderives : Node.DerivesAddress Svm.Reference.splCrates base58Codec Node.samplePackage
      (Pubkey.filled 3) (Pubkey.filled 1) Svm.splTokenProgramId :=
    { kit := ⟨_, rfl, knowsPrograms_base58.associatedToken⟩
      web3 := rfl }
  have hmintArgs : Node.MeansMint base58Codec.encode sampleMintArgs.record sampleMint :=
    ⟨.some hseven, rfl, rfl, rfl, .none⟩
  have htokenArgs : Node.MeansToken base58Codec.encode sampleTokenArgs.record sampleToken :=
    ⟨.some hone, .some hthree, rfl, .none, rfl, rfl, rfl, .none⟩
  have hmintOpts : Node.MeansMint base58Codec.encode (sampleMintOpts.record Node.samplePackage)
      sampleMint :=
    ⟨.some hseven', rfl, rfl, rfl, .none⟩
  have htokenOpts : Node.MeansToken base58Codec.encode (sampleTokenOpts.record Node.samplePackage)
      sampleToken :=
    ⟨.some hone', .some hthree', rfl, .none, rfl, rfl, rfl, .none⟩
  exact typescript_factories Svm.Reference.splCrates_codecs Python.splCrates_rent
    Node.writesStates_samplePackage hsystem hsystem knowsPrograms_base58 hderives hthree hone htwo
    hprogram hthree' hone' hmintArgs htokenArgs hmintOpts htokenOpts rfl 5 70

end Bindings
end Quasar
