import Quasar.Lib.Packed
import Quasar.Svm.TokenBalances

/-!
# SplToken — the states of the token program as bytes

A mint takes 82 bytes and a token account 165: the fields in order, integers in little-endian
order, optional values behind a four-byte tag.  `TokenCodecs` says that an instance of the external
functions packs and unpacks by given layouts, `Reference.splCrates` is one that does so by these.
-/

namespace Quasar
namespace Svm

open Lib

/-! ## Initialized states -/

def SplTokenAccount.isInitialized (token : SplTokenAccount) : Bool :=
  token.state ≠ .uninitialized

/-- The same mint, marked as initialized. -/
def SplMint.marked (mint : SplMint) : SplMint :=
  { mint with isInitialized := true }

/-- The same token account, marked as initialized; a frozen one is initialized already. -/
def SplTokenAccount.marked (token : SplTokenAccount) : SplTokenAccount :=
  match token.state with
  | .uninitialized => { token with state := .initialized }
  | _ => token

theorem SplMint.marked_eq_self_iff {mint : SplMint} :
    mint.marked = mint ↔ mint.isInitialized = true := by
  cases mint with
  | mk mintAuthority supply decimals isInitialized freezeAuthority => simp [marked, eq_comm]

theorem SplTokenAccount.marked_eq_self_iff {token : SplTokenAccount} :
    token.marked = token ↔ token.isInitialized = true := by
  cases token with
  | mk mint owner amount delegate state isNative delegatedAmount closeAuthority =>
      cases state with
      | uninitialized => simp [marked, isInitialized]
      | initialized => simp [marked, isInitialized]
      | frozen => simp [marked, isInitialized]

/-! ## The layouts -/

namespace SplToken

/-- A key is its 32 bytes. -/
def keyOfBytes (bs : {bs : Bytes // bs.length = 32}) : Pubkey :=
  { bytes := bs.1
    size := bs.2 }

def keyLayout : Packed Pubkey :=
  (Packed.bytes 32).map keyOfBytes (fun k => ⟨k.bytes, k.size⟩) fun _ => rfl

@[simp] theorem fresh_keyLayout (k : Pubkey) : keyLayout.fresh k = k.bytes := rfl

def u8Layout : Packed UInt8 :=
  Packed.byte id some fun _ => rfl

def boolOfByte : UInt8 → Option Bool
  | 0 => some false
  | 1 => some true
  -- Other bytes are invalid data, and not `true`.
  | _ => none

def boolLayout : Packed Bool :=
  Packed.byte (fun b => if b then 1 else 0) boolOfByte (by decide)

def stateToByte : AccountState → UInt8
  | .uninitialized => 0
  | .initialized => 1
  | .frozen => 2

def stateOfByte : UInt8 → Option AccountState
  | 0 => some .uninitialized
  | 1 => some .initialized
  | 2 => some .frozen
  | _ => none

def stateLayout : Packed AccountState :=
  Packed.byte stateToByte stateOfByte fun s => by cases s <;> rfl

/-- `spl_token::state::Mint` -/
def mintLayout : Packed SplMint :=
  (keyLayout.optional.pair (Packed.word64.pair (u8Layout.pair (boolLayout.pair
      keyLayout.optional)))).map
    (fun (mintAuthority, supply, decimals, isInitialized, freezeAuthority) =>
      { mintAuthority := mintAuthority
        supply := supply
        decimals := decimals
        isInitialized := isInitialized
        freezeAuthority := freezeAuthority })
    (fun m => (m.mintAuthority, m.supply, m.decimals, m.isInitialized, m.freezeAuthority))
    fun _ => rfl

/-- `spl_token::state::Account` -/
def tokenAccountLayout : Packed SplTokenAccount :=
  (keyLayout.pair (keyLayout.pair (Packed.word64.pair (keyLayout.optional.pair (stateLayout.pair
      (Packed.word64.optional.pair (Packed.word64.pair keyLayout.optional))))))).map
    (fun (mint, owner, amount, delegate, state, isNative, delegatedAmount, closeAuthority) =>
      { mint := mint
        owner := owner
        amount := amount
        delegate := delegate
        state := state
        isNative := isNative
        delegatedAmount := delegatedAmount
        closeAuthority := closeAuthority })
    (fun t => (t.mint, t.owner, t.amount, t.delegate, t.state, t.isNative, t.delegatedAmount,
      t.closeAuthority))
    fun _ => rfl

end SplToken

/-! ## Instances that use a layout -/

/-- The instance packs and unpacks mints and token accounts by these layouts, and unpacks initialized
states only. -/
structure TokenCodecs (cr : Crates) (mints : Packed SplMint) (tokens : Packed SplTokenAccount) :
    Prop where
  mintWidth : mints.width = splMintLen
  tokenWidth : tokens.width = splTokenAccountLen
  packMint : cr.packMint = mints.put
  packTokenAccount : cr.packTokenAccount = tokens.put
  unpackMint : cr.unpackMint = mints.unpack SplMint.isInitialized
  unpackTokenAccount : cr.unpackTokenAccount = tokens.unpack SplTokenAccount.isInitialized

/-- The reference instance with the layouts of the token program. -/
def Reference.splCrates : Crates :=
  { crates with
    packMint := SplToken.mintLayout.put
    packTokenAccount := SplToken.tokenAccountLayout.put
    unpackMint := SplToken.mintLayout.unpack SplMint.isInitialized
    unpackTokenAccount := SplToken.tokenAccountLayout.unpack SplTokenAccount.isInitialized }

theorem Reference.splCrates_codecs :
    TokenCodecs Reference.splCrates SplToken.mintLayout SplToken.tokenAccountLayout :=
  ⟨rfl, rfl, rfl, rfl, rfl, rfl⟩

namespace TokenCodecs

variable {cr : Crates} {mints : Packed SplMint} {tokens : Packed SplTokenAccount}

/-- The bytes of a packed mint unpack exactly when it is initialized. -/
theorem unpackMint_fresh (h : TokenCodecs cr mints tokens) (mint : SplMint) :
    cr.unpackMint (mints.fresh mint) = if mint.isInitialized then some mint else none := by
  rw [h.unpackMint, Packed.unpack_fresh]

theorem unpackTokenAccount_fresh (h : TokenCodecs cr mints tokens) (token : SplTokenAccount) :
    cr.unpackTokenAccount (tokens.fresh token) =
      if token.isInitialized then some token else none := by
  rw [h.unpackTokenAccount, Packed.unpack_fresh]

end TokenCodecs

end Svm
end Quasar
