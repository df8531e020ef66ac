import Mathlib.Data.List.Basic

/-!
# Account — addresses, accounts and instructions

`SolanaAccount` is the runtime's account record; `Account` is the engine's keyed account, which
has no `rentEpoch`, so a round trip through it resets that field to zero.
-/

namespace Quasar
namespace Svm

abbrev Bytes := List UInt8

/-- A 32-byte address. -/
structure Pubkey where
  bytes : Bytes
  size : bytes.length = 32
  deriving DecidableEq

namespace Pubkey

/-- The all-zero address; it is also the system program's id. -/
def default : Pubkey :=
  ⟨List.replicate 32 0, by simp⟩

instance : Inhabited Pubkey := ⟨Pubkey.default⟩

/-- The address whose 32 bytes are all `b`. -/
def filled (b : UInt8) : Pubkey :=
  ⟨List.replicate 32 b, by simp⟩

end Pubkey

/-- The runtime's account. -/
structure SolanaAccount where
  lamports : UInt64
  data : Bytes
  owner : Pubkey
  executable : Bool
  rentEpoch : UInt64
  deriving DecidableEq

namespace SolanaAccount

def default : SolanaAccount :=
  { lamports := 0
    data := []
    owner := Pubkey.default
    executable := false
    rentEpoch := 0 }

instance : Inhabited SolanaAccount := ⟨SolanaAccount.default⟩

end SolanaAccount

/-- The engine's keyed account. -/
structure Account where
  address : Pubkey
  lamports : UInt64
  data : Bytes
  owner : Pubkey
  executable : Bool
  deriving DecidableEq

namespace Account

def fromPair (address : Pubkey) (account : SolanaAccount) : Account :=
  { address := address
    lamports := account.lamports
    data := account.data
    owner := account.owner
    executable := account.executable }

def toPair (a : Account) : Pubkey × SolanaAccount :=
  (a.address,
    { lamports := a.lamports
      data := a.data
      owner := a.owner
      executable := a.executable
      rentEpoch := 0 })

@[simp] theorem fromPair_address (k : Pubkey) (a : SolanaAccount) :
    (fromPair k a).address = k := rfl

@[simp] theorem toPair_fst (a : Account) : a.toPair.1 = a.address := rfl

end Account

structure AccountMeta where
  pubkey : Pubkey
  isSigner : Bool
  isWritable : Bool
  deriving DecidableEq

structure Instruction where
  programId : Pubkey
  accounts : List AccountMeta
  data : Bytes
  deriving DecidableEq

end Svm
end Quasar
