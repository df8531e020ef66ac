import Quasar.Svm.Reference

/-!
# TokenBalances — which accounts are reported as token accounts

An account is reported when its 165 bytes unpack as a token account, and the decimals come from the
first account under the mint's address when its 82 bytes unpack as a mint.  Owners are not looked at;
`tokenBalances_real_iff` says for which lists this makes no difference.
-/

namespace Quasar
namespace Svm

open Lib.LittleEndian (getU64)

namespace QuasarSvm

variable {cr : Crates} {accounts : List (Pubkey × SolanaAccount)}

/-! ## The entries -/

/-- The token account that the data of an account holds. -/
def tokenOf (cr : Crates) (account : SolanaAccount) : Option SplTokenAccount :=
  if account.data.length = splTokenAccountLen then cr.unpackTokenAccount account.data else none

/-- The mint that the data of an account holds. -/
def mintOf (cr : Crates) (account : SolanaAccount) : Option SplMint :=
  if account.data.length = splMintLen then cr.unpackMint account.data else none

/-- The entry of a token account. -/
def balanceOf (cr : Crates) (accounts : List (Pubkey × SolanaAccount)) (index : Nat)
    (token : SplTokenAccount) : TokenBalance :=
  let decimals := mintDecimals cr accounts token.mint
  { accountIndex := index
    mint := cr.pubkeyToString token.mint
    owner := some (cr.pubkeyToString token.owner)
    uiTokenAmount :=
      { uiAmount :=
          if decimals > 0 then
            some (cr.amountScaled token.amount decimals)
          else
            some (cr.amountToF64 token.amount)
        decimals := decimals
        amount := toString token.amount.toNat } }

theorem tokenBalance_eq (index : Nat) (entry : Pubkey × SolanaAccount) :
    tokenBalance cr accounts index entry =
      (tokenOf cr entry.2).map (balanceOf cr accounts index) := by
  by_cases hlen : entry.2.data.length = splTokenAccountLen
  · simp only [tokenBalance, tokenOf, hlen, ne_eq, not_true_eq_false, if_false, if_true]
    rfl
  · simp [tokenBalance, tokenOf, hlen]

/-- The decimals are those of the first account under the mint's address. -/
theorem mintDecimals_eq (mint : Pubkey) :
    mintDecimals cr accounts mint =
      (((accounts.find? fun p => p.1 = mint).bind fun p => mintOf cr p.2).map
        SplMint.decimals).getD 0 := by
  cases hfind : accounts.find? fun p => p.1 = mint with
  | none => simp [mintDecimals, hfind]
  | some p =>
      by_cases hlen : p.2.data.length = splMintLen
      · simp [mintDecimals, mintOf, hfind, hlen]
      · simp [mintDecimals, mintOf, hfind, hlen]

/-- The entries are those of the accounts that hold a token account, each with its position. -/
theorem mem_extractTokenBalances {e : TokenBalance} :
    e ∈ extractTokenBalances cr accounts ↔
      ∃ i p token, accounts[i]? = some p ∧ tokenOf cr p.2 = some token ∧
        e = balanceOf cr accounts i token := by
  simp only [extractTokenBalances, List.mem_filterMap, tokenBalance_eq, Option.map_eq_some_iff]
  constructor
  · rintro ⟨⟨p, i⟩, hmem, token, htoken, rfl⟩
    exact ⟨i, p, token, List.mem_zipIdx_iff_getElem?.1 hmem, htoken, rfl⟩
  · rintro ⟨i, p, token, hget, htoken, rfl⟩
    exact ⟨(p, i), List.mem_zipIdx_iff_getElem?.2 hget, token, htoken, rfl⟩

/-- The entries stand in the order of their positions. -/
theorem extractTokenBalances_increasing (cr : Crates) (accounts : List (Pubkey × SolanaAccount)) :
    (extractTokenBalances cr accounts).Pairwise fun a b => a.accountIndex < b.accountIndex := by
  have hpositions : accounts.zipIdx.Pairwise fun p q => p.2 < q.2 := by
    have hrange : (accounts.zipIdx.map Prod.snd).Pairwise (· < ·) := by
      rw [List.zipIdx_map_snd]
      exact List.pairwise_lt_range'
    exact List.pairwise_map.1 hrange
  refine List.Pairwise.filterMap _ ?_ hpositions
  intro p q hpq a ha b hb
  rw [tokenBalance_eq] at ha hb
  obtain ⟨token, -, rfl⟩ := Option.map_eq_some_iff.1 ha
  obtain ⟨token', -, rfl⟩ := Option.map_eq_some_iff.1 hb
  exact hpq

/-! ## Real token accounts and real mints -/

end QuasarSvm

/-- `TokenkegQfeZyiNwAJbNbGKPFXCWuBvf9Ss623VQ5DA` -/
def splTokenProgramId : Pubkey :=
  ⟨[6, 221, 246, 225, 215, 101, 161, 147, 217, 203, 225, 70, 206, 235, 121, 172, 28, 180, 133, 237,
    95, 91, 55, 145, 58, 140, 245, 133, 126, 255, 0, 169], rfl⟩

/-- `TokenzQdBNbLqP5VEhdkAS6EPFLC1PHnBqCXEpPxuEb` -/
def splToken2022ProgramId : Pubkey :=
  ⟨[6, 221, 246, 225, 238, 117, 143, 222, 24, 66, 93, 188, 228, 108, 205, 218, 182, 26, 252, 77, 131,
    185, 13, 39, 254, 189, 249, 40, 216, 161, 139, 252], rfl⟩

/-- `SplMint::unpack` takes data of the length of a mint only, and rejects a mint that is not
initialized. -/
structure MintCrates (cr : Crates) : Prop where
  length : ∀ data m, cr.unpackMint data = some m → data.length = splMintLen
  initialized : ∀ data m, cr.unpackMint data = some m → m.isInitialized = true

theorem Reference.tokenCrates_ok : MintCrates Reference.tokenCrates := by
  refine ⟨?_, ?_⟩
  · intro data m hunpack
    by_cases h : data.length = splMintLen ∧ data[45]? = some 1
    · exact h.1
    · simp [Reference.tokenCrates, Reference.unpackMint, h] at hunpack
  · intro data m hunpack
    by_cases h : data.length = splMintLen ∧ data[45]? = some 1
    · have hbind : ((Reference.keyOption data 0).bind fun mintAuthority =>
          (Reference.keyOption data 46).map fun freezeAuthority =>
            ({ mintAuthority := mintAuthority
               supply := getU64 ((data.drop 36).take 8)
               decimals := data.getD 44 0
               isInitialized := true
               freezeAuthority := freezeAuthority } : SplMint)) = some m :=
        (if_pos h).symm.trans hunpack
      obtain ⟨mintAuthority, -, hmap⟩ := Option.bind_eq_some_iff.1 hbind
      obtain ⟨freezeAuthority, -, rfl⟩ := Option.map_eq_some_iff.1 hmap
      rfl
    · simp [Reference.tokenCrates, Reference.unpackMint, h] at hunpack

namespace QuasarSvm

variable {cr : Crates} {accounts : List (Pubkey × SolanaAccount)} {program mint : Pubkey}

def IsTokenProgram (key : Pubkey) : Prop :=
  key = splTokenProgramId ∨ key = splToken2022ProgramId

/-- The list has the mint, as an initialized mint that belongs to the program. -/
def RealMint (cr : Crates) (accounts : List (Pubkey × SolanaAccount)) (program mint : Pubkey)
    (m : SplMint) : Prop :=
  ∃ p ∈ accounts, p.1 = mint ∧ p.2.owner = program ∧ cr.unpackMint p.2.data = some m ∧
    m.isInitialized = true

/-- The decimals are those of a real mint, or 0 while the list has none. -/
def RealDecimals (cr : Crates) (accounts : List (Pubkey × SolanaAccount)) (program mint : Pubkey)
    (decimals : UInt8) : Prop :=
  (∃ m, RealMint cr accounts program mint m ∧ m.decimals = decimals) ∨
    (decimals = 0 ∧ ∀ m, ¬ RealMint cr accounts program mint m)

/-- The entry belongs to an account of a token program and shows real decimals. -/
def RealBalance (cr : Crates) (accounts : List (Pubkey × SolanaAccount)) (e : TokenBalance) : Prop :=
  ∃ p token, accounts[e.accountIndex]? = some p ∧ tokenOf cr p.2 = some token ∧
    e.mint = cr.pubkeyToString token.mint ∧ IsTokenProgram p.2.owner ∧
    RealDecimals cr accounts p.2.owner token.mint e.uiTokenAmount.decimals

/-- The first account under the mint's address is a mint of the program, or no account under it is one
and the first shows 0 decimals, or a later one is and has the decimals that the first shows. -/
def MintShown (cr : Crates) (accounts : List (Pubkey × SolanaAccount)) (program mint : Pubkey) :
    Prop :=
  ∀ f, accounts.find? (fun p => p.1 = mint) = some f →
    let shown := ((mintOf cr f.2).map SplMint.decimals).getD 0
    let mints := (accounts.filter fun p => p.1 = mint ∧ p.2.owner = program).filterMap
      fun p => mintOf cr p.2
    (f.2.owner = program ∧ (mintOf cr f.2).isSome) ∨ (mints = [] ∧ shown = 0) ∨
      shown ∈ mints.map SplMint.decimals

theorem mintOf_eq_unpackMint (hcr : MintCrates cr) (account : SolanaAccount) :
    mintOf cr account = cr.unpackMint account.data := by
  cases hunpack : cr.unpackMint account.data with
  | none => simp [mintOf, hunpack]
  | some m => simp [mintOf, hunpack, hcr.length _ m hunpack]

/-- The real mints are those that unpack from the accounts of the program under the address. -/
theorem realMint_iff_mem (hcr : MintCrates cr) {m : SplMint} :
    RealMint cr accounts program mint m ↔
      m ∈ (accounts.filter fun p => p.1 = mint ∧ p.2.owner = program).filterMap
        fun p => mintOf cr p.2 := by
  simp only [RealMint, List.mem_filterMap, List.mem_filter, decide_eq_true_eq,
    mintOf_eq_unpackMint hcr]
  constructor
  · rintro ⟨p, hp, hmint, howner, hunpack, _⟩
    exact ⟨p, ⟨hp, hmint, howner⟩, hunpack⟩
  · rintro ⟨p, ⟨hp, hmint, howner⟩, hunpack⟩
    exact ⟨p, hp, hmint, howner, hunpack, hcr.initialized _ m hunpack⟩

/-- The reported decimals are real exactly when the list shows the mint. -/
theorem realDecimals_mintDecimals_iff (hcr : MintCrates cr) :
    RealDecimals cr accounts program mint (mintDecimals cr accounts mint) ↔
      MintShown cr accounts program mint := by
  cases hfind : accounts.find? fun p => p.1 = mint with
  | none =>
      -- No account has the address, so none is a real mint and the decimals are 0.
      have hnone : ∀ m, ¬ RealMint cr accounts program mint m := by
        rintro m ⟨p, hp, hmint, -⟩
        have hnot := List.find?_eq_none.1 hfind p hp
        exact hnot (by simpa using hmint)
      have hzero : mintDecimals cr accounts mint = 0 := by simp [mintDecimals_eq, hfind]
      have hshown : MintShown cr accounts program mint := by
        intro f hf
        cases hfind.symm.trans hf
      exact iff_of_true (Or.inr ⟨hzero, hnone⟩) hshown
  | some f =>
      have hdecimals : mintDecimals cr accounts mint =
          ((mintOf cr f.2).map SplMint.decimals).getD 0 := by simp [mintDecimals_eq, hfind]
      rw [hdecimals]
      constructor
      · -- Whichever account makes the decimals real is among the mints of the program.
        intro hreal f' hf'
        cases hfind.symm.trans hf'
        rcases hreal with ⟨m, hm, hshown⟩ | ⟨hzero, hnone⟩
        · exact Or.inr (Or.inr (List.mem_map.2 ⟨m, (realMint_iff_mem hcr).1 hm, hshown⟩))
        · refine Or.inr (Or.inl ⟨?_, hzero⟩)
          exact List.eq_nil_iff_forall_not_mem.2 fun m hm => hnone m ((realMint_iff_mem hcr).2 hm)
      · intro hshown
        rcases hshown f hfind with ⟨howner, hmint⟩ | ⟨hnone, hzero⟩ | hmem
        · -- The first account is itself a real mint.
          obtain ⟨m, hm⟩ := Option.isSome_iff_exists.1 hmint
          have haddress : f.1 = mint := by simpa using List.find?_some hfind
          refine Or.inl ⟨m, (realMint_iff_mem hcr).2 (List.mem_filterMap.2 ⟨f, ?_, hm⟩), by simp [hm]⟩
          exact List.mem_filter.2 ⟨List.mem_of_find?_eq_some hfind,
            decide_eq_true ⟨haddress, howner⟩⟩
        · refine Or.inr ⟨hzero, ?_⟩
          intro m hm
          have hmem := (realMint_iff_mem hcr).1 hm
          rw [hnone] at hmem
          cases hmem
        · obtain ⟨m, hm, hdec⟩ := List.mem_map.1 hmem
          exact Or.inl ⟨m, (realMint_iff_mem hcr).2 hm, hdec⟩

/-- Where no address is listed twice, the account under the mint's address belongs to the program, or
holds no mint, or shows 0 decimals. -/
theorem mintShown_iff_of_nodup (hcr : MintCrates cr) (hnodup : (accounts.map Prod.fst).Nodup) :
    MintShown cr accounts program mint ↔
      ∀ f ∈ accounts, f.1 = mint → ∀ m, mintOf cr f.2 = some m →
        f.2.owner = program ∨ m.decimals = 0 := by
  have hunique : ∀ f ∈ accounts, f.1 = mint → ∀ p ∈ accounts, p.1 = mint → p = f := by
    intro f hf hfm p hp hpm
    exact List.inj_on_of_nodup_map hnodup hp hf (hpm.trans hfm.symm)
  constructor
  · -- The account is the one that the lookup finds.
    intro hshown f hf hfm m hm
    have hfind : accounts.find? (fun p => p.1 = mint) = some f := by
      have hsome : (accounts.find? fun p => p.1 = mint).isSome :=
        List.find?_isSome.2 ⟨f, hf, decide_eq_true hfm⟩
      obtain ⟨p, hp⟩ := Option.isSome_iff_exists.1 hsome
      have hpm : p.1 = mint := by simpa using List.find?_some hp
      rw [hp, hunique f hf hfm p (List.mem_of_find?_eq_some hp) hpm]
    rcases hshown f hfind with ⟨howner, -⟩ | ⟨-, hzero⟩ | hmem
    · exact Or.inl howner
    · exact Or.inr (by simpa [hm] using hzero)
    · obtain ⟨m', hm', -⟩ := List.mem_map.1 hmem
      obtain ⟨p, hp, hpm, howner, -⟩ := (realMint_iff_mem hcr).2 hm'
      rw [hunique f hf hfm p hp hpm] at howner
      exact Or.inl howner
  · intro hlist f hfind
    have hf : f ∈ accounts := List.mem_of_find?_eq_some hfind
    have hfm : f.1 = mint := by simpa using List.find?_some hfind
    by_cases hown : f.2.owner = program ∧ (mintOf cr f.2).isSome
    · exact Or.inl hown
    · -- The account shows 0, and it is the only one that could be a real mint.
      refine Or.inr (Or.inl ⟨?_, ?_⟩)
      · refine List.eq_nil_iff_forall_not_mem.2 ?_
        intro m hmem
        obtain ⟨p, hp, hpm, howner, hunpack, -⟩ := (realMint_iff_mem hcr).2 hmem
        rw [hunique f hf hfm p hp hpm] at howner hunpack
        have hm : mintOf cr f.2 = some m := (mintOf_eq_unpackMint hcr f.2).trans hunpack
        exact hown ⟨howner, by simp [hm]⟩
      · cases hm : mintOf cr f.2 with
        | none => rfl
        | some m =>
            have howner : f.2.owner ≠ program := fun howner => hown ⟨howner, by simp [hm]⟩
            simpa using (hlist f hf hfm m hm).resolve_left howner

theorem forall_realBalance_iff (hcr : MintCrates cr) :
    (∀ e ∈ extractTokenBalances cr accounts, RealBalance cr accounts e) ↔
      ∀ p ∈ accounts, ∀ token, tokenOf cr p.2 = some token →
        IsTokenProgram p.2.owner ∧ MintShown cr accounts p.2.owner token.mint := by
  constructor
  · intro hreal p hp token htoken
    obtain ⟨i, hget⟩ := List.mem_iff_getElem?.1 hp
    have hmem : balanceOf cr accounts i token ∈ extractTokenBalances cr accounts :=
      mem_extractTokenBalances.2 ⟨i, p, token, hget, htoken, rfl⟩
    obtain ⟨p', token', hget', htoken', -, hprogram, hdecimals⟩ := hreal _ hmem
    cases hget.symm.trans hget'
    cases htoken.symm.trans htoken'
    exact ⟨hprogram, (realDecimals_mintDecimals_iff hcr).1 hdecimals⟩
  · intro hlist e he
    obtain ⟨i, p, token, hget, htoken, rfl⟩ := mem_extractTokenBalances.1 he
    obtain ⟨hprogram, hshown⟩ := hlist p (List.mem_of_getElem? hget) token htoken
    exact ⟨p, token, hget, htoken, rfl, hprogram, (realDecimals_mintDecimals_iff hcr).2 hshown⟩

/-- All entries are real exactly when every account that holds a token account belongs to a token
program, and the list shows its mint.  Where no address is listed twice, the second part is about the
one account under the mint's address. -/
theorem tokenBalances_real_iff (hcr : MintCrates cr) (accounts : List (Pubkey × SolanaAccount)) :
    ((∀ e ∈ extractTokenBalances cr accounts, RealBalance cr accounts e) ↔
        ∀ p ∈ accounts, ∀ token, tokenOf cr p.2 = some token →
          IsTokenProgram p.2.owner ∧ MintShown cr accounts p.2.owner token.mint) ∧
      ((accounts.map Prod.fst).Nodup →
        ((∀ e ∈ extractTokenBalances cr accounts, RealBalance cr accounts e) ↔
          ∀ p ∈ accounts, ∀ token, tokenOf cr p.2 = some token →
            IsTokenProgram p.2.owner ∧ ∀ f ∈ accounts, f.1 = token.mint →
              ∀ m, mintOf cr f.2 = some m → f.2.owner = p.2.owner ∨ m.decimals = 0)) := by
  refine ⟨forall_realBalance_iff hcr, ?_⟩
  -- This is how a result lists accounts, unless an address was passed twice.
  intro hnodup
  rw [forall_realBalance_iff hcr]
  simp only [mintShown_iff_of_nodup hcr hnodup]

/-- A token account of one program, and its mint of another. -/
def tokenList (tokenProgram mintProgram : Pubkey) : List (Pubkey × SolanaAccount) :=
  [(Pubkey.filled 1, Reference.tokenAccountOf tokenProgram (Pubkey.filled 2)),
    (Pubkey.filled 2, Reference.mintAccountOf mintProgram 6)]

/-- What the data of the token account unpacks to. -/
def emptyToken : SplTokenAccount :=
  { mint := Pubkey.filled 2
    owner := Pubkey.default
    amount := 0
    delegate := none
    state := .initialized
    isNative := none
    delegatedAmount := 0
    closeAuthority := none }

theorem tokenOf_tokenAccountOf (program : Pubkey) :
    tokenOf Reference.tokenCrates (Reference.tokenAccountOf program (Pubkey.filled 2)) =
      some emptyToken := by
  -- Only the data matters, and it is the same for every program.
  have hdata : tokenOf Reference.tokenCrates
      (Reference.tokenAccountOf Pubkey.default (Pubkey.filled 2)) = some emptyToken := by
    decide +kernel
  exact hdata

/-- A token account and its mint, both of the same token program. -/
theorem tokenBalances_real_iff_reference :
    (extractTokenBalances Reference.tokenCrates (tokenList splTokenProgramId splTokenProgramId)).map
        (fun e => e.uiTokenAmount.decimals) = [6] ∧
      ∀ e ∈ extractTokenBalances Reference.tokenCrates
          (tokenList splTokenProgramId splTokenProgramId),
        RealBalance Reference.tokenCrates (tokenList splTokenProgramId splTokenProgramId) e := by
  refine ⟨by decide +kernel, ?_⟩
  refine ((tokenBalances_real_iff Reference.tokenCrates_ok _).2 (by decide)).2 ?_
  intro p hp token htoken
  rcases List.mem_cons.1 hp with rfl | hp
  · cases (tokenOf_tokenAccountOf _).symm.trans htoken
    refine ⟨Or.inl rfl, ?_⟩
    intro f hf hmint m _
    rcases List.mem_cons.1 hf with rfl | hf
    · exact absurd hmint (by decide)
    · cases List.mem_singleton.1 hf
      exact Or.inl rfl
  · -- The mint is too short for a token account.
    cases List.mem_singleton.1 hp
    have hnone : tokenOf Reference.tokenCrates (Reference.mintAccountOf splTokenProgramId 6) =
        none := by
      decide
    cases hnone.symm.trans htoken

/-- Two failures: an account of another program is reported as a token account, and the decimals
that a mint of another program shows are reported. -/
theorem tokenBalances_not_real :
    (∃ e ∈ extractTokenBalances Reference.tokenCrates
        (tokenList (Pubkey.filled 9) splTokenProgramId),
      ¬ RealBalance Reference.tokenCrates (tokenList (Pubkey.filled 9) splTokenProgramId) e) ∧
    ∃ e ∈ extractTokenBalances Reference.tokenCrates
        (tokenList splTokenProgramId (Pubkey.filled 9)),
      e.uiTokenAmount.decimals = 6 ∧
        ¬ RealBalance Reference.tokenCrates (tokenList splTokenProgramId (Pubkey.filled 9)) e := by
  constructor
  · refine ⟨_, mem_extractTokenBalances.2 ⟨0, _, _, rfl, tokenOf_tokenAccountOf _, rfl⟩, ?_⟩
    rintro ⟨p, token, hget, -, -, hprogram, -⟩
    cases hget
    revert hprogram
    simp only [IsTokenProgram]
    decide
  · refine ⟨_, mem_extractTokenBalances.2 ⟨0, _, _, rfl, tokenOf_tokenAccountOf _, rfl⟩, ?_, ?_⟩
    · decide
    · rintro ⟨p, token, hget, htoken, -, -, hdecimals⟩
      cases hget
      cases (tokenOf_tokenAccountOf _).symm.trans htoken
      rcases hdecimals with ⟨m, ⟨p, hp, hmint, howner, -⟩, -⟩ | ⟨hzero, -⟩
      · rcases List.mem_cons.1 hp with rfl | hp
        · revert hmint
          decide
        · cases List.mem_singleton.1 hp
          revert howner
          decide
      · revert hzero
        decide

end QuasarSvm
end Svm
end Quasar
