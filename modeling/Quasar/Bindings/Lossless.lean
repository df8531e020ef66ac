import Quasar.Bindings.Classification
import Quasar.Bindings.Lookups

/-!
# Lossless — what is left of a result when a client has decoded it

The bytes of a result determine the result, its error included, and where they end.  The decoded
result of Python keeps all of it; that of TypeScript forgets which error stood behind a status that
its table has a case for.
-/

namespace Quasar
namespace Bindings

open Lib
open Ffi (Conversion ProgramError.tryFrom statusAndMessage serializeResult)
open Svm (Bytes InstructionError)

/-! ## Debug texts -/

/-- The errors without data. -/
def plainErrors : List InstructionError :=
  [.genericError, .invalidArgument, .invalidInstructionData, .invalidAccountData,
    .accountDataTooSmall, .insufficientFunds, .incorrectProgramId, .missingRequiredSignature,
    .accountAlreadyInitialized, .uninitializedAccount, .unbalancedInstruction, .modifiedProgramId,
    .externalAccountLamportSpend, .externalAccountDataModified, .readonlyLamportChange,
    .readonlyDataModified, .duplicateAccountIndex, .executableModified, .rentEpochModified,
    .notEnoughAccountKeys, .accountDataSizeChanged, .accountNotExecutable, .accountBorrowFailed,
    .accountBorrowOutstanding, .duplicateAccountOutOfSync, .invalidError, .executableDataModified,
    .executableLamportChange, .executableAccountNotRentExempt, .unsupportedProgramId, .callDepth,
    .missingAccount, .reentrancyNotAllowed, .maxSeedLengthExceeded, .invalidSeeds, .invalidRealloc,
    .computationalBudgetExceeded, .privilegeEscalation, .programEnvironmentSetupFailure,
    .programFailedToComplete, .programFailedToCompile, .immutable, .incorrectAuthority,
    .borshIoError, .accountNotRentExempt, .invalidAccountOwner, .arithmeticOverflow,
    .unsupportedSysvar, .illegalOwner, .maxAccountsDataAllocationsExceeded, .maxAccountsExceeded,
    .maxInstructionTraceLengthExceeded, .builtinProgramsMustConsumeComputeUnits]

theorem custom_or_plain (e : InstructionError) :
    (∃ code, e = .custom code) ∨ e ∈ plainErrors := by
  cases e with
  | custom code => exact .inl ⟨code, rfl⟩
  | _ => exact .inr (by decide)

theorem nodup_debug_plainErrors : (plainErrors.map InstructionError.debug).Nodup := by
  decide +kernel

/-- Only the text of a custom error has a parenthesis. -/
theorem debug_custom_ne_plain (code : UInt32) {e : InstructionError} (he : e ∈ plainErrors) :
    (InstructionError.custom code).debug ≠ e.debug := by
  have hplain : ∀ e ∈ plainErrors, '(' ∉ e.debug.toList := by decide +kernel
  have hcustom : '(' ∈ (InstructionError.custom code).debug.toList := by
    simp [InstructionError.debug]
  intro h
  rw [h] at hcustom
  exact hplain e he hcustom

theorem debug_custom_injective {m n : UInt32}
    (h : (InstructionError.custom m).debug = (InstructionError.custom n).debug) : m = n := by
  have htexts := congrArg String.toList h
  simp only [InstructionError.debug, String.toList_append, List.append_assoc,
    List.append_cancel_left_eq] at htexts
  have hdigits : Nat.toDigits 10 m.toNat = Nat.toDigits 10 n.toNat := by
    simpa using htexts
  have hvalue : m.toNat = n.toNat := by
    calc
      m.toNat = Nat.ofDigitChars 10 (Nat.toDigits 10 m.toNat) 0 :=
            Nat.ofDigitChars_ten_toDigits.symm
      _ = Nat.ofDigitChars 10 (Nat.toDigits 10 n.toNat) 0 := by rw [hdigits]
      _ = n.toNat := Nat.ofDigitChars_ten_toDigits
  exact UInt32.toNat_inj.1 hvalue

/-- Errors of one debug text are one error. -/
theorem debug_injective : Function.Injective InstructionError.debug := by
  intro a b h
  rcases custom_or_plain a with ⟨m, rfl⟩ | ha
  · rcases custom_or_plain b with ⟨n, rfl⟩ | hb
    · rw [debug_custom_injective h]
    · exact absurd h (debug_custom_ne_plain m hb)
  · rcases custom_or_plain b with ⟨n, rfl⟩ | hb
    · exact absurd h.symm (debug_custom_ne_plain n ha)
    · exact List.inj_on_of_nodup_map nodup_debug_plainErrors ha hb h

/-- The message tells raw results apart. -/
theorem message_injective (tryFrom : Conversion) {a b : Except InstructionError Unit}
    (h : (statusAndMessage tryFrom a).2 = (statusAndMessage tryFrom b).2) : a = b := by
  cases a with
  | ok u =>
    cases b with
    | ok v => rfl
    | error e => cases h
  | error e =>
    cases b with
    | ok v => cases h
    | error e' => rw [debug_injective (Option.some.inj h)]

/-! ## TypeScript -/

namespace Node

theorem ofAccount_injective : Function.Injective InternalAccount.ofAccount := by
  intro a b h
  cases a
  cases b
  simp only [InternalAccount.ofAccount, InternalAccount.mk.injEq, bytes_inj] at h
  rcases h with ⟨rfl, rfl, rfl, rfl, rfl⟩
  rfl

theorem ofTokenBalance_injective : Function.Injective TokenBalance.ofTokenBalance := by
  rintro ⟨index, mint, owner, ⟨ui, decimals, amount⟩⟩
    ⟨index', mint', owner', ⟨ui', decimals', amount'⟩⟩ h
  simpa [TokenBalance.ofTokenBalance] using h

theorem ofAccountMeta_injective : Function.Injective AccountMeta.ofAccountMeta := by
  intro a b h
  cases a
  cases b
  simpa [AccountMeta.ofAccountMeta, bytes_inj] using h

theorem ofExecutedInstruction_injective :
    Function.Injective ExecutedInstruction.ofExecutedInstruction := by
  rintro ⟨depth, ⟨program, accounts, data⟩, units, result⟩
    ⟨depth', ⟨program', accounts', data'⟩, units', result'⟩ h
  simpa [ExecutedInstruction.ofExecutedInstruction, bytes_inj,
    (List.map_injective_iff.2 ofAccountMeta_injective).eq_iff] using h

/-- The status of a raw result, as TypeScript reports it. -/
def reportedStatus (tryFrom : Conversion) (rawResult : Except InstructionError Unit) :
    ExecutionStatus :=
  executionStatus (statusAndMessage tryFrom rawResult).1.toInt
    (statusAndMessage tryFrom rawResult).2

/-- The decoded result has everything but the raw result, of which it has the reported status. -/
theorem toResult_ofResult_eq_iff (tryFrom : Conversion) (r r' : Svm.ExecutionResult) :
    (ResultFields.ofResult tryFrom r).toResult = (ResultFields.ofResult tryFrom r').toResult ↔
      r' = { r with rawResult := r'.rawResult } ∧
        reportedStatus tryFrom r.rawResult = reportedStatus tryFrom r'.rawResult := by
  constructor
  · intro h
    obtain ⟨hstatus, hunits, htime, hreturn, haccounts, hlogs, hpre, hpost, hpreTokens, hpostTokens,
      htrace⟩ := InternalResult.mk.inj h
    have haccounts := List.map_injective_iff.2 ofAccount_injective haccounts
    have hpreTokens := List.map_injective_iff.2 ofTokenBalance_injective hpreTokens
    have hpostTokens := List.map_injective_iff.2 ofTokenBalance_injective hpostTokens
    have htrace := List.map_injective_iff.2 ofExecutedInstruction_injective
      (ExecutionTrace.mk.inj htrace)
    refine ⟨?_, hstatus⟩
    rcases r with ⟨units, time, raw, ret, accounts, logs, pre, post, preTokens, postTokens, ⟨trace⟩⟩
    cases r'
    simp_all [ResultFields.ofResult]
  · rintro ⟨hrest, hstatus⟩
    rw [hrest]
    have hresult : (ResultFields.ofResult tryFrom { r with rawResult := r'.rawResult }).toResult =
        { (ResultFields.ofResult tryFrom r).toResult with
          status := reportedStatus tryFrom r'.rawResult } := rfl
    rw [hresult, ← hstatus]
    rfl

theorem ofResult_injective (tryFrom : Conversion) :
    Function.Injective (ResultFields.ofResult tryFrom) := by
  intro r r' h
  have hraw : r.rawResult = r'.rawResult :=
    message_injective tryFrom (congrArg ResultFields.errorMessage h)
  have hrest := ((toResult_ofResult_eq_iff tryFrom r r').1 (congrArg ResultFields.toResult h)).1
  rw [hrest, ← hraw]

/-! ### The errors behind one status -/

/-- Every status of a case is a small negative number. -/
theorem exists_of_errorCase {s : Int} (h : (errorCase s).isSome = true) :
    ∃ n : Nat, n < 26 ∧ s = -n := by
  have hbounds : -25 ≤ s ∧ s ≤ -1 := by
    unfold errorCase at h
    split at h
    all_goals first | omega | cases h
  exact ⟨s.natAbs, by omega, by omega⟩

theorem errorCase_injective {s t : Int} (hs : (errorCase s).isSome = true)
    (h : errorCase s = errorCase t) : s = t := by
  have hcases : ∀ m < 26, ∀ n < 26, (errorCase (-(m : Nat))).isSome = true →
      errorCase (-(m : Nat)) = errorCase (-(n : Nat)) → m = n := by decide +kernel
  have ht : (errorCase t).isSome = true := h ▸ hs
  rcases exists_of_errorCase hs with ⟨m, hm, rfl⟩
  rcases exists_of_errorCase ht with ⟨n, hn, rfl⟩
  rw [hcases m hm n hn hs h]

/-- The status alone says what the error is: a custom code, or a case of the table. -/
def StatusDecides (s : Int) : Prop :=
  0 < s ∨ (errorCase s).isSome = true

instance (s : Int) : Decidable (StatusDecides s) :=
  inferInstanceAs (Decidable (_ ∨ _))

theorem decodeStatus_of_decides {s : Int} (h : StatusDecides s) (m : String) :
    (0 < s ∧ decodeStatus errorCase m s = .custom s) ∨
      ¬ 0 < s ∧ errorCase s = some (decodeStatus errorCase m s) := by
  by_cases hpos : 0 < s
  · exact .inl ⟨hpos, if_pos hpos⟩
  · right
    refine ⟨hpos, ?_⟩
    rcases Option.isSome_iff_exists.1 (h.resolve_left hpos) with ⟨e, he⟩
    rw [decodeStatus, if_neg hpos, he, Option.getD_some]

theorem decodeStatus_of_not_decides {s : Int} (h : ¬ StatusDecides s) (m : String) :
    decodeStatus errorCase m s = .runtime m := by
  have hnone : errorCase s = none := by
    rw [← Option.not_isSome_iff_eq_none]
    exact fun hsome => h (.inr hsome)
  rw [decodeStatus, if_neg fun hpos => h (.inl hpos), hnone, Option.getD_none]

theorem decodeStatus_ne_runtime {s : Int} (h : StatusDecides s) (m m' : String) :
    decodeStatus errorCase m s ≠ .runtime m' := by
  intro heq
  rcases decodeStatus_of_decides h m with ⟨-, hcustom⟩ | ⟨-, hcase⟩
  · cases hcustom.symm.trans heq
  · exact errorCase_ne_runtime s m' (heq ▸ hcase)

/-- Two statuses that decide are classified alike only if they are one. -/
theorem eq_of_decodeStatus_eq {s t : Int} {m m' : String} (hs : StatusDecides s)
    (ht : StatusDecides t) (h : decodeStatus errorCase m s = decodeStatus errorCase m' t) :
    s = t := by
  rcases decodeStatus_of_decides hs m with ⟨-, hcustom⟩ | ⟨hpos, hcase⟩
  · rw [hcustom] at h
    exact ((decodeStatus_eq_custom_iff errorCase_ne_custom s).1 h.symm).2.symm
  · rcases decodeStatus_of_decides ht m' with ⟨-, hcustom⟩ | ⟨-, hcase'⟩
    · rw [h, hcustom] at hcase
      exact absurd hcase (errorCase_ne_custom s t)
    · have hlookup : errorCase s = errorCase t := by
        rw [hcase, hcase', h]
      exact errorCase_injective (hs.resolve_left hpos) hlookup

theorem decodeStatus_irrelevant {s : Int} (h : StatusDecides s) (m m' : String) :
    decodeStatus errorCase m s = decodeStatus errorCase m' s := by
  by_cases hpos : 0 < s
  · rw [decodeStatus, decodeStatus, if_pos hpos, if_pos hpos]
  · rcases Option.isSome_iff_exists.1 (h.resolve_left hpos) with ⟨e, he⟩
    rw [decodeStatus, decodeStatus, if_neg hpos, if_neg hpos, he, Option.getD_some,
      Option.getD_some]

/-- Two failures are classified alike when they share a status that decides, or share the text where
neither status decides. -/
theorem decodeStatus_errorCase_eq_iff {s t : Int} {m m' : String} :
    decodeStatus errorCase m s = decodeStatus errorCase m' t ↔
      (s = t ∧ StatusDecides s) ∨ (m = m' ∧ ¬ StatusDecides s ∧ ¬ StatusDecides t) := by
  by_cases hs : StatusDecides s
  · by_cases ht : StatusDecides t
    · simp only [hs, ht, and_true, not_true_eq_false, and_false, or_false]
      constructor
      · exact eq_of_decodeStatus_eq hs ht
      · rintro rfl
        exact decodeStatus_irrelevant hs m m'
    · have hst : s ≠ t := fun h => ht (h ▸ hs)
      simp only [decodeStatus_of_not_decides ht, decodeStatus_ne_runtime hs, hst, hs, false_and,
        not_true_eq_false, and_false, or_false]
  · by_cases ht : StatusDecides t
    · simp only [decodeStatus_of_not_decides hs, (decodeStatus_ne_runtime ht _ _).symm, hs, ht,
        not_true_eq_false, and_false, or_false]
    · simp only [decodeStatus_of_not_decides hs, decodeStatus_of_not_decides ht,
        ProgramError.runtime.injEq, hs, ht, and_false, false_or, not_false_eq_true, and_true]

/-- The status that the engine writes for a raw result. -/
def rawStatus (tryFrom : Conversion) (rawResult : Except InstructionError Unit) : Int :=
  (statusAndMessage tryFrom rawResult).1.toInt

theorem reportedStatus_eq_ok_iff (tryFrom : Conversion) (a : Except InstructionError Unit) :
    reportedStatus tryFrom a = .ok ↔ rawStatus tryFrom a = 0 := by
  simp [reportedStatus, executionStatus, rawStatus]

theorem reportedStatus_of_ne_zero (tryFrom : Conversion) {a : Except InstructionError Unit}
    (ha : rawStatus tryFrom a ≠ 0) :
    ∃ e, a = .error e ∧ reportedStatus tryFrom a =
      .error (decodeStatus errorCase e.debug (rawStatus tryFrom a)) := by
  cases a with
  | ok u => exact absurd rfl ha
  | error e => exact ⟨e, rfl, if_neg ha⟩

/-- TypeScript reports two raw results alike exactly when they are one, or have one status that is
zero or decides. -/
theorem reportedStatus_eq_iff (tryFrom : Conversion) (a b : Except InstructionError Unit) :
    reportedStatus tryFrom a = reportedStatus tryFrom b ↔
      a = b ∨ (rawStatus tryFrom a = rawStatus tryFrom b ∧
        (rawStatus tryFrom a = 0 ∨ StatusDecides (rawStatus tryFrom a))) := by
  by_cases ha : rawStatus tryFrom a = 0
  · rw [(reportedStatus_eq_ok_iff tryFrom a).2 ha, eq_comm, reportedStatus_eq_ok_iff, ha]
    constructor
    · exact fun hb => .inr ⟨hb.symm, .inl rfl⟩
    · rintro (rfl | ⟨hb, -⟩)
      · exact ha
      · exact hb.symm
  by_cases hb : rawStatus tryFrom b = 0
  · rw [(reportedStatus_eq_ok_iff tryFrom b).2 hb, reportedStatus_eq_ok_iff]
    constructor
    · exact fun hzero => absurd hzero ha
    · rintro (rfl | ⟨heq, -⟩)
      · exact hb
      · exact heq.trans hb
  -- Both are failures that are reported as such.
  rcases reportedStatus_of_ne_zero tryFrom ha with ⟨e, rfl, hra⟩
  rcases reportedStatus_of_ne_zero tryFrom hb with ⟨e', rfl, hrb⟩
  rw [hra, hrb, ExecutionStatus.error.injEq, decodeStatus_errorCase_eq_iff]
  constructor
  · rintro (⟨heq, hdecides⟩ | ⟨htext, -⟩)
    · exact .inr ⟨heq, .inr hdecides⟩
    · exact .inl (congrArg Except.error (debug_injective htext))
  · rintro (heq | ⟨heq, hdecides⟩)
    · cases heq
      by_cases hdecides : StatusDecides (rawStatus tryFrom (.error e))
      · exact .inl ⟨rfl, hdecides⟩
      · exact .inr ⟨rfl, hdecides, hdecides⟩
    · exact .inl ⟨heq, hdecides.resolve_left ha⟩

end Node

/-! ## Python -/

namespace Python

/-- What TypeScript has of it. -/
def ResultAccount.toInternal (a : ResultAccount) : Node.InternalAccount :=
  { address := a.pubkey
    owner := a.owner
    lamports := a.lamports
    data := a.data
    executable := a.executable }

def TokenBalance.toNode (tb : TokenBalance) : Node.TokenBalance :=
  { accountIndex := tb.accountIndex
    mint := tb.mint
    owner := tb.owner
    uiTokenAmount :=
      { uiAmount := tb.uiAmount
        decimals := some tb.decimals
        amount := tb.amount } }

def AccountMeta.toNode (m : AccountMeta) : Node.AccountMeta :=
  { pubkey := m.pubkey
    isSigner := m.isSigner
    isWritable := m.isWritable }

def ExecutedInstruction.toNode (instr : ExecutedInstruction) : Node.ExecutedInstruction :=
  { stackDepth := some instr.stackDepth
    instruction :=
      { programId := instr.instruction.programId
        accounts := instr.instruction.accounts.map AccountMeta.toNode
        data := instr.instruction.data }
    computeUnitsConsumed := instr.computeUnitsConsumed
    result := instr.result }

def ExecutionResult.toFields (r : ExecutionResult) : Node.ResultFields :=
  { rawStatus := r.status
    computeUnits := r.computeUnits
    executionTimeUs := r.executionTimeUs
    returnData := r.returnData
    accounts := r.accounts.map ResultAccount.toInternal
    logs := r.logs
    errorMessage := r.errorMessage
    preBalances := r.preBalances
    postBalances := r.postBalances
    preTokenBalances := r.preTokenBalances.map TokenBalance.toNode
    postTokenBalances := r.postTokenBalances.map TokenBalance.toNode
    executionTrace := { instructions := r.executionTrace.map ExecutedInstruction.toNode } }

theorem toNode_ofExecutedInstruction (instr : Svm.ExecutedInstruction) :
    (ExecutedInstruction.ofExecutedInstruction instr).toNode =
      Node.ExecutedInstruction.ofExecutedInstruction instr := by
  simp only [ExecutedInstruction.toNode, ExecutedInstruction.ofExecutedInstruction, List.map_map]
  rfl

/-- Python decodes the fields that TypeScript decodes. -/
theorem toFields_ofResult (tryFrom : Conversion) (r : Svm.ExecutionResult) :
    (ExecutionResult.ofResult tryFrom r).toFields = Node.ResultFields.ofResult tryFrom r := by
  have htrace : ExecutedInstruction.toNode ∘ ExecutedInstruction.ofExecutedInstruction =
      Node.ExecutedInstruction.ofExecutedInstruction :=
    funext toNode_ofExecutedInstruction
  simp only [ExecutionResult.toFields, ExecutionResult.ofResult, List.map_map, htrace]
  rfl

theorem ofResult_injective (tryFrom : Conversion) :
    Function.Injective (ExecutionResult.ofResult tryFrom) := by
  intro r r' h
  apply Node.ofResult_injective tryFrom
  rw [← toFields_ofResult, ← toFields_ofResult, h]

end Python

/-! ## The bytes -/

/-- The bytes of a result say where they end and what the result is.  Python keeps all of it.
TypeScript keeps all but the error: results that differ in nothing else are one for it exactly when
their status is the same, and zero, a custom code or a case of its table. -/
theorem serializeResult_lossless (tryFrom : Conversion) (toUtf8 : Bytes → String)
    (hutf8 : ∀ s, toUtf8 (utf8 s) = s) {r r' : Svm.ExecutionResult} (h : FitsResult r)
    (h' : FitsResult r') :
    (∀ rest rest', serializeResult tryFrom r ++ rest = serializeResult tryFrom r' ++ rest' ↔
        r = r' ∧ rest = rest') ∧
      ((Python.deserializeResult (serializeResult tryFrom r)).map Prod.fst =
          (Python.deserializeResult (serializeResult tryFrom r')).map Prod.fst ↔ r = r') ∧
      ((Node.deserializeResult toUtf8 (serializeResult tryFrom r)).map Prod.fst =
          (Node.deserializeResult toUtf8 (serializeResult tryFrom r')).map Prod.fst ↔
        r' = { r with rawResult := r'.rawResult } ∧
          (r.rawResult = r'.rawResult ∨
            (Node.rawStatus tryFrom r.rawResult = Node.rawStatus tryFrom r'.rawResult ∧
              (Node.rawStatus tryFrom r.rawResult = 0 ∨
                Node.StatusDecides (Node.rawStatus tryFrom r.rawResult))))) := by
  have hround := serializeResult_roundTrip tryFrom toUtf8 hutf8 r h
  have hround' := serializeResult_roundTrip tryFrom toUtf8 hutf8 r' h'
  refine ⟨?_, ?_, ?_⟩
  · intro rest rest'
    constructor
    · intro hbytes
      obtain ⟨hresult, -, hrest⟩ := (Python.readResult_decodes tryFrom h).eq_of_append_eq
        (Python.readResult_decodes tryFrom h') hbytes
      exact ⟨Python.ofResult_injective tryFrom hresult, hrest⟩
    · rintro ⟨rfl, rfl⟩
      rfl
  · rw [hround.2.2.1, hround'.2.2.1]
    constructor
    · intro heq
      exact Python.ofResult_injective tryFrom (Except.ok.inj heq)
    · rintro rfl
      rfl
  · rw [hround.2.1, hround'.2.1, ← Node.reportedStatus_eq_iff,
      ← Node.toResult_ofResult_eq_iff tryFrom r r']
    constructor
    · exact Except.ok.inj
    · exact congrArg Except.ok

/-- The raw result has no part in the bounds. -/
theorem fitsResult_rawResult {r : Svm.ExecutionResult} (h : FitsResult r)
    (rawResult : Except InstructionError Unit) :
    FitsResult { r with rawResult := rawResult } :=
  { h with }

/-- A generic error has the status of an invalid argument, and TypeScript takes one for the
other. -/
theorem serializeResult_lossless_sample :
    let bytes := fun e =>
      serializeResult Ffi.ProgramError.tryFrom { sampleResult with rawResult := .error e }
    ¬ (bytes .genericError <+: bytes .invalidArgument) ∧
      (Python.deserializeResult (bytes .genericError)).map Prod.fst ≠
        (Python.deserializeResult (bytes .invalidArgument)).map Prod.fst ∧
      (Node.deserializeResult utf8Lossy (bytes .genericError)).map Prod.fst =
        (Node.deserializeResult utf8Lossy (bytes .invalidArgument)).map Prod.fst := by
  have hlossless := serializeResult_lossless Ffi.ProgramError.tryFrom utf8Lossy utf8Lossy_utf8
    (fitsResult_rawResult sampleResult_fits (.error .genericError))
    (fitsResult_rawResult sampleResult_fits (.error .invalidArgument))
  have hne : ({ sampleResult with rawResult := .error .genericError } : Svm.ExecutionResult) ≠
      { sampleResult with rawResult := .error .invalidArgument } := by
    intro h
    cases congrArg Svm.ExecutionResult.rawResult h
  refine ⟨?_, ?_, ?_⟩
  · rintro ⟨rest, hrest⟩
    exact hne ((hlossless.1 rest []).1 (by simpa using hrest)).1
  · exact fun h => hne (hlossless.2.1.1 h)
  · exact hlossless.2.2.2 ⟨rfl, .inr ⟨rfl, .inr (by decide)⟩⟩

end Bindings
end Quasar
