import Mathlib.Tactic.IntervalCases
import Quasar.Bindings.RoundTrip

/-!
# Classification — what the bindings make of a status word

The engine classifies an error directly; a binding sees only the status word and the message that
the engine wrote for it.  The theorems below say for which errors the two classifications agree, and
for which results a binding tells success from failure.
-/

namespace Quasar
namespace Bindings

open Lib
open Lib.LittleEndian
open Ffi (Conversion ByName KeepsCustom ProgramError.tryFrom errorCode statusAndMessage
  serializeResult)
open Svm (Bytes InstructionError)

/-! ## Status words of custom codes -/

theorem toInt_toInt32 (n : UInt32) :
    n.toInt32.toInt = if n.toNat < 2 ^ 31 then (n.toNat : Int) else (n.toNat : Int) - 2 ^ 32 := by
  -- The cast keeps the bits, and the upper half of the unsigned words reads as negative.
  have hbits : n.toInt32.toInt =
      if 2 * n.toNat < 2 ^ 32 then (n.toNat : Int) else (n.toNat : Int) - (2 ^ 32 : Nat) :=
    BitVec.toInt_eq_toNat_cond n.toBitVec
  have hhalf : 2 * n.toNat < 2 ^ 32 ↔ n.toNat < 2 ^ 31 := by omega
  simpa only [hhalf, Nat.cast_pow, Nat.cast_ofNat] using hbits

/-- A custom code reaches the bindings as itself exactly when it is a positive signed word. -/
theorem custom_status_iff (n : UInt32) :
    (0 < n.toInt32.toInt ∧ n.toInt32.toInt = n.toNat) ↔ 0 < n.toNat ∧ n.toNat < 2 ^ 31 := by
  rw [toInt_toInt32]
  by_cases h : n.toNat < 2 ^ 31
  · rw [if_pos h]
    omega
  · rw [if_neg h]
    omega

/-! ## Decoding with a table -/

section Table

variable {table table' : Int → Option ProgramError} {fallback : String} {status : Int}

/-- A table without custom codes yields a custom code for that very status only. -/
theorem decodeStatus_eq_custom_iff (htable : ∀ s c, table s ≠ some (.custom c)) (c : Int) :
    decodeStatus table fallback status = .custom c ↔ 0 < status ∧ status = c := by
  unfold decodeStatus
  by_cases hpos : status > 0
  · -- A positive status is the code itself, and the table is not consulted.
    simp [hpos]
  · rw [if_neg hpos]
    cases hlookup : table status with
    | none => simp [hpos]
    | some a =>
        have hne : a ≠ .custom c := by
          intro ha
          exact htable status c (ha ▸ hlookup)
        simp [hne, hpos]

/-- Two tables without runtime errors decode a status alike when it is positive or they agree. -/
theorem decodeStatus_eq_iff (h : ∀ s m, table s ≠ some (.runtime m))
    (h' : ∀ s m, table' s ≠ some (.runtime m)) :
    decodeStatus table fallback status = decodeStatus table' fallback status ↔
      0 < status ∨ table status = table' status := by
  unfold decodeStatus
  by_cases hpos : status > 0
  · simp [hpos]
  · rw [if_neg hpos, if_neg hpos]
    have hzero : ¬ 0 < status := hpos
    cases hl : table status with
    | none =>
        cases hl' : table' status with
        | none => simp
        | some b =>
            -- Only one table names the status; the other one falls back to a runtime error.
            have hne : ProgramError.runtime fallback ≠ b := by
              intro hb
              exact h' status fallback (hb ▸ hl')
            simp [hne, hzero]
    | some a =>
        cases hl' : table' status with
        | none =>
            have hne : a ≠ .runtime fallback := by
              intro ha
              exact h status fallback (ha ▸ hl)
            simp [hne, hzero]
        | some b => simp [hzero]

end Table

namespace Node

theorem errorCase_ne_custom (s c : Int) : errorCase s ≠ some (.custom c) := by
  unfold errorCase
  split
  all_goals simp

theorem errorCase_ne_runtime (s : Int) (m : String) : errorCase s ≠ some (.runtime m) := by
  unfold errorCase
  split
  all_goals simp

theorem errorCase_of_lt {s : Int} (hs : s < -25) : errorCase s = none := by
  unfold errorCase
  split
  all_goals first | omega | rfl

end Node

namespace Python

theorem errorMap_ne_custom (s c : Int) : errorMap s ≠ some (.custom c) := by
  unfold errorMap
  split
  all_goals simp

theorem errorMap_ne_runtime (s : Int) (m : String) : errorMap s ≠ some (.runtime m) := by
  unfold errorMap
  split
  all_goals simp

theorem errorMap_of_lt {s : Int} (hs : s < -18) : errorMap s = none := by
  unfold errorMap
  split
  all_goals first | omega | rfl

end Python

/-- The two tables agree on a non-positive status outside two ranges. -/
theorem tables_agree_iff {s : Int} (hs : s ≤ 0) :
    Node.errorCase s = Python.errorMap s ↔ ¬ (-18 ≤ s ∧ s ≤ -11) ∧ ¬ (-25 ≤ s ∧ s ≤ -21) := by
  by_cases hfar : s < -25
  · have hnode := Node.errorCase_of_lt hfar
    have hpython := Python.errorMap_of_lt (s := s) (by omega)
    simp only [hnode, hpython, true_iff]
    omega
  · -- Both tables end at or above -25, so the rest are the 26 entries themselves.
    have hlow : -25 ≤ s := by omega
    interval_cases s
    all_goals decide

/-! ## TypeScript -/

namespace Node

/-- The classification that TypeScript derives from what the engine writes for `e`. -/
def classify (tryFrom : Conversion) (e : InstructionError) : ProgramError :=
  programErrorFromStatus (statusAndMessage tryFrom (.error e)).1.toInt
    (statusAndMessage tryFrom (.error e)).2

/-- The status that TypeScript reports for `e`. -/
def reported (tryFrom : Conversion) (e : InstructionError) : ExecutionStatus :=
  executionStatus (statusAndMessage tryFrom (.error e)).1.toInt
    (statusAndMessage tryFrom (.error e)).2

/-- The errors that TypeScript classifies as the engine does. -/
def faithful (tryFrom : Conversion) : InstructionError → Bool
  | .custom n => 0 < n.toNat ∧ n.toNat < 2 ^ 31
  | .builtinProgramsMustConsumeComputeUnits => false
  | e => (tryFrom e).isSome

theorem classify_eq_iff {tryFrom : Conversion} (h : ByName tryFrom) (e : InstructionError) :
    classify tryFrom e = .ofEngine (.ofInstructionError e) ↔
      faithful tryFrom e = true := by
  rw [h.eq_tryFrom]
  cases e with
  | custom n =>
      have hcode : classify Ffi.ProgramError.tryFrom (.custom n) =
          decodeStatus errorCase (InstructionError.custom n).debug n.toInt32.toInt := rfl
      have hclass : ProgramError.ofEngine (.ofInstructionError (.custom n)) = .custom n.toNat := rfl
      have hfaithful : faithful Ffi.ProgramError.tryFrom (.custom n) =
          decide (0 < n.toNat ∧ n.toNat < 2 ^ 31) := rfl
      rw [hcode, hclass, hfaithful]
      calc decodeStatus errorCase (InstructionError.custom n).debug n.toInt32.toInt =
              .custom n.toNat
          ↔ 0 < n.toInt32.toInt ∧ n.toInt32.toInt = n.toNat :=
            decodeStatus_eq_custom_iff errorCase_ne_custom _
        _ ↔ 0 < n.toNat ∧ n.toNat < 2 ^ 31 := custom_status_iff n
        _ ↔ decide (0 < n.toNat ∧ n.toNat < 2 ^ 31) = true := decide_eq_true_iff.symm
  -- The other errors carry no data that reaches the status, so each is one evaluation.
  | _ => decide

/-- `assertError` compares tags and codes, so it tells all errors apart but two runtime errors. -/
theorem acceptsError_ofEngine (a b : Svm.ProgramError) :
    acceptsError (.error (.ofEngine a)) (.ofEngine b) = true ↔
      a = b ∨ ∃ s t, a = .runtime s ∧ b = .runtime t := by
  cases a with
  | custom m =>
      cases b with
      | custom n => simp [acceptsError, sameType, ProgramError.ofEngine, UInt32.toNat_inj]
      | _ => simp [acceptsError, sameType, ProgramError.ofEngine]
  | runtime s => cases b <;> simp [acceptsError, sameType, ProgramError.ofEngine]
  | _ => cases b <;> simp [acceptsError, sameType, ProgramError.ofEngine]

/-- An accepted error is the expected one, or both are runtime errors. -/
theorem eq_of_acceptsError {a : ProgramError} {b : Svm.ProgramError}
    (h : acceptsError (.error a) (.ofEngine b) = true) :
    a = .ofEngine b ∨ ∃ s t, a = .runtime s ∧ b = .runtime t := by
  cases a with
  | custom m =>
      cases b with
      | custom n =>
          have hcode : m = n.toNat := by
            simpa [acceptsError, sameType, ProgramError.ofEngine] using h
          exact Or.inl (congrArg _ hcode)
      | _ => simp [acceptsError, sameType, ProgramError.ofEngine] at h
  | runtime s =>
      cases b with
      | runtime t => exact Or.inr ⟨s, t, rfl, rfl⟩
      | _ => simp [acceptsError, sameType, ProgramError.ofEngine] at h
  | _ => cases b <;> simp_all [acceptsError, sameType, ProgramError.ofEngine]

/-- The assertions of both languages accept the same expectations exactly when the status carries the
engine's class and that class is not a runtime error, whose text TypeScript ignores. -/
theorem acceptsError_forall_iff (status : ExecutionStatus) (c : Svm.ProgramError) :
    (∀ expected, acceptsError status (.ofEngine expected) = true ↔ c = expected) ↔
      status = .error (.ofEngine c) ∧ ∀ text, c ≠ .runtime text := by
  constructor
  · intro h
    have hself : acceptsError status (.ofEngine c) = true := (h c).2 rfl
    have hnot : ∀ text, c ≠ .runtime text := by
      intro text hc
      subst hc
      -- Another text is accepted just as well, but it is another error.
      have hother : acceptsError status (.ofEngine (.runtime (text ++ "!"))) = true := by
        cases status with
        | ok => cases hself
        | error a =>
            rcases eq_of_acceptsError hself with ha | ⟨s, _, ha, _⟩
            · simp [ha, acceptsError, sameType, ProgramError.ofEngine]
            · simp [ha, acceptsError, sameType, ProgramError.ofEngine]
      have heq := (h _).1 hother
      have hlen := congrArg String.length (Svm.ProgramError.runtime.inj heq)
      simp at hlen
    refine ⟨?_, hnot⟩
    cases status with
    | ok => cases hself
    | error a =>
        rcases eq_of_acceptsError hself with ha | ⟨s, t, _, hc⟩
        · exact congrArg _ ha
        · exact absurd hc (hnot t)
  · intro h expected
    rcases h with ⟨hstatus, hnot⟩
    rw [hstatus, acceptsError_ofEngine]
    constructor
    · intro hor
      rcases hor with heq | ⟨s, _, hc, _⟩
      · exact heq
      · exact absurd hc (hnot s)
    · intro heq
      exact Or.inl heq

/-- A reported error is the classification, unless the status word is 0. -/
theorem reported_eq_error_iff {tryFrom : Conversion} {e : InstructionError} {a : ProgramError}
    (ha : ∀ text, a ≠ .runtime text) :
    reported tryFrom e = .error a ↔ classify tryFrom e = a := by
  unfold reported executionStatus
  by_cases hzero : (statusAndMessage tryFrom (.error e)).1.toInt = 0
  · rw [if_pos hzero]
    -- With the word 0 the decoder falls through to a runtime error.
    have hclass : classify tryFrom e = .runtime e.debug := by
      unfold classify
      rw [hzero]
      rfl
    simp [hclass, (ha e.debug).symm]
  · rw [if_neg hzero]
    simp [classify]

theorem ofEngine_ne_runtime {c : Svm.ProgramError} (h : ∀ text, c ≠ .runtime text) (text : String) :
    ProgramError.ofEngine c ≠ .runtime text := by
  intro heq
  exact h text (ProgramError.ofEngine_injective heq)

/-- The TypeScript classification commutes with the engine's exactly on the faithful errors, and
the assertions of the two languages agree exactly on those of them that are not runtime errors. -/
theorem nodeClassification_iff (tryFrom : Conversion) (h : ByName tryFrom) (e : InstructionError) :
    (classify tryFrom e = .ofEngine (.ofInstructionError e) ↔ faithful tryFrom e = true) ∧
      ((∀ expected : Svm.ProgramError,
          acceptsError (reported tryFrom e) (.ofEngine expected) = true ↔
            Svm.ProgramError.acceptsError (.error e) expected = true) ↔
        faithful tryFrom e = true ∧
          ∀ text, Svm.ProgramError.ofInstructionError e ≠ .runtime text) := by
  refine ⟨classify_eq_iff h e, ?_⟩
  have hengine : ∀ expected, Svm.ProgramError.acceptsError (.error e) expected = true ↔
      Svm.ProgramError.ofInstructionError e = expected := by
    intro expected
    simp [Svm.ProgramError.acceptsError]
  simp only [hengine]
  rw [acceptsError_forall_iff]
  constructor
  · intro hboth
    rcases hboth with ⟨hstatus, hnot⟩
    have hclass := (reported_eq_error_iff (ofEngine_ne_runtime hnot)).1 hstatus
    exact ⟨(classify_eq_iff h e).1 hclass, hnot⟩
  · intro hboth
    rcases hboth with ⟨hfaithful, hnot⟩
    have hclass := (classify_eq_iff h e).2 hfaithful
    exact ⟨(reported_eq_error_iff (ofEngine_ne_runtime hnot)).2 hclass, hnot⟩

theorem nodeClassification_custom :
    classify Ffi.ProgramError.tryFrom (.custom 6000) = .custom 6000 :=
  (nodeClassification_iff Ffi.ProgramError.tryFrom Ffi.ProgramError.tryFrom_byName
    (.custom 6000)).1.2 (by decide)

/-- The status of a custom code with the top bit is negative, and reads as a runtime error. -/
theorem largeCustom_misclassified :
    classify Ffi.ProgramError.tryFrom (.custom 2147483648) ≠
        .ofEngine (.ofInstructionError (.custom 2147483648)) ∧
      classify Ffi.ProgramError.tryFrom (.custom 2147483648) = .runtime "Custom(2147483648)" ∧
      acceptsError (reported Ffi.ProgramError.tryFrom (.custom 2147483648)) (.custom 2147483648) =
        false := by
  decide

end Node

/-! ## Python -/

namespace Python

/-- The classification that Python derives from what the engine writes for `e`. -/
def classify (tryFrom : Conversion) (e : InstructionError) : ProgramError :=
  programErrorFromStatus (statusAndMessage tryFrom (.error e)).1.toInt
    (statusAndMessage tryFrom (.error e)).2

/-- The errors that Python classifies as the engine does. -/
def faithful : InstructionError → Bool
  | .custom n => 0 < n.toNat ∧ n.toNat < 2 ^ 31
  | .invalidArgument
  | .invalidInstructionData
  | .invalidAccountData
  | .accountDataTooSmall
  | .insufficientFunds
  | .incorrectProgramId
  | .missingRequiredSignature
  | .accountAlreadyInitialized
  | .uninitializedAccount
  | .missingAccount
  | .notEnoughAccountKeys
  | .invalidRealloc
  | .maxInstructionTraceLengthExceeded
  | .builtinProgramsMustConsumeComputeUnits => true
  | _ => false

/-- The errors to which both bindings give one name. -/
def agreesWithNode : InstructionError → Bool
  | .custom n =>
      ¬ (2 ^ 32 - 18 ≤ n.toNat ∧ n.toNat ≤ 2 ^ 32 - 11) ∧
        ¬ (2 ^ 32 - 25 ≤ n.toNat ∧ n.toNat ≤ 2 ^ 32 - 21)
  | .accountBorrowFailed
  | .maxSeedLengthExceeded
  | .invalidSeeds
  | .borshIoError
  | .accountNotRentExempt
  | .unsupportedSysvar
  | .illegalOwner
  | .maxAccountsDataAllocationsExceeded
  | .builtinProgramsMustConsumeComputeUnits
  | .invalidAccountOwner
  | .arithmeticOverflow
  | .immutable
  | .incorrectAuthority => false
  | _ => true

/-- With a message, the fallback texts of the two bindings coincide. -/
theorem messageOr_debug (e : InstructionError) (status : Int) :
    messageOr (some e.debug) status = e.debug :=
  if_neg e.debug_ne_empty

theorem classify_eq_iff {tryFrom : Conversion} (h : ByName tryFrom) (e : InstructionError) :
    classify tryFrom e = .ofEngine (.ofInstructionError e) ↔ faithful e = true := by
  rw [h.eq_tryFrom]
  cases e with
  | custom n =>
      have hcode : classify Ffi.ProgramError.tryFrom (.custom n) =
          decodeStatus errorMap (messageOr (some (InstructionError.custom n).debug) n.toInt32.toInt)
            n.toInt32.toInt := rfl
      have hclass : ProgramError.ofEngine (.ofInstructionError (.custom n)) = .custom n.toNat := rfl
      have hfaithful : faithful (.custom n) = decide (0 < n.toNat ∧ n.toNat < 2 ^ 31) := rfl
      rw [hcode, hclass, hfaithful]
      calc decodeStatus errorMap (messageOr (some (InstructionError.custom n).debug)
                n.toInt32.toInt) n.toInt32.toInt = .custom n.toNat
          ↔ 0 < n.toInt32.toInt ∧ n.toInt32.toInt = n.toNat :=
            decodeStatus_eq_custom_iff errorMap_ne_custom _
        _ ↔ 0 < n.toNat ∧ n.toNat < 2 ^ 31 := custom_status_iff n
        _ ↔ decide (0 < n.toNat ∧ n.toNat < 2 ^ 31) = true := decide_eq_true_iff.symm
  | _ => decide

/-- Both decoders name one error for a status exactly outside the two ranges of codes. -/
theorem classify_eq_node_iff_status {tryFrom : Conversion} (e : InstructionError) :
    classify tryFrom e = Node.classify tryFrom e ↔
      ¬ (-18 ≤ (errorCode tryFrom e).toInt ∧ (errorCode tryFrom e).toInt ≤ -11) ∧
        ¬ (-25 ≤ (errorCode tryFrom e).toInt ∧ (errorCode tryFrom e).toInt ≤ -21) := by
  have hpython : classify tryFrom e =
      decodeStatus errorMap e.debug (errorCode tryFrom e).toInt := by
    simp only [classify, programErrorFromStatus, statusAndMessage, messageOr_debug]
  have hnode : Node.classify tryFrom e =
      decodeStatus Node.errorCase e.debug (errorCode tryFrom e).toInt := by
    simp only [Node.classify, Node.programErrorFromStatus, statusAndMessage, Option.getD_some]
  rw [hpython, hnode, decodeStatus_eq_iff errorMap_ne_runtime Node.errorCase_ne_runtime]
  by_cases hpos : 0 < (errorCode tryFrom e).toInt
  · -- Neither decoder consults its table.
    simp only [hpos, true_or, true_iff]
    omega
  · have htables := tables_agree_iff (s := (errorCode tryFrom e).toInt) (by omega)
    simp only [hpos, false_or]
    rw [← htables]
    exact eq_comm

theorem classify_eq_node_iff {tryFrom : Conversion} (h : ByName tryFrom) (e : InstructionError) :
    classify tryFrom e = Node.classify tryFrom e ↔ agreesWithNode e = true := by
  rw [classify_eq_node_iff_status, h.eq_tryFrom]
  cases e with
  | custom n =>
      have hcode : (errorCode Ffi.ProgramError.tryFrom (.custom n)).toInt = n.toInt32.toInt := rfl
      have hlt : n.toNat < 2 ^ 32 := n.toNat_lt
      have hagrees : agreesWithNode (.custom n) =
          (decide (¬ (2 ^ 32 - 18 ≤ n.toNat ∧ n.toNat ≤ 2 ^ 32 - 11) ∧
            ¬ (2 ^ 32 - 25 ≤ n.toNat ∧ n.toNat ≤ 2 ^ 32 - 21))) := rfl
      rw [hcode, hagrees, toInt_toInt32, decide_eq_true_eq]
      by_cases hsmall : n.toNat < 2 ^ 31
      · simp only [if_pos hsmall]
        omega
      · -- A code from 2 ^ 31 on reads as the negative status 2 ^ 32 below it.
        simp only [if_neg hsmall]
        omega
  | _ => decide

/-- Python agrees with the engine exactly on the faithful errors, and with TypeScript exactly
outside the codes that their two tables number differently. -/
theorem pythonClassification_iff (tryFrom : Conversion) (h : ByName tryFrom) (e : InstructionError) :
    (classify tryFrom e = .ofEngine (.ofInstructionError e) ↔ faithful e = true) ∧
      (classify tryFrom e = Node.classify tryFrom e ↔ agreesWithNode e = true) :=
  ⟨classify_eq_iff h e, classify_eq_node_iff h e⟩

theorem pythonClassification_custom :
    classify Ffi.ProgramError.tryFrom (.custom 6000) = .custom 6000 ∧
      classify Ffi.ProgramError.tryFrom (.custom 6000) =
        Node.classify Ffi.ProgramError.tryFrom (.custom 6000) :=
  have h := pythonClassification_iff Ffi.ProgramError.tryFrom Ffi.ProgramError.tryFrom_byName
    (.custom 6000)
  ⟨h.1.2 (by decide), h.2.2 (by decide)⟩

/-- Failed seeds are reported by Python as an account that is not rent exempt. -/
theorem invalidSeeds_misclassified :
    classify Ffi.ProgramError.tryFrom .invalidSeeds ≠
        .ofEngine (.ofInstructionError .invalidSeeds) ∧
      classify Ffi.ProgramError.tryFrom .invalidSeeds = .accountNotRentExempt ∧
      Node.classify Ffi.ProgramError.tryFrom .invalidSeeds = .invalidSeeds := by
  decide

end Python

/-! ## Success and failure -/

/-- The status word at the head of a serialized result. -/
def statusWord (data : Bytes) : Int32 :=
  getI32 (data.take 4)

theorem toInt_eq_zero_iff (s : Int32) : s.toInt = 0 ↔ s = 0 := by
  constructor
  · intro h
    exact Int32.toInt_inj.1 h
  · intro h
    subst h
    rfl

theorem statusWord_serializeResult (tryFrom : Conversion) (r : Svm.ExecutionResult) :
    statusWord (serializeResult tryFrom r) = (statusAndMessage tryFrom r.rawResult).1 := by
  have htake : (serializeResult tryFrom r).take 4 =
      putI32 (statusAndMessage tryFrom r.rawResult).1 :=
    List.take_left' (length_putI32 _)
  calc statusWord (serializeResult tryFrom r)
      = getI32 (putI32 (statusAndMessage tryFrom r.rawResult).1) := congrArg getI32 htake
    _ = (statusAndMessage tryFrom r.rawResult).1 := getI32_putI32 _

/-- A decoder that starts with the status word keeps it, whatever the rest of the buffer holds. -/
theorem rawStatus_of_run {ε α : Type} {first : Decoder ε Int} {rest : Int → Decoder ε α}
    (field : α → Int) (hrest : ∀ s, Lib.Returns (rest s) (fun a => field a = s)) {bytes tail : Bytes}
    {s : Int} (hfirst : Decodes first bytes s) {a : α} {o : Nat}
    (hrun : (first >>= rest).run (bytes ++ tail) = .ok (a, o)) : field a = s := by
  have hread : first (bytes ++ tail) 0 = .ok (s, bytes.length) := by
    simpa using hfirst [] tail
  change (first (bytes ++ tail) 0 >>= fun r => rest r.1 (bytes ++ tail) r.2) = .ok (a, o) at hrun
  rw [hread] at hrun
  exact hrest s _ _ a o hrun

namespace Node

theorem executionStatus_eq_ok_iff (status : Int) (message : Option String) :
    executionStatus status message = .ok ↔ status = 0 := by
  unfold executionStatus
  by_cases h : status = 0
  · simp [h]
  · simp [h]

theorem rawStatus_deserializeResult {tryFrom : Conversion} {toUtf8 : Bytes → String}
    {r : Svm.ExecutionResult} {res : InternalResult} {o : Nat}
    (h : deserializeResult toUtf8 (serializeResult tryFrom r) = .ok (res, o)) :
    res.status = .ok ↔ (statusAndMessage tryFrom r.rawResult).1 = 0 := by
  unfold deserializeResult at h
  cases hrun : Decoder.run (readResult toUtf8) (serializeResult tryFrom r) with
  | error e =>
      rw [hrun] at h
      cases h
  | ok out =>
      rw [hrun] at h
      cases h
      rcases out with ⟨fields, n⟩
      have hstatus : fields.rawStatus = (statusAndMessage tryFrom r.rawResult).1.toInt := by
        refine rawStatus_of_run ResultFields.rawStatus ?_ (writeI32_decodes _ _) hrun
        intro s
        -- The eleven reads that follow the status word do not touch it.
        iterate 11 refine Lib.Returns.bind fun _ => ?_
        exact Lib.Returns.pure rfl
      rw [← toInt_eq_zero_iff, ← hstatus]
      exact executionStatus_eq_ok_iff _ _

end Node

namespace Python

theorem executionStatus_eq_ok_iff (status : Int) (message : Option String) :
    executionStatus status message = .ok ↔ status = 0 := by
  unfold executionStatus
  by_cases h : status = 0
  · simp [h]
  · simp [h]

theorem status_deserializeResult {tryFrom : Conversion} {r : Svm.ExecutionResult}
    {res : ExecutionResult} {o : Nat}
    (h : deserializeResult (serializeResult tryFrom r) = .ok (res, o)) :
    res.executionStatus = .ok ↔ (statusAndMessage tryFrom r.rawResult).1 = 0 := by
  have hstatus : res.status = (statusAndMessage tryFrom r.rawResult).1.toInt := by
    refine rawStatus_of_run ExecutionResult.status ?_ (writeI32_decodes _ _) h
    intro s
    iterate 11 refine Lib.Returns.bind fun _ => ?_
    exact Lib.Returns.pure rfl
  rw [← toInt_eq_zero_iff, ← hstatus]
  exact executionStatus_eq_ok_iff _ _

end Python

/-- Success and failure survive the wire: the status word is 0, and what either binding decodes is
a success, exactly for a successful execution; and both decode any result that fits the format. -/
structure SuccessSurvives (tryFrom : Conversion) (toUtf8 : Bytes → String)
    (r : Svm.ExecutionResult) : Prop where
  word : statusWord (serializeResult tryFrom r) = 0 ↔ r.rawResult = .ok ()
  node : ∀ res o, Node.deserializeResult toUtf8 (serializeResult tryFrom r) = .ok (res, o) →
    (res.status = .ok ↔ r.rawResult = .ok ())
  nodeReturns : FitsResult r →
    ∃ out, Node.deserializeResult toUtf8 (serializeResult tryFrom r) = .ok out
  python : ∀ res o, Python.deserializeResult (serializeResult tryFrom r) = .ok (res, o) →
    (res.executionStatus = .ok ↔ r.rawResult = .ok ())
  pythonReturns : FitsResult r →
    ∃ out, Python.deserializeResult (serializeResult tryFrom r) = .ok out

theorem status_eq_zero_iff (tryFrom : Conversion) (rawResult : Except InstructionError Unit) :
    (statusAndMessage tryFrom rawResult).1 = 0 ↔
      ∀ e, rawResult = .error e → tryFrom e = some (.custom 0) := by
  cases rawResult with
  | ok u => simp [statusAndMessage]
  | error e => simp [statusAndMessage, Ffi.errorCode_eq_zero_iff]

/-- The status word tells success from failure unless a failure converts to the custom code 0. -/
theorem word_iff (tryFrom : Conversion) (rawResult : Except InstructionError Unit) :
    ((statusAndMessage tryFrom rawResult).1 = 0 ↔ rawResult = .ok ()) ↔
      ∀ e, rawResult = .error e → tryFrom e ≠ some (.custom 0) := by
  rw [status_eq_zero_iff]
  cases rawResult with
  | ok u => simp
  | error e => simp

/-- Success and failure survive the wire exactly for the results that are not a failure which the
conversion turns into the custom code 0; among custom codes that is the code 0 alone. -/
theorem successSurvives_iff (tryFrom : Conversion) (hcustom : KeepsCustom tryFrom)
    (toUtf8 : Bytes → String) (hutf8 : ∀ s, toUtf8 (utf8 s) = s) (r : Svm.ExecutionResult) :
    (SuccessSurvives tryFrom toUtf8 r ↔
        ∀ e, r.rawResult = .error e → tryFrom e ≠ some (.custom 0)) ∧
      ∀ n, r.rawResult = .error (.custom n) →
        (SuccessSurvives tryFrom toUtf8 r ↔ n ≠ 0) := by
  have hiff : SuccessSurvives tryFrom toUtf8 r ↔
      ∀ e, r.rawResult = .error e → tryFrom e ≠ some (.custom 0) := by
    rw [← word_iff]
    constructor
    · intro h
      simpa [statusWord_serializeResult] using h.word
    · intro hword
      refine ⟨?_, ?_, ?_, ?_, ?_⟩
      · simpa [statusWord_serializeResult] using hword
      · intro res o hrun
        exact (Node.rawStatus_deserializeResult hrun).trans hword
      · intro hfits
        have hrun := (Node.readResult_decodes hutf8 tryFrom hfits).run_eq
        exact ⟨_, by rw [Node.deserializeResult, hrun]; rfl⟩
      · intro res o hrun
        exact (Python.status_deserializeResult hrun).trans hword
      · intro hfits
        exact ⟨_, (Python.readResult_decodes tryFrom hfits).run_eq⟩
  refine ⟨hiff, ?_⟩
  intro n hn
  rw [hiff]
  constructor
  · intro h hzero
    subst hzero
    exact h _ hn (hcustom 0)
  · intro hne e he heq
    cases hn.symm.trans he
    have hcode := (hcustom n).symm.trans heq
    exact hne (Ffi.ProgramError.custom.inj (Option.some.inj hcode))

theorem successSurvives_iff_sample :
    SuccessSurvives Ffi.ProgramError.tryFrom utf8Lossy
      sampleResult :=
  ((successSurvives_iff Ffi.ProgramError.tryFrom Ffi.ProgramError.tryFrom_byName.keepsCustom
    utf8Lossy utf8Lossy_utf8 sampleResult).2 6000 rfl).2
    (by decide)

/-- With the documented conversion the custom code 0 is the only failure that is lost. -/
theorem successSurvives_iff_ne_custom_zero {tryFrom : Conversion} (h : ByName tryFrom)
    {rawResult : Except InstructionError Unit} :
    ((statusAndMessage tryFrom rawResult).1 = 0 ↔ rawResult = .ok ()) ↔
      rawResult ≠ .error (.custom 0) := by
  rw [word_iff]
  constructor
  · intro hne heq
    exact hne _ heq (h.keepsCustom 0)
  · intro hne e he htry
    rcases (h e (.custom 0)).1 htry with rfl | ⟨-, hname⟩
    · exact hne he
    · cases hname

/-- The sample execution, failed with the custom code 0. -/
def customZeroResult : Svm.ExecutionResult :=
  { sampleResult with rawResult := .error (.custom 0) }

theorem customZeroResult_fits : FitsResult customZeroResult := by
  have h := sampleResult_fits
  exact ⟨h.returnData, h.accounts, h.accountData, h.logs, h.logText, h.preBalances, h.postBalances,
    h.preTokenBalances, h.preTokenBalance, h.postTokenBalances, h.postTokenBalance,
    h.instructions, h.instruction⟩

/-- An execution that failed with the custom code 0 has the status word 0, and both bindings decode
a success. -/
theorem customZero_reported_as_success :
    customZeroResult.rawResult = .error (.custom 0) ∧
      statusWord (serializeResult Ffi.ProgramError.tryFrom customZeroResult) = 0 ∧
      (∃ res o, Node.deserializeResult utf8Lossy
        (serializeResult Ffi.ProgramError.tryFrom customZeroResult) = .ok (res, o) ∧
          res.status = .ok) ∧
      ∃ res o, Python.deserializeResult
        (serializeResult Ffi.ProgramError.tryFrom customZeroResult) = .ok (res, o) ∧
          res.executionStatus = .ok := by
  have hword : (statusAndMessage Ffi.ProgramError.tryFrom customZeroResult.rawResult).1 = 0 := rfl
  refine ⟨rfl, ?_, ?_, ?_⟩
  · rw [statusWord_serializeResult]
    exact hword
  · -- The buffer decodes to the result's own fields, whose status word is 0.
    have hrun := (Node.readResult_decodes utf8Lossy_utf8
      Ffi.ProgramError.tryFrom customZeroResult_fits).run_eq
    refine ⟨(Node.ResultFields.ofResult Ffi.ProgramError.tryFrom customZeroResult).toResult, _,
      by rw [Node.deserializeResult, hrun]; rfl, ?_⟩
    exact (Node.executionStatus_eq_ok_iff _ (some (InstructionError.custom 0).debug)).2
      ((toInt_eq_zero_iff _).2 hword)
  · have hrun := (Python.readResult_decodes Ffi.ProgramError.tryFrom customZeroResult_fits).run_eq
    refine ⟨_, _, hrun, ?_⟩
    exact (Python.executionStatus_eq_ok_iff _ (some (InstructionError.custom 0).debug)).2
      ((toInt_eq_zero_iff _).2 hword)

end Bindings
end Quasar
