import Quasar.Svm.LogReading

/-!
# LogLine — the lines of a log, by who writes them

The runtime writes four kinds of lines about an invocation, and some others such as the notice of a
truncation; a program writes lines with a prefix and text of its own.  The parser reads a runtime
line as it is meant under conditions on the program id's text and on the error's text, which the
lemmas of this module state.
-/

namespace Quasar
namespace Svm

open Lib

/-! ## Lines -/

/-- What the runtime writes: four lines about an invocation of the program whose id reads `id`, and
lines about other things. -/
inductive RuntimeLine
  | invoke (id : String) (depth : Nat)
  | consumed (id : String) (units total : UInt64)
  | success (id : String)
  | failed (id error : String)
  | other (text : String)

/-- What a program writes itself. -/
inductive ProgramLine
  | log (message : String)
  | data (payload : String)

inductive LogLine
  | runtime (l : RuntimeLine)
  | program (l : ProgramLine)

/-- The text of a runtime line; `depth` counts from 0, the line counts from 1. -/
def RuntimeLine.text : RuntimeLine → String
  | .invoke id depth => s!"Program {id} invoke [{depth + 1}]"
  | .consumed id units total =>
      s!"Program {id} consumed {units.toNat} of {total.toNat} compute units"
  | .success id => s!"Program {id} success"
  | .failed id error => s!"Program {id} failed: {error}"
  | .other text => text

def ProgramLine.text : ProgramLine → String
  | .log message => "Program log: " ++ message
  | .data payload => "Program data: " ++ payload

def LogLine.text : LogLine → String
  | .runtime l => l.text
  | .program l => l.text

/-! ## Texts that the parser reads as they are meant -/

/-- The text of an id has letters and digits only, as every base-58 text has. -/
def IdText (id : String) : Prop :=
  ∀ c ∈ id.toList, c ≠ ' ' ∧ c ≠ '[' ∧ c ≠ ']' ∧ c ≠ ':'

-- Over the characters of the text, not over all characters.
instance (id : String) : Decidable (IdText id) :=
  List.decidableBAll (fun c => c ≠ ' ' ∧ c ≠ '[' ∧ c ≠ ']' ∧ c ≠ ':') id.toList

section Reading

variable {id : String}

theorem IdText.notMem_blank (h : IdText id) : ' ' ∉ id.toList := fun hc => (h ' ' hc).1 rfl

theorem IdText.notMem_bracket (h : IdText id) : '[' ∉ id.toList := fun hc => (h '[' hc).2.1 rfl

/-! ### Texts and markers, word by word -/

theorem toList_program : "Program ".toList = "Program".toList ++ [' '] := by decide

theorem consumedMarker_eq : consumedMarker = "consumed".toList ++ [' '] := by decide

theorem successMarker_eq : successMarker = ' ' :: "success".toList := by decide

/-- The numeral after the first occurrence of a marker. -/
theorem parseAfter_append {marker u digits rest : List Char} {stop : Char} (bound : Nat)
    (hne : marker ≠ [])
    (hfree : ∀ w, w <:+ u → w ≠ [] → ¬ marker <+: w ++ (marker ++ (digits ++ stop :: rest)))
    (hlast : ¬ marker <:+: digits ++ stop :: rest) (hstop : stop ∉ digits) :
    parseAfter marker stop bound (u ++ (marker ++ (digits ++ stop :: rest))) =
      Text.parseUnsigned bound digits := by
  have hpieces : Text.split marker (u ++ (marker ++ (digits ++ stop :: rest))) =
      [u, digits ++ stop :: rest] := by
    rw [Text.split_append hne hfree, Text.split_of_not_infix hlast]
  have hnumeral : Text.split [stop] (digits ++ stop :: rest) = digits :: Text.split [stop] rest :=
    Text.split_char hstop
  simp [parseAfter, hpieces, hnumeral]

/-! ### Invoke lines -/

theorem toList_invoke (id : String) (depth : Nat) :
    (RuntimeLine.invoke id depth).text.toList =
      ("Program ".toList ++ (id.toList ++ [' '])) ++
        (invokeMarker ++ (Nat.toDigits 10 (depth + 1) ++ ']' :: [])) := by
  have hmarker : " invoke [".toList = ' ' :: invokeMarker := by decide
  have hstop : "]".toList = [']'] := by decide
  have hnumeral : (depth + 1).repr.toList = Nat.toDigits 10 (depth + 1) := by simp [Nat.repr]
  simp only [RuntimeLine.text, toString, String.toList_append, hmarker, hstop, hnumeral,
    List.append_assoc, List.cons_append, List.nil_append]

theorem parseInvokeLog_invoke (h : IdText id) {depth : Nat} (hdepth : depth < 255) :
    parseInvokeLog (RuntimeLine.invoke id depth).text = some (UInt8.ofNat (depth + 1)) := by
  -- The bracket that ends the marker stands in it only, so the marker occurs once.
  have hbefore : '[' ∉ "Program ".toList ++ (id.toList ++ [' ']) := by
    simp [h.notMem_bracket]
  have hdigits : ∀ c, c.isDigit = false → c ∉ Nat.toDigits 10 (depth + 1) :=
    fun c hc => Text.notMem_toDigits hc
  have hafter : '[' ∉ Nat.toDigits 10 (depth + 1) ++ ']' :: [] := by
    simp [hdigits '[' (by decide)]
  have hmarker : invokeMarker = "invoke ".toList ++ ['['] := by decide
  have hinfix : invokeMarker <:+: (RuntimeLine.invoke id depth).text.toList :=
    ⟨"Program ".toList ++ (id.toList ++ [' ']), Nat.toDigits 10 (depth + 1) ++ ']' :: [], by
      rw [toList_invoke, List.append_assoc]⟩
  have hfree : ∀ w, w <:+ "Program ".toList ++ (id.toList ++ [' ']) → w ≠ [] →
      ¬ invokeMarker <+:
        w ++ (invokeMarker ++ (Nat.toDigits 10 (depth + 1) ++ ']' :: [])) := by
    rw [hmarker]
    exact Text.free_of_terminated (by decide) hbefore
  have hlast : ¬ invokeMarker <:+: Nat.toDigits 10 (depth + 1) ++ ']' :: [] :=
    Text.not_infix_of_notMem (by decide) hafter
  have hparse : Text.parseUnsigned (2 ^ 8) (Nat.toDigits 10 (depth + 1)) = some (depth + 1) :=
    Text.parseUnsigned_toDigits (Nat.succ_lt_succ hdepth)
  have hafter := parseAfter_append (2 ^ 8) (by decide) hfree hlast (hdigits ']' (by decide))
  calc parseInvokeLog (RuntimeLine.invoke id depth).text
      = (parseAfter invokeMarker ']' (2 ^ 8) (RuntimeLine.invoke id depth).text.toList).map
          UInt8.ofNat := if_pos hinfix
    _ = (some (depth + 1)).map UInt8.ofNat := by rw [toList_invoke, hafter, hparse]

/-- A line without an opening bracket is no invoke line. -/
theorem parseInvokeLog_of_notMem {log : String} (h : '[' ∉ log.toList) :
    parseInvokeLog log = none :=
  if_neg (Text.not_infix_of_notMem (by decide) h)

/-! ### Consumed lines -/

theorem toList_consumed (id : String) (units total : UInt64) :
    (RuntimeLine.consumed id units total).text.toList =
      ("Program ".toList ++ (id.toList ++ [' '])) ++
        (consumedMarker ++ (Nat.toDigits 10 units.toNat ++ ' ' ::
          ("of ".toList ++ (Nat.toDigits 10 total.toNat ++ unitsMarker)))) := by
  have hmarker : " consumed ".toList = ' ' :: consumedMarker := by decide
  have hof : " of ".toList = ' ' :: "of ".toList := by decide
  have hunits : " compute units".toList = unitsMarker := by decide
  have hnumeral : ∀ n : Nat, n.repr.toList = Nat.toDigits 10 n := fun n => by simp [Nat.repr]
  simp only [RuntimeLine.text, toString, String.toList_append, hmarker, hof, hunits, hnumeral,
    List.append_assoc, List.cons_append, List.nil_append]

/-- A nonempty suffix of `u ++ [x]` is a suffix of `u` with `x` after it. -/
theorem exists_of_suffix_concat {u w : List Char} {x : Char} (hw : w <:+ u ++ [x]) (hne : w ≠ []) :
    ∃ w', w = w' ++ [x] ∧ w' <:+ u := by
  rcases List.suffix_concat_iff.1 hw with rfl | ⟨w', rfl, hw'⟩
  · exact absurd rfl hne
  · exact ⟨w', rfl, hw'⟩

/-- The marker of a consumed line does not occur before the runtime's own, unless it is the end of
the id. -/
theorem free_of_id (h : IdText id) (hend : ¬ "consumed".toList <:+ id.toList) {v : List Char} :
    ∀ w, w <:+ "Program ".toList ++ (id.toList ++ [' ']) → w ≠ [] →
      ¬ consumedMarker <+: w ++ v := by
  intro w hw hne hpre
  rw [consumedMarker_eq] at hpre
  rw [← List.append_assoc] at hw
  -- The last character of the prefix is the blank that ends the marker.
  rcases exists_of_suffix_concat hw hne with ⟨w', rfl, hw'⟩
  rcases List.suffix_or_suffix_of_suffix hw' (List.suffix_append "Program ".toList id.toList) with
    hid | hid
  · -- The occurrence would start inside the id.
    have hpre' : "consumed".toList ++ [' '] <+: w' ++ ' ' :: v := by simpa using hpre
    exact Text.not_prefix_of_not_suffix (by decide) h.notMem_blank hend hid hpre'
  · -- The occurrence would start inside the word before the id.
    rcases hid with ⟨u, rfl⟩
    have hu : u <:+ "Program".toList ++ [' '] := (List.suffix_append_self_iff).1 hw'
    rcases List.eq_nil_or_concat u with rfl | ⟨u', x, rfl⟩
    · have hpre' : "consumed".toList ++ [' '] <+: id.toList ++ ' ' :: v := by simpa using hpre
      exact Text.not_prefix_of_not_suffix (by decide) h.notMem_blank hend (List.suffix_refl _) hpre'
    · rcases exists_of_suffix_concat hu (by simp) with ⟨u'', heq, hu''⟩
      rw [heq] at hpre
      have hpre' : "consumed".toList ++ [' '] <+: u'' ++ ' ' :: (id.toList ++ ' ' :: v) := by
        simpa using hpre
      exact Text.not_prefix_of_not_suffix (by decide) (by decide) (by decide) hu'' hpre'

theorem parseConsumedLog_consumed (h : IdText id) (hend : ¬ "consumed".toList <:+ id.toList)
    (units total : UInt64) :
    parseConsumedLog (RuntimeLine.consumed id units total).text = some units := by
  have hdigits : ∀ (n : Nat) c, c.isDigit = false → c ∉ Nat.toDigits 10 n :=
    fun n c hc => Text.notMem_toDigits hc
  -- Behind the marker stands no letter `d`, so the marker does not occur again.
  have hd : 'd' ∉ Nat.toDigits 10 units.toNat ++ ' ' ::
      ("of ".toList ++ (Nat.toDigits 10 total.toNat ++ unitsMarker)) := by
    have hunits : 'd' ∉ unitsMarker := by decide
    simp [hdigits _ 'd' (by decide), hunits]
  have hconsumed : consumedMarker <:+: (RuntimeLine.consumed id units total).text.toList :=
    ⟨_, _, by rw [toList_consumed, List.append_assoc]⟩
  have hunits : unitsMarker <:+: (RuntimeLine.consumed id units total).text.toList := by
    rw [toList_consumed]
    refine List.IsSuffix.isInfix ?_
    simp only [← List.append_assoc, ← List.cons_append]
    exact List.suffix_append _ _
  have hlast : ¬ consumedMarker <:+: Nat.toDigits 10 units.toNat ++ ' ' ::
      ("of ".toList ++ (Nat.toDigits 10 total.toNat ++ unitsMarker)) :=
    Text.not_infix_of_notMem (by decide) hd
  have hparse : Text.parseUnsigned (2 ^ 64) (Nat.toDigits 10 units.toNat) = some units.toNat :=
    Text.parseUnsigned_toDigits units.toNat_lt
  have hafter := parseAfter_append (2 ^ 64) (by decide) (free_of_id h hend) hlast
    (hdigits units.toNat ' ' (by decide))
  calc parseConsumedLog (RuntimeLine.consumed id units total).text
      = (parseAfter consumedMarker ' ' (2 ^ 64)
          (RuntimeLine.consumed id units total).text.toList).map UInt64.ofNat :=
        if_pos ⟨hconsumed, hunits⟩
    _ = (some units.toNat).map UInt64.ofNat := by rw [toList_consumed, hafter, hparse]
    _ = some units := by simp

theorem parseInvokeLog_consumed (h : IdText id) (units total : UInt64) :
    parseInvokeLog (RuntimeLine.consumed id units total).text = none := by
  refine parseInvokeLog_of_notMem ?_
  have hdigits : ∀ n : Nat, '[' ∉ Nat.toDigits 10 n := fun n => Text.notMem_toDigits (by decide)
  have hconsumed : '[' ∉ consumedMarker := by decide
  have hunits : '[' ∉ unitsMarker := by decide
  rw [toList_consumed]
  simp [h.notMem_bracket, hdigits, hconsumed, hunits]

/-! ### Result lines -/

theorem toList_success (id : String) :
    (RuntimeLine.success id).text.toList =
      "Program".toList ++ (' ' :: (id.toList ++ successMarker)) := by
  have hsuccess : " success".toList = successMarker := by decide
  simp only [RuntimeLine.text, toString, String.toList_append, toList_program, hsuccess,
    List.append_assoc, List.cons_append, List.nil_append]

/-- A success line does not speak of compute units, whatever the id is. -/
theorem units_not_infix_success (h : IdText id) :
    ¬ unitsMarker <:+: (RuntimeLine.success id).text.toList := by
  have hmarker : unitsMarker = ' ' :: ("compute".toList ++ [' '] ++ "units".toList) := by decide
  rw [toList_success, hmarker, Text.infix_append_iff_of_notMem (by decide), List.infix_cons_iff]
  -- The marker starts with a blank, of which a success line has two.
  rintro (hpre | hin)
  · have hpre' := (List.cons_prefix_cons.1 hpre).2
    have hword : "compute".toList ++ [' '] <+: id.toList ++ ' ' :: "success".toList :=
      (List.prefix_append _ _).trans (successMarker_eq ▸ hpre')
    -- The id would be the word `compute`, and the next word is not `units`.
    have hid := (Text.terminated_prefix_iff (by decide) h.notMem_blank).1 hword
    rw [← hid] at hpre'
    exact absurd hpre' (by decide)
  · rw [Text.infix_append_iff_of_notMem h.notMem_blank] at hin
    exact absurd hin (by decide)

theorem readLine_success (h : IdText id) :
    readLine (RuntimeLine.success id).text = some (.leave (codeUpdate 0)) := by
  have hbracket : '[' ∉ (RuntimeLine.success id).text.toList := by
    have hsuccess : '[' ∉ successMarker := by decide
    rw [toList_success]
    simp [h.notMem_bracket, hsuccess]
  have hresult : successMarker <:+: (RuntimeLine.success id).text.toList := by
    rw [toList_success]
    refine List.IsSuffix.isInfix ?_
    simp only [← List.append_assoc, ← List.cons_append]
    exact List.suffix_append _ _
  have hconsumed : parseConsumedLog (RuntimeLine.success id).text = none :=
    if_neg fun hboth => units_not_infix_success h hboth.2
  simp [readLine, parseInvokeLog_of_notMem hbracket, hconsumed, parseResultLog, hresult]

theorem failed_infix (id error : String) :
    failedMarker <:+: (RuntimeLine.failed id error).text.toList := by
  have hfailed : " failed: ".toList = failedMarker := by decide
  refine ⟨"Program ".toList ++ id.toList, error.toList, ?_⟩
  simp only [RuntimeLine.text, toString, String.toList_append, hfailed]

end Reading

/-! ## Legible lines -/

/-- The line cannot be taken for another one, judged by its texts: a consumed line needs an id that
does not end like the marker, and a failure line must not look like another line. -/
def RuntimeLine.Unmistakable : RuntimeLine → Prop
  | .invoke id depth => IdText id ∧ depth < 255
  | .consumed id _ _ => IdText id ∧ ¬ "consumed".toList <:+ id.toList
  | .success id => IdText id
  | .failed id error =>
      ¬ invokeMarker <:+: (RuntimeLine.failed id error).text.toList ∧
        ¬ unitsMarker <:+: (RuntimeLine.failed id error).text.toList ∧
        ¬ successMarker <:+: (RuntimeLine.failed id error).text.toList
  | .other text => Inert text

instance (l : RuntimeLine) : Decidable l.Unmistakable :=
  match l with
  | .invoke id depth => inferInstanceAs (Decidable (IdText id ∧ depth < 255))
  | .consumed id _ _ =>
      inferInstanceAs (Decidable (IdText id ∧ ¬ "consumed".toList <:+ id.toList))
  | .success id => inferInstanceAs (Decidable (IdText id))
  | .failed id error =>
      inferInstanceAs (Decidable
        (¬ invokeMarker <:+: (RuntimeLine.failed id error).text.toList ∧
          ¬ unitsMarker <:+: (RuntimeLine.failed id error).text.toList ∧
          ¬ successMarker <:+: (RuntimeLine.failed id error).text.toList))
  | .other text => inferInstanceAs (Decidable (Inert text))

/-- What the line means. -/
def RuntimeLine.mark : RuntimeLine → Option (Mark UInt8 Figures)
  | .invoke _ depth => some (.enter (UInt8.ofNat depth))
  | .consumed _ units _ => some (.note (unitsUpdate units))
  | .success _ => some (.leave (codeUpdate 0))
  | .failed _ _ => some (.leave (codeUpdate 1))
  | .other _ => none

/-- An invoke line counts its depth in one byte. -/
def RuntimeLine.Shallow (l : RuntimeLine) : Prop :=
  ∀ id depth, l = .invoke id depth → depth < 255

/-- The parser reads the line as it is meant. -/
structure RuntimeLine.Legible (l : RuntimeLine) : Prop where
  read : readLine l.text = l.mark
  shallow : l.Shallow

/-- The text of the id ends like the marker of a consumed line. -/
def EndsLikeMarker (id : String) : Prop :=
  "consumed".toList <:+ id.toList

instance (id : String) : Decidable (EndsLikeMarker id) :=
  inferInstanceAs (Decidable ("consumed".toList <:+ id.toList))

/-- What the parser makes of a line of the runtime when it takes none for another kind of line: the
marker of a consumed line is missed where the id ends like it. -/
def RuntimeLine.heard : RuntimeLine → Option (Mark UInt8 Figures)
  | .consumed id units _ =>
      if EndsLikeMarker id then none else some (.note (unitsUpdate units))
  | .invoke _ depth => some (.enter (UInt8.ofNat depth))
  | .success _ => some (.leave (codeUpdate 0))
  | .failed _ _ => some (.leave (codeUpdate 1))
  | .other _ => none

theorem RuntimeLine.Unmistakable.heard_eq {l : RuntimeLine} (h : l.Unmistakable) :
    l.heard = l.mark := by
  cases l with
  | consumed id units total => exact if_neg h.2
  | _ => rfl

theorem RuntimeLine.Unmistakable.read {l : RuntimeLine} (h : l.Unmistakable) :
    readLine l.text = l.mark := by
  cases l with
  | invoke id depth =>
      -- The line counts depths from 1, the parser subtracts it again.
      rcases h with ⟨hid, hdepth⟩
      have hdepth' : (UInt8.ofNat (depth + 1)).toNat = depth + 1 :=
        UInt8.toNat_ofNat_of_lt' (Nat.succ_lt_succ hdepth)
      simp only [readLine, parseInvokeLog_invoke hid hdepth, hdepth', Nat.add_sub_cancel,
        RuntimeLine.mark]
  | consumed id units total =>
      rcases h with ⟨hid, hend⟩
      simp [readLine, parseInvokeLog_consumed hid, parseConsumedLog_consumed hid hend,
        RuntimeLine.mark]
  | success id => exact readLine_success h
  | failed id error =>
      rcases h with ⟨hinvoke, hunits, hsuccess⟩
      have hnone : parseInvokeLog (RuntimeLine.failed id error).text = none := if_neg hinvoke
      have hnone' : parseConsumedLog (RuntimeLine.failed id error).text = none :=
        if_neg fun hboth => hunits hboth.2
      simp [readLine, hnone, hnone', parseResultLog, hsuccess, failed_infix, RuntimeLine.mark]
  | other text => exact readLine_eq_none_iff.2 h

theorem RuntimeLine.Unmistakable.shallow {l : RuntimeLine} (h : l.Unmistakable) : l.Shallow := by
  rintro id depth rfl
  exact h.2

theorem RuntimeLine.Unmistakable.legible {l : RuntimeLine} (h : l.Unmistakable) : l.Legible :=
  ⟨h.read, h.shallow⟩

end Svm
end Quasar
