import Quasar.Svm.LogLine

/-!
# Misreading — what the parser makes of every line of the runtime

The parser looks for its markers anywhere in a line.  The runtime's own texts have none of them, and
still two lines are misread: a consumed line whose program id ends in `consumed`, because the first
marker is then the end of the id, and a failure line whose id or error begins with `success`, because
the blank before it completes that marker.
-/

namespace Quasar
namespace Svm

open Lib

/-! ## The runtime's texts -/

/-- The phrases that the parser looks for. -/
def markers : List (List Char) :=
  [invokeMarker, consumedMarker, unitsMarker, successMarker, failedMarker]

def MarkerFree (text : String) : Prop :=
  ∀ marker ∈ markers, ¬ marker <:+: text.toList

instance (text : String) : Decidable (MarkerFree text) :=
  List.decidableBAll (fun marker => ¬ marker <:+: text.toList) markers

def StartsLikeSuccess (text : String) : Prop :=
  "success".toList <+: text.toList

instance (text : String) : Decidable (StartsLikeSuccess text) :=
  inferInstanceAs (Decidable ("success".toList <+: text.toList))

/-- The texts are such as the runtime writes: ids in base 58, depths that are counted up to 255, and
errors without a marker.  Another line is one that the parser passes over. -/
def RuntimeLine.Authentic : RuntimeLine → Prop
  | .invoke id depth => IdText id ∧ depth < 255
  | .consumed id _ _ => IdText id
  | .success id => IdText id
  | .failed id error => IdText id ∧ MarkerFree error
  | .other text => Inert text

instance (l : RuntimeLine) : Decidable l.Authentic :=
  match l with
  | .invoke id depth => inferInstanceAs (Decidable (IdText id ∧ depth < 255))
  | .consumed id _ _ => inferInstanceAs (Decidable (IdText id))
  | .success id => inferInstanceAs (Decidable (IdText id))
  | .failed id error => inferInstanceAs (Decidable (IdText id ∧ MarkerFree error))
  | .other text => inferInstanceAs (Decidable (Inert text))

/-- The code that is read from a failure line. -/
def failureCode (id error : String) : UInt64 :=
  if StartsLikeSuccess id ∨ StartsLikeSuccess error then 0 else 1

/-- What the parser makes of an authentic line. -/
def RuntimeLine.parsed : RuntimeLine → Option (Mark UInt8 Figures)
  | .invoke _ depth => some (.enter (UInt8.ofNat depth))
  | .consumed id units _ =>
      if EndsLikeMarker id then
        -- Without a numeral behind the marker the line goes on to the result parser.
        if StartsLikeSuccess id then some (.leave (codeUpdate 0)) else none
      else
        some (.note (unitsUpdate units))
  | .success _ => some (.leave (codeUpdate 0))
  | .failed id error => some (.leave (codeUpdate (failureCode id error)))
  | .other _ => none

/-! ## Where the success marker occurs -/

section Reading

variable {id error : String}

/-- Behind the word before the id, the success marker is completed by the id, by what follows the
blank after the id, or stands in it. -/
theorem success_infix_iff (h : IdText id) (rest : List Char) :
    successMarker <:+: "Program".toList ++ ' ' :: (id.toList ++ ' ' :: rest) ↔
      StartsLikeSuccess id ∨ "success".toList <+: rest ∨ successMarker <:+: rest := by
  rw [successMarker_eq, Text.infix_word_iff (by decide), Text.prefix_word_iff (by decide),
    Text.infix_word_iff h.notMem_blank]
  exact Iff.rfl

theorem toList_failed (id error : String) :
    (RuntimeLine.failed id error).text.toList =
      "Program".toList ++ ' ' :: (id.toList ++ ' ' :: ("failed:".toList ++ ' ' :: error.toList)) := by
  have hfailed : " failed: ".toList = ' ' :: ("failed:".toList ++ [' ']) := by decide
  simp only [RuntimeLine.text, toString, String.toList_append, toList_program, hfailed,
    List.append_assoc, List.cons_append, List.nil_append]

theorem parseResultLog_failed (hid : IdText id) (herror : MarkerFree error) :
    parseResultLog (RuntimeLine.failed id error).text = some (failureCode id error) := by
  have hfree : ¬ successMarker <:+: error.toList := herror _ (by decide)
  have hsuccess : successMarker <:+: (RuntimeLine.failed id error).text.toList ↔
      StartsLikeSuccess id ∨ StartsLikeSuccess error := by
    rw [toList_failed, success_infix_iff hid]
    refine or_congr_right ?_
    have hword : ¬ "success".toList <+: "failed:".toList ++ ' ' :: error.toList := by
      rw [Text.prefix_word_iff (by decide)]
      decide
    rw [or_iff_right hword, successMarker_eq, Text.infix_word_iff (by decide),
      ← successMarker_eq, or_iff_left hfree]
    exact Iff.rfl
  unfold parseResultLog failureCode
  simp only [hsuccess, failed_infix, if_true]
  split
  · rfl
  · rfl

/-! ## Failure lines are no invoke lines and no consumed lines -/

/-- A marker that no end of the failure marker begins stands before the failure marker's end or in
the error. -/
theorem not_infix_failed {marker before : List Char}
    (hlength : marker.length ≤ failedMarker.length)
    (hinits : ∀ a ∈ marker.inits, a <:+ failedMarker → a = [])
    (hbefore : ¬ marker <:+: before ++ failedMarker) (herror : ¬ marker <:+: error.toList) :
    ¬ marker <:+: (before ++ failedMarker) ++ error.toList := by
  rw [List.infix_append_iff_ne_nil]
  rintro (h | h | ⟨a, b, ha, -, hab, hsuffix, -⟩)
  · exact hbefore h
  · exact herror h
  · -- The occurrence would begin before the error and end in it.
    have hprefix : a <+: marker := hab ▸ List.prefix_append a b
    have hlen : a.length ≤ failedMarker.length := hprefix.length_le.trans hlength
    have hend : a <:+ failedMarker :=
      List.suffix_of_suffix_length_le hsuffix (List.suffix_append before failedMarker) hlen
    exact ha (hinits a ((List.mem_inits a marker).2 hprefix) hend)

theorem toList_failed_append (id error : String) :
    (RuntimeLine.failed id error).text.toList =
      (("Program ".toList ++ id.toList) ++ failedMarker) ++ error.toList := by
  have hfailed : " failed: ".toList = failedMarker := by decide
  simp only [RuntimeLine.text, toString, String.toList_append, hfailed]

theorem parseInvokeLog_failed (hid : IdText id) (herror : MarkerFree error) :
    parseInvokeLog (RuntimeLine.failed id error).text = none := by
  refine if_neg ?_
  rw [toList_failed_append]
  refine not_infix_failed (by decide) (by decide) ?_ (herror _ (by decide))
  refine Text.not_infix_of_notMem (c := '[') (by decide) ?_
  have hfailed : '[' ∉ failedMarker := by decide
  simp [hid.notMem_bracket, hfailed]

/-! ### Ids that end like the marker -/

/-- The first marker is the end of the id. -/
theorem free_before {x v : List Char} (hx : ' ' ∉ x) :
    ∀ w, w <:+ "Program ".toList ++ x → w ≠ [] → ¬ consumedMarker <+: w ++ (consumedMarker ++ v) := by
  rw [consumedMarker_eq]
  intro w hw hne
  rcases List.suffix_or_suffix_of_suffix hw (List.suffix_append "Program ".toList x) with hin | hout
  · -- The occurrence would begin inside the id, which has no blank of its own.
    exact Text.free_of_terminated (by decide) hx w hin hne
  · obtain ⟨u, rfl⟩ := hout
    have hu : u <:+ "Program".toList ++ [' '] := (List.suffix_append_self_iff).1 hw
    rcases List.eq_nil_or_concat u with rfl | ⟨u', y, rfl⟩
    · exact Text.free_of_terminated (by decide) hx x (List.suffix_refl x) hne
    · -- The occurrence would begin inside the word before the id, which does not end like it.
      obtain ⟨u'', heq, hu''⟩ := exists_of_suffix_concat hu (by simp)
      rw [heq]
      simpa using Text.not_prefix_of_not_suffix (v := x ++ (("consumed".toList ++ [' ']) ++ v))
        (by decide) (by decide) (by decide : ¬ "consumed".toList <:+ "Program".toList) hu''

/-- Between two markers there is no numeral. -/
theorem parseAfter_twice {u v : List Char} (stop : Char) (bound : ℕ)
    (hfree : ∀ w, w <:+ u → w ≠ [] →
      ¬ consumedMarker <+: w ++ (consumedMarker ++ (consumedMarker ++ v))) :
    parseAfter consumedMarker stop bound (u ++ (consumedMarker ++ (consumedMarker ++ v))) =
      none := by
  have hpieces : Text.split consumedMarker (u ++ (consumedMarker ++ (consumedMarker ++ v))) =
      u :: [] :: Text.split consumedMarker v := by
    rw [Text.split_append (by decide) hfree]
    refine congrArg (u :: ·) ?_
    exact Text.splitFrom_match (by decide) [] v
  have hnumeral : Text.split [stop] [] = [[]] := rfl
  simp [parseAfter, hpieces, hnumeral, Text.parseUnsigned]

theorem parseConsumedLog_of_endsLike (hid : IdText id) (hend : EndsLikeMarker id)
    (units total : UInt64) :
    parseConsumedLog (RuntimeLine.consumed id units total).text = none := by
  obtain ⟨x, hx⟩ := hend
  have hblank : ' ' ∉ x := fun h => hid.notMem_blank (hx ▸ List.mem_append_left _ h)
  have htext : (RuntimeLine.consumed id units total).text.toList =
      ("Program ".toList ++ x) ++ (consumedMarker ++ (consumedMarker ++
        (Nat.toDigits 10 units.toNat ++ ' ' ::
          ("of ".toList ++ (Nat.toDigits 10 total.toNat ++ unitsMarker))))) := by
    rw [toList_consumed, ← hx, consumedMarker_eq]
    simp only [List.append_assoc]
  -- The parser takes the piece between the end of the id and the runtime's own marker.
  unfold parseConsumedLog
  split
  · rw [htext, parseAfter_twice _ _ (free_before hblank)]
    rfl
  · rfl

theorem parseConsumedLog_failed (hid : IdText id) (herror : MarkerFree error) :
    parseConsumedLog (RuntimeLine.failed id error).text = none := by
  have herror' : ¬ consumedMarker <:+: "failed:".toList ++ ' ' :: error.toList := by
    have hmarker : consumedMarker = 'c' :: "onsumed ".toList := by decide
    have hfree : ¬ consumedMarker <:+: error.toList := herror _ (by decide)
    -- The word before the error has no `c`.
    rw [hmarker, Text.infix_append_iff_of_notMem (by decide), List.infix_cons_iff, ← hmarker]
    rintro (hpre | hin)
    · exact absurd (List.cons_prefix_cons.1 (hmarker ▸ hpre)).1 (by decide)
    · exact hfree hin
  by_cases hend : EndsLikeMarker id
  · -- Behind the end of the id stands no numeral.
    obtain ⟨x, hx⟩ := hend
    have hblank : ' ' ∉ x := fun h => hid.notMem_blank (hx ▸ List.mem_append_left _ h)
    have htext : (RuntimeLine.failed id error).text.toList =
        ("Program ".toList ++ x) ++ (consumedMarker ++ ("failed:".toList ++ ' ' :: error.toList)) := by
      rw [toList_failed, ← hx, consumedMarker_eq, toList_program]
      simp only [List.append_assoc, List.cons_append, List.nil_append]
    have hparse := parseAfter_append (2 ^ 64) (by decide) (free_before hblank) herror' (by decide)
    have hnumeral : Text.parseUnsigned (2 ^ 64) "failed:".toList = none := by decide
    unfold parseConsumedLog
    split
    · rw [htext, hparse, hnumeral]
      rfl
    · rfl
  · -- Neither the words before the error nor the error have the marker.
    refine if_neg fun hboth => ?_
    have htext : (RuntimeLine.failed id error).text.toList =
        ("Program ".toList ++ (id.toList ++ [' '])) ++ ("failed:".toList ++ ' ' :: error.toList) := by
      rw [toList_failed, toList_program]
      simp only [List.append_assoc, List.cons_append, List.nil_append]
    exact Text.not_infix_of_free (free_of_id hid hend) herror' (htext ▸ hboth.1)

/-! ## Consumed lines as result lines -/

/-- The words behind the id of a consumed line. -/
def consumedWords (units total : UInt64) : List Char :=
  "consumed".toList ++ ' ' :: (Nat.toDigits 10 units.toNat ++ ' ' ::
    ("of".toList ++ ' ' :: (Nat.toDigits 10 total.toNat ++ ' ' ::
      ("compute".toList ++ ' ' :: "units".toList))))

theorem toList_consumed_words (id : String) (units total : UInt64) :
    (RuntimeLine.consumed id units total).text.toList =
      "Program".toList ++ ' ' :: (id.toList ++ ' ' :: consumedWords units total) := by
  have hof : "of ".toList = "of".toList ++ [' '] := by decide
  have hunits : unitsMarker = ' ' :: ("compute".toList ++ ' ' :: "units".toList) := by decide
  unfold consumedWords
  rw [toList_consumed, toList_program, consumedMarker_eq, hof, hunits]
  simp only [List.append_assoc, List.cons_append, List.nil_append]

/-- None of the words begins with `success`. -/
theorem success_not_infix_words (units total : UInt64) :
    ¬ ("success".toList <+: consumedWords units total ∨
      successMarker <:+: consumedWords units total) := by
  have hdigits : ∀ n : ℕ, ' ' ∉ Nat.toDigits 10 n := fun n => Text.notMem_toDigits (by decide)
  have hnumeral : ∀ n : ℕ, ¬ "success".toList <+: Nat.toDigits 10 n := by
    intro n hpre
    have hs : 's' ∈ Nat.toDigits 10 n := hpre.subset (by decide)
    exact Text.notMem_toDigits (by decide) hs
  have hlast : ¬ ' ' :: "success".toList <:+: "units".toList := by decide
  -- Word by word, from the left.
  unfold consumedWords
  rw [successMarker_eq, Text.prefix_word_iff (by decide), Text.infix_word_iff (by decide),
    Text.prefix_word_iff (by decide), Text.infix_word_iff (hdigits _),
    Text.prefix_word_iff (by decide), Text.infix_word_iff (by decide),
    Text.prefix_word_iff (by decide), Text.infix_word_iff (hdigits _),
    Text.prefix_word_iff (by decide), Text.infix_word_iff (by decide)]
  simp only [hnumeral, hlast, or_false, false_or]
  decide

theorem parseResultLog_consumed (hid : IdText id) (units total : UInt64) :
    parseResultLog (RuntimeLine.consumed id units total).text =
      if StartsLikeSuccess id then some 0 else none := by
  have hsuccess : successMarker <:+: (RuntimeLine.consumed id units total).text.toList ↔
      StartsLikeSuccess id := by
    rw [toList_consumed_words, success_infix_iff hid,
      or_iff_left (success_not_infix_words units total)]
  -- No colon stands in the line.
  have hcolon : ':' ∉ (RuntimeLine.consumed id units total).text.toList := by
    have hdigits : ∀ n : ℕ, ':' ∉ Nat.toDigits 10 n := fun n => Text.notMem_toDigits (by decide)
    have hidcolon : ':' ∉ id.toList := fun h => (hid ':' h).2.2.2 rfl
    rw [toList_consumed_words]
    unfold consumedWords
    simp [hdigits, hidcolon]
  have hfailed : ¬ failedMarker <:+: (RuntimeLine.consumed id units total).text.toList :=
    Text.not_infix_of_notMem (by decide) hcolon
  unfold parseResultLog
  simp only [hsuccess, hfailed, if_false]

/-! ## Every authentic line -/

/-- What the parser makes of an authentic line, misread or not. -/
theorem readLine_eq_parsed {l : RuntimeLine} (h : l.Authentic) : readLine l.text = l.parsed := by
  cases l with
  | invoke id depth =>
      have hread : (RuntimeLine.invoke id depth).Unmistakable := h
      exact hread.read
  | consumed id units total =>
      have hid : IdText id := h
      by_cases hend : EndsLikeMarker id
      · -- The line falls through to the result parser.
        have hread : readLine (RuntimeLine.consumed id units total).text =
            (if StartsLikeSuccess id then some 0 else none).map fun code =>
              .leave (codeUpdate code) := by
          simp only [readLine, parseInvokeLog_consumed hid,
            parseConsumedLog_of_endsLike hid hend, parseResultLog_consumed hid]
        rw [hread, RuntimeLine.parsed, if_pos hend]
        split
        · rfl
        · rfl
      · have hread : (RuntimeLine.consumed id units total).Unmistakable := ⟨hid, hend⟩
        rw [hread.read, RuntimeLine.parsed, if_neg hend]
        rfl
  | success id =>
      have hread : (RuntimeLine.success id).Unmistakable := h
      exact hread.read
  | failed id error =>
      obtain ⟨hid, herror⟩ := h
      simp only [readLine, parseInvokeLog_failed hid herror, parseConsumedLog_failed hid herror,
        parseResultLog_failed hid herror, RuntimeLine.parsed, Option.map_some]
  | other text =>
      have hinert : Inert text := h
      exact readLine_eq_none_iff.2 hinert

end Reading

end Svm
end Quasar
