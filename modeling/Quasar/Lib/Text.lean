import Mathlib.Data.List.Infix

/-!
# Text — splitting text at a pattern, reading decimal numerals

A parser that classifies lines by substring search looks for a pattern with `· <:+: ·`, cuts the
line at the pattern's occurrences with `split`, and reads a numeral with `parseUnsigned`.  The
lemmas locate occurrences by a *terminator*: a character that ends the pattern and does not occur
earlier in it, so an occurrence has to end where that character stands.
-/

namespace Lib
namespace Text

/-! ## Locating a pattern by its last character -/

section Terminator

variable {c : Char} {p u v : List Char}

/-- A pattern ending in `c` is a prefix of `u ++ c :: v` only when it is `u` up to that `c`. -/
theorem terminated_prefix_iff (hp : c ∉ p) (hu : c ∉ u) :
    p ++ [c] <+: u ++ c :: v ↔ p = u := by
  induction p generalizing u with
  | nil =>
      cases u with
      | nil => simp
      | cons x u =>
          have hx : c ≠ x := by
            intro h
            exact hu (by simp [h])
          simp [hx]
  | cons y p ih =>
      have hy : y ≠ c := by
        intro h
        exact hp (by simp [h])
      cases u with
      | nil => simp [hy]
      | cons x u =>
          have hp' : c ∉ p := fun h => hp (by simp [h])
          have hu' : c ∉ u := fun h => hu (by simp [h])
          have ih' := ih hp' hu'
          simp only [List.cons_append, List.cons_prefix_cons, ih', List.cons.injEq]

/-- No occurrence of `p ++ [c]` starts inside `u` when `p` is not the end of `u`. -/
theorem not_prefix_of_not_suffix (hp : c ∉ p) (hu : c ∉ u) (hend : ¬ p <:+ u) {w : List Char}
    (hw : w <:+ u) : ¬ p ++ [c] <+: w ++ c :: v := by
  intro h
  have hwc : c ∉ w := fun hc => hu (hw.subset hc)
  have : p = w := (terminated_prefix_iff hp hwc).1 h
  exact hend (this ▸ hw)

end Terminator

/-- A pattern with a character that the text lacks does not occur in the text. -/
theorem not_infix_of_notMem {c : Char} {pat s : List Char} (hc : c ∈ pat) (hs : c ∉ s) :
    ¬ pat <:+: s := by
  intro h
  exact hs (h.subset hc)

/-- A pattern that starts with `c` and occurs in `u ++ v` occurs in `v` when `u` lacks `c`. -/
theorem infix_append_iff_of_notMem {c : Char} {pat u v : List Char} (hu : c ∉ u) :
    c :: pat <:+: u ++ v ↔ c :: pat <:+: v := by
  induction u with
  | nil => simp
  | cons x u ih =>
      have hx : c ≠ x := by
        intro h
        exact hu (by simp [h])
      have hu' : c ∉ u := fun h => hu (by simp [h])
      rw [List.cons_append, List.infix_cons_iff, ih hu']
      simp [hx]

/-- An occurrence of a pattern that lacks `c` ends before the next `c`. -/
theorem prefix_word_iff {c : Char} {p u v : List Char} (hp : c ∉ p) :
    p <+: u ++ c :: v ↔ p <+: u := by
  refine ⟨fun h => ?_, fun h => h.trans (List.prefix_append u _)⟩
  rcases List.prefix_or_prefix_of_prefix h (List.prefix_append u (c :: v)) with hpu | hup
  · exact hpu
  · -- A longer pattern would have the `c` in it.
    obtain ⟨w, rfl⟩ := hup
    have hw : w <+: c :: v := (List.prefix_append_right_inj u).1 h
    cases w with
    | nil => simp
    | cons x w =>
        obtain ⟨rfl, -⟩ := List.cons_prefix_cons.1 hw
        exact absurd (by simp) hp

/-- A pattern that starts with `c` occurs behind the first `c` or later. -/
theorem infix_word_iff {c : Char} {p u v : List Char} (hu : c ∉ u) :
    c :: p <:+: u ++ c :: v ↔ p <+: v ∨ c :: p <:+: v := by
  rw [infix_append_iff_of_notMem hu, List.infix_cons_iff, List.cons_prefix_cons]
  simp

/-- Where no occurrence starts in `u` and `v` has none, there is none. -/
theorem not_infix_of_free {pat u v : List Char}
    (hfree : ∀ w, w <:+ u → w ≠ [] → ¬ pat <+: w ++ v) (hv : ¬ pat <:+: v) :
    ¬ pat <:+: u ++ v := by
  induction u with
  | nil => exact hv
  | cons x u ih =>
      rw [List.cons_append, List.infix_cons_iff]
      rintro (hpre | hin)
      · exact hfree (x :: u) (List.suffix_refl _) (by simp) hpre
      · exact ih (fun w hw hne => hfree w (hw.trans (List.suffix_cons x u)) hne) hin

/-! ## Splitting at every occurrence -/

/-- `skip` characters of the current occurrence remain to be passed over; `acc` holds the piece
under construction, reversed. -/
def splitFrom (pat : List Char) : Nat → List Char → List Char → List (List Char)
  | _, acc, [] => [acc.reverse]
  | skip + 1, acc, _ :: s => splitFrom pat skip acc s
  | 0, acc, c :: s =>
      if pat <+: c :: s then
        acc.reverse :: splitFrom pat (pat.length - 1) [] s
      else
        splitFrom pat 0 (c :: acc) s

/-- The pieces of `s` between consecutive occurrences of `pat`, scanning left to right. -/
def split (pat s : List Char) : List (List Char) :=
  splitFrom pat 0 [] s

theorem splitFrom_skip (pat acc u v : List Char) :
    splitFrom pat u.length acc (u ++ v) = splitFrom pat 0 acc v := by
  induction u with
  | nil => rfl
  | cons x u ih => simpa [splitFrom] using ih

/-- Characters at which no occurrence starts are moved to the piece under construction. -/
theorem splitFrom_advance {pat : List Char} (u v acc : List Char)
    (hfree : ∀ w, w <:+ u → w ≠ [] → ¬ pat <+: w ++ v) :
    splitFrom pat 0 acc (u ++ v) = splitFrom pat 0 (u.reverse ++ acc) v := by
  induction u generalizing acc with
  | nil => rfl
  | cons x u ih =>
      have hx : ¬ pat <+: x :: (u ++ v) := by
        simpa using hfree (x :: u) (List.suffix_refl _) (by simp)
      have hu : ∀ w, w <:+ u → w ≠ [] → ¬ pat <+: w ++ v := by
        intro w hw hne
        exact hfree w (hw.trans (List.suffix_cons x u)) hne
      simp [splitFrom, hx, ih (x :: acc) hu]

theorem splitFrom_match {pat : List Char} (hne : pat ≠ []) (acc v : List Char) :
    splitFrom pat 0 acc (pat ++ v) = acc.reverse :: split pat v := by
  rcases List.exists_cons_of_ne_nil hne with ⟨x, p, rfl⟩
  have hpre : x :: p <+: x :: (p ++ v) := ⟨v, by simp⟩
  have hskip := splitFrom_skip (x :: p) [] p v
  simpa [splitFrom, hpre, split] using hskip

/-- Cutting at the first occurrence: the first piece is what precedes it. -/
theorem split_append {pat u v : List Char} (hne : pat ≠ [])
    (hfree : ∀ w, w <:+ u → w ≠ [] → ¬ pat <+: w ++ (pat ++ v)) :
    split pat (u ++ (pat ++ v)) = u :: split pat v := by
  calc
    split pat (u ++ (pat ++ v))
        = splitFrom pat 0 (u.reverse ++ []) (pat ++ v) := splitFrom_advance u (pat ++ v) [] hfree
    _ = u :: split pat v := by rw [splitFrom_match hne]; simp

/-- Without an occurrence the text is its own only piece. -/
theorem split_of_not_infix {pat s : List Char} (h : ¬ pat <:+: s) :
    split pat s = [s] := by
  have hfree : ∀ w, w <:+ s → w ≠ [] → ¬ pat <+: w ++ [] := by
    intro w hw _ hpre
    rw [List.append_nil] at hpre
    exact h (hpre.isInfix.trans hw.isInfix)
  have hadv := splitFrom_advance s [] [] hfree
  simpa [split, splitFrom] using hadv

/-- Cutting at a single character. -/
theorem split_char {c : Char} {u v : List Char} (hu : c ∉ u) :
    split [c] (u ++ c :: v) = u :: split [c] v := by
  have hfree : ∀ w, w <:+ u → w ≠ [] → ¬ [c] <+: w ++ ([c] ++ v) := by
    intro w hw hne hpre
    rcases List.exists_cons_of_ne_nil hne with ⟨x, w, rfl⟩
    have hx : c = x := by simpa using hpre
    exact hu (hw.subset (by simp [hx]))
  exact split_append (by simp) hfree

/-- A terminated pattern does not occur any earlier when its terminator does not. -/
theorem free_of_terminated {c : Char} {p u v : List Char} (hp : c ∉ p) (hu : c ∉ u) :
    ∀ w, w <:+ u → w ≠ [] → ¬ p ++ [c] <+: w ++ (p ++ [c] ++ v) := by
  intro w hw hne hpre
  have hwc : c ∉ w ++ p := by
    intro h
    rcases List.mem_append.1 h with h | h
    · exact hu (hw.subset h)
    · exact hp h
  have heq : p = w ++ p := (terminated_prefix_iff (v := v) hp hwc).1 (by simpa using hpre)
  have hlen := congrArg List.length heq
  simp only [List.length_append] at hlen
  have : w.length = 0 := by omega
  exact hne (List.length_eq_zero_iff.1 this)

/-! ## Decimal numerals -/

/-- The unsigned numeral reader of a `bound`-limited integer type: an optional plus sign, then at
least one digit, and nothing else. -/
def parseUnsigned (bound : Nat) (s : List Char) : Option Nat :=
  let digits := match s with
    | '+' :: ds => ds
    | ds => ds
  if digits ≠ [] ∧ digits.all Char.isDigit ∧ Nat.ofDigitChars 10 digits 0 < bound then
    some (Nat.ofDigitChars 10 digits 0)
  else
    none

theorem isDigit_of_mem_toDigits {n : Nat} {c : Char} (h : c ∈ Nat.toDigits 10 n) : c.isDigit :=
  Nat.isDigit_of_mem_toDigits (by omega) (by omega) h

/-- A numeral contains no character other than a digit. -/
theorem notMem_toDigits {n : Nat} {c : Char} (h : c.isDigit = false) : c ∉ Nat.toDigits 10 n := by
  intro hmem
  have := isDigit_of_mem_toDigits hmem
  simp [h] at this

theorem parseUnsigned_toDigits {bound n : Nat} (h : n < bound) :
    parseUnsigned bound (Nat.toDigits 10 n) = some n := by
  have hval : Nat.ofDigitChars 10 (Nat.toDigits 10 n) 0 = n := Nat.ofDigitChars_ten_toDigits
  have hall : (Nat.toDigits 10 n).all Char.isDigit = true :=
    List.all_eq_true.2 fun c hc => isDigit_of_mem_toDigits hc
  have hplus : ∀ ds, Nat.toDigits 10 n ≠ '+' :: ds := by
    intro ds heq
    have hmem : '+' ∈ Nat.toDigits 10 n := by simp [heq]
    exact notMem_toDigits (by decide) hmem
  unfold parseUnsigned
  split
  · rename_i ds heq
    exact absurd heq (hplus ds)
  · simp [hval, hall, h, Nat.toDigits_ne_nil]

end Text
end Lib
