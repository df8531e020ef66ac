import Mathlib.Data.List.Basic

/-!
# Utf8 — strings as byte lists

`utf8` is a string's encoding as a list of bytes, and `ofUtf8?` the strict decoder, which rejects
invalid bytes.  A bound on the encoding's length follows from the number of characters.
-/

namespace Lib

/-- The UTF-8 bytes of a string. -/
def utf8 (s : String) : List UInt8 :=
  s.toByteArray.data.toList

/-- The string that a list of bytes encodes, absent for invalid bytes. -/
def ofUtf8? (bytes : List UInt8) : Option String :=
  String.fromUTF8? ⟨bytes.toArray⟩

@[simp] theorem ofUtf8?_utf8 (s : String) : ofUtf8? (utf8 s) = some s := by
  have hbytes : (⟨(utf8 s).toArray⟩ : ByteArray) = s.toByteArray := by
    simp [utf8]
  have hvalid : s.toByteArray.IsValidUTF8 := s.isValidUTF8
  simp [ofUtf8?, hbytes, String.fromUTF8?, hvalid, String.fromUTF8]

theorem length_utf8 (s : String) :
    (utf8 s).length = (s.toList.flatMap String.utf8EncodeChar).length := by
  have hbytes : s.toByteArray = s.toList.utf8Encode := String.utf8Encode_toList.symm
  simp [utf8, hbytes, List.utf8Encode]

/-- A character takes at most four bytes. -/
theorem length_utf8_le (s : String) : (utf8 s).length ≤ 4 * s.toList.length := by
  rw [length_utf8]
  induction s.toList with
  | nil => simp
  | cons c cs ih =>
      have hc : (String.utf8EncodeChar c).length ≤ 4 := by
        simpa using Char.utf8Size_le_four c
      simp only [List.flatMap_cons, List.length_append, List.length_cons]
      omega

theorem utf8_eq_nil_iff (s : String) : utf8 s = [] ↔ s = "" := by
  constructor
  · -- The empty list decodes to one string only.
    intro h
    have hdecode := ofUtf8?_utf8 s
    rw [h] at hdecode
    exact (Option.some.inj ((ofUtf8?_utf8 "").symm.trans hdecode)).symm
  · intro h
    subst h
    rfl

theorem length_utf8_pos {s : String} (h : s ≠ "") : (utf8 s).length > 0 := by
  refine List.length_pos_of_ne_nil ?_
  intro hnil
  exact h ((utf8_eq_nil_iff s).1 hnil)

/-- A decoder that never fails: ill-formed input becomes one replacement character. -/
def utf8Lossy (bytes : List UInt8) : String :=
  (ofUtf8? bytes).getD "\uFFFD"

@[simp] theorem utf8Lossy_utf8 (s : String) : utf8Lossy (utf8 s) = s := by
  simp [utf8Lossy]

end Lib
