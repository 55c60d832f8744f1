import Mathlib.Data.String.Basic
import Mathlib.Data.List.Lex

/-!
# Texts in the order of their bytes

Texts are compared character by character, by code points. Encoded in UTF-8 they come in the same
order byte by byte: of two characters the one with the smaller code point has the smaller encoding,
and the difference shows before either encoding ends.
Main statement: `lt_iff_bytes_lt`.
-/

namespace RaceSentry.Text

/-- The bytes of a text in UTF-8. -/
def bytes (text : String) : List UInt8 := text.toUTF8.data.toList

/-- The bytes of a text are those of its characters, one after another. -/
theorem bytes_eq_flatMap (text : String) :
    bytes text = text.toList.flatMap String.utf8EncodeChar := by
  have encoded : text.toUTF8 = (text.toList.flatMap String.utf8EncodeChar).toByteArray := by
    rw [← List.utf8Encode, ← String.toByteArray_ofList, String.ofList_toList]
    rfl
  rw [bytes, encoded, List.data_toByteArray]

/-- The first bytes decide, unless they are the same. -/
theorem cons_lt_cons_of_le {left right : Nat} {after after' : List UInt8} (order : left ≤ right)
    (small : right < 256) (rest : left = right → after < after') :
    UInt8.ofNat left :: after < UInt8.ofNat right :: after' := by
  rcases Nat.lt_or_eq_of_le order with less | same
  · apply List.Lex.rel
    rw [UInt8.lt_iff_toNat_lt, UInt8.toNat_ofNat', UInt8.toNat_ofNat']
    omega
  · rw [same]
    exact List.Lex.cons (rest same)

/-- A smaller code point has a smaller encoding, whatever follows. The cases are the lengths of the
two encodings: the first bytes of longer ones are larger, and those of one length are the digits of
the code point. -/
theorem encode_lt_encode {left right : Char} (less : left < right) (after after' : List UInt8) :
    String.utf8EncodeChar left ++ after < String.utf8EncodeChar right ++ after' := by
  have order : left.val.toNat < right.val.toNat := less
  have most : right.val.toNat < 0x110000 := by
    have valid := right.valid
    simp only [UInt32.isValidChar, Nat.isValidChar] at valid
    omega
  unfold String.utf8EncodeChar
  generalize left.val.toNat = low at order ⊢
  generalize right.val.toNat = high at order most ⊢
  dsimp only
  split
  · split
    · exact cons_lt_cons_of_le (by omega) (by omega) fun same => by omega
    · split
      · exact cons_lt_cons_of_le (by omega) (by omega) fun same => by omega
      · split
        · exact cons_lt_cons_of_le (by omega) (by omega) fun same => by omega
        · exact cons_lt_cons_of_le (by omega) (by omega) fun same => by omega
  · rw [if_neg (by omega : ¬ high ≤ 127)]
    split
    · split
      · refine cons_lt_cons_of_le (by omega) (by omega) fun first => ?_
        exact cons_lt_cons_of_le (by omega) (by omega) fun second => by omega
      · split
        · exact cons_lt_cons_of_le (by omega) (by omega) fun same => by omega
        · exact cons_lt_cons_of_le (by omega) (by omega) fun same => by omega
    · rw [if_neg (by omega : ¬ high ≤ 2047)]
      split
      · split
        · refine cons_lt_cons_of_le (by omega) (by omega) fun first => ?_
          refine cons_lt_cons_of_le (by omega) (by omega) fun second => ?_
          exact cons_lt_cons_of_le (by omega) (by omega) fun third => by omega
        · exact cons_lt_cons_of_le (by omega) (by omega) fun same => by omega
      · rw [if_neg (by omega : ¬ high ≤ 65535)]
        refine cons_lt_cons_of_le (by omega) (by omega) fun first => ?_
        refine cons_lt_cons_of_le (by omega) (by omega) fun second => ?_
        refine cons_lt_cons_of_le (by omega) (by omega) fun third => ?_
        exact cons_lt_cons_of_le (by omega) (by omega) fun fourth => by omega

/-- The encodings of texts are in the order of the texts. -/
theorem flatMap_lt_flatMap {left right : List Char} (less : left < right) :
    left.flatMap String.utf8EncodeChar < right.flatMap String.utf8EncodeChar := by
  induction less with
  | @nil char rest =>
    have length : (String.utf8EncodeChar char).length = char.utf8Size :=
      String.length_utf8EncodeChar char
    rw [List.flatMap_nil, List.flatMap_cons]
    cases encoded : String.utf8EncodeChar char with
    | nil =>
      have positive := char.utf8Size_pos
      rw [encoded, List.length_nil] at length
      omega
    | cons first others => exact List.Lex.nil
  | cons less ih =>
    rw [List.flatMap_cons, List.flatMap_cons]
    exact List.append_left_lt ih
  | rel less =>
    rw [List.flatMap_cons, List.flatMap_cons]
    exact encode_lt_encode less _ _

/-- Texts are in the order of their bytes. -/
theorem lt_iff_bytes_lt (left right : String) : left < right ↔ bytes left < bytes right := by
  have forward {left right : String} (less : left < right) : bytes left < bytes right := by
    rw [bytes_eq_flatMap, bytes_eq_flatMap]
    exact flatMap_lt_flatMap less
  refine ⟨forward, fun less => ?_⟩
  rcases lt_trichotomy left right with before | same | after
  · exact before
  · rw [same] at less
    exact absurd less (List.lt_irrefl _)
  · exact absurd (forward after) (List.lt_asymm less)

end RaceSentry.Text
