import Mathlib.Tactic.SplitIfs
import Underlay.Text.Utf8

/-!
# Bytes of a text

The bytes of a text are those of its characters in turn. Only the zero character has a zero byte, so
a text without it can be ended by a zero byte and is read up to there as a whole.
-/

namespace Underlay.Text

theorem loop_eq (bytes : ByteArray) (i : Nat) (read : List UInt8) :
    ByteArray.toList.loop bytes i read = read.reverse ++ bytes.data.toList.drop i := by
  fun_induction ByteArray.toList.loop bytes i read with
  | case1 i read inside inductionHypothesis =>
      have there : i < bytes.data.size := inside
      have first : bytes.get! i = bytes.data[i] := getElem!_pos bytes.data i there
      rw [inductionHypothesis, List.reverse_cons, List.append_assoc, List.singleton_append, first,
        List.drop_eq_getElem_cons (l := bytes.data.toList) there, Array.getElem_toList]
  | case2 i read outside =>
      have ended : bytes.data.toList.length ≤ i := Nat.le_of_not_lt outside
      rw [List.drop_eq_nil_of_le ended, List.append_nil]

theorem encode_eq_data (text : String) : encode text = text.toByteArray.data.toList := by
  change text.toByteArray.toList = _
  rw [ByteArray.toList, loop_eq, List.reverse_nil, List.nil_append, List.drop_zero]

theorem length_encode (text : String) : (encode text).length = text.utf8ByteSize := by
  rw [encode_eq_data]
  rfl

theorem encode_eq_flatMap (text : String) :
    encode text = text.toList.flatMap String.utf8EncodeChar := by
  have bytes : text.toByteArray = text.toList.utf8Encode := by
    rw [← String.toByteArray_ofList, String.ofList_toList]
  rw [encode_eq_data, bytes, List.utf8Encode, List.data_toByteArray]

theorem ofNat_ne_zero {n : Nat} (positive : 0 < n) (byte : n < 256) : 0 ≠ UInt8.ofNat n := by
  intro zero
  have none : 0 = n % 256 := congrArg UInt8.toNat zero
  omega

theorem zero_notMem_utf8EncodeChar {c : Char} (nonzero : c ≠ '\x00') :
    0 ∉ String.utf8EncodeChar c := by
  have positive : c.val.toNat ≠ 0 := fun zero => nonzero (Char.ext (UInt32.toNat_inj.mp zero))
  simp only [String.utf8EncodeChar]
  split_ifs <;> simp only [List.mem_cons, List.not_mem_nil, or_false, not_or]
  · exact ofNat_ne_zero (by omega) (by omega)
  all_goals repeat' constructor
  all_goals exact ofNat_ne_zero (by omega) (by omega)

theorem zero_notMem_encode {text : String} (nonzero : '\x00' ∉ text.toList) : 0 ∉ encode text := by
  rw [encode_eq_flatMap, List.mem_flatMap]
  rintro ⟨c, there, zero⟩
  exact zero_notMem_utf8EncodeChar (fun same => nonzero (same ▸ there)) zero

/-- A text without zero characters is read back up to the zero byte behind it. -/
theorem terminated_encode {text : String} (nonzero : '\x00' ∉ text.toList) (behind : List UInt8) :
    terminated (encode text ++ 0 :: behind) = encode text := by
  have plain : ∀ byte ∈ encode text, (byte != 0) = true := fun byte there =>
    bne_iff_ne.mpr fun zero => zero_notMem_encode nonzero (zero ▸ there)
  rw [terminated, List.takeWhile_append_of_pos plain, List.takeWhile_cons_of_neg (by decide),
    List.append_nil]

end Underlay.Text
