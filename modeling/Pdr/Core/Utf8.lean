import Pdr.Core.Types

/-!
# The bytes of a text

The source writes its texts in UTF-8 and compares, searches and cuts them byte by byte. A character
of ASCII is one byte, and that byte is in a text only where the character is.

## Main results

* `Pdr.utf8_eq_flatMap`: the bytes of a text are those of its characters.
* `Pdr.utf8_append`, `Pdr.utf8_injective`
* `Pdr.notMem_utf8`: a byte of ASCII is in a text only with its character.
-/

namespace Pdr

theorem toList_loop (bytes : ByteArray) (i : Nat) (taken : List UInt8) :
    ByteArray.toList.loop bytes i taken = taken.reverse ++ bytes.data.toList.drop i := by
  induction h : bytes.size - i generalizing i taken with
  | zero =>
    have hlength : bytes.data.toList.length ≤ i := by
      change bytes.size ≤ i
      omega
    rw [ByteArray.toList.loop, if_neg (by omega), List.drop_of_length_le hlength, List.append_nil]
  | succ left ih =>
    have hi : i < bytes.data.toList.length := by
      change i < bytes.size
      omega
    have hget : bytes.get! i = bytes.data.toList[i] := by
      change bytes.data[i]! = _
      rw [getElem!_pos bytes.data i hi, Array.getElem_toList]
    rw [ByteArray.toList.loop, if_pos (by omega), ih (i + 1) _ (by omega), hget, List.reverse_cons,
      List.append_assoc, List.singleton_append, ← List.drop_eq_getElem_cons hi]

theorem toList_eq_data (bytes : ByteArray) : bytes.toList = bytes.data.toList := by
  rw [ByteArray.toList, toList_loop, List.reverse_nil, List.nil_append, List.drop_zero]

/-- The bytes of a text are those of its characters. -/
theorem utf8_eq_flatMap (text : String) :
    utf8 text = text.toList.flatMap String.utf8EncodeChar := by
  have hbytes : text.toUTF8 = (text.toList.flatMap String.utf8EncodeChar).toByteArray :=
    String.utf8Encode_toList.symm
  rw [utf8, toList_eq_data, hbytes, List.toList_data_toByteArray]

@[simp] theorem utf8_append (front back : String) :
    utf8 (front ++ back) = utf8 front ++ utf8 back := by
  simp only [utf8_eq_flatMap, String.toList_append, List.flatMap_append]

theorem utf8_injective : Function.Injective utf8 := by
  intro text other h
  refine String.toByteArray_inj.1 (ByteArray.ext (Array.toList_inj.1 ?_))
  rwa [utf8, utf8, toList_eq_data, toList_eq_data] at h

theorem forall_toList {P : Char → Prop} [DecidablePred P] {characters : List Char}
    (h : characters.all (fun c => decide (P c)) = true) :
    ∀ c ∈ (String.ofList characters).toList, P c := by
  intro c hc
  rw [String.toList_ofList] at hc
  exact of_decide_eq_true (List.all_eq_true.1 h c hc)

theorem utf8_ofList {P : Text → Prop} {characters : List Char}
    (h : P (characters.flatMap String.utf8EncodeChar)) : P (utf8 (String.ofList characters)) := by
  rwa [utf8_eq_flatMap, String.toList_ofList]

/-- A byte of a character is the character, or it is not in ASCII. -/
theorem byte_of_utf8EncodeChar {c : Char} {byte : UInt8} (h : byte ∈ String.utf8EncodeChar c) :
    byte.toNat = c.toNat ∨ 128 ≤ byte.toNat := by
  have hsmall : ∀ n : Nat, n < 256 → (UInt8.ofNat n).toNat = n := fun n hn =>
    UInt8.toNat_ofNat_of_lt' hn
  change byte.toNat = c.val.toNat ∨ _
  unfold String.utf8EncodeChar at h
  generalize c.val.toNat = v at h
  dsimp only at h
  split at h
  · rw [List.mem_singleton] at h
    exact Or.inl (by rw [h, hsmall v (by omega)])
  · right
    split at h
    · simp only [List.mem_cons, List.not_mem_nil, or_false] at h
      rcases h with rfl | rfl <;> rw [hsmall _ (by omega)] <;> omega
    · split at h
      · simp only [List.mem_cons, List.not_mem_nil, or_false] at h
        rcases h with rfl | rfl | rfl <;> rw [hsmall _ (by omega)] <;> omega
      · simp only [List.mem_cons, List.not_mem_nil, or_false] at h
        rcases h with rfl | rfl | rfl | rfl <;> rw [hsmall _ (by omega)] <;> omega

/-- A byte of ASCII is in a text only with its character. -/
theorem notMem_utf8 {c : Char} (hascii : c.toNat < 128) {text : String} (h : c ∉ text.toList) :
    c.toNat.toUInt8 ∉ utf8 text := by
  rw [utf8_eq_flatMap, List.mem_flatMap]
  rintro ⟨other, hother, hin⟩
  have hbyte : c.toNat.toUInt8.toNat = c.toNat :=
    UInt8.toNat_ofNat_of_lt' (Nat.lt_trans hascii (by decide))
  rcases byte_of_utf8EncodeChar hin with hsame | hhigh
  · exact h (Char.toNat_inj.1 (hsame.symm.trans hbyte) ▸ hother)
  · omega

end Pdr
