set_option autoImplicit false

namespace TemplateLexer.Markup

theorem toList_byteArray (bs : ByteArray) : bs.toList = bs.data.toList := by
  have hloop : ∀ (k i : Nat) (done : List UInt8), bs.size - i = k →
      ByteArray.toList.loop bs i done = done.reverse ++ bs.data.toList.drop i := by
    intro k
    induction k with
    | zero =>
      intro i done hk
      rw [ByteArray.toList.loop.eq_def, if_neg (by omega), List.drop_of_length_le]
      · simp
      · simpa using Nat.le_of_sub_eq_zero hk
    | succ k ih =>
      intro i done hk
      have hi : i < bs.data.toList.length := by
        have hsize : bs.size = bs.data.toList.length := by simp
        omega
      rw [ByteArray.toList.loop.eq_def, if_pos (by omega), ih _ _ (by omega),
        List.drop_eq_getElem_cons hi]
      simp [ByteArray.get!, getElem!_pos bs.data i (by simpa using hi)]
  exact hloop _ 0 [] rfl

theorem toUTF8_append (s t : String) :
    (s ++ t).toUTF8.toList = s.toUTF8.toList ++ t.toUTF8.toList := by
  simp only [toList_byteArray]
  simp

theorem length_toUTF8 (s : String) : s.toUTF8.toList.length = s.utf8ByteSize := by
  rw [toList_byteArray]
  simp [← String.size_toByteArray]

theorem fromUTF8?_toUTF8 (s : String) : String.fromUTF8? ⟨s.toUTF8.toList.toArray⟩ = some s := by
  rw [toList_byteArray, String.fromUTF8?]
  exact dif_pos s.isValidUTF8

theorem toUTF8_join (ss : List String) :
    (String.join ss).toUTF8.toList = (ss.map fun s => s.toUTF8.toList).flatten := by
  induction ss with
  | nil =>
    rw [toList_byteArray]
    rfl
  | cons s ss ih => rw [String.join_cons, toUTF8_append, ih]; rfl

theorem toUTF8_toList (s : String) :
    s.toUTF8.toList = s.toList.flatMap String.utf8EncodeChar := by
  have hbytes : s.toUTF8 = s.toList.utf8Encode := by
    rw [String.toUTF8, ← String.toByteArray_ofList, String.ofList_toList]
  rw [toList_byteArray, hbytes, List.utf8Encode, List.toList_data_toByteArray]

end TemplateLexer.Markup
