import DeviceBoot.Config
/-!
# The bytes of a text

Names, entry records and console lines are all texts taken as their UTF-8 bytes. Reading a byte
array into a list is a loop over its indices; `toList_eq_data` says it gives the array's own list,
from which the bytes of a text are injective (`toUTF8_toList_inj`: distinct names stay distinct as
bytes) and respect concatenation (`toUTF8_toList_append`: lines written one after another are the
bytes of their concatenation).
-/

namespace DeviceBoot

/-- The reading loop from index `i` on, with the bytes read so far reversed in `r`. -/
theorem toList_loop_eq (bs : ByteArray) (i : Nat) (r : List UInt8) :
    ByteArray.toList.loop bs i r = r.reverse ++ bs.data.toList.drop i := by
  fun_induction ByteArray.toList.loop bs i r with
  | case1 i r hi ih =>
    rw [ih]
    have hi' : i < bs.data.toList.length := by simpa using hi
    rw [List.drop_eq_getElem_cons hi']
    simp [ByteArray.get!, hi]
  | case2 i r hi =>
    have hend : bs.data.toList.drop i = [] := List.drop_eq_nil_of_le (by simp at hi ⊢; omega)
    simp [hend]

theorem toList_eq_data (bs : ByteArray) : bs.toList = bs.data.toList := by
  simp [ByteArray.toList, toList_loop_eq]

/-- Two texts have the same bytes only if they are the same text. -/
theorem toUTF8_toList_inj {s t : String} : s.toUTF8.toList = t.toUTF8.toList ↔ s = t := by
  rw [toList_eq_data, toList_eq_data, Array.toList_inj, ← ByteArray.ext_iff,
    String.toUTF8_eq_toByteArray, String.toUTF8_eq_toByteArray, String.toByteArray_inj]

@[simp] theorem toUTF8_toList_append (s t : String) :
    (s ++ t).toUTF8.toList = s.toUTF8.toList ++ t.toUTF8.toList := by
  simp [toList_eq_data, String.toByteArray_append]

end DeviceBoot
