import Mathlib
import Gamebook.Web.Percent

namespace Gamebook
namespace Percent

variable {c : Char} {cs : List Char} {bs : List UInt8} {s : String}

theorem bytes_cons (h : c ≠ '%') : bytes (c :: cs) = String.utf8EncodeChar c ++ bytes cs := by
  rw [bytes.eq_def]
  split <;> simp_all

theorem firstChar?_cons (h : c.utf8Size = 1) : firstChar? (String.utf8EncodeChar c ++ bs) = some (c, 1) := by
  have he : String.utf8EncodeChar c = [c.val.toUInt8] := String.utf8EncodeChar_eq_singleton h
  have hb : (⟨[c.val.toUInt8].toArray⟩ : ByteArray) = (String.ofList [c]).toUTF8 := by
    rw [String.toUTF8_eq_toByteArray, String.toByteArray_ofList, List.utf8Encode_singleton, he]
    rfl
  have hu : String.fromUTF8? (String.ofList [c]).toUTF8 = some (.ofList [c]) := dif_pos (String.ofList [c]).isValidUTF8
  rw [he, firstChar?, List.findSome?_cons, List.singleton_append, List.take_succ_cons, List.take_zero, hb, hu,
    Option.map_some, String.toList_ofList]

theorem text_bytes (h : ∀ c ∈ cs, c ≠ '%' ∧ c.utf8Size = 1) : text (bytes cs) = cs := by
  induction cs with
  | nil          => rw [bytes, text]
  | cons c cs hi =>
    obtain ⟨⟨hc, hs⟩, h⟩ := List.forall_mem_cons.mp h
    have hf : firstChar? (String.utf8EncodeChar c ++ bytes cs) = some (c, 1) := firstChar?_cons hs
    rw [String.utf8EncodeChar_eq_singleton hs, List.singleton_append] at hf
    rw [bytes_cons hc, String.utf8EncodeChar_eq_singleton hs, List.singleton_append, text, hf]
    exact congrArg _ (hi h)

-- What is written in ASCII and has no escapes stands for itself.
theorem decode_eq_self (h : s.toList.all fun c => c ≠ '%' && c.utf8Size = 1) : decode s = s := by
  rw [List.all_eq_true] at h
  rw [decode, text_bytes fun c hc => by simpa using h c hc, String.ofList_toList]

end Percent
end Gamebook
