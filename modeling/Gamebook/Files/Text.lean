namespace Gamebook
namespace FileText

-- Every kind of line end is read as a line feed.
def plainLines : List Char → List Char
  | []                 => []
  | '\r' :: '\n' :: cs => '\n' :: plainLines cs
  | '\r' :: cs         => '\n' :: plainLines cs
  | c :: cs            => c :: plainLines cs

-- The text of a file in UTF-8.
def decode (content : ByteArray) : Option String :=
  (String.fromUTF8? content).map fun s => String.ofList (plainLines s.toList)

def encode (text : String) : ByteArray :=
  text.toUTF8

theorem plainLines_of_no_return {cs : List Char} (h : '\r' ∉ cs) : plainLines cs = cs := by
  fun_induction plainLines cs with
  | case1             => rfl
  | case2 cs ih       => simp at h
  | case3 cs _ ih     => simp at h
  | case4 c cs _ _ ih => rw [ih fun m => h (List.mem_cons_of_mem _ m)]

-- Text without carriage returns is read as it was written.
theorem decode_encode {s : String} (h : '\r' ∉ s.toList) : decode (encode s) = some s := by
  have : String.fromUTF8? s.toUTF8 = some s :=
    dif_pos s.isValidUTF8
  rw [decode, encode, this, Option.map_some, plainLines_of_no_return h, String.ofList_toList]

end FileText
end Gamebook
