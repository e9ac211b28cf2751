import Mathlib
import Gamebook.Proofs.Json.Text
import Gamebook.Proofs.Number.Digits
import Gamebook.Proofs.Ordered

namespace Gamebook
namespace Json

-- What may come after a value: something that cannot be taken for a part of a number.
def Ends (rest : List Char) : Prop :=
  ∀ c ∈ rest.head?, c ∉ ".eE".toList ∧ ¬c.isDigit

-- A value whose text is read as the value, wherever it stands.
structure Recoverable (j : Json) : Prop where
  reads (depth : Nat) {rest : List Char} (h : Ends rest) :
    Reads (readValue (writeIndented depth j ++ rest)) j rest
  head (depth : Nat) : ∃ c cs, writeIndented depth j = c :: cs ∧ ¬isBlank c ∧ c ∉ [']', '\ufeff']

section

variable {cs cs₁ cs₂ cs₃ k rest : List Char} {j x : Json} {xs : List Json}
  {ms ms' : List (String × Json)}

theorem skip_of_not_blank {c : Char} (h : ¬isBlank c) : skip (c :: cs) = c :: cs :=
  List.dropWhile_cons_of_neg h

theorem isBlank_of_mem_newline {c : Char} {depth : Nat} (h : c ∈ newline depth) : isBlank c := by
  cases List.mem_cons.mp h
  case inl h => exact h ▸ rfl
  case inr h => exact List.eq_of_mem_replicate h ▸ rfl

theorem skip_newline (depth : Nat) : skip (newline depth ++ cs) = skip cs :=
  List.dropWhile_append_of_pos fun _ => isBlank_of_mem_newline

theorem ends_newline (depth : Nat) : Ends (newline depth ++ cs) := by
  intro c hc
  cases hc
  decide

-- Where the reader of each production goes on.

theorem reads_scalar {c : Char} {n : Nat} (hq : c ≠ Text.quotation) (hb : c ≠ '\x7b') (hs : c ≠ '[')
    (h : readScalar (c :: cs) = .ok (j, n)) : Reads (readValue (c :: cs)) j (cs.drop (n - 1)) := by
  rw [readValue.eq_def]
  simp only [if_neg hq, if_neg hb, if_neg hs, h]
  exact ⟨Nat.lt_succ_of_le (List.length_drop ▸ Nat.sub_le _ _), rfl⟩

theorem reads_empty_array (hs : skip cs = ']' :: rest) : Reads (readValue ('[' :: cs)) (.arr []) rest := by
  rw [readValue.eq_def]
  simp only [if_neg (show '[' ≠ Text.quotation by decide), if_neg (show '[' ≠ '\x7b' by decide), if_pos]
  split
  case h_1 h =>
    cases hs.symm.trans h
    exact ⟨_, rfl⟩
  case h_2 h => exact absurd hs (h _)

theorem reads_empty_object (hs : skip cs = '\x7d' :: rest) :
    Reads (readValue ('\x7b' :: cs)) (.obj []) rest := by
  rw [readValue.eq_def]
  simp only [if_neg (show '\x7b' ≠ Text.quotation by decide), if_pos]
  split
  case h_1 h =>
    cases hs.symm.trans h
    exact ⟨_, rfl⟩
  case h_2 h => exact absurd hs (h _)

theorem reads_array (he : ∀ cs', skip cs ≠ ']' :: cs') (h : Reads (readItems (skip cs)) xs rest) :
    Reads (readValue ('[' :: cs)) (.arr xs) rest := by
  have ⟨hl, h⟩ := h
  rw [readValue.eq_def]
  simp only [if_neg (show '[' ≠ Text.quotation by decide), if_neg (show '[' ≠ '\x7b' by decide), if_pos]
  rw [h]
  exact ⟨_, rfl⟩

theorem reads_object (he : ∀ cs', skip cs ≠ '\x7d' :: cs') (h : Reads (readMembers [] (skip cs)) ms rest) :
    Reads (readValue ('\x7b' :: cs)) (.obj ms) rest := by
  have ⟨hl, h⟩ := h
  rw [readValue.eq_def]
  simp only [if_neg (show '\x7b' ≠ Text.quotation by decide), if_pos]
  rw [h]
  exact ⟨_, rfl⟩

theorem reads_last_item (hx : Reads (readValue cs) x cs₁) (hs : skip cs₁ = ']' :: rest) :
    Reads (readItems cs) [x] rest := by
  have ⟨_, hx⟩ := hx
  rw [readItems.eq_def, hx]
  simp only [Chain.ok_bind]
  split
  case h_1 h =>
    cases hs.symm.trans h
    exact ⟨_, rfl⟩
  all_goals simp_all

theorem reads_more_items (hx : Reads (readValue cs) x cs₁) (hs : skip cs₁ = ',' :: cs₂)
    (h : Reads (readItems (skip cs₂)) xs rest) : Reads (readItems cs) (x :: xs) rest := by
  have ⟨_, hx⟩ := hx
  have ⟨_, h⟩ := h
  rw [readItems.eq_def, hx]
  simp only [Chain.ok_bind]
  split
  case h_2 h' =>
    cases hs.symm.trans h'
    rw [h]
    exact ⟨_, rfl⟩
  all_goals simp_all

theorem reads_last_member (hk : Reads (readString (Text.quotation :: cs) cs) k cs₁)
    (hc : skip cs₁ = ':' :: cs₂) (hx : Reads (readValue (skip cs₂)) x cs₃)
    (hs : skip cs₃ = '\x7d' :: rest) :
    Reads (readMembers ms (Text.quotation :: cs)) (Ordered.put (String.ofList k) x ms) rest := by
  have ⟨_, hk⟩ := hk
  have ⟨_, hx⟩ := hx
  rw [readMembers.eq_def]
  simp only [hk, ne_eq, not_true_eq_false, if_false, Chain.ok_bind]
  split
  case h_1 h =>
    cases hc.symm.trans h
    rw [hx]
    simp only [Chain.ok_bind]
    split
    case h_1 h =>
      cases hs.symm.trans h
      exact ⟨_, rfl⟩
    all_goals simp_all
  all_goals simp_all

theorem reads_more_members (hk : Reads (readString (Text.quotation :: cs) cs) k cs₁)
    (hc : skip cs₁ = ':' :: cs₂) (hx : Reads (readValue (skip cs₂)) x cs₃) {cs₄ : List Char}
    (hs : skip cs₃ = ',' :: cs₄)
    (h : Reads (readMembers (Ordered.put (String.ofList k) x ms) (skip cs₄)) ms' rest) :
    Reads (readMembers ms (Text.quotation :: cs)) ms' rest := by
  have ⟨_, hk⟩ := hk
  have ⟨_, hx⟩ := hx
  have ⟨_, h⟩ := h
  rw [readMembers.eq_def]
  simp only [hk, ne_eq, not_true_eq_false, if_false, Chain.ok_bind]
  split
  case h_1 h' =>
    cases hc.symm.trans h'
    rw [hx]
    simp only [Chain.ok_bind]
    split
    case h_2 h' =>
      cases hs.symm.trans h'
      rw [h]
      exact ⟨_, rfl⟩
    all_goals simp_all
  all_goals simp_all

theorem writeString_append (k : String) :
    writeString k ++ cs = Text.quotation :: (k.toList.flatMap escape ++ Text.quotation :: cs) := by
  simp [writeString]

theorem reads_string {s : String} (h : Reads (readString (Text.quotation :: cs) cs) s.toList rest) :
    Reads (readValue (Text.quotation :: cs)) (.str s) rest := by
  have ⟨hl, h⟩ := h
  rw [readValue.eq_def]
  simp only [if_pos, h]
  exact ⟨Nat.lt_succ_of_lt hl, by simp only [Chain.ok_bind, String.ofList_toList]; rfl⟩

-- The text of a whole document.
theorem read_of_reads {text : String} (ht : text.toList = cs) (hb : cs.head? ≠ some '\ufeff')
    (h : Reads (readValue (skip cs)) j rest) (hr : skip rest = []) : read text = .ok j := by
  have hd : readDocument cs = .ok j := by
    have ⟨_, h⟩ := h
    rw [readDocument, if_neg hb, h]
    simp only [Chain.ok_bind, hr]
    rfl
  rw [read, ht, hd]

theorem skip_string (k : String) : skip (writeString k ++ cs) = writeString k ++ cs :=
  skip_of_not_blank (by decide)

theorem put_last {k : String} (h : ((ms ++ (k, x) :: ms').map Prod.fst).Nodup) :
    Ordered.put (String.ofList k.toList) x ms = ms ++ [(k, x)] := by
  rw [String.ofList_toList]
  refine Ordered.put_of_not_mem fun hm => ?_
  rw [List.map_append, List.nodup_append] at h
  exact h.right.right k hm k (by simp) rfl

-- Whole numbers.

theorem takeWhile_digits (hd : ∀ c ∈ cs, c.isDigit) (h : Ends rest) :
    (cs ++ rest).takeWhile (·.isDigit) = cs := by
  rw [List.takeWhile_append_of_pos hd]
  cases rest with
  | nil => simp
  | cons c rest =>
    have hc := (h c rfl).right
    rw [List.takeWhile_cons_of_neg hc, List.append_nil]

theorem wholePart_toDigits (n : Nat) (h : Ends rest) :
    wholePart (Nat.toDigits 10 n ++ rest) = Nat.toDigits 10 n := by
  by_cases hn : n = 0
  case pos => rw [hn]; rfl
  case neg =>
    have hz := Numeral.head?_toDigits hn
    rw [wholePart.eq_def]
    split
    case h_1 he =>
      rw [← List.head?_append_of_ne_nil _ Nat.toDigits_ne_nil, he] at hz
      exact absurd rfl hz
    case h_2 => exact takeWhile_digits (fun _ => Numeral.isDigit_of_mem) h

theorem fraction_eq_nil (h : Ends rest) : fraction rest = [] := by
  rw [fraction.eq_def]
  split
  case h_1 => exact absurd (h _ rfl).left (by decide)
  case h_2 => rfl

theorem exponent_eq_nil (h : Ends rest) : exponent rest = [] := by
  cases rest with
  | nil => rfl
  | cons c rest =>
    have hc := (h c rfl).left
    rw [exponent, if_neg]
    intro he
    simp only [Bool.or_eq_true, decide_eq_true_eq] at he
    rcases he with rfl | rfl <;> exact hc (by decide)

-- A sign, if there is one, and the digits after it.
theorem readNumber_toDigits {sign : List Char} {n : Nat} (hs : (cs.take 1).filter (· = '-') = sign)
    (hc : cs.drop sign.length = Nat.toDigits 10 n ++ rest) (hn : n < 10 ^ Numeral.digitLimit) (h : Ends rest) :
    readNumber cs =
      .ok (.int (if sign.isEmpty then n else -n), sign.length + (Nat.toDigits 10 n).length) := by
  have hl : ¬Numeral.digitLimit < (Nat.toDigits 10 n).length :=
    Nat.not_lt.mpr ((Nat.length_toDigits_le_iff (by decide) (by decide)).mpr hn)
  have he : ¬(Nat.toDigits 10 n).isEmpty := by
    simp
  simp only [readNumber, hs, hc, wholePart_toDigits n h, List.drop_left', fraction_eq_nil h,
    exponent_eq_nil h, List.length_nil, Nat.add_zero, List.isEmpty_nil, Bool.and_self, if_true, if_neg he,
    if_neg hl, Numeral.ofDigits_toDigits]

theorem ne_of_isDigit {c d : Char} (hc : c.isDigit) (hd : ¬d.isDigit) : c ≠ d := by
  rintro rfl
  exact hd hc

-- A number starts with a digit, or with a sign and a digit.
def StartsNumber (cs : List Char) : Prop :=
  ∃ c ds, cs = c :: ds ∧ (c.isDigit ∨ c = '-' ∧ ∃ d ds', ds = d :: ds' ∧ d.isDigit)

theorem StartsNumber.append (h : StartsNumber cs) : StartsNumber (cs ++ rest) := by
  obtain ⟨c, _, rfl, hc | ⟨hc, d, ds, rfl, hd⟩⟩ := h
  · exact ⟨c, _, rfl, .inl hc⟩
  · exact ⟨c, _, rfl, .inr ⟨hc, d, _, rfl, hd⟩⟩

theorem startsNumber_writeInt (i : Int) : StartsNumber (writeInt i) := by
  have ⟨c, cs, hc⟩ := List.exists_cons_of_ne_nil (Nat.toDigits_ne_nil (n := i.natAbs) (b := 10))
  have hd : c.isDigit := Numeral.isDigit_of_mem (hc ▸ List.mem_cons_self)
  rw [writeInt, hc]
  split
  case isTrue  => exact ⟨_, _, rfl, .inr ⟨rfl, _, _, rfl, hd⟩⟩
  case isFalse => exact ⟨_, _, rfl, .inl hd⟩

-- None of the words does.
theorem find?_words_of_startsNumber (h : StartsNumber cs) : words.find? (·.1.isPrefixOf cs) = none := by
  obtain ⟨c, ds, rfl, hd | ⟨rfl, d, ds, rfl, hd⟩⟩ := h
  · have h {d : Char} := ne_of_isDigit (d := d) hd
    simp [words, List.isPrefixOf, (h (d := 'n') (by decide)).symm, (h (d := 't') (by decide)).symm,
      (h (d := 'f') (by decide)).symm, (h (d := 'N') (by decide)).symm, (h (d := 'I') (by decide)).symm,
      (h (d := '-') (by decide)).symm]
  · have h : d ≠ 'I' := ne_of_isDigit hd (by decide)
    simp [words, List.isPrefixOf, h.symm]

theorem readScalar_writeInt {i : Int} (hi : ¬isOversize (.int i)) (h : Ends rest) :
    readScalar (writeInt i ++ rest) = .ok (.int i, (writeInt i).length) := by
  have hn : i.natAbs < 10 ^ Numeral.digitLimit := by
    simpa [isOversize] using hi
  rw [readScalar, find?_words_of_startsNumber (startsNumber_writeInt i).append]
  simp only []
  rw [writeInt]
  split
  case isTrue hi =>
    have hs : i = -(i.natAbs : Int) := by omega
    rw [readNumber_toDigits rfl rfl hn h, List.length_cons, Nat.add_comm]
    exact congrArg (fun j => Except.ok (Json.int j, _)) hs.symm
  case isFalse hi =>
    have ⟨c, cs, hc⟩ := List.exists_cons_of_ne_nil (Nat.toDigits_ne_nil (n := i.natAbs) (b := 10))
    have hd : c.isDigit := Numeral.isDigit_of_mem (hc ▸ List.mem_cons_self)
    have hs : ((Nat.toDigits 10 i.natAbs ++ rest).take 1).filter (· = '-') = [] := by
      rw [hc, List.cons_append, List.take_succ_cons, List.take_zero, List.filter_cons_of_neg]
      · rfl
      · simpa using ne_of_isDigit hd (by decide)
    have hi : i = i.natAbs := by omega
    rw [readNumber_toDigits hs rfl hn h, List.length_nil, Nat.zero_add]
    exact congrArg (fun j => Except.ok (Json.int j, _)) hi.symm

end

namespace Recoverable

variable {start rest : List Char}

theorem skip_text {j : Json} (h : Recoverable j) (depth : Nat) (cs : List Char) :
    skip (writeIndented depth j ++ cs) = writeIndented depth j ++ cs := by
  have ⟨c, cs, hw, hb, _⟩ := h.head depth
  rw [hw, List.cons_append, skip_of_not_blank hb]

theorem str (s : String) : Recoverable (.str s) where
  reads _ rest _ := by
    rw [writeIndented, writeString_append]
    exact reads_string (reads_escaped s.toList)
  head _ := ⟨Text.quotation, _, rfl, by decide, by decide⟩

theorem bool (b : Bool) : Recoverable (.bool b) where
  reads _ rest _ := by
    cases b
    case false => exact reads_scalar (by decide) (by decide) (by decide) (n := 5) rfl
    case true  => exact reads_scalar (by decide) (by decide) (by decide) (n := 4) rfl
  head _ := by
    cases b
    case false => exact ⟨'f', _, rfl, by decide, by decide⟩
    case true  => exact ⟨'t', _, rfl, by decide, by decide⟩

theorem null : Recoverable .null where
  reads _ rest _ := reads_scalar (by decide) (by decide) (by decide) (n := 4) rfl
  head _ := ⟨'n', _, rfl, by decide, by decide⟩

-- Where a number starts, nothing but a scalar is read.
theorem of_startsNumber {j : Json} {cs : List Char} (hw : ∀ depth, writeIndented depth j = cs) (hn : StartsNumber cs)
    (hr : ∀ rest, Ends rest → readScalar (cs ++ rest) = .ok (j, cs.length)) : Recoverable j := by
  obtain ⟨c, ds, rfl, hd⟩ := hn
  have hne {d : Char} (hn : ¬d.isDigit) (hm : d ≠ '-') : c ≠ d := by
    rcases hd with hd | ⟨hd, _⟩
    · exact ne_of_isDigit hd hn
    · exact hd ▸ hm.symm
  constructor
  case reads =>
    intro depth rest h
    have hr : Reads (readValue (c :: (ds ++ rest))) j ((ds ++ rest).drop ((c :: ds).length - 1)) :=
      reads_scalar (hne (by decide) (by decide)) (hne (by decide) (by decide)) (hne (by decide) (by decide)) (hr rest h)
    rw [List.length_cons, Nat.add_sub_cancel, List.drop_left' rfl] at hr
    rw [hw]
    exact hr
  case head =>
    intro depth
    refine ⟨c, ds, hw depth, ?_⟩
    simp [isBlank, hne]

theorem int {i : Int} (hi : ¬isOversize (.int i)) : Recoverable (.int i) :=
  .of_startsNumber (fun _ => rfl) (startsNumber_writeInt i) fun _ => readScalar_writeInt hi

variable {xs : List Json}

-- The items of an array from some item on, and its end.
theorem reads_items {x : Json} (hx : Recoverable x) (h : ∀ y ∈ xs, Recoverable y) (d d' : Nat) :
    Reads (readItems (writeIndented d x ++ (writeItems d xs ++ (newline d' ++ ']' :: rest)))) (x :: xs) rest := by
  induction xs generalizing x with
  | nil =>
    refine reads_last_item (hx.reads d (ends_newline d')) ?_
    rw [writeItems, List.nil_append, skip_newline, skip_of_not_blank (by decide)]
  | cons y xs hi =>
    have hy := h y List.mem_cons_self
    have hs : skip (writeItems d (y :: xs) ++ (newline d' ++ ']' :: rest)) = ',' :: (newline d ++
        (writeIndented d y ++ (writeItems d xs ++ (newline d' ++ ']' :: rest)))) := by
      simp [writeItems, skip_of_not_blank, isBlank]
    refine reads_more_items (hx.reads d ?_) hs ?_
    · simp [writeItems, Ends]
    · rw [skip_newline, hy.skip_text]
      exact hi hy fun z hz => h z (List.mem_cons_of_mem _ hz)

theorem arr (h : ∀ x ∈ xs, Recoverable x) : Recoverable (.arr xs) where
  reads depth rest _ := by
    cases xs
    case nil => exact reads_empty_array (skip_of_not_blank (by decide))
    case cons x xs =>
      have hx := h x List.mem_cons_self
      have hw : writeIndented depth (.arr (x :: xs)) ++ rest = '[' :: (newline (depth + 1) ++
          (writeIndented (depth + 1) x ++ (writeItems (depth + 1) xs ++ (newline depth ++ ']' :: rest)))) := by
        simp [writeIndented]
      have ⟨c, cs, hc, hb, he⟩ := hx.head (depth + 1)
      rw [hw]
      refine reads_array ?_ ?_
      · intro cs' h
        rw [skip_newline, hx.skip_text, hc] at h
        cases h
        exact he (by decide)
      · rw [skip_newline, hx.skip_text]
        exact reads_items hx (fun y hy => h y (List.mem_cons_of_mem _ hy)) _ _
  head depth := by
    cases xs
    case nil  => exact ⟨'[', _, rfl, by decide, by decide⟩
    case cons => exact ⟨'[', _, rfl, by decide, by decide⟩

variable {ms : List (String × Json)}

-- The members of an object from some member on, and its end.
theorem reads_members {ns : List (String × Json)} {k : String} {x : Json} (hx : Recoverable x)
    (h : ∀ m ∈ ms, Recoverable m.2) (hn : ((ns ++ (k, x) :: ms).map Prod.fst).Nodup) (d d' : Nat) :
    Reads (readMembers ns (writeString k ++ (':' :: ' ' :: (writeIndented d x ++
      (writeMembers d ms ++ (newline d' ++ '\x7d' :: rest)))))) (ns ++ (k, x) :: ms) rest := by
  induction ms generalizing ns k x with
  | nil =>
    have hs : skip (newline d' ++ '\x7d' :: rest) = '\x7d' :: rest := by
      rw [skip_newline, skip_of_not_blank (by decide)]
    have hv : Reads (readValue (skip (' ' :: (writeIndented d x ++ (newline d' ++ '\x7d' :: rest))))) x
        (newline d' ++ '\x7d' :: rest) :=
      (hx.skip_text d _).symm ▸ hx.reads d (ends_newline d')
    rw [writeString_append, writeMembers, List.nil_append, ← put_last hn]
    exact reads_last_member (reads_escaped k.toList) (skip_of_not_blank (by decide)) hv hs
  | cons m ms hi =>
    have hm := h m List.mem_cons_self
    have hs : skip (writeMembers d (m :: ms) ++ (newline d' ++ '\x7d' :: rest)) = ',' :: (newline d ++
        (writeString m.1 ++ (':' :: ' ' :: (writeIndented d m.2 ++
          (writeMembers d ms ++ (newline d' ++ '\x7d' :: rest)))))) := by
      simp [writeMembers, skip_of_not_blank, isBlank]
    have hv : Reads (readValue (skip (' ' :: (writeIndented d x ++
        (writeMembers d (m :: ms) ++ (newline d' ++ '\x7d' :: rest)))))) x
          (writeMembers d (m :: ms) ++ (newline d' ++ '\x7d' :: rest)) :=
      (hx.skip_text d _).symm ▸ hx.reads d (by simp [writeMembers, Ends])
    rw [writeString_append]
    refine reads_more_members (reads_escaped k.toList) (skip_of_not_blank (by decide)) hv hs ?_
    have hi := hi (k := m.1) (x := m.2) hm (fun m hm => h m (List.mem_cons_of_mem _ hm))
      ((List.append_assoc ns [(k, x)] (m :: ms)).symm ▸ hn)
    rw [put_last hn, skip_newline, skip_string]
    exact List.append_cons ns (k, x) (m :: ms) ▸ hi

theorem obj (h : ∀ m ∈ ms, Recoverable m.2) (hn : (ms.map Prod.fst).Nodup) : Recoverable (.obj ms) where
  reads depth rest _ := by
    cases ms
    case nil => exact reads_empty_object (skip_of_not_blank (by decide))
    case cons m ms =>
      have hx := h m List.mem_cons_self
      have hw : writeIndented depth (.obj (m :: ms)) ++ rest = '\x7b' :: (newline (depth + 1) ++
          (writeString m.1 ++ (':' :: ' ' :: (writeIndented (depth + 1) m.2 ++
            (writeMembers (depth + 1) ms ++ (newline depth ++ '\x7d' :: rest)))))) := by
        simp [writeIndented]
      rw [hw]
      refine reads_object ?_ ?_
      · intro cs' h
        rw [skip_newline, skip_string] at h
        cases h
      · rw [skip_newline, skip_string]
        exact List.nil_append (m :: ms) ▸
          reads_members hx (fun y hy => h y (List.mem_cons_of_mem _ hy)) (List.nil_append (m :: ms) ▸ hn) _ _
  head depth := by
    cases ms
    case nil  => exact ⟨'\x7b', _, rfl, by decide, by decide⟩
    case cons => exact ⟨'\x7b', _, rfl, by decide, by decide⟩

theorem empty : Recoverable (.obj []) :=
  .obj nofun List.nodup_nil

theorem read_render {j : Json} (h : Recoverable j) : read j.render = .ok j := by
  have ⟨c, cs, hc, hb, he⟩ := h.head 0
  have hr : Reads (readValue (writeIndented 0 j ++ [])) j [] := h.reads 0 (by simp [Ends])
  have hs : skip (writeIndented 0 j) = writeIndented 0 j := by
    rw [hc, skip_of_not_blank hb]
  have hm : (writeIndented 0 j).head? ≠ some '\ufeff' := by
    intro h
    rw [hc, List.head?_cons, Option.some.injEq] at h
    subst h
    exact he (by decide)
  rw [List.append_nil, ← hs] at hr
  exact read_of_reads String.toList_ofList hm hr rfl

end Recoverable
end Json
end Gamebook
