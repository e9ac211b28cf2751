import Mathlib
import Gamebook.Proofs.Json.Text
import Gamebook.Proofs.Yaml.Pen
import Gamebook.Proofs.Yaml.Quoted

namespace Gamebook
namespace Yaml
namespace Double

-- A text and a way to write it between quotation marks. A line may be left at a backslash anywhere,
-- and a space at the start of the next one has a backslash too.
inductive Escaped (column : Nat) : List Char → List Char → Prop
  | nil      : Escaped column [] []
  | verbatim : isVerbatim c → c ≠ ' ' → Escaped column cs w → Escaped column (c :: cs) (c :: w)
  | space    : Escaped column cs w → Escaped column (' ' :: cs) (' ' :: w)
  | code     : Escaped column cs w → Escaped column (c :: cs) (escape c ++ w)
  | fold     : (∀ c ∈ w.head?, c ≠ ' ') → Escaped column cs w →
      Escaped column cs (Text.backslash :: newLine column w)
  | indent   : Escaped column cs w →
      Escaped column (' ' :: cs) (Text.backslash :: newLine column (Text.backslash :: ' ' :: w))

variable {column n : Nat} {c : Char} {cs w s rest : List Char}

theorem inner_of_isVerbatim (h : isVerbatim c) (hs : c ≠ ' ') : ¬isWhite c ∧ ¬isBreak c := by
  have hne : ∀ d ∈ ['\t', '\n', '\r', '\x85', '\u2028', '\u2029'], c ≠ d := by
    intro d hd he
    have hv : ∀ d ∈ ['\t', '\n', '\r', '\x85', '\u2028', '\u2029'], ¬isVerbatim d := by
      simp [isVerbatim]
    exact hv d hd (he ▸ h)
  simp only [List.forall_mem_cons] at hne
  simp [isWhite, isBreak, hs, hne]

theorem not_mark_of_isVerbatim (h : isVerbatim c) : c ≠ Text.quotation ∧ c ≠ Text.backslash := by
  simp only [isVerbatim, Bool.and_eq_true, decide_eq_true_eq] at h
  exact h.left

-- Escapes are read as the characters that they are written for.

theorem hex?_add {m acc : Nat} :
    Quoted.hex? (m + n) acc cs = (Quoted.hex? m acc cs).bind fun r => Quoted.hex? n r.1 r.2 := by
  induction m generalizing acc cs with
  | zero      => rw [Nat.zero_add]; rfl
  | succ m hi =>
    rw [Nat.add_right_comm]
    cases cs with
    | nil       => rfl
    | cons c cs =>
      rw [Quoted.hex?, Quoted.hex?]
      cases Text.hexValue? c with
      | none   => rfl
      | some v => exact hi

theorem hex?_upperHex {width acc : Nat} :
    Quoted.hex? width acc (upperHex width n ++ cs) = some (acc * 16 ^ width + n % 16 ^ width, cs) := by
  induction width generalizing n cs with
  | zero => simp [Quoted.hex?, upperHex, Text.hexDigits, Nat.mod_one]
  | succ width hi =>
    have hd := Text.hexValue?_toUpper_hexDigit (Nat.mod_lt n (by decide : 0 < 16))
    have hu : upperHex (width + 1) n ++ cs = upperHex width (n / 16) ++ ((Text.hexDigit (n % 16)).toUpper :: cs) := by
      simp [upperHex, Text.hexDigits]
    rw [hex?_add, hu, hi, Option.bind_some, Quoted.hex?]
    have hm : n % (16 ^ width * 16) = n % 16 + 16 * (n / 16 % 16 ^ width) := by
      rw [Nat.mul_comm, Nat.mod_mul]
    simp only [hd, Quoted.hex?, Option.bind_eq_bind, Option.bind_some]
    refine congrArg (fun k => some (k, cs)) ?_
    rw [Nat.pow_succ, hm, Nat.add_mul, Nat.mul_assoc]
    omega

theorem codeChar_toNat : Quoted.codeChar c.toNat = .ok c := by
  have hc : c.toNat < 0x110000 := by
    have h := c.valid
    simp only [UInt32.isValidChar, Nat.isValidChar] at h
    simp only [Char.toNat]
    omega
  rw [Quoted.codeChar, if_pos hc, Json.unitChar_of_char, Char.ofNat_toNat, ite_self]

theorem read_close : Quoted.read true (Text.quotation :: rest) = .ok ([], rest) := by
  have hb : ¬(isWhite Text.quotation || isBreak Text.quotation) := by decide
  rw [Quoted.read.eq_def]
  simp only [if_neg hb, if_true]

theorem read_backslash {e : Char} (he : Quoted.escapes.find? (·.1 = e) = some (e, c))
    (h : Quoted.read true cs = .ok (s, rest)) :
    Quoted.read true (Text.backslash :: e :: cs) = .ok (c :: s, rest) := by
  have hb : ¬(isWhite Text.backslash || isBreak Text.backslash) := by decide
  rw [Quoted.read.eq_def]
  simp only [if_neg hb, if_true, if_neg (show Text.backslash ≠ Text.quotation by decide), he, h]
  rfl

theorem read_hex {e : Char} {width : Nat} (he : Quoted.escapes.find? (·.1 = e) = none)
    (hw : Quoted.escapeWidth? e = some width) (hc : c.toNat < 16 ^ width) (h : Quoted.read true cs = .ok (s, rest)) :
    Quoted.read true (Text.backslash :: e :: (upperHex width c.toNat ++ cs)) = .ok (c :: s, rest) := by
  have hb : ¬(isWhite Text.backslash || isBreak Text.backslash) := by decide
  have hx : Quoted.hex? width 0 (upperHex width c.toNat ++ cs) = some (c.toNat, cs) := by
    rw [hex?_upperHex, Nat.mod_eq_of_lt hc, Nat.zero_mul, Nat.zero_add]
  rw [Quoted.read.eq_def]
  simp only [if_neg hb, if_true, if_neg (show Text.backslash ≠ Text.quotation by decide), he, hw]
  split
  case h_1 hx' => cases hx.symm.trans hx'
  case h_2 hx' =>
    cases hx.symm.trans hx'
    rw [codeChar_toNat, Chain.ok_bind, h]
    rfl

theorem find?_shortEscapes {e : Char × Char} (h : shortEscapes.find? (·.1 = c) = some e) :
    e.1 = c ∧ Quoted.escapes.find? (·.1 = e.2) = some (e.2, e.1) := by
  have ht : ∀ e ∈ shortEscapes, Quoted.escapes.find? (·.1 = e.2) = some (e.2, e.1) := by decide
  exact ⟨by simpa using List.find?_some h, ht e (List.mem_of_find?_eq_some h)⟩

theorem read_escape (h : Quoted.read true cs = .ok (s, rest)) :
    Quoted.read true (escape c ++ cs) = .ok (c :: s, rest) := by
  rw [escape]
  split
  case h_1 e he =>
    have ⟨hc, he⟩ := find?_shortEscapes he
    exact hc ▸ read_backslash he h
  case h_2 =>
    have hc : c.toNat < 16 ^ 8 := by
      have h := c.valid
      simp only [UInt32.isValidChar, Nat.isValidChar] at h
      simp only [Char.toNat]
      omega
    split
    case isTrue hx => exact read_hex (by decide) rfl (Nat.lt_succ_of_le hx) h
    case isFalse =>
      split
      case isTrue hu => exact read_hex (by decide) rfl (Nat.lt_succ_of_le hu) h
      case isFalse   => exact read_hex (by decide) rfl hc h

-- A line that is continued.
theorem read_continued (h0 : column ≠ 0) (hh : Quoted.Halts cs) (h : Quoted.read true cs = .ok (s, rest)) :
    Quoted.read true (Text.backslash :: newLine column cs) = .ok (s, rest) := by
  have hb : ¬(isWhite Text.backslash || isBreak Text.backslash) := by decide
  have hs : splitBreak? ('\n' :: (List.replicate column ' ' ++ cs)) = _ :=
    Quoted.splitBreak?_lineBreak (by decide)
  have hbr := Quoted.breaks_eq [] (by simp) h0 hh
  rw [newLine, Quoted.read.eq_def]
  simp only [if_neg hb, if_true, if_neg (show Text.backslash ≠ Text.quotation by decide),
    show Quoted.escapes.find? (·.1 = '\n') = none by decide, show Quoted.escapeWidth? '\n' = none by decide]
  split
  case h_1 hs' => cases hs.symm.trans hs'
  case h_2 hs' =>
    cases hs.symm.trans hs'
    split
    case h_1 he => cases hbr.symm.trans he
    case h_2 he =>
      cases hbr.symm.trans he
      rw [h]
      rfl

theorem escape_head (c : Char) : ∃ cs, escape c = Text.backslash :: cs := by
  rw [escape]
  split
  · exact ⟨_, rfl⟩
  · split
    · exact ⟨_, rfl⟩
    · split <;> exact ⟨_, rfl⟩

-- No line break follows the blanks of such a text.
theorem Escaped.halts (h : Escaped column cs w) (rest : List Char) :
    Quoted.Halts ((w ++ Text.quotation :: rest).dropWhile isWhite) ∧
      (w ++ Text.quotation :: rest).dropWhile isWhite ≠ [] := by
  have hsolid {d : Char} {ds : List Char} (hd : ¬isWhite d ∧ ¬isBreak d) :
      Quoted.Halts ((d :: ds).dropWhile isWhite) ∧ (d :: ds).dropWhile isWhite ≠ [] := by
    rw [List.dropWhile_cons_of_neg hd.left]
    exact ⟨.cons hd, List.cons_ne_nil _ _⟩
  induction h with
  | nil              => exact hsolid (by decide)
  | verbatim hv hs   => exact hsolid (inner_of_isVerbatim hv hs)
  | space _ hi       => exact hi
  | @code _ _ c      =>
    have ⟨_, he⟩ := escape_head c
    rw [he]
    exact hsolid (by decide)
  | fold             => exact hsolid (by decide)
  | indent           => exact hsolid (by decide)

theorem Escaped.halts_of_head (h : Escaped column cs w) (hw : ∀ c ∈ w.head?, c ≠ ' ') (rest : List Char) :
    Quoted.Halts (w ++ Text.quotation :: rest) := by
  cases h with
  | nil         => exact .cons (by decide)
  | verbatim hv hs => exact .cons (inner_of_isVerbatim hv hs)
  | space       => exact absurd rfl (hw ' ' rfl)
  | @code _ _ c =>
    have ⟨_, he⟩ := escape_head c
    rw [he]
    exact .cons (by decide)
  | fold        => exact .cons (by decide)
  | indent      => exact .cons (by decide)

theorem read_space (hh : Quoted.Halts (cs.dropWhile isWhite)) (hn : cs.dropWhile isWhite ≠ [])
    (h : Quoted.read true cs = .ok (s, rest)) : Quoted.read true (' ' :: cs) = .ok (' ' :: s, rest) := by
  have hd : (' ' :: cs).dropWhile isWhite = cs.dropWhile isWhite := List.dropWhile_cons_of_pos rfl
  have ht : (' ' :: cs).takeWhile isWhite = ' ' :: cs.takeWhile isWhite := List.takeWhile_cons_of_pos rfl
  rw [Quoted.read_blanks true rfl (hd.symm ▸ hn) (hd.symm ▸ hh), hd, ht]
  cases cs with
  | nil => contradiction
  | cons c cs =>
    by_cases hc : isWhite c
    case pos =>
      rw [Quoted.read_blanks true hc hn hh] at h
      cases hr : Quoted.read true ((c :: cs).dropWhile isWhite) with
      | ok r    =>
        rw [hr] at h
        cases h
        rfl
      | error e =>
        rw [hr] at h
        cases h
    case neg =>
      rw [List.dropWhile_cons_of_neg hc, List.takeWhile_cons_of_neg hc, h]
      rfl

theorem read_escaped (h : Escaped column cs w) (h0 : column ≠ 0) :
    Quoted.read true (w ++ Text.quotation :: rest) = .ok (cs, rest) := by
  induction h with
  | nil => exact read_close
  | verbatim hv hs _ hi =>
    have ⟨hq, hb⟩ := not_mark_of_isVerbatim hv
    exact Quoted.read_char (inner_of_isVerbatim hv hs) (.inr ⟨hq, hb, rfl⟩) hi
  | space hw hi =>
    have ⟨hh, hn⟩ := hw.halts rest
    exact read_space hh hn hi
  | code _ hi =>
    rw [List.append_assoc]
    exact read_escape hi
  | @fold w cs hs hw hi =>
    have h := read_continued h0 (hw.halts_of_head hs rest) hi
    rw [newLine] at h ⊢
    rwa [List.cons_append, List.cons_append, List.append_assoc]
  | @indent cs w hw hi =>
    have hi := read_continued h0 (.cons (by decide)) (read_backslash (e := ' ') (c := ' ') (by decide) hi)
    rw [newLine] at hi ⊢
    rwa [List.cons_append, List.cons_append, List.append_assoc]

-- Where a writer leaves a line.

theorem Escaped.head (h : Escaped column cs w) (hs : cs.head? ≠ some ' ') : ∀ c ∈ w.head?, c ≠ ' ' := by
  intro c hc
  cases h with
  | nil             => cases hc
  | verbatim =>
    cases hc
    assumption
  | space           => contradiction
  | @code _ _ d     =>
    have ⟨_, he⟩ := escape_head d
    rw [he] at hc
    cases hc
    decide
  | fold            =>
    cases hc
    decide
  | indent          =>
    cases hc
    decide

theorem continueLine_eq {p : Pen} (column : Nat) (next : Option Char) (hf : ¬p.fresh) :
    (continueLine column p next).text
        = p.text ++ Text.backslash :: newLine column (if next = some ' ' then [Text.backslash] else []) ∧
      ¬(continueLine column p next).fresh ∧ (continueLine column p next).column ≤ column + 1 := by
  have ⟨ht, hr⟩ := Pen.toColumn_occupied (p := p.write [Text.backslash]) (n := column) (.inl hf)
  have hc := hr.column
  rw [continueLine]
  split <;> simp [ht, newLine, hc]

def escaped (cs : List Char) : List Char :=
  cs.flatMap fun c => if isVerbatim c then [c] else escape c

-- How a pen `q` has gone on from `p`, where the characters of `run` were waiting, backwards. They
-- stand before what is written for `cs`. A space that comes next is written as it is, unless the line
-- is full.
structure Body (column : Nat) (split : Bool) (p q : Pen) (run cs w : List Char) : Prop where
  text  : q.text = p.text ++ (run.reverse ++ w)
  ways  : Escaped column cs w
  whole : ¬split → w = escaped cs
  space : p.column + run.length ≤ Pen.width → ∀ ds, cs = ' ' :: ds → ∃ v, w = ' ' :: v ∧ Escaped column ds v

namespace Body

variable {split : Bool} {p q : Pen} {run : List Char}

theorem ended (column : Nat) (split : Bool) (p : Pen) (run : List Char) :
    Body column split p (p.write run.reverse) run [] [] where
  text  := by simp
  ways  := .nil
  whole := fun _ => rfl
  space := fun _ _ h => nomatch h

-- A character that is written as it is waits with the others.
theorem wait (hv : isVerbatim c) (h : Body column split p q (c :: run) cs w) :
    Body column split p q run (c :: cs) (c :: w) where
  text  := by simp [h.text]
  ways  := by
    by_cases hs : c = ' '
    case pos => exact hs ▸ .space h.ways
    case neg => exact .verbatim hv hs h.ways
  whole := by
    intro hn
    rw [h.whole hn, escaped, escaped, List.flatMap_cons, if_pos hv]
    rfl
  space := by
    intro _ ds hds
    cases hds
    exact ⟨w, rfl, h.ways⟩

-- It goes to the next line if the present one is full.
theorem wrap (hv : isVerbatim c) (hf : ¬p.fresh) (hs : split) (hl : p.isFull run.length)
    (h : Body column split (continueLine column (p.write run.reverse) (some c)) q [c] cs w) :
    Body column split p q run (c :: cs)
      (Text.backslash :: newLine column ((if c = ' ' then [Text.backslash] else []) ++ c :: w)) where
  text  := by
    have ⟨ht, _⟩ := continueLine_eq (p := p.write run.reverse) column (some c) hf
    rw [h.text, ht, Pen.text_write]
    simp [newLine]
  ways  := by
    by_cases hc : c = ' '
    case pos =>
      subst hc
      exact .indent h.ways
    case neg =>
      rw [if_neg hc]
      refine .fold (fun d hd => ?_) (.verbatim hv hc h.ways)
      cases hd
      exact hc
  whole := fun hn => absurd hs hn
  space := by
    intro hw
    rw [Pen.isFull, decide_eq_true_eq] at hl
    exact absurd hl (Nat.not_lt.mpr hw)

theorem ne_space (hv : ¬isVerbatim c) (ds : List Char) : c :: cs ≠ ' ' :: ds := by
  intro h
  cases h
  exact hv (by decide)

theorem code (hv : ¬isVerbatim c) (h : Body column split ((p.write run.reverse).write (escape c)) q [] cs w) :
    Body column split p q run (c :: cs) (escape c ++ w) where
  text  := by simp [h.text]
  ways  := .code h.ways
  whole := by
    intro hn
    rw [h.whole hn, escaped, escaped, List.flatMap_cons, if_neg hv]
  space := fun _ ds h => absurd h (ne_space hv ds)

-- After an escape that goes too far, the line is left.
theorem wrap_code (hv : ¬isVerbatim c) (hw : column < Pen.width) (hf : ¬p.fresh) (hs : split)
    (h : Body column split (continueLine column ((p.write run.reverse).write (escape c)) cs.head?) q [] cs w) :
    Body column split p q run (c :: cs) (escape c ++
      Text.backslash :: newLine column ((if cs.head? = some ' ' then [Text.backslash] else []) ++ w)) where
  text  := by
    have ⟨ht, _⟩ := continueLine_eq (p := (p.write run.reverse).write (escape c)) column cs.head? hf
    rw [h.text, ht]
    simp [newLine]
  ways  := by
    refine .code ?_
    by_cases hc : cs.head? = some ' '
    case pos =>
      have ⟨_, _, hl⟩ := continueLine_eq (p := (p.write run.reverse).write (escape c)) column cs.head? hf
      have ⟨ds, hds⟩ := List.head?_eq_some_iff.mp hc
      have ⟨v, hv, he⟩ := h.space (Nat.le_trans hl hw) ds hds
      rw [if_pos hc, hv, hds]
      exact .indent he
    case neg =>
      rw [if_neg hc]
      exact .fold (h.ways.head hc) h.ways
  whole := fun hn => absurd hs hn
  space := fun _ ds h => absurd h (ne_space hv ds)

end Body

theorem writeDoubleBody_escaped (split start : Bool) (p : Pen) (run cs : List Char) (hw : column < Pen.width)
    (hf : ¬p.fresh) : ∃ w, Body column split p (writeDoubleBody column split p start run cs) run cs w := by
  fun_induction writeDoubleBody column split p start run cs with
  | case1 p start run => exact ⟨[], .ended ..⟩
  | case2 p start run c cs inside hv hfull hi =>
    have ⟨_, hf', _⟩ := continueLine_eq (p := p.write run.reverse) column (some c) hf
    have ⟨w, h⟩ := hi hf'
    simp only [Bool.and_eq_true, inside] at hfull
    exact ⟨_, h.wrap hv hf hfull.left.left.left.left hfull.right⟩
  | case3 p start run c cs inside hv hfull hi =>
    have ⟨w, h⟩ := hi hf
    exact ⟨_, h.wait hv⟩
  | case4 p start run c cs inside hv p' q hi =>
    by_cases hfull : inside && decide (Pen.width + 1 < p'.column)
    case pos =>
      have hq : q = continueLine column p' cs.head? := if_pos hfull
      have ⟨_, hf', _⟩ := continueLine_eq (p := p') column cs.head? hf
      have ⟨w, h⟩ := hi (hq ▸ hf')
      simp only [Bool.and_eq_true, inside] at hfull
      rw [hq] at h ⊢
      exact ⟨_, h.wrap_code hv hw hf hfull.left.left.left⟩
    case neg =>
      have hq : q = p' := if_neg hfull
      have ⟨w, h⟩ := hi (hq ▸ hf)
      rw [hq] at h ⊢
      exact ⟨_, h.code hv⟩

end Double
end Yaml
end Gamebook
