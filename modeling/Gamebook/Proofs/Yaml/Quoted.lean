import Mathlib
import Gamebook.Proofs.Chain
import Gamebook.Proofs.Yaml.Cursor
import Gamebook.Yaml.Quoted
import Gamebook.Yaml.Style

namespace Gamebook
namespace Yaml
namespace Quoted

-- What does not belong to blanks.
def Halts (cs : List Char) : Prop :=
  ∀ c ∈ cs.head?, ¬isWhite c ∧ ¬isBreak c

-- What a line break is read as.
def lineEnd (c : Char) : Char :=
  if c = '\x85' then '\n' else c

variable {double : Bool} {c : Char} {cs s rest : List Char} {n : Nat}

theorem dropWhile_white (h : Halts cs) : (List.replicate n ' ' ++ cs).dropWhile isWhite = cs := by
  have hc : cs.dropWhile isWhite = cs := by
    cases cs with
    | nil       => rfl
    | cons c cs => exact List.dropWhile_cons_of_neg (h c rfl).left
  rw [List.dropWhile_append_of_pos (by simp [List.mem_replicate, isWhite]), hc]

theorem takeWhile_white (h : Halts cs) :
    (List.replicate n ' ' ++ cs).takeWhile isWhite = List.replicate n ' ' := by
  have hc : cs.takeWhile isWhite = [] := by
    cases cs with
    | nil       => rfl
    | cons c cs => exact List.takeWhile_cons_of_neg (h c rfl).left
  rw [List.takeWhile_append_of_pos (by simp [List.mem_replicate, isWhite]), hc, List.append_nil]

theorem splitBreak?_of_halts (h : Halts cs) : splitBreak? cs = none :=
  splitBreak?_eq_none fun c hc => (h c hc).right

theorem mem_lineBreaks (h : Style.isLineBreak c) : c = '\n' ∨ c = '\x85' ∨ c = '\u2028' ∨ c = '\u2029' := by
  simpa [Style.isLineBreak, or_assoc] using h

theorem isBreak_of_lineBreak (h : Style.isLineBreak c) : isBreak c := by
  rcases mem_lineBreaks h with rfl | rfl | rfl | rfl <;> rfl

theorem Halts.cons (h : ¬isWhite c ∧ ¬isBreak c) : Halts (c :: cs) := by
  intro d hd
  cases hd
  exact h

theorem splitBreak?_lineBreak (h : Style.isLineBreak c) : splitBreak? (c :: cs) = some (lineEnd c, cs) := by
  rcases mem_lineBreaks h with rfl | rfl | rfl | rfl <;> rfl

theorem not_isWhite_of_lineBreak (h : Style.isLineBreak c) : ¬isWhite c := by
  rcases mem_lineBreaks h with rfl | rfl | rfl | rfl <;> decide

theorem not_isSeparator_lineBreak (h : Style.isLineBreak c) : ¬isSeparator (c :: cs) := by
  rcases mem_lineBreaks h with rfl | rfl | rfl | rfl <;> simp [isSeparator, List.isPrefixOf]

theorem dropWhile_lineBreak (h : Style.isLineBreak c) : (c :: cs).dropWhile isWhite = c :: cs :=
  List.dropWhile_cons_of_neg (not_isWhite_of_lineBreak h)

-- Line breaks, the indentation after them, and what is indented.
theorem breaks_eq (run : List Char) (hr : ∀ c ∈ run, Style.isLineBreak c) (hn : n ≠ 0) (h : Halts cs) :
    breaks (run ++ (List.replicate n ' ' ++ cs)) = .ok (run.map lineEnd, cs) := by
  induction run with
  | nil =>
    rw [List.nil_append, breaks, if_neg (not_isSeparator_indented hn)]
    split
    case h_1 hb =>
      rw [dropWhile_white h, splitBreak?_of_halts h] at hb
      cases hb
    case h_2 => rw [dropWhile_white h, List.map_nil]
  | cons c run hi =>
    have hc := hr c List.mem_cons_self
    rw [List.cons_append, breaks, if_neg (not_isSeparator_lineBreak hc)]
    split
    case h_1 hb =>
      rw [dropWhile_lineBreak hc, splitBreak?_lineBreak hc] at hb
      cases hb
      rw [hi fun c hm => hr c (List.mem_cons_of_mem _ hm)]
      rfl
    case h_2 hb =>
      rw [dropWhile_lineBreak hc, splitBreak?_lineBreak hc] at hb
      cases hb

theorem read_char (hc : ¬isWhite c ∧ ¬isBreak c)
    (hq : c ≠ Text.apostrophe ∧ ¬double ∨ c ≠ Text.quotation ∧ c ≠ Text.backslash ∧ double)
    (h : read double cs = .ok (s, rest)) : read double (c :: cs) = .ok (c :: s, rest) := by
  have hb : ¬(isWhite c || isBreak c) := by simp [hc]
  rw [read.eq_def]
  simp only [if_neg hb]
  rcases hq with ⟨hq, hd⟩ | ⟨hq, hs, hd⟩
  · rw [if_neg hd, if_neg hq, h]
    rfl
  · rw [if_pos hd, if_neg hq, if_neg hs, h]
    rfl

-- Blanks within a line are kept.
theorem read_blanks (double : Bool) (hc : isWhite c) (hn : (c :: cs).dropWhile isWhite ≠ [])
    (hh : Halts ((c :: cs).dropWhile isWhite)) :
    read double (c :: cs) = (read double ((c :: cs).dropWhile isWhite)).map fun r =>
      ((c :: cs).takeWhile isWhite ++ r.1, r.2) := by
  have hl : ((c :: cs).dropWhile isWhite).length < cs.length + 1 := by
    rw [List.dropWhile_cons_of_pos hc]
    exact Nat.lt_succ_of_le (List.dropWhile_suffix _).length_le
  rw [read.eq_def]
  simp only [hc, Bool.true_or, if_true]
  split
  case h_1 hb => cases (splitBreak?_of_halts hh).symm.trans hb
  case h_2 =>
    rw [dif_pos hl]
    cases read double ((c :: cs).dropWhile isWhite) <;> rfl

theorem read_spaces (hcs : cs ≠ []) (hh : Halts cs) (h : read double cs = .ok (s, rest)) :
    read double (List.replicate (n + 1) ' ' ++ cs) = .ok (List.replicate (n + 1) ' ' ++ s, rest) := by
  have hd : (' ' :: (List.replicate n ' ' ++ cs)).dropWhile isWhite = cs := dropWhile_white (n := n + 1) hh
  have ht : (' ' :: (List.replicate n ' ' ++ cs)).takeWhile isWhite = List.replicate (n + 1) ' ' :=
    takeWhile_white (n := n + 1) hh
  have hr := read_blanks double (c := ' ') rfl (hd.symm ▸ hcs) (hd.symm ▸ hh)
  rw [hd, ht, h] at hr
  exact hr

theorem read_breaks (run : List Char) (hr : ∀ c ∈ run, Style.isLineBreak c) (hc : Style.isLineBreak c)
    (hn : n ≠ 0) (hh : Halts cs) (h : read double cs = .ok (s, rest)) :
    read double (c :: (run ++ (List.replicate n ' ' ++ cs)))
      = .ok (folded (lineEnd c) (run.map lineEnd) ++ s, rest) := by
  have hb : (isWhite c || isBreak c) = true := by rw [isBreak_of_lineBreak hc, Bool.or_true]
  rw [read.eq_def]
  simp only [if_pos hb]
  split
  case h_1 he =>
    rw [dropWhile_lineBreak hc] at he
    cases he
  case h_2 =>
    split
    case h_1 hs =>
      rw [dropWhile_lineBreak hc, splitBreak?_lineBreak hc] at hs
      cases hs
      split
      case h_1 he =>
        rw [breaks_eq run hr hn hh] at he
        cases he
      case h_2 he =>
        rw [breaks_eq run hr hn hh] at he
        cases he
        rw [h]
        rfl
    case h_2 hs =>
      rw [dropWhile_lineBreak hc, splitBreak?_lineBreak hc] at hs
      cases hs

end Quoted
end Yaml
end Gamebook
