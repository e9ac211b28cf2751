import Mathlib
import Gamebook.Proofs.Yaml.Cursor
import Gamebook.Yaml.Writer

namespace Gamebook
namespace Yaml
namespace Pen

-- What has been written, in its order.
def text (p : Pen) : List Char :=
  p.written.reverse

variable {p : Pen} {cs : List Char} {n : Nat} {c : Char}

@[simp]
theorem text_write : (p.write cs).text = p.text ++ cs := by
  simp [text, write]

@[simp]
theorem column_write : (p.write cs).column = p.column + cs.length :=
  rfl

@[simp]
theorem fresh_write : (p.write cs).fresh = p.fresh :=
  rfl

@[simp]
theorem blank_write : (p.write cs).blank = p.blank :=
  rfl

@[simp]
theorem text_lineBreak : (p.lineBreak c).text = p.text ++ [c] := by
  simp [text, lineBreak]

@[simp]
theorem text_occupied : p.occupied.text = p.text :=
  rfl

@[simp]
theorem column_occupied : p.occupied.column = p.column :=
  rfl

@[simp]
theorem fresh_occupied : p.occupied.fresh = false :=
  rfl

variable {needsBlank blank fresh : Bool}

@[simp]
theorem text_mark :
    (p.mark cs needsBlank blank fresh).text = p.text ++ if p.blank || !needsBlank then cs else ' ' :: cs := by
  simp [text, mark, write]

@[simp]
theorem column_mark : (p.mark cs needsBlank blank fresh).column
    = p.column + (if p.blank || !needsBlank then cs else ' ' :: cs).length :=
  rfl

@[simp]
theorem fresh_mark : (p.mark cs needsBlank blank fresh).fresh = (p.fresh && fresh) :=
  rfl

@[simp]
theorem blank_mark : (p.mark cs needsBlank blank fresh).blank = blank :=
  rfl

-- A pen has gone on in its line or beyond, after a blank if there was none. It is left in a line that
-- is in use.
structure Writes (p q : Pen) (cs : List Char) : Prop where
  text  : q.text = p.text ++ ((if p.blank then [] else [' ']) ++ cs)
  fresh : ¬q.fresh

-- A place where a token may start.
structure Ready (p : Pen) (n : Nat) : Prop where
  column : p.column = n
  blank  : p.blank
  fresh  : p.fresh

theorem Ready.toColumn (h : p.Ready n) : p.toColumn n = p := by
  obtain ⟨written, column, blank, fresh⟩ := p
  have ⟨hc, hb, hf⟩ := h
  cases hc
  cases hb
  cases hf
  simp [Pen.toColumn]

-- Within the indentation, the pen moves on in its line.
theorem toColumn_fresh (h : p.fresh) (hc : p.column < n) :
    (p.toColumn n).text = p.text ++ List.replicate (n - p.column) ' ' ∧ (p.toColumn n).Ready n := by
  have hb : ¬(!p.fresh || decide (n < p.column) || decide (p.column = n) && !p.blank) = true := by
    simp [h]
    omega
  rw [toColumn]
  simp only [if_neg hb, if_pos hc]
  exact ⟨text_write, ⟨by simp; omega, rfl, h⟩⟩

-- From a line that is in use, it goes to the next one.
theorem toColumn_occupied (h : ¬p.fresh ∨ n < p.column) :
    (p.toColumn n).text = p.text ++ '\n' :: List.replicate n ' ' ∧ (p.toColumn n).Ready n := by
  have hb : (!p.fresh || decide (n < p.column) || decide (p.column = n) && !p.blank) = true := by
    cases h <;> simp_all
  have ht : p.toColumn n = (p.lineBreak '\n').toColumn n := by
    rw [toColumn, if_pos hb]
    simp [toColumn, lineBreak]
  rw [ht]
  cases n with
  | zero   => exact ⟨text_lineBreak, ⟨rfl, rfl, rfl⟩⟩
  | succ n =>
    have ⟨ht, hr⟩ := toColumn_fresh (p := p.lineBreak '\n') rfl (Nat.succ_pos n)
    exact ⟨by rw [ht, text_lineBreak, List.append_assoc]; rfl, hr⟩

-- Line breaks of any kind.
theorem foldl_lineBreak (b : Char) (run : List Char) :
    ((b :: run).foldl lineBreak p).text = p.text ++ b :: run ∧ ((b :: run).foldl lineBreak p).Ready 0 := by
  induction run generalizing p b with
  | nil           => exact ⟨text_lineBreak, ⟨rfl, rfl, rfl⟩⟩
  | cons b' run hi =>
    have ⟨ht, hr⟩ := hi (p := p.lineBreak b) b'
    rw [List.foldl_cons, ht, text_lineBreak, List.append_assoc]
    exact ⟨rfl, hr⟩

end Pen
end Yaml
end Gamebook
