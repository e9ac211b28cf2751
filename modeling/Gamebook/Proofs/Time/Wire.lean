import Mathlib
import Gamebook.Proofs.Number.Digits
import Gamebook.Time.Reader

namespace Gamebook
namespace Timestamp

-- What is written of a time is read as that time.

variable {n w : Nat} {c : Char} {cs rest : List Char}

namespace Reader

theorem digits_padded (hw : 0 < w) (h : n < 10 ^ w) : digits w (padded w n ++ rest) = some (n, rest) := by
  have hl := length_padded hw h
  have hd : (padded w n).all (·.isDigit) := List.all_eq_true.mpr fun _ => isDigit_of_mem_padded
  simp only [digits, List.take_left' hl, List.drop_left' hl, hl, hd, decide_true, Bool.and_self, if_true,
    ofDigits_padded]

theorem date_chars (d : Date) : date (d.chars ++ rest) = some (d, rest) := by
  have hv := d.valid
  have hy := Nat.lt_of_le_of_lt hv.right.left (show 9999 < 10 ^ 4 by decide)
  have hm := Nat.lt_of_le_of_lt hv.right.right.right.left (show 12 < 10 ^ 2 by decide)
  have hd : d.day < 10 ^ 2 := by
    have hd := hv.right.right.right.right.right
    unfold Date.daysInMonth at hd
    grind
  have hof : Date.of? d.year d.month d.day = some d := dif_pos hv
  simp only [date, Date.chars, List.append_assoc, List.cons_append, digits_padded (show 0 < 4 by decide) hy,
    digits_padded (show 0 < 2 by decide) hm, digits_padded (show 0 < 2 by decide) hd, Option.bind_eq_bind,
    Option.bind_some, char, decide_true, if_true, hof]
  rfl

-- What may follow a time.
def Stops (cs : List Char) : Prop :=
  ∀ c ∈ cs.head?, ¬c.isDigit ∧ c ∉ [':', '.', ',']

theorem fraction_point (hn : n < 10 ^ 6) (h : Stops rest) :
    fraction ('.' :: padded 6 n ++ rest) = some (n, rest) := by
  have hl := length_padded (show 0 < 6 by decide) hn
  have hd : ∀ c ∈ padded 6 n, c.isDigit := fun _ => isDigit_of_mem_padded
  have hr : ∀ c ∈ rest.head?, ¬c.isDigit := fun c hc => (h c hc).left
  have ht : (padded 6 n ++ rest).takeWhile (·.isDigit) = padded 6 n := by
    rw [List.takeWhile_append_of_pos hd]
    cases rest with
    | nil         => simp
    | cons c rest => rw [List.takeWhile_cons_of_neg (hr c rfl), List.append_nil]
  have hw : (padded 6 n ++ rest).dropWhile (·.isDigit) = rest := by
    rw [List.dropWhile_append_of_pos hd]
    cases rest with
    | nil         => rfl
    | cons c rest => exact List.dropWhile_cons_of_neg (hr c rfl)
  have hm : microseconds (padded 6 n) = n := by
    rw [microseconds, hl, List.take_of_length_le (Nat.le_of_eq hl), Nat.sub_self, List.replicate_zero,
      List.append_nil, ofDigits_padded]
  have hne : ¬(padded 6 n).isEmpty := by
    rw [List.isEmpty_iff, ← List.length_eq_zero_iff, hl]
    decide
  simp only [List.cons_append, fraction, decide_true, Bool.true_or, if_true, ht, if_neg hne, hw, hm]

theorem fraction_none (h : Stops rest) : fraction rest = some (0, rest) := by
  cases rest with
  | nil => rfl
  | cons c rest =>
    have hc := (h c rfl).right
    simp only [List.mem_cons, List.not_mem_nil, or_false, not_or] at hc
    simp [fraction, hc]

theorem time_chars (t : TimeOfDay) (h : Stops rest) : time (t.chars ++ rest) = some (t, rest) := by
  have ⟨hh, hm, hs, hu⟩ := t.valid
  have hh := Nat.lt_trans hh (show 24 < 10 ^ 2 by decide)
  have hm := Nat.lt_trans hm (show 60 < 10 ^ 2 by decide)
  have hs := Nat.lt_trans hs (show 60 < 10 ^ 2 by decide)
  have hof : TimeOfDay.of? t.hour t.minute t.second t.microsecond = some t := dif_pos t.valid
  have hf : fraction ((if t.microsecond = 0 then [] else '.' :: padded 6 t.microsecond) ++ rest) =
      some (t.microsecond, rest) := by
    split
    case isTrue hz => exact hz ▸ fraction_none h
    case isFalse   => exact fraction_point hu h
  simp only [time, TimeOfDay.chars, List.append_assoc, List.cons_append, digits_padded (show 0 < 2 by decide) hh,
    digits_padded (show 0 < 2 by decide) hm, digits_padded (show 0 < 2 by decide) hs, Option.bind_eq_bind,
    Option.bind_some, char, decide_true, if_true, hf, hof]
  rfl

theorem offset_chars (o : Offset) : offset o.chars = some (some o, []) := by
  have ⟨hl, hu⟩ := o.valid
  have hh : o.minutes.natAbs / 60 < 10 ^ 2 := by omega
  have hm : o.minutes.natAbs % 60 < 10 ^ 2 := by omega
  have hd : digits 2 (padded 2 (o.minutes.natAbs % 60) ++ []) = some (o.minutes.natAbs % 60, []) :=
    digits_padded (by decide) hm
  have hof : Offset.of? o.minutes = some o := dif_pos o.valid
  have hn : ¬60 ≤ o.minutes.natAbs % 60 := by omega
  have hc : (o.minutes.natAbs / 60 * 60 + o.minutes.natAbs % 60 : Nat) = o.minutes.natAbs := by omega
  rw [List.append_nil] at hd
  rw [Offset.chars]
  split
  case isTrue hs =>
    have hi : -(o.minutes.natAbs : Int) = o.minutes := by omega
    simp only [List.cons_append, offset, Char.reduceEq, decide_false, decide_true, Bool.or_self, Bool.or_true,
      Bool.or_false, Bool.false_eq_true, if_true, if_false, Option.bind_eq_bind, Option.bind_some,
      digits_padded (show 0 < 2 by decide) hh, hd, if_neg hn, hc, hi, hof]
    rfl
  case isFalse hs =>
    have hi : (o.minutes.natAbs : Int) = o.minutes := by omega
    simp only [List.cons_append, offset, Char.reduceEq, decide_false, decide_true, Bool.or_self,
      Bool.or_false, Bool.false_eq_true, if_true, if_false, Option.bind_eq_bind, Option.bind_some,
      digits_padded (show 0 < 2 by decide) hh, hd, if_neg hn, hc, hi, hof]
    rfl

theorem offset_zone (o : Option Offset) : offset (wire.zone o) = some (o, []) := by
  cases o with
  | none => rfl
  | some o =>
    rw [wire.zone]
    split
    case isTrue h =>
      have : o = .utc := Offset.ext h
      rw [this]
      rfl
    case isFalse => exact offset_chars o

end Reader

theorem stops_chars (o : Offset) : Reader.Stops o.chars := by
  intro c hc
  rw [Offset.chars] at hc
  cases hc
  split <;> decide

theorem stops_zone (o : Option Offset) : Reader.Stops (wire.zone o) := by
  cases o with
  | none => exact fun c hc => by cases hc
  | some o =>
    rw [wire.zone]
    split
    case isTrue =>
      intro c hc
      cases hc
      decide
    case isFalse => exact stops_chars o

-- However the distance from Greenwich is written, the time is read if that is.
theorem ofText?_zoned {t : Timestamp} {zone : List Char} (hs : Reader.Stops zone)
    (ho : Reader.offset zone = some (t.offset, [])) :
    ofText? (String.ofList (t.date.chars ++ 'T' :: t.time.chars ++ zone)) = some t := by
  have ht := Reader.time_chars t.time hs
  have hi : ofIso? (t.date.chars ++ 'T' :: t.time.chars ++ zone) = some t := by
    simp only [ofIso?, List.append_assoc, List.cons_append, Reader.date_chars, Option.bind_eq_bind, Option.bind_some,
      List.isEmpty_cons, Reader.char, decide_true, Bool.true_or, if_true, ht, ho,
      List.isEmpty_nil, Bool.false_eq_true, if_false]
    rfl
  rw [ofText?, String.toList_ofList, hi, Option.some_or]

theorem ofText?_wire (t : Timestamp) : ofText? t.wire = some t :=
  ofText?_zoned (stops_zone t.offset) (Reader.offset_zone t.offset)

theorem ofText?_iso (t : Timestamp) : ofText? t.iso = some t := by
  have hz : Reader.Stops ((t.offset.map Offset.chars).getD []) ∧
      Reader.offset ((t.offset.map Offset.chars).getD []) = some (t.offset, []) := by
    cases t.offset with
    | none   => exact ⟨fun c hc => (by cases hc), rfl⟩
    | some o => exact ⟨stops_chars o, Reader.offset_chars o⟩
  exact ofText?_zoned hz.left hz.right

end Timestamp
end Gamebook
