import Mathlib
import Gamebook.Proofs.Yaml.Pen
import Gamebook.Proofs.Yaml.Style
import Gamebook.Yaml.Plain

namespace Gamebook
namespace Yaml
namespace Plain

-- A text and a way to write it, in which single spaces may have become new lines.
inductive Folded (column : Nat) : List Char → List Char → Prop
  | nil    : Folded column [] []
  | char   : c ≠ ' ' → Folded column cs w → Folded column (c :: cs) (c :: w)
  | spaces : cs.head? ≠ some ' ' → Folded column cs w →
      Folded column (List.replicate (n + 1) ' ' ++ cs) (List.replicate (n + 1) ' ' ++ w)
  | fold   : cs.head? ≠ some ' ' → Folded column cs w → Folded column (' ' :: cs) (newLine column w)

-- How a pen `q` has gone on from `p` by what is written for `cs`, in a line that is in use.
structure Body (column : Nat) (split : Bool) (p q : Pen) (cs w : List Char) : Prop where
  text  : q.text = p.text ++ w
  ways  : Folded column cs w
  whole : ¬split → w = cs
  fresh : ¬q.fresh

namespace Body

variable {column n : Nat} {split : Bool} {p q : Pen} {c : Char} {cs w : List Char}

theorem ended (column : Nat) (split : Bool) (hf : ¬p.fresh) : Body column split p p [] [] where
  text  := by simp
  ways  := .nil
  whole := fun _ => rfl
  fresh := hf

theorem char (hc : c ≠ ' ') (h : Body column split (p.write [c]) q cs w) :
    Body column split p q (c :: cs) (c :: w) where
  text  := by simp [h.text]
  ways  := .char hc h.ways
  whole := fun hn => by rw [h.whole hn]
  fresh := h.fresh

theorem spaces (hs : cs.head? ≠ some ' ') (h : Body column split (p.write (List.replicate (n + 1) ' ')) q cs w) :
    Body column split p q (List.replicate (n + 1) ' ' ++ cs) (List.replicate (n + 1) ' ' ++ w) where
  text  := by simp [h.text]
  ways  := .spaces hs h.ways
  whole := fun hn => by rw [h.whole hn]
  fresh := h.fresh

-- A single space becomes the end of a line that is full.
theorem fold (hl : split) (hf : ¬p.fresh) (hs : cs.head? ≠ some ' ')
    (h : Body column split (p.toColumn column).occupied q cs w) :
    Body column split p q (' ' :: cs) (newLine column w) where
  text  := by
    have ⟨ht, _⟩ := Pen.toColumn_occupied (n := column) (.inl hf)
    rw [h.text, Pen.text_occupied, ht, newLine, List.append_assoc]
    rfl
  ways  := .fold hs h.ways
  whole := fun hn => absurd hl hn
  fresh := h.fresh

end Body

theorem writeWords_folded (column : Nat) (split : Bool) (p : Pen) (cs : List Char) (hf : ¬p.fresh) :
    ∃ w, Body column split p (writeWords column split p cs) cs w := by
  fun_induction writeWords column split p cs with
  | case1 p => exact ⟨[], .ended _ _ hf⟩
  | case2 p cs more p' hi =>
    have hr := head?_dropWhile_space cs
    have hm : ' ' :: more = List.replicate (more.length + 1) ' ' := by
      rw [List.replicate_succ, ← takeWhile_space]
    have hc : ' ' :: cs = List.replicate (more.length + 1) ' ' ++ cs.dropWhile (· = ' ') := by
      rw [List.replicate_succ, List.cons_append, takeWhile_append_dropWhile_space]
    by_cases hs : split && p.isFull 0 && more.isEmpty
    case pos =>
      have hp : p' = (p.toColumn column).occupied := if_pos hs
      simp only [Bool.and_eq_true, List.isEmpty_iff] at hs
      have ⟨w, h⟩ := hi (by simp [hp])
      rw [hp] at h ⊢
      rw [hc, hs.right]
      exact ⟨_, h.fold hs.left.left hf hr⟩
    case neg =>
      have hp : p' = p.write (' ' :: more) := if_neg hs
      have ⟨w, h⟩ := hi (hp ▸ hf)
      rw [hp, hm] at h ⊢
      rw [hc]
      exact ⟨_, h.spaces hr⟩
  | case3 p c cs hc hi =>
    have ⟨w, h⟩ := hi hf
    exact ⟨_, h.char hc⟩

variable {column m : Nat} {indent : Int} {last ch : Char} {cs w more : List Char} {c : Cursor}

theorem Folded.mem (h : Folded column cs w) (hc : ch ∈ w) : ch ∈ cs ∨ ch = ' ' ∨ ch = '\n' := by
  induction h with
  | nil              => cases hc
  | char _ _ hi      => cases List.mem_cons.mp hc <;> grind
  | spaces _ _ hi    => grind
  | fold _ _ hi      =>
    simp only [newLine, List.mem_cons, List.mem_append, List.mem_replicate] at hc
    grind

theorem Folded.length_le (h : Folded column cs w) : cs.length ≤ w.length := by
  induction h with
  | nil           => exact Nat.le_refl _
  | char _ _ hi   => exact Nat.succ_le_succ hi
  | spaces _ _ hi => simpa using hi
  | fold _ _ hi   => simp [newLine]; omega

-- A mark that has no blanks in it stands in a folded text only if it does so in the text.
theorem Folded.isPrefixOf {mark : List Char} (hf : Folded column cs w)
    (hm : ∀ c ∈ mark, c ≠ ' ' ∧ c ≠ '\n' ∧ c ≠ ':') (he : ∀ c ∈ more.head?, c = '\n' ∨ c = ':')
    (h : mark.isPrefixOf (w ++ more)) : mark.isPrefixOf cs := by
  cases mark with
  | nil         => cases cs <;> rfl
  | cons d mark =>
    have hd := hm d List.mem_cons_self
    induction hf generalizing d mark with
    | nil =>
      cases more with
      | nil => cases h
      | cons c more =>
        have hc := he c rfl
        simp only [List.nil_append, List.isPrefixOf, Bool.and_eq_true, beq_iff_eq] at h
        grind
    | spaces =>
      simp only [List.replicate_succ, List.cons_append, List.isPrefixOf, Bool.and_eq_true, beq_iff_eq] at h
      exact absurd h.left hd.left
    | fold =>
      simp only [newLine, List.cons_append, List.isPrefixOf, Bool.and_eq_true, beq_iff_eq] at h
      exact absurd h.left hd.right.left
    | @char c cs w hc hf hi =>
      simp only [List.cons_append, List.isPrefixOf, Bool.and_eq_true, beq_iff_eq] at h ⊢
      refine ⟨h.left, ?_⟩
      cases mark with
      | nil          => cases cs <;> rfl
      | cons d' mark =>
        have hm := fun c hc => hm c (List.mem_cons_of_mem d hc)
        exact hi _ _ hm h.right (hm d' List.mem_cons_self)

-- What can end a plain text: the colon of a key, or a new line that is not indented enough.
def Ending (indent : Int) (more : List Char) (e : Nat) (newline : Bool) : Prop :=
  ∀ (fuel : Nat) {c : Cursor}, c.rest = more → read false indent (fuel + 1) c = ([], c.skip e, newline)

theorem gap_spaces {n : Nat} (h : c.rest = List.replicate n ' ' ++ more)
    (hs : ∀ ch ∈ more.head?, ch ≠ ' ' ∧ ¬isBreak ch) :
    gap c = ⟨List.replicate n ' ', c.skip n, false, false⟩ := by
  have hb : splitBreak? (c.skip n).rest = none := by
    rw [(Cursor.skip_spaces h).left]
    exact splitBreak?_eq_none fun ch hm => (hs ch hm).right
  have ht : c.rest.takeWhile (· = ' ') = List.replicate n ' ' := by
    rw [h, takeWhile_spaces fun ch hm => (hs ch hm).left]
  simp only [gap, Cursor.skipWhile, ht, List.length_replicate, hb]

theorem breaks_spaces (h : c.rest = List.replicate m ' ' ++ more)
    (hs : ∀ ch ∈ more.head?, ch ≠ ' ' ∧ ¬isBreak ch) : breaks c = ([], c.skip m, false) := by
  have hb : splitBreak? (c.skip m).rest = none := by
    rw [(Cursor.skip_spaces h).left]
    exact splitBreak?_eq_none fun ch hm => (hs ch hm).right
  have hw := Cursor.skipWhile_spaces h fun ch hm => (hs ch hm).left
  rw [breaks]
  split
  case h_1   => rw [hw]
  case h_2 h =>
    rw [hw, hb] at h
    cases h

theorem gap_newLine (h : c.rest = newLine m more) (hs : ∀ ch ∈ more.head?, ch ≠ ' ' ∧ ¬isBreak ch) :
    (gap c).cursor = c.skip (m + 1) ∧ (gap c).newline ∧
      ((gap c).separator ∧ m = 0 ∨ (gap c).text = [' '] ∧ ¬(gap c).separator) := by
  have ht : c.rest.takeWhile (· = ' ') = [] := by
    rw [h, newLine]
    rfl
  have hb : splitBreak? c.rest = some ('\n', List.replicate m ' ' ++ more) := by
    rw [h, newLine]
    rfl
  have hd : c.moveTo (List.replicate m ' ' ++ more) = c.skip 1 := Cursor.moveTo_append ['\n'] h
  have hr : (c.skip 1).rest = List.replicate m ' ' ++ more := by
    rw [Cursor.rest_skip, h]
    rfl
  have h0 : c.skip 0 = c := rfl
  simp only [gap, Cursor.skipWhile, ht, List.length_nil, h0, hb, hd, hr]
  by_cases hsep : isSeparator (List.replicate m ' ' ++ more)
  case pos =>
    have hm : m = 0 := Decidable.byContradiction fun hm => not_isSeparator_indented hm hsep
    rw [if_pos hsep]
    exact ⟨hm ▸ rfl, rfl, .inl ⟨rfl, hm⟩⟩
  case neg =>
    rw [if_neg hsep, breaks_spaces hr hs, Cursor.skip_skip, Nat.add_comm 1 m]
    exact ⟨rfl, rfl, .inr ⟨rfl, Bool.false_ne_true⟩⟩

theorem not_endsWord_of_not_gap {ch : Char} (h : ¬Style.isGap ch) : ¬endsWord (some ch) := by
  simp only [Style.isGap, Style.isLineBreak, Bool.or_eq_true, decide_eq_true_eq, not_or] at h
  simp [endsWord, isWhite, isBreak, h]

-- The characters of a plain text, where only spaces are blank.
structure Fit (last : Char) (cs : List Char) : Prop where
  signs : Style.holdsSign last cs = false
  inner : ∀ ch ∈ cs, ch = ' ' ∨ ¬isWhite ch ∧ ¬isBreak ch
  ends  : cs.getLast? ≠ some ' '

theorem Fit.tail (h : Fit last (ch :: cs)) : Fit ch cs where
  signs := by
    have hs := h.signs
    rw [Style.holdsSign] at hs
    simp only [Bool.or_eq_false_iff] at hs
    exact hs.right
  inner := fun d hd => h.inner d (List.mem_cons_of_mem _ hd)
  ends  := by
    intro hl
    refine h.ends ?_
    cases cs with
    | nil => cases hl
    | cons => rw [List.getLast?_cons_cons, hl]

theorem Fit.not_colon (h : Fit last (':' :: cs)) : ¬Style.isGapOrEnd cs.head? := by
  have hs := h.signs
  rw [Style.holdsSign] at hs
  simp only [Bool.or_eq_false_iff] at hs
  simpa using hs.left.left

theorem Fit.drop_spaces {n : Nat} (h : Fit last (List.replicate (n + 1) ' ' ++ cs)) : Fit ' ' cs ∧ cs ≠ [] := by
  induction n generalizing last with
  | zero =>
    refine ⟨h.tail, fun hc => ?_⟩
    subst hc
    exact h.ends rfl
  | succ n hi => exact hi h.tail

theorem word_cons (hc : ¬isWhite ch ∧ ¬isBreak ch) (hs : ch = ':' → ¬endsWord cs.head?) :
    word false (ch :: cs) = ch :: word false cs := by
  have hcolon : ¬(ch = ':' && colonEnds false cs) := by
    simp only [colonEnds, Bool.false_and, Bool.or_false, Bool.and_eq_true, decide_eq_true_eq, not_and]
    exact hs
  rw [word]
  simp [hc, hcolon]

theorem Folded.not_endsWord (hf : Folded column cs w) (hn : ¬Style.isGapOrEnd cs.head?) :
    ¬endsWord (w ++ more).head? := by
  cases hf with
  | nil           => exact absurd rfl hn
  | char hd _     => exact not_endsWord_of_not_gap (by simpa [Style.isGapOrEnd] using hn)
  | spaces hd _   => simp [Style.isGapOrEnd, List.replicate_succ, Style.isGap] at hn
  | fold hd _     => simp [Style.isGapOrEnd, Style.isGap] at hn

-- A word goes on with the next character of a folded text.
theorem word_folded (hf : Folded column cs w) (h : Fit last (ch :: cs)) (hc : ch ≠ ' ') :
    word false (ch :: w ++ more) = ch :: word false (w ++ more) := by
  have hi := (h.inner ch List.mem_cons_self).resolve_left hc
  refine word_cons hi fun hcolon => ?_
  subst hcolon
  exact hf.not_endsWord h.not_colon

theorem read_char (hr : c.rest = ch :: cs) (hw : word false (ch :: cs) = ch :: word false cs) (fuel : Nat) :
    read false indent (fuel + 1) c =
      (ch :: (read false indent (fuel + 1) (c.skip 1)).1, (read false indent (fuel + 1) (c.skip 1)).2) := by
  have hr' : (c.skip 1).rest = cs := by
    rw [Cursor.rest_skip, hr]
    rfl
  have hs : c.skip (ch :: word false cs).length = (c.skip 1).skip (word false cs).length := by
    rw [Cursor.skip_skip, List.length_cons, Nat.add_comm]
  rw [read, read]
  simp only [hr, hr', hw, hs]
  split <;> rfl

-- The first character after a gap belongs to a word.
theorem Fit.goes_on (h : Fit ' ' cs) (more : List Char) (hf : Folded column cs w) (hn : cs ≠ []) (hs : cs.head? ≠ some ' ') :
    (∀ ch ∈ (w ++ more).head?, ch ≠ ' ' ∧ ¬isBreak ch) ∧ (w ++ more).head? ≠ some '#' ∧
      (word false (w ++ more)).isEmpty = false := by
  cases hf with
  | nil         => contradiction
  | spaces      => exact absurd rfl hs
  | fold        => exact absurd rfl hs
  | @char ch _ w hc hf =>
    have hi := (h.inner ch List.mem_cons_self).resolve_left hc
    have hsign : ch ≠ '#' := by
      intro he
      have hs := h.signs
      subst he
      simp [Style.holdsSign, Style.isGap] at hs
    refine ⟨fun d hd => ?_, fun hd => hsign (Option.some.inj hd), ?_⟩
    · cases hd
      exact ⟨hc, hi.right⟩
    · rw [word_folded hf h hc]
      rfl

theorem read_gap {fuel : Nat} {text : List Char} {nl : Bool} {d : Cursor} (hw : word false c.rest = [])
    (hg : gap c = ⟨text, d, nl, false⟩) (ht : text ≠ []) (hp : d.peek ≠ some '#')
    (hn : (word false d.rest).isEmpty = false) (hc : indent ≤ d.column) :
    read false indent (fuel + 1) c = (text ++ (read false indent fuel d).1, (read false indent fuel d).2) := by
  have h0 : c.skip 0 = c := rfl
  have hc' : ¬(d.column : Int) < indent := by omega
  rw [read]
  simp only [hw, List.length_nil, h0, hg, hn, hp, hc']
  simp [ht]

-- A way `w` to write a text is read as the text, wherever it stands before `more`.
def Reads (indent : Int) (more : List Char) (e : Nat) (newline : Bool) (cs w : List Char) : Prop :=
  ∀ (fuel : Nat) {c : Cursor}, cs.length < fuel → c.rest = w ++ more → indent ≤ c.column + 1 →
    read false indent fuel c = (cs, c.skip (w.length + e), newline)

namespace Reads

variable {e n : Nat} {newline : Bool}

theorem ended (he : Ending indent more e newline) : Reads indent more e newline [] [] := by
  intro fuel c hl hr _
  cases fuel with
  | zero      => contradiction
  | succ fuel => rw [he fuel hr, List.length_nil, Nat.zero_add]

theorem char (hb : ¬isBreak ch) (hw : word false (ch :: w ++ more) = ch :: word false (w ++ more))
    (h : Reads indent more e newline cs w) : Reads indent more e newline (ch :: cs) (ch :: w) := by
  intro fuel c hl hr hc
  cases fuel with
  | zero      => contradiction
  | succ fuel =>
    have hr' : (c.skip 1).rest = w ++ more := by
      rw [Cursor.rest_skip, hr]
      rfl
    have ⟨_, hcol⟩ := Cursor.step_within hr hb
    have hc' : indent ≤ (c.skip 1).column + 1 := Int.le_trans hc (Int.add_le_add_right (Int.ofNat_le.mpr hcol) 1)
    have hn : 1 + (w.length + e) = (ch :: w).length + e := by
      rw [List.length_cons]
      omega
    rw [read_char hr hw, h _ (Nat.lt_of_succ_lt hl) hr' hc', Cursor.skip_skip, hn]

theorem spaces (hg : ∀ ch ∈ (w ++ more).head?, ch ≠ ' ' ∧ ¬isBreak ch) (hp : (w ++ more).head? ≠ some '#')
    (hw : (word false (w ++ more)).isEmpty = false) (h : Reads indent more e newline cs w) :
    Reads indent more e newline (List.replicate (n + 1) ' ' ++ cs) (List.replicate (n + 1) ' ' ++ w) := by
  intro fuel c hl hr hc
  rw [List.append_assoc] at hr
  cases fuel with
  | zero      => contradiction
  | succ fuel =>
    have ⟨hr', hcol⟩ := Cursor.skip_spaces hr
    have hw' : word false c.rest = [] := by
      rw [hr]
      rfl
    have hl : cs.length < fuel := by
      simp only [List.length_append, List.length_replicate] at hl
      omega
    have hi : indent ≤ (c.skip (n + 1)).column := by omega
    have hn : n + 1 + (w.length + e) = (List.replicate (n + 1) ' ' ++ w).length + e := by
      rw [List.length_append, List.length_replicate]
      omega
    rw [read_gap hw' (gap_spaces hr hg) (by simp) (by rwa [Cursor.peek, hr']) (by rwa [hr']) hi,
      h _ hl hr' (by omega), Cursor.skip_skip, hn]

theorem fold (h0 : m ≠ 0) (hi : indent ≤ m) (hg : ∀ ch ∈ (w ++ more).head?, ch ≠ ' ' ∧ ¬isBreak ch)
    (hp : (w ++ more).head? ≠ some '#') (hw : (word false (w ++ more)).isEmpty = false)
    (h : Reads indent more e newline cs w) : Reads indent more e newline (' ' :: cs) (newLine m w) := by
  intro fuel c hl hr hc
  cases fuel with
  | zero      => contradiction
  | succ fuel =>
    have hr : c.rest = newLine m (w ++ more) := by
      rw [hr, newLine, newLine, List.cons_append, List.append_assoc]
    have ⟨hr', hcol, _⟩ := Cursor.skip_newLine hr
    have ⟨hd, _, ht⟩ := gap_newLine hr hg
    have ⟨ht, hsep⟩ := ht.resolve_left fun h => h0 h.right
    have hw' : word false c.rest = [] := by
      rw [hr]
      rfl
    have hg : gap c = ⟨[' '], c.skip (m + 1), (gap c).newline, false⟩ := by
      rw [← hd, ← ht, ← Bool.eq_false_iff.mpr hsep]
    have hi : indent ≤ (c.skip (m + 1)).column := by omega
    have hn : m + 1 + (w.length + e) = (newLine m w).length + e := by
      simp only [newLine, List.length_cons, List.length_append, List.length_replicate]
      omega
    rw [read_gap hw' hg (by simp) (by rwa [Cursor.peek, hr']) (by rwa [hr']) hi,
      h _ (Nat.lt_of_succ_lt_succ hl) hr' (by omega), Cursor.skip_skip, hn]
    rfl

end Reads

-- A folded text is read as the text.
theorem reads_folded {e : Nat} {newline : Bool} (hf : Folded column cs w) (h : Fit last cs)
    (he : Ending indent more e newline) (h0 : column ≠ 0) (hi : indent ≤ column) :
    Reads indent more e newline cs w := by
  induction hf generalizing last with
  | nil => exact .ended he
  | char hs hf ih =>
    have hb := ((h.inner _ List.mem_cons_self).resolve_left hs).right
    exact .char hb (word_folded hf h hs) (ih h.tail)
  | spaces hs hf ih =>
    have ⟨h, hn⟩ := h.drop_spaces
    have ⟨hg, hp, hw⟩ := h.goes_on more hf hn hs
    exact .spaces hg hp hw (ih h)
  | fold hs hf ih =>
    have ⟨h, hn⟩ := h.drop_spaces (n := 0)
    have ⟨hg, hp, hw⟩ := h.goes_on more hf hn hs
    exact .fold h0 hi hg hp hw (ih h)

-- The two ways in which a plain text ends.

theorem ending_colon (h : endsWord more.head?) : Ending indent (':' :: more) 0 false := by
  have hw : word false (':' :: more) = [] := by
    simp [word, isWhite, isBreak, colonEnds, h]
  intro fuel c hr
  have hg : gap c = ⟨[], c, false, false⟩ := gap_spaces (n := 0) hr (by simp [isBreak])
  have h0 : c.skip 0 = c := rfl
  rw [read]
  simp [hr, hw, h0, hg]

theorem ending_newLine (hs : Starts more) (hm : (m : Int) < indent) :
    Ending indent (newLine m more) (m + 1) true := by
  intro fuel c hr
  have h0 : c.skip 0 = c := rfl
  have hw : word false c.rest = [] := by
    rw [hr]
    rfl
  have ⟨_, hc, _⟩ := Cursor.skip_newLine hr
  have ⟨hd, hn, _⟩ := gap_newLine hr fun ch hm => ⟨(hs.head hm).left, (hs.head hm).right.right.right⟩
  have hc' : ((gap c).cursor.column : Int) < indent := by
    rw [hd, hc]
    exact hm
  rw [read]
  simp only [hw, List.length_nil, h0]
  rw [if_pos (by simp [hc']), hd, hn]

theorem fit_of_allowsPlain (h : Style.allowsPlain cs) (last : Char) : Fit last cs := by
  simp only [Style.allowsPlain, Style.allowsSingle, Style.isMultiline, Style.atEnds, Bool.and_eq_true,
    Bool.not_eq_true', Bool.or_eq_false_iff] at h
  obtain ⟨⟨⟨⟨⟨⟨⟨hspecial, _⟩, _⟩, hbreak⟩, _, hlast⟩, _⟩, hsign⟩, hholds⟩ := h
  refine ⟨?_, fun ch hc => ?_, fun hl => ?_⟩
  · cases cs with
    | nil => rfl
    | cons ch cs =>
      simp only [Style.startsWithSign, Bool.or_eq_false_iff] at hsign
      obtain ⟨hmark, hsign⟩ := hsign
      have hnumber : ch ≠ '#' := by
        intro he
        subst he
        exact absurd hmark (by decide)
      have hcolon : (decide (ch = ':') && Style.isGapOrEnd cs.head?) = false := by
        by_cases he : ch = ':' <;> simp_all
      have hholds : Style.holdsSign ch cs = false := by simpa using hholds
      rw [Style.holdsSign, hcolon, hholds]
      simp [hnumber]
  · exact Style.inner_of_not_special (by simpa using List.any_eq_false.mp hspecial ch hc)
      (by simpa using List.any_eq_false.mp hbreak ch hc)
  · rw [hl] at hlast
    exact absurd hlast (by decide)

end Plain
end Yaml
end Gamebook
