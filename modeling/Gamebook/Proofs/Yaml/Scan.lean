import Mathlib
import Gamebook.Proofs.Chain
import Gamebook.Proofs.Yaml.Cursor
import Gamebook.Yaml.Scan

namespace Gamebook
namespace Yaml
namespace Scanner

-- The columns of the open blocks, the innermost first, as a scanner holds them.
def stack (K : List Nat) : List Int :=
  K.map Nat.cast ++ [-1]

def top (K : List Nat) : Int :=
  (stack K).headD (-1)

-- A scanner outside of flow collections.
def between (c : Cursor) (allow : Bool) (key : Option KeyStart) (K : List Nat) (T : List Token) : Scanner where
  cursor   := c
  tokens   := T
  count    := T.length
  indent   := top K
  indents  := (stack K).tail
  allowKey := allow
  keys     := [key]

-- What is left of the blocks at a column, and the tokens with the ends of the others.

def left (m : Nat) (K : List Nat) : List Nat :=
  K.dropWhile (m < ·)

def ended (m : Nat) (K : List Nat) (T : List Token) : List Token :=
  List.replicate (K.takeWhile (m < ·)).length .blockEnd ++ T

-- What a scanner does before it looks at the next character.
def settle (s : Scanner) : Except Fault Scanner := do
  let s ← s.toNextToken.dropStaleKeys
  return s.closeBlocks s.column

-- One scanner leads to another if both come to the same end.
def Leads (s s' : Scanner) : Prop :=
  ∀ fuel, s.cursor.rest.length < fuel →
    ∃ fuel', s'.cursor.rest.length < fuel' ∧ run fuel s = run fuel' s'

def Breaks (s : Scanner) : Prop :=
  ∀ fuel, s.cursor.rest.length < fuel → run fuel s = .error .malformed

-- The next token of a scanner stands at a column. Blocks that are indented more end before it.
def Lands (s : Scanner) (allow : Bool) (m : Nat) (more : List Char) (K : List Nat) (T : List Token) : Prop :=
  ∃ c, c.rest = more ∧ c.column = m ∧ more.length ≤ s.cursor.rest.length ∧
    s.settle = .ok (between c allow none (left m K) (ended m K T))

variable {s s' s'' t : Scanner} {c : Cursor} {a flow : Bool} {key : Option KeyStart} {k : KeyStart} {m n : Nat}
  {ch : Char} {cs more : List Char} {K : List Nat} {T : List Token}

theorem peek_between (h : c.rest = ch :: cs) : (between c a key K T).cursor.peek = some ch :=
  congrArg List.head? h

theorem peekAt_between (h : c.rest = ch :: cs) : (between c a key K T).cursor.peekAt 1 = cs.head? :=
  congrArg (fun cs => (cs.drop 1).head?) h

theorem left_cons_of_lt (h : m < n) : left m (n :: K) = left m K :=
  List.dropWhile_cons_of_pos (by simpa using h)

theorem left_cons_of_le (h : n ≤ m) : left m (n :: K) = n :: K :=
  List.dropWhile_cons_of_neg (by simpa using h)

theorem ended_cons_of_lt (h : m < n) : ended m (n :: K) T = ended m K (.blockEnd :: T) := by
  rw [ended, List.takeWhile_cons_of_pos (by simpa using h), List.length_cons, List.replicate_succ',
    List.append_assoc]
  rfl

theorem ended_cons_of_le (h : n ≤ m) : ended m (n :: K) T = T := by
  rw [ended, List.takeWhile_cons_of_neg (by simpa using h)]
  rfl

theorem left_eq (h : top K ≤ m) : left m K = K := by
  cases K with
  | nil      => rfl
  | cons n K => exact left_cons_of_le (Int.ofNat_le.mp h)

theorem ended_eq (h : top K ≤ m) : ended m K T = T := by
  cases K with
  | nil      => rfl
  | cons n K => exact ended_cons_of_le (Int.ofNat_le.mp h)

-- No block ends before a token that is not indented less.
theorem Lands.inside (h : Lands s a m more K T) (hK : top K ≤ m) :
    ∃ c, c.rest = more ∧ c.column = m ∧ more.length ≤ s.cursor.rest.length ∧
      s.settle = .ok (between c a none K T) := by
  rwa [Lands, left_eq hK, ended_eq hK] at h

theorem Lands.cons (h : m < n) : Lands s a m more (n :: K) T ↔ Lands s a m more K (.blockEnd :: T) := by
  rw [Lands, left_cons_of_lt h, ended_cons_of_lt h, Lands]

theorem stack_cons : stack (n :: K) = (n : Int) :: stack K :=
  rfl

theorem top_cons : top (n :: K) = n :=
  rfl

theorem stack_eq (K : List Nat) : top K :: (stack K).tail = stack K := by
  cases K <;> rfl

theorem takeWhile_stack (m : Nat) (K : List Nat) :
    ((stack K).takeWhile ((m : Int) < ·)).length = (K.takeWhile (m < ·)).length := by
  induction K with
  | nil => exact congrArg List.length (List.takeWhile_cons_of_neg (l := []) (by simp))
  | cons n K hi =>
    rw [stack_cons]
    by_cases h : m < n
    case pos =>
      rw [List.takeWhile_cons_of_pos (by simpa using h), List.takeWhile_cons_of_pos (by simpa using h),
        List.length_cons, List.length_cons, hi]
    case neg =>
      rw [List.takeWhile_cons_of_neg (by simpa using h), List.takeWhile_cons_of_neg (by simpa using h)]
      rfl

theorem drop_stack (m : Nat) (K : List Nat) :
    (stack K).drop (K.takeWhile (m < ·)).length = stack (left m K) := by
  induction K with
  | nil => rfl
  | cons n K hi =>
    by_cases h : m < n
    case pos =>
      rw [left_cons_of_lt h, List.takeWhile_cons_of_pos (by simpa using h), List.length_cons, stack_cons,
        List.drop_succ_cons, hi]
    case neg =>
      rw [left_cons_of_le (Nat.le_of_not_lt h), List.takeWhile_cons_of_neg (by simpa using h)]
      rfl

theorem closeBlocks_between (m : Nat) :
    (between c a key K T).closeBlocks m = between c a key (left m K) (ended m K T) := by
  have hf : ¬(between c a key K T).inFlow := by simp [inFlow, between]
  rw [closeBlocks, if_neg hf]
  simp only [between, stack_eq, takeWhile_stack, drop_stack, ended, List.length_append,
    List.length_replicate, Nat.add_comm T.length, List.drop_one]
  rfl

theorem run_succ (fuel : Nat) :
    run (fuel + 1) s = s.settle >>= fun s => match s.cursor.peek with
      | some c => s.fetch c >>= run fuel
      | none   => return (← (s.closeBlocks (-1)).forgetKey).tokens.reverse := by
  rw [run, settle]
  cases s.toNextToken.dropStaleKeys <;> rfl

theorem Leads.trans (h : Leads s s') (h' : Leads s' s'') : Leads s s'' := by
  intro fuel hf
  have ⟨fuel', hf', hr⟩ := h fuel hf
  have ⟨fuel'', hf'', hr'⟩ := h' fuel' hf'
  exact ⟨fuel'', hf'', hr.trans hr'⟩

theorem Leads.breaks (h : Leads s s') (h' : Breaks s') : Breaks s := by
  intro fuel hf
  have ⟨fuel', hf', hr⟩ := h fuel hf
  exact hr.trans (h' fuel' hf')

theorem leads_of_fetch (hs : s.settle = .ok t) (hp : t.cursor.peek = some ch) (hf : t.fetch ch = .ok s')
    (hl : s'.cursor.rest.length < s.cursor.rest.length) : Leads s s' := by
  intro fuel hn
  cases fuel with
  | zero      => contradiction
  | succ fuel =>
    refine ⟨fuel, by omega, ?_⟩
    rw [run_succ, hs, Chain.ok_bind, hp]
    simp only [hf, Chain.ok_bind]

theorem breaks_of_fetch (hs : s.settle = .ok t) (hp : t.cursor.peek = some ch)
    (hf : t.fetch ch = .error .malformed) : Breaks s := by
  intro fuel hn
  cases fuel with
  | zero      => contradiction
  | succ fuel =>
    rw [run_succ, hs, Chain.ok_bind, hp]
    simp only [hf, Chain.error_bind]

theorem breaks_of_settle (hs : s.settle = .error .malformed) : Breaks s := by
  intro fuel hn
  cases fuel with
  | zero      => contradiction
  | succ fuel => rw [run_succ, hs, Chain.error_bind]

-- Blanks before a token.

theorem skipBlank_spaces (h : c.rest = List.replicate n ' ' ++ more) (hs : Starts more) :
    skipBlank flow c a = (c.skip n, a) := by
  have hd := Cursor.skipWhile_spaces h fun ch hc => (hs.head hc).left
  have ⟨hr, _⟩ := Cursor.skip_spaces h
  have hc : (c.skip n).peek ≠ some '#' := fun hp => (hs.head (hr ▸ hp)).right.left rfl
  have hb : splitBreak? (c.skip n).rest = none :=
    splitBreak?_eq_none fun ch hm => (hs.head (hr ▸ hm)).right.right.right
  rw [skipBlank]
  split
  case h_1   => rw [hd, if_neg hc]
  case h_2 h =>
    rw [hd, if_neg hc, hb] at h
    cases h

theorem skipBlank_newLine (h : c.rest = newLine n more) (hs : Starts more) :
    skipBlank false c a = (c.skip (n + 1), true) := by
  have hd : c.skipWhile (· = ' ') = c := by
    rw [Cursor.skipWhile, h, newLine]
    rfl
  have hp : c.peek ≠ some '#' := by
    rw [Cursor.peek, h]
    intro h
    cases h
  have hb : splitBreak? c.rest = some ('\n', List.replicate n ' ' ++ more) := by
    rw [h, newLine]
    rfl
  have hm : c.moveTo (List.replicate n ' ' ++ more) = c.skip 1 :=
    Cursor.moveTo_append ['\n'] h
  have hr : (c.skip 1).rest = List.replicate n ' ' ++ more := by
    rw [Cursor.rest_skip, h]
    rfl
  rw [skipBlank]
  split
  case h_1 h =>
    rw [hd, if_neg hp, hb] at h
    cases h
  case h_2 h =>
    rw [hd, if_neg hp, hb] at h
    cases h
    rw [hd, if_neg hp, hm, skipBlank_spaces hr hs, Cursor.skip_skip, Nat.add_comm, Bool.not_false, Bool.or_true]

theorem dropStaleKeys_none : (between c a none K T).dropStaleKeys = .ok (between c a none K T) :=
  rfl

theorem dropStaleKeys_fresh (h : ¬isStale c k) :
    (between c a (some k) K T).dropStaleKeys = .ok (between c a (some k) K T) := by
  simp [dropStaleKeys, between, h]

theorem dropStaleKeys_stale (h : isStale c k) (hr : ¬k.required) :
    (between c a (some k) K T).dropStaleKeys = .ok (between c a none K T) := by
  simp [dropStaleKeys, between, h, hr]

theorem dropStaleKeys_required (h : isStale c k) (hr : k.required) :
    (between c a (some k) K T).dropStaleKeys = .error .malformed := by
  simp [dropStaleKeys, between, h, hr]

theorem toNextToken_between {b : Bool} {d : Cursor} (hp : c.peek ≠ some '\ufeff')
    (h : skipBlank false c a = (d, b)) : (between c a key K T).toNextToken = between d b key K T := by
  simp [toNextToken, between, inFlow, hp, h]

theorem settle_between {b : Bool} {d : Cursor} (hp : c.peek ≠ some '\ufeff')
    (h : skipBlank false c a = (d, b)) (hk : (between d b key K T).dropStaleKeys = .ok (between d b none K T)) :
    (between c a key K T).settle = .ok (between d b none (left d.column K) (ended d.column K T)) := by
  rw [settle, toNextToken_between hp h, hk, Chain.ok_bind]
  exact congrArg Except.ok (closeBlocks_between d.column)

-- Where the next token stands after what has been read.

theorem peek_ne_of_rest {cs : List Char} (h : c.rest = ch :: cs) (hc : ch ≠ '\ufeff') :
    c.peek ≠ some '\ufeff' := by
  rw [Cursor.peek, h]
  exact fun hp => hc (Option.some.inj hp)

theorem lands_here (hr : c.rest = more) (hs : Starts more) :
    Lands (between c a none K T) a c.column more K T := by
  have hp : c.peek ≠ some '\ufeff' := fun hp => (hs.head (hr ▸ hp)).right.right.left rfl
  have hb : skipBlank false c a = (c, a) := skipBlank_spaces (n := 0) hr hs
  exact ⟨c, hr, rfl, Nat.le_of_eq (hr ▸ rfl), settle_between hp hb dropStaleKeys_none⟩

theorem lands_space (hr : c.rest = ' ' :: more) (hs : Starts more) :
    Lands (between c a none K T) a (c.column + 1) more K T := by
  have hp : c.peek ≠ some '\ufeff' := peek_ne_of_rest hr (by decide)
  have hb : skipBlank false c a = (c.skip 1, a) := skipBlank_spaces (n := 1) hr hs
  have ⟨hr', hc⟩ := Cursor.skip_spaces (n := 1) hr
  refine ⟨c.skip 1, hr', hc, ?_, hc ▸ settle_between hp hb dropStaleKeys_none⟩
  simp [between, hr]

-- A key that may have started on an earlier line is forgotten.
def Passed (k : Option KeyStart) (line : Nat) : Prop :=
  ∀ k' ∈ k, ¬k'.required ∧ k'.line < line

theorem passed_none {line : Nat} : Passed none line :=
  fun _ h => nomatch h

theorem dropStaleKeys_passed (h : Passed key c.line) :
    (between c a key K T).dropStaleKeys = .ok (between c a none K T) := by
  cases key with
  | none   => exact dropStaleKeys_none
  | some k =>
    have ⟨hr, hl⟩ := h k rfl
    have hs : isStale c k := by
      simp only [isStale, Bool.or_eq_true, decide_eq_true_eq]
      exact .inl (Nat.ne_of_lt hl)
    exact dropStaleKeys_stale hs hr

theorem lands_passed (hr : c.rest = more) (hs : Starts more) (hk : Passed key c.line) :
    Lands (between c a key K T) a c.column more K T := by
  have hp : c.peek ≠ some '\ufeff' := fun hp => (hs.head (hr ▸ hp)).right.right.left rfl
  have hb : skipBlank false c a = (c, a) := skipBlank_spaces (n := 0) hr hs
  exact ⟨c, hr, rfl, Nat.le_of_eq (hr ▸ rfl), settle_between hp hb (dropStaleKeys_passed hk)⟩

theorem lands_newLine (hr : c.rest = newLine m more) (hs : Starts more) (hk : Passed key (c.line + 1)) :
    Lands (between c a key K T) true m more K T := by
  have hp : c.peek ≠ some '\ufeff' := peek_ne_of_rest hr (by decide)
  have ⟨hr', hc, hl⟩ := Cursor.skip_newLine hr
  have hk' : Passed key (c.skip (m + 1)).line := fun k hm =>
    ⟨(hk k hm).left, Nat.lt_of_lt_of_le (hk k hm).right hl⟩
  have ht := settle_between (a := a) (T := T) (K := K) hp (skipBlank_newLine hr hs) (dropStaleKeys_passed hk')
  rw [hc] at ht
  refine ⟨c.skip (m + 1), hr', hc, ?_, ht⟩
  simp only [between, hr, newLine, List.length_cons, List.length_append]
  omega

end Scanner
end Yaml
end Gamebook
