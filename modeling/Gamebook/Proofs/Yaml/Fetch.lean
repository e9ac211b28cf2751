import Mathlib
import Gamebook.Proofs.Yaml.Scan
import Gamebook.Proofs.Yaml.Spelled

namespace Gamebook
namespace Yaml
namespace Scanner

variable {s s' : Scanner} {c : Cursor} {a b newline : Bool} {key : Option KeyStart} {column e m n : Nat} {ch : Char}
  {cs w more : List Char} {K : List Nat} {t : Token} {T : List Token}

-- Where a key may have started, if that is allowed.
def keyAt (c : Cursor) (K : List Nat) (T : List Token) : KeyStart where
  count    := T.length
  required := top K == c.column
  index    := c.index
  line     := c.line
  column   := c.column

def keyAt? (allow : Bool) (c : Cursor) (K : List Nat) (T : List Token) : Option KeyStart :=
  if allow then some (keyAt c K T) else none

theorem rememberKey_between :
    (between c a none K T).rememberKey = .ok (between c a (keyAt? a c K T) K T) := by
  cases a <;> rfl

theorem fetchPlain_between {d : Cursor}
    (h : Plain.read false (top K + 1) c.rest.length c = (cs, d, b)) :
    (between c a none K T).fetchPlain
      = .ok (between d b (keyAt? a c K T) K (.scalar (String.ofList cs) true :: T)) := by
  have h : Plain.read (between c a (keyAt? a c K T) K T).inFlow ((between c a (keyAt? a c K T) K T).indent + 1)
      (between c a (keyAt? a c K T) K T).cursor.rest.length (between c a (keyAt? a c K T) K T).cursor = (cs, d, b) := h
  rw [fetchPlain, rememberKey_between, Chain.ok_bind, h]
  rfl

theorem fetchQuoted_between (double : Bool) {rest : List Char}
    (h : Quoted.read double (c.rest.drop 1) = .ok (cs, rest)) :
    (between c a none K T).fetchQuoted double
      = .ok (between (c.moveTo rest) false (keyAt? a c K T) K (.scalar (String.ofList cs) false :: T)) := by
  have h : Quoted.read double ((between c a (keyAt? a c K T) K T).cursor.rest.drop 1) = .ok (cs, rest) := h
  rw [fetchQuoted, rememberKey_between, Chain.ok_bind, h]
  rfl

-- What follows a scalar: the colon of a key, or a new line.
def Follows (more : List Char) : Prop :=
  ∃ d ds, more = d :: ds ∧ (d = '\n' ∨ d = ':')

theorem not_isSeparator_of_folded (hf : Plain.Folded column cs w) (hs : ¬Style.startsWithSeparator cs)
    (hm : Follows more) : ¬isSeparator (w ++ more) := by
  have ⟨d, ds, hd, hm⟩ := hm
  have he : ∀ c ∈ more.head?, c = '\n' ∨ c = ':' := by
    intro c hc
    rw [hd] at hc
    cases hc
    exact hm
  intro h
  refine hs ?_
  simp only [isSeparator, Bool.and_eq_true, Bool.or_eq_true] at h
  simp only [Style.startsWithSeparator, Bool.or_eq_true]
  exact h.left.imp (hf.isPrefixOf (by simp) he) (hf.isPrefixOf (by simp) he)

theorem startsPlain_leading {next : Option Char} (hl : Leading ch cs)
    (hn : ch = '?' ∨ ch = ':' ∨ ch = '-' → ¬endsWord next) : startsPlain false ch next := by
  have hi : indicators ⊆ Style.startsWithSign.signs ++ ['?', ':', '-'] := by decide
  by_cases hs : ch = '?' ∨ ch = ':' ∨ ch = '-'
  case pos =>
    have hn := hn hs
    rcases hs with hs | hs | hs <;> simp [startsPlain, hs, hn]
  case neg =>
    have hd : ch ∉ indicators := by
      intro hd
      cases List.mem_append.mp (hi hd)
      case inl hd => exact hl.mark ch hd rfl
      case inr hd => exact hs (by simpa using hd)
    simp [startsPlain, hl.inner, hd]

theorem fetch_leading (hl : Leading ch cs) (hf : ¬s.inFlow)
    (hn : ch = '?' ∨ ch = ':' ∨ ch = '-' → ¬endsWord (s.cursor.peekAt 1)) (hs : ¬isSeparator s.cursor.rest) :
    s.fetch ch = s.fetchPlain := by
  have hm {d : Char} (hd : d ∈ Style.startsWithSign.signs) := hl.mark d hd
  have hp := startsPlain_leading hl hn
  have hq : ¬(ch = '?' && endsWord (s.cursor.peekAt 1)) := by grind
  have hc : ¬(ch = ':' && endsWord (s.cursor.peekAt 1)) := by grind
  have hd : ¬(ch = '-' && endsWord (s.cursor.peekAt 1)) := by grind
  rw [fetch]
  simp only [Bool.eq_false_iff.mpr hf, Bool.false_or, if_neg hq, if_neg hc, if_neg hd, hp, if_true,
    Bool.eq_false_iff.mpr hs, Bool.and_false, Bool.false_eq_true, if_false, Bool.not_false, Bool.and_true]
  simp [hm (d := '%') (by decide), hm (d := '[') (by decide), hm (d := '\x7b') (by decide), hm (d := ']') (by decide),
    hm (d := '\x7d') (by decide), hm (d := ',') (by decide), hm (d := '*') (by decide), hm (d := '&') (by decide),
    hm (d := '!') (by decide), hm (d := '|') (by decide), hm (d := '>') (by decide),
    hm (d := Text.apostrophe) (by decide), hm (d := Text.quotation) (by decide)]

theorem Follows.head_ne (hm : Follows more) {q : Char} (hq : q ≠ '\n' ∧ q ≠ ':') : more.head? ≠ some q := by
  have ⟨d, _, hd, hm⟩ := hm
  rw [hd]
  intro h
  cases h
  exact hm.elim hq.left hq.right

theorem fetch_plain (ha : Style.allowsPlain cs) (hn : cs ≠ []) (hw : Plain.Folded column cs w) (h0 : column ≠ 0)
    (hK : top K < column) (hc : top K ≤ c.column) (hr : c.rest = w ++ more) (hp : w.head? = some ch)
    (hm : Follows more) (he : Plain.Ending (top K + 1) more e newline) :
    (between c a none K T).fetch ch = .ok (between (c.skip (w.length + e)) newline (keyAt? a c K T) K
      (.scalar (String.ofList cs) true :: T)) := by
  have ⟨d, ds, v, hcs, hv, hf, hl⟩ := hw.head ha hn
  subst hcs hv
  cases hp
  have hne : ch = '?' ∨ ch = ':' ∨ ch = '-' → ¬endsWord ((between c a none K T).cursor.peekAt 1) := by
    intro hs
    rw [peekAt_between hr]
    exact hf.not_endsWord (hl.sign hs)
  have hsep : ¬isSeparator (between c a none K T).cursor.rest := by
    rw [show (between c a none K T).cursor.rest = _ from hr]
    exact not_isSeparator_of_folded hw hl.separator hm
  -- The text that is left is the fuel of the reader.
  have hlen : (ch :: ds).length < c.rest.length := by
    have ⟨_, _, hd, _⟩ := hm
    have hle := hw.length_le
    simp only [hr, hd, List.length_append, List.length_cons]
    simp only [List.length_cons] at hle
    omega
  have hread := Plain.reads_folded hw (Plain.fit_of_allowsPlain ha ' ') he h0 (by omega) _ hlen hr (by omega)
  rw [fetch_leading hl (by simp [inFlow, between]) hne hsep]
  exact fetchPlain_between hread

-- A scalar is fetched together with a new line after it if it is plain, and without it if not.
theorem fetch_spelled (hw : Spelled column t w) (h0 : column ≠ 0) (hK : top K < column)
    (hc : top K ≤ c.column) (hr : c.rest = w ++ more) (hp : w.head? = some ch) (hm : Follows more)
    (he : Plain.Ending (top K + 1) more e newline) :
    (between c a none K T).fetch ch = .ok (between (c.skip w.length) false (keyAt? a c K T) K (t :: T)) ∨
    (between c a none K T).fetch ch
      = .ok (between (c.skip (w.length + e)) newline (keyAt? a c K T) K (t :: T)) := by
  cases hw with
  | plain ha hn hw => exact .inr (fetch_plain ha hn hw h0 hK hc hr hp hm he)
  | @single cs w hf hw =>
    cases hp
    have hd : c.rest.drop 1 = w ++ Text.apostrophe :: more := by simp [hr]
    have hread := Single.read_wrapped hw h0 (hm.head_ne (q := Text.apostrophe) (by decide))
    exact .inl (Cursor.moveTo_append _ hr ▸ fetchQuoted_between false (hd ▸ hread))
  | @double cs w hw =>
    cases hp
    have hd : c.rest.drop 1 = w ++ Text.quotation :: more := by simp [hr]
    have hread : Quoted.read true (w ++ Text.quotation :: more) = _ := Double.read_escaped hw h0
    exact .inl (Cursor.moveTo_append _ hr ▸ fetchQuoted_between true (hd ▸ hread))

theorem passed_keyAt? {line : Nat} (hn : n < c.column) (hl : c.line < line) :
    Passed (keyAt? a c (n :: K) T) line := by
  intro k hk
  cases a with
  | false => cases hk
  | true =>
    cases hk
    refine ⟨?_, hl⟩
    simp only [keyAt, top_cons, beq_iff_eq]
    omega

-- A scalar is read, and the next token stands on a new line.
theorem leads_spelled (h : Lands s a m (w ++ newLine e more) (n :: K) T) (hw : Spelled column t w) (hn : n < m)
    (hc : n < column) (he : e ≤ n) (hs : Starts more) :
    ∃ s', Leads s s' ∧ Lands s' true e more (n :: K) (t :: T) := by
  have ⟨c, hr, hm, hl, hset⟩ := h.inside (Int.ofNat_le.mpr (Nat.le_of_lt hn))
  have ⟨_, hne⟩ := hw.starts
  obtain ⟨ch, v, rfl⟩ := List.exists_cons_of_ne_nil hne
  have hshort {k : Nat} : (c.skip ((ch :: v).length + k)).rest.length < s.cursor.rest.length := by
    simp only [Cursor.rest_skip, List.length_drop, hr, List.length_append, List.length_cons] at hl ⊢
    omega
  have hr' : (c.skip (ch :: v).length).rest = newLine e more := by
    rw [Cursor.rest_skip, hr, List.drop_left]
  have hf := fetch_spelled (a := a) (K := n :: K) (T := T) hw (Nat.ne_of_gt (Nat.zero_lt_of_lt hc))
    (by rw [top_cons]; omega) (by rw [top_cons]; omega) hr rfl ⟨_, _, rfl, .inl rfl⟩
    (Plain.ending_newLine hs (by rw [top_cons]; omega))
  rcases hf with hf | hf
  · refine ⟨_, leads_of_fetch hset (peek_between hr) hf (hshort (k := 0)), lands_newLine hr' hs (passed_keyAt? (hm ▸ hn) ?_)⟩
    exact Nat.lt_succ_of_le Cursor.line_le_skip
  · have ⟨hr'', hc', hline⟩ := Cursor.skip_newLine hr'
    rw [Cursor.skip_skip] at hr'' hc' hline
    refine ⟨_, leads_of_fetch hset (peek_between hr) hf hshort, ?_⟩
    have hk := passed_keyAt? (a := a) (K := K) (T := T) (hm ▸ hn) (Nat.lt_of_le_of_lt Cursor.line_le_skip hline)
    have hl := lands_passed (a := true) (K := n :: K) (T := t :: T) hr'' hs hk
    rwa [hc'] at hl

-- After the start of a flow collection.
def within (c : Cursor) (key : Option KeyStart) (K : List Nat) (T : List Token) : Scanner :=
  { between c true none K T with keys := [none, key] }

theorem settle_within (hr : c.rest = ch :: more) (hs : isSolid ch) (hk : ∀ k ∈ key, ¬isStale c k) :
    (within c key K T).settle = .ok (within c key K T) := by
  have hs : Starts (ch :: more) := .cons hs
  have hb : skipBlank true c true = (c, true) := skipBlank_spaces (n := 0) hr hs
  have hp : c.peek ≠ some '\ufeff' := peek_ne_of_rest hr (hs.head rfl).right.right.left
  have hn : (within c key K T).toNextToken = within c key K T := by
    simp [toNextToken, within, between, inFlow, hp, hb]
  have hd : (within c key K T).dropStaleKeys = .ok (within c key K T) := by
    cases key with
    | none   => rfl
    | some k => simp [dropStaleKeys, within, between, hk k rfl]
  rw [settle, hn, hd]
  rfl

-- So is an empty collection, whose signs are `o` and `ch`.
theorem leads_empty {o : Char} {start close : Token} (ho : ∀ s : Scanner, s.fetch o = s.fetchFlowStart start)
    (hc : ∀ s : Scanner, s.fetch ch = s.fetchFlowEnd close) (hso : ¬isBreak o) (hsc : isSolid ch)
    (h : Lands s a m (o :: ch :: newLine e more) (n :: K) T) (hn : n < m) (hs : Starts more) :
    ∃ s', Leads s s' ∧ Lands s' true e more (n :: K) (close :: start :: T) := by
  have ⟨c, hr, hm, hl, hset⟩ := h.inside (Int.ofNat_le.mpr (Nat.le_of_lt hn))
  have hr' : (c.skip 1).rest = ch :: newLine e more := by simp [hr]
  have hr'' : ((c.skip 1).skip 1).rest = newLine e more := by simp [hr]
  have hline : (c.skip 1).line = c.line := (Cursor.step_within hr hso).left
  have hindex := Cursor.index_skip (n := 1) (c := c) (by simp [hr])
  have hk : ∀ k ∈ keyAt? a c (n :: K) T, ¬isStale (c.skip 1) k := by
    intro k hk
    cases a with
    | false => cases hk
    | true =>
      cases hk
      simp [isStale, keyAt, hindex, hline, keyLimit]
  have hp : (within (c.skip 1) (keyAt? a c (n :: K) T) (n :: K) (start :: T)).cursor.peek = some ch :=
    congrArg List.head? hr'
  have hf : (between c a none (n :: K) T).fetch o
      = .ok (within (c.skip 1) (keyAt? a c (n :: K) T) (n :: K) (start :: T)) := by
    rw [ho, fetchFlowStart, rememberKey_between]
    rfl
  have hf' : (within (c.skip 1) (keyAt? a c (n :: K) T) (n :: K) (start :: T)).fetch ch
      = .ok (between ((c.skip 1).skip 1) false (keyAt? a c (n :: K) T) (n :: K) (close :: start :: T)) := by
    rw [hc, fetchFlowEnd]
    rfl
  have h₁ := leads_of_fetch hset (peek_between hr) hf (Nat.lt_of_lt_of_le (by simp [within, between, hr]) hl)
  have h₂ := leads_of_fetch (settle_within hr' hsc hk) hp hf' (by simp [within, between, hr])
  refine ⟨_, h₁.trans h₂, lands_newLine hr'' hs (passed_keyAt? (hm ▸ hn) ?_)⟩
  exact Nat.lt_succ_of_le (Nat.le_trans Cursor.line_le_step Cursor.line_le_skip)

end Scanner
end Yaml
end Gamebook
