import Mathlib
import Gamebook.Proofs.Yaml.Fetch

namespace Gamebook
namespace Yaml
namespace Scanner

-- A block is open at a column, or it opens there and `start` is its first token.
inductive Opens (n : Nat) (start : Token) : List Nat → List Token → List Nat → List Token → Prop
  | new : top K < n → Opens n start K T K (start :: T)
  | old : Opens n start (n :: K) T K T

-- The signs before the parts of a block.
inductive Sign : Char → Token → Token → Prop
  | item  : Sign '-' .blockSequenceStart .blockEntry
  | key   : Sign '?' .blockMappingStart .key
  | value : Sign ':' .blockMappingStart .value

variable {s s' : Scanner} {c : Cursor} {column n : Nat} {ch : Char} {w more : List Char} {K K' : List Nat}
  {start t : Token} {T T' : List Token}

theorem Opens.top_le (h : Opens n start K T K' T') : top K ≤ n := by
  cases h with
  | new h => exact Int.le_of_lt h
  | old   => exact Int.le_refl _

theorem openBlock_new {a : Bool} {key : Option KeyStart} (h : top K < n) :
    (between c a key K T).openBlock n = some (between c a key (n :: K) T) := by
  rw [openBlock]
  refine (if_pos h).trans (congrArg some ?_)
  simp only [between, stack_eq]
  rfl

theorem openBlock_old {a : Bool} {key : Option KeyStart} : (between c a key (n :: K) T).openBlock n = none := by
  rw [openBlock]
  exact if_neg (Int.lt_irrefl _)

theorem insert_between {a : Bool} (key : Option KeyStart) (later : List Token) :
    (between c a key K (later ++ T)).insert T.length t = between c a key K (later ++ t :: T) := by
  simp [insert, between]
  omega

theorem Opens.openEntry (h : Opens n start K T K' T') (hc : c.column = n) :
    (between c true none K T).openEntry start = .ok (between c true none (n :: K') T') := by
  have hf : ¬(between c true none K T).inFlow := by simp [inFlow, between]
  have hc : (between c true none K T).column = n := congrArg Nat.cast hc
  rw [Scanner.openEntry, if_neg hf, hc]
  cases h with
  | new h =>
    rw [openBlock_new h]
    rfl
  | old =>
    rw [openBlock_old]
    rfl

theorem Sign.fetch (h : Sign ch start t) (ho : Opens n start K T K' T') (hc : c.column = n)
    (hr : c.rest = ch :: ' ' :: more) :
    (between c true none K T).fetch ch = .ok (between (c.skip 1) true none (n :: K') (t :: T')) := by
  have hn : (between c true none K T).cursor.peekAt 1 = some ' ' := peekAt_between hr
  cases h with
  | item =>
    have hs : isSeparator (between c true none K T).cursor.rest = false := by
      rw [show (between c true none K T).cursor.rest = _ from hr]
      rfl
    have he : (between c true none K T).fetch '-' = (between c true none K T).fetchBlockEntry := by
      simp [Scanner.fetch, hs, hn, endsWord, isWhite]
    rw [he, fetchBlockEntry, ho.openEntry hc]
    rfl
  | key =>
    have he : (between c true none K T).fetch '?' = (between c true none K T).fetchKey := by
      simp [Scanner.fetch, hn, endsWord, isWhite]
    rw [he, fetchKey, ho.openEntry hc]
    rfl
  | value =>
    have he : (between c true none K T).fetch ':' = (between c true none K T).fetchValue := by
      simp [Scanner.fetch, hn, endsWord, isWhite]
    rw [he, fetchValue]
    show ((between c true none K T).openEntry .blockMappingStart >>= _) = _
    rw [ho.openEntry hc]
    rfl

theorem Sign.isSolid (h : Sign ch start t) : isSolid ch := by
  cases h <;> rfl

-- The next token stands in the line of a sign, two columns further.
theorem Sign.leads (h : Sign ch start t) (hl : Lands s true n (ch :: ' ' :: more) K T)
    (ho : Opens n start K T K' T') (hs : Starts more) :
    ∃ s', Leads s s' ∧ Lands s' true (n + 2) more (n :: K') (t :: T') := by
  have ⟨c, hr, hc, hl, hset⟩ := hl.inside ho.top_le
  have hr' : (c.skip 1).rest = ' ' :: more := by simp [hr]
  have ⟨_, _, hm, hb⟩ := (Starts.cons h.isSolid : Starts [ch]).head rfl
  have hc' : (c.skip 1).column = n + 1 := hc ▸ Cursor.step_char hr hb hm
  have hlt : (between (c.skip 1) true none (n :: K') (t :: T')).cursor.rest.length < s.cursor.rest.length :=
    Nat.lt_of_lt_of_le (by simp [between, hr]) hl
  refine ⟨_, leads_of_fetch hset (peek_between hr) (h.fetch ho hc hr) hlt, ?_⟩
  have h := lands_space (a := true) (K := n :: K') (T := t :: T') hr' hs
  rwa [hc'] at h

-- A key on the line of its value.

-- It has been read, and its colon comes next.
theorem leads_scalar (hl : Lands s true n (w ++ ':' :: more) K T) (hK : top K ≤ n) (hw : Spelled column t w)
    (hb : ∀ ch ∈ w, ¬isBreak ch) (hc : n < column) (he : endsWord more.head?) :
    ∃ c d, c.column = n ∧ d.rest = ':' :: more ∧ d.line = c.line ∧ n ≤ d.column ∧ d.index = c.index + w.length ∧
      Leads s (between d false (keyAt c K T) K (t :: T)) := by
  have ⟨c, hr, hcol, hl, hset⟩ := hl.inside hK
  have ⟨_, hne⟩ := hw.starts
  obtain ⟨ch, v, rfl⟩ := List.exists_cons_of_ne_nil hne
  have hf := fetch_spelled (a := true) (T := T) hw (Nat.ne_of_gt (Nat.zero_lt_of_lt hc))
    (Int.lt_of_le_of_lt hK (Int.ofNat_lt.mpr hc)) (hcol ▸ hK) hr rfl ⟨_, _, rfl, .inr rfl⟩ (Plain.ending_colon he)
  have hr' : (c.skip (ch :: v).length).rest = ':' :: more := by
    rw [Cursor.rest_skip, hr, List.drop_left]
  have ⟨hline, hcol'⟩ := Cursor.skip_within hr hb
  have hindex := Cursor.index_skip (n := (ch :: v).length) (c := c) (by simp [hr])
  have hlt : (c.skip (ch :: v).length).rest.length < s.cursor.rest.length := by
    rw [List.length_append] at hl
    rw [hr']
    simp only [List.length_cons] at hl ⊢
    omega
  refine ⟨c, _, hcol, hr', hline, hcol ▸ hcol', hindex, ?_⟩
  exact leads_of_fetch hset (peek_between hr) (hf.elim id id) hlt

theorem fetchValue_key {d : Cursor} (ho : Opens n .blockMappingStart K T K' T') (hc : c.column = n) :
    (between d false (keyAt c K T) K (t :: T)).fetchValue
      = .ok (between (d.skip 1) false none (n :: K') (.value :: t :: .key :: T')) := by
  have hi := insert_between (c := d) (a := false) (K := K) (T := T) (t := .key) none [t]
  have he : (between d false (keyAt c K T) K (t :: T)).fetchValue
      = let s := (between d false none K ([t] ++ T)).insert T.length .key
        let s := if s.inFlow then s
          else ((s.openBlock c.column).map (·.insert T.length .blockMappingStart)).getD s
        .ok ((s.disallowKey.push .value).skip 1) := rfl
  have hf : ¬(between d false none K ([t] ++ .key :: T)).inFlow := by simp [inFlow, between]
  simp only [he, hi, if_neg hf, hc]
  cases ho with
  | new h =>
    have hi := insert_between (c := d) (a := false) (K := n :: K) (T := T) (t := .blockMappingStart) none
      [t, .key]
    rw [openBlock_new h]
    exact congrArg (fun s : Scanner => Except.ok ((s.disallowKey.push .value).skip 1)) hi
  | old =>
    rw [openBlock_old]
    rfl

theorem settle_colon {d : Cursor} {key key' : Option KeyStart} {a : Bool} (hr : d.rest = ':' :: more)
    (hK : top K ≤ d.column) (hk : (between d a key K T).dropStaleKeys = .ok (between d a key' K T)) :
    (between d a key K T).settle = .ok (between d a key' K T) := by
  have hp : d.peek ≠ some '\ufeff' := peek_ne_of_rest hr (by decide)
  have hb : skipBlank false d a = (d, a) := skipBlank_spaces (n := 0) hr (.cons (by decide))
  rw [settle, toNextToken_between hp hb, hk, Chain.ok_bind]
  exact congrArg Except.ok ((closeBlocks_between d.column).trans (by rw [left_eq hK, ended_eq hK]))

theorem fetch_colon {s : Scanner} (hp : endsWord (s.cursor.peekAt 1)) : s.fetch ':' = s.fetchValue := by
  simp [Scanner.fetch, hp]

theorem leads_key (hl : Lands s true n (w ++ ':' :: more) K T) (ho : Opens n .blockMappingStart K T K' T')
    (hw : Spelled column t w) (hb : ∀ ch ∈ w, ¬isBreak ch) (hc : n < column) (he : endsWord more.head?)
    (hk : w.length ≤ keyLimit) : ∃ d, d.rest = more ∧ n < d.column ∧
      Leads s (between d false none (n :: K') (.value :: t :: .key :: T')) := by
  have ⟨c, d, hcol, hr, hline, hcol', hindex, h⟩ := leads_scalar hl ho.top_le hw hb hc he
  have hK : top K ≤ d.column := Int.le_trans ho.top_le (Int.ofNat_le.mpr hcol')
  have hst : ¬isStale d (keyAt c K T) := by
    simp [isStale, keyAt, hline, hindex]
    exact hk
  have hset := settle_colon hr hK (dropStaleKeys_fresh (T := t :: T) (a := false) hst)
  have hr' : (d.skip 1).rest = more := by simp [hr]
  have hf : (between d false (keyAt c K T) K (t :: T)).fetch ':' = _ :=
    (fetch_colon (by rwa [peekAt_between hr])).trans (fetchValue_key ho hcol)
  refine ⟨d.skip 1, hr', ?_, h.trans (leads_of_fetch hset (peek_between hr) hf ?_)⟩
  · have h := Cursor.step_char hr (by decide) (by decide)
    exact Nat.lt_of_le_of_lt hcol' (Nat.lt_of_lt_of_eq (Nat.lt_succ_self _) h.symm)
  · simp [between, hr]

-- A key that is too long is forgotten, or missed where it is required.
theorem breaks_key (hl : Lands s true n (w ++ ':' :: more) K T) (ho : Opens n .blockMappingStart K T K' T')
    (hw : Spelled column t w) (hb : ∀ ch ∈ w, ¬isBreak ch) (hc : n < column) (he : endsWord more.head?)
    (hk : keyLimit < w.length) : Breaks s := by
  have ⟨c, d, hcol, hr, hline, hcol', hindex, h⟩ := leads_scalar hl ho.top_le hw hb hc he
  have hK : top K ≤ d.column := Int.le_trans ho.top_le (Int.ofNat_le.mpr hcol')
  have hst : isStale d (keyAt c K T) := by
    simp [isStale, keyAt, hline, hindex]
    exact hk
  refine h.breaks ?_
  by_cases hq : (keyAt c K T).required
  case pos =>
    have hp : d.peek ≠ some '\ufeff' := peek_ne_of_rest hr (by decide)
    have hb : skipBlank false d false = (d, false) := skipBlank_spaces (n := 0) hr (.cons (by decide))
    refine breaks_of_settle ?_
    rw [settle, toNextToken_between hp hb, dropStaleKeys_required hst hq]
    rfl
  case neg =>
    have hset := settle_colon hr hK (dropStaleKeys_stale (T := t :: T) (a := false) hst hq)
    refine breaks_of_fetch hset (peek_between hr) ?_
    rw [fetch_colon (by rwa [peekAt_between hr])]
    rfl

end Scanner
end Yaml
end Gamebook
