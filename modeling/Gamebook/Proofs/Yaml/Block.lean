import Mathlib
import Gamebook.Proofs.Yaml.Entry

namespace Gamebook
namespace Yaml

-- Data of texts and flags, and a bound on how deep its collections lie.
inductive Shallow : Nat → Json → Prop
  | str (s : String)                      : Shallow d (.str s)
  | bool (b : Bool)                       : Shallow d (.bool b)
  | arr (h : ∀ x ∈ xs, Shallow d x)       : Shallow (d + 1) (.arr xs)
  | obj (h : ∀ m ∈ ms, Shallow d m.snd)   : Shallow (d + 1) (.obj ms)

-- A key that stands on the line of its value is not too long for that.
def fitsKey (k : String) : Bool :=
  !Style.isSimpleKey k.toList || (spelling k).length ≤ Scanner.keyLimit

mutual
def fits : Json → Bool
  | .arr xs => fitsItems xs
  | .obj ms => fitsEntries ms
  | _       => true

def fitsItems : List Json → Bool
  | []      => true
  | x :: xs => fits x && fitsItems xs

def fitsEntries : List (String × Json) → Bool
  | []           => true
  | (k, x) :: ms => fitsKey k && fits x && fitsEntries ms
end

-- The tokens that data is read as. A sequence after a key on its line has no start and no end.
mutual
def tokens (framed : Bool) : Json → List Token
  | .str s         => [.scalar (heard s) (isPlain s)]
  | .arr []        => [.flowSequenceStart, .flowSequenceEnd]
  | .arr (x :: xs) =>
    if framed then .blockSequenceStart :: (itemTokens (x :: xs) ++ [.blockEnd]) else itemTokens (x :: xs)
  | .obj []        => [.flowMappingStart, .flowMappingEnd]
  | .obj (m :: ms) => .blockMappingStart :: (entryTokens (m :: ms) ++ [.blockEnd])
  | j              => [.scalar (String.ofList (Json.writeCompact j)) true]

def itemTokens : List Json → List Token
  | []      => []
  | x :: xs => .blockEntry :: (tokens true x ++ itemTokens xs)

def entryTokens : List (String × Json) → List Token
  | []           => []
  | (k, x) :: ms => .key :: .scalar (heard k) (isPlain k) :: .value ::
    (tokens (!Style.isSimpleKey k.toList) x ++ entryTokens ms)
end

-- What is written and may be read, and starts a token.
structure Solid (w : List Char) : Prop where
  starts  : Starts w
  ne      : w ≠ []
  allowed : ∀ c ∈ w, isAllowed c

theorem Spelled.solid {column : Nat} {t : Token} {w : List Char} (h : Spelled column t w) : Solid w :=
  ⟨h.starts.left, h.starts.right, h.allowed⟩

namespace Scanner

-- What becomes of a scanner: it comes to the next token in its block, or it fails.
def Outcome (ok : Bool) (s : Scanner) (m : Nat) (more : List Char) (K : List Nat) (T : List Token) : Prop :=
  if ok then ∃ s', Leads s s' ∧ Lands s' true m more K T else Breaks s

-- How a text is read as tokens: one that stands two columns after the sign of a part at column `n`,
-- one that stands after the colon of a key there, and one that is the parts themselves. After it a
-- new line starts that is indented no more.

def ReadsInner (n : Nat) (ok : Bool) (ts : List Token) (w : List Char) : Prop :=
  ∀ {s m more K T}, m ≤ n → Starts more → Lands s true (n + 2) (w ++ newLine m more) (n :: K) T →
    Outcome ok s m more (n :: K) (ts.reverse ++ T)

def ReadsValue (n : Nat) (ok : Bool) (ts : List Token) (w : List Char) : Prop :=
  ∀ {c : Cursor} {m more K T}, m ≤ n → Starts more → c.rest = w ++ newLine m more → n < c.column →
    Outcome ok (between c false none (n :: K) T) m more (n :: K) (ts.reverse ++ T)

def ReadsParts (n : Nat) (start : Token) (ok : Bool) (ts : List Token) (w : List Char) : Prop :=
  ∀ {s m more K T K' T'}, m ≤ n → Starts more → Lands s true n (w ++ newLine m more) K T →
    Opens n start K T K' T' → Outcome ok s m more (n :: K') (ts.reverse ++ T')

-- One token or two, which stand anywhere beyond a column.
def ReadsLeaf (n : Nat) (ts : List Token) (w : List Char) : Prop :=
  ∀ {s a i m more K T}, m ≤ n → Starts more → n < i → Lands s a i (w ++ newLine m more) (n :: K) T →
    Outcome true s m more (n :: K) (ts.reverse ++ T)

variable {s s' : Scanner} {ok ok' : Bool} {column m m' n : Nat} {w v more more' : List Char} {K K' : List Nat}
  {start t : Token} {T T' ts ts' : List Token}

theorem Outcome.of_leads (hl : Leads s s') (h : Outcome ok s' m more K T) : Outcome ok s m more K T := by
  cases ok with
  | false => exact hl.breaks h
  | true  =>
    have ⟨s'', hl', h⟩ := h
    exact ⟨s'', hl.trans hl', h⟩

theorem Outcome.seq (h : Outcome ok s m more K T)
    (h' : ∀ {s'}, Lands s' true m more K T → Outcome ok' s' m' more' K' T') :
    Outcome (ok && ok') s m' more' K' T' := by
  cases ok with
  | false => exact h
  | true  =>
    have ⟨_, hl, h⟩ := h
    exact (h' h).of_leads hl

-- A block ends before a line that is indented less.
theorem Outcome.close (hn : m < n) (h : Outcome ok s m more (n :: K) T) :
    Outcome ok s m more K (.blockEnd :: T) := by
  cases ok with
  | false => exact h
  | true  =>
    have ⟨s', hl, h⟩ := h
    exact ⟨s', hl, (Lands.cons hn).mp h⟩

theorem ReadsLeaf.inner (h : ReadsLeaf n ts w) : ReadsInner n true ts w :=
  fun hm hs => h hm hs (by omega)

theorem ReadsLeaf.value (h : ReadsLeaf n ts w) (hw : Solid w) : ReadsValue n true ts (' ' :: w) := by
  intro c m more K T hm hs hr hc
  have hl := lands_space (a := false) (K := n :: K) (T := T) hr (hw.starts.append hw.ne)
  exact h hm hs (Nat.lt_succ_of_lt hc) hl

-- Parts that open a block two columns after a sign.
theorem ReadsParts.inner (h : ReadsParts (n + 2) start ok ts w) :
    ReadsInner n ok (start :: (ts ++ [.blockEnd])) w := by
  intro s m more K T hm hs hl
  have ho : Opens (n + 2) start (n :: K) T (n :: K) (start :: T) := .new (by rw [top_cons]; omega)
  have h := (h (by omega) hs hl ho).close (by omega)
  simpa using h

-- Parts that open a block on the lines after a key, which are indented more.
theorem ReadsParts.value (h : ReadsParts (n + 2) start ok ts w) (hw : Solid w) :
    ReadsValue n ok (start :: (ts ++ [.blockEnd])) (newLine (n + 2) w) := by
  intro c m more K T hm hs hr hc
  have hr : c.rest = newLine (n + 2) (w ++ newLine m more) := by simpa [newLine] using hr
  have hl := lands_newLine (a := false) (K := n :: K) (T := T) hr (hw.starts.append hw.ne) passed_none
  have ho : Opens (n + 2) start (n :: K) T (n :: K) (start :: T) := .new (by rw [top_cons]; omega)
  have h := (h (by omega) hs hl ho).close (by omega)
  simpa using h

-- Parts on the lines after a key, which are not indented more.
theorem ReadsParts.indentless (h : ReadsParts n start ok ts w) (hw : Solid w) :
    ReadsValue n ok ts (newLine n w) := by
  intro c m more K T hm hs hr hc
  have hr : c.rest = newLine n (w ++ newLine m more) := by simpa [newLine] using hr
  have hl := lands_newLine (a := false) (K := n :: K) (T := T) hr (hw.starts.append hw.ne) passed_none
  exact h hm hs hl .old

-- One part, and more of them on the lines after it.
theorem ReadsParts.append (h : ReadsParts n start ok ts w) (h' : ReadsParts n start ok' ts' v) (hv : Solid v) :
    ReadsParts n start (ok && ok') (ts ++ ts') (w ++ newLine n v) := by
  intro s m more K T K' T' hm hs hl ho
  have hl : Lands s true n (w ++ newLine n (v ++ newLine m more)) K T := by simpa [newLine] using hl
  have h := (h (Nat.le_refl n) (hv.starts.append hv.ne) hl ho).seq fun hl => h' hm hs hl .old
  simpa using h

theorem readsParts_item (h : ReadsInner n ok ts w) (hw : Solid w) :
    ReadsParts n .blockSequenceStart ok (.blockEntry :: ts) ('-' :: ' ' :: w) := by
  intro s m more K T K' T' hm hs hl ho
  have ⟨_, hl, h'⟩ := Sign.item.leads hl ho (hw.starts.append hw.ne)
  have h := (h hm hs h').of_leads hl
  simpa using h

theorem endsWord_append (m : Nat) (more : List Char) (h : endsWord w.head?) : endsWord (w ++ newLine m more).head? := by
  cases w with
  | nil  => rfl
  | cons => exact h

theorem readsParts_simple (hw : Spelled column t w) (hb : ∀ ch ∈ w, ¬isBreak ch) (hc : n < column)
    (he : endsWord v.head?) (h : ReadsValue n ok ts v) :
    ReadsParts n .blockMappingStart (decide (w.length ≤ keyLimit) && ok) (.key :: t :: .value :: ts)
      (w ++ ':' :: v) := by
  intro s m more K T K' T' hm hs hl ho
  have hl : Lands s true n (w ++ ':' :: (v ++ newLine m more)) K T := by simpa using hl
  have he := endsWord_append m more he
  by_cases hk : w.length ≤ keyLimit
  case pos =>
    have ⟨d, hr, hd, hl⟩ := leads_key hl ho hw hb hc he hk
    have h := (h hm hs hr hd).of_leads hl
    simpa [hk] using h
  case neg =>
    have h := breaks_key hl ho hw hb hc he (Nat.lt_of_not_le hk)
    simpa [hk, Outcome] using h

theorem readsParts_complex (hw : ReadsLeaf n [t] w) (hsw : Solid w) (hv : ReadsInner n ok ts v) (hsv : Solid v) :
    ReadsParts n .blockMappingStart ok (.key :: t :: .value :: ts)
      ('?' :: ' ' :: (w ++ newLine n (':' :: ' ' :: v))) := by
  intro s m more K T K' T' hm hs hl ho
  have hl : Lands s true n ('?' :: ' ' :: (w ++ newLine n (':' :: ' ' :: (v ++ newLine m more)))) K T := by
    simpa [newLine] using hl
  obtain ⟨_, hl₁, h₁⟩ := Sign.key.leads hl ho (hsw.starts.append hsw.ne)
  obtain ⟨_, hl₂, h₂⟩ := hw (Nat.le_refl n) (.cons (by decide)) (by omega) h₁
  obtain ⟨_, hl₃, h₃⟩ := Sign.value.leads h₂ .old (hsv.starts.append hsv.ne)
  have h := (hv hm hs h₃).of_leads ((hl₁.trans hl₂).trans hl₃)
  simpa using h

theorem readsLeaf_spelled (hw : Spelled column t w) (hc : n < column) : ReadsLeaf n [t] w :=
  fun hm hs hi hl => leads_spelled hl hw hi hc hm hs

theorem readsLeaf_sequence : ReadsLeaf n [.flowSequenceStart, .flowSequenceEnd] ['[', ']'] :=
  fun _ hs hi hl => leads_empty (fun _ => by simp [Scanner.fetch]) (fun _ => by simp [Scanner.fetch]) (by decide)
    (by decide) hl hi hs

theorem readsLeaf_mapping : ReadsLeaf n [.flowMappingStart, .flowMappingEnd] ['\x7b', '\x7d'] :=
  fun _ hs hi hl => leads_empty (fun _ => by simp [Scanner.fetch]) (fun _ => by simp [Scanner.fetch]) (by decide)
    (by decide) hl hi hs

end Scanner

end Yaml
end Gamebook
