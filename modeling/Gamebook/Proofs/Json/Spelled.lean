import Mathlib
import Gamebook.Proofs.Json.Codec

namespace Gamebook
namespace Json

-- The ways in which the characters of a text may be written: as they are, if they may stand in a
-- text, or escaped.
inductive SpellsText : List Char → List Char → Prop
  | nil : SpellsText [] []
  | plain {c : Char} {s cs : List Char} (hq : c ≠ Text.quotation) (hb : c ≠ Text.backslash) (hc : 0x20 ≤ c.toNat)
      (h : SpellsText s cs) : SpellsText (c :: s) (c :: cs)
  | escape {s cs : List Char} (c : Char) (h : SpellsText s cs) : SpellsText (c :: s) (escape c ++ cs)

inductive SpellsScalar : Json → List Char → Prop
  | null : SpellsScalar .null "null".toList
  | int {i : Int} (h : ¬isOversize (.int i)) : SpellsScalar (.int i) (writeInt i)
  | str {s : String} {cs : List Char} (h : SpellsText s.toList cs) :
      SpellsScalar (.str s) (Text.quotation :: (cs ++ [Text.quotation]))

def Blank (cs : List Char) : Prop :=
  ∀ c ∈ cs, isBlank c

-- A name and a value, with any blanks around them.
inductive SpellsMember : String × Json → List Char → Prop
  | intro {k : String} {x : Json} {ks xs b₁ b₂ b₃ b₄ : List Char} (hk : SpellsText k.toList ks) (hx : SpellsScalar x xs)
      (h₁ : Blank b₁) (h₂ : Blank b₂) (h₃ : Blank b₃) (h₄ : Blank b₄) :
      SpellsMember (k, x) (b₁ ++ Text.quotation :: (ks ++ Text.quotation :: (b₂ ++ ':' :: (b₃ ++ (xs ++ b₄)))))

-- Members one after another, and what closes the object that they belong to.
inductive SpellsMembers : List (String × Json) → List Char → Prop
  | last {m : String × Json} {cs : List Char} (h : SpellsMember m cs) : SpellsMembers [m] (cs ++ ['\x7d'])
  | more {m : String × Json} {ms : List (String × Json)} {cs ds : List Char} (h : SpellsMember m cs)
      (hs : SpellsMembers ms ds) : SpellsMembers (m :: ms) (cs ++ ',' :: ds)

-- The texts of an object in which there are no others.
def SpellsRecord (j : Json) (text : String) : Prop :=
  ∃ ms b₁ cs b₂, j = .obj ms ∧ Blank b₁ ∧ SpellsMembers ms cs ∧ Blank b₂ ∧ text.toList = b₁ ++ '\x7b' :: (cs ++ b₂)

variable {start s cs rest b : List Char} {j x : Json} {k : String} {m : String × Json} {ms ns : List (String × Json)}
  {text : String}

theorem skip_blanks (hb : Blank b) : skip (b ++ cs) = skip cs :=
  List.dropWhile_append_of_pos hb

theorem ends_of_blank {c : Char} (hb : Blank b) (hc : c = ',' ∨ c = '\x7d') : Ends (b ++ c :: cs) := by
  have he {d : Char} (h : isBlank d ∨ d = ',' ∨ d = '\x7d') : d ∉ ".eE".toList ∧ ¬d.isDigit := by
    simp only [isBlank, Bool.or_eq_true, decide_eq_true_eq] at h
    rcases h with (((rfl | rfl) | rfl) | rfl) | rfl | rfl <;> decide
  intro d hd
  cases b with
  | nil      => exact he (.inr (Option.some.inj hd ▸ hc))
  | cons e b => exact he (.inl (Option.some.inj hd ▸ hb e List.mem_cons_self))

theorem SpellsText.reads (h : SpellsText s cs) : Reads (readString start (cs ++ Text.quotation :: rest)) s rest := by
  induction h with
  | nil                 => exact reads_quotation
  | plain hq hb hc _ hi => exact hi.plain hq hb hc
  | escape c _ hi       =>
    rw [List.append_assoc]
    exact hi.escape c

namespace SpellsScalar

theorem reads (h : SpellsScalar x cs) (hr : Ends rest) : Reads (readValue (cs ++ rest)) x rest := by
  cases h with
  | null  => exact Recoverable.null.reads 0 hr
  | int h => exact (Recoverable.int h).reads 0 hr
  | str h =>
    rw [List.cons_append, List.append_assoc]
    exact reads_string h.reads

theorem skip (h : SpellsScalar x cs) : skip (cs ++ rest) = cs ++ rest := by
  cases h with
  | null  => exact Recoverable.null.skip_text 0 rest
  | int h => exact (Recoverable.int h).skip_text 0 rest
  | str h => exact skip_of_not_blank (by decide)

end SpellsScalar

-- What is read of a member up to the sign after it, step by step.
theorem SpellsMember.reads (h : SpellsMember m cs) {c : Char} (hc : c = ',' ∨ c = '\x7d') (rest : List Char) :
    ∃ cs₀ cs₁ cs₂ cs₃, skip (cs ++ c :: rest) = Text.quotation :: cs₀ ∧
      Reads (readString (Text.quotation :: cs₀) cs₀) m.1.toList cs₁ ∧ skip cs₁ = ':' :: cs₂ ∧
      Reads (readValue (skip cs₂)) m.2 cs₃ ∧ skip cs₃ = c :: rest := by
  obtain @⟨k, x, ks, xs, b₁, b₂, b₃, b₄, hk, hx, h₁, h₂, h₃, h₄⟩ := h
  have hn : ¬isBlank c := by rcases hc with rfl | rfl <;> decide
  refine ⟨ks ++ Text.quotation :: (b₂ ++ ':' :: (b₃ ++ (xs ++ (b₄ ++ c :: rest)))), _, _, _, ?_, hk.reads,
    (skip_blanks h₂).trans (skip_of_not_blank (by decide)), ?_, (skip_blanks h₄).trans (skip_of_not_blank hn)⟩
  · simp [skip_blanks h₁, skip_of_not_blank, isBlank, Text.quotation]
  · rw [skip_blanks h₃, hx.skip]
    exact hx.reads (ends_of_blank h₄ hc)

theorem SpellsMembers.reads (h : SpellsMembers ms cs) (hn : ((ns ++ ms).map Prod.fst).Nodup) :
    Reads (readMembers ns (skip (cs ++ rest))) (ns ++ ms) rest := by
  induction h generalizing ns with
  | last h                 =>
    have ⟨_, _, _, _, hs, hk, hc, hx, he⟩ := h.reads (.inr rfl) rest
    rw [List.append_assoc, List.singleton_append, hs, ← put_last hn]
    exact reads_last_member hk hc hx he
  | @more m ms cs ds h _ hi =>
    have ⟨_, _, _, _, hs, hk, hc, hx, he⟩ := h.reads (.inl rfl) (ds ++ rest)
    have hi : Reads (readMembers (ns ++ [m]) (skip (ds ++ rest))) (ns ++ [m] ++ ms) rest :=
      hi (by rwa [List.append_assoc])
    rw [List.append_assoc] at hi
    rw [List.append_assoc, List.cons_append, hs]
    refine reads_more_members hk hc hx he ?_
    rw [put_last hn]
    exact hi

theorem SpellsMembers.head (h : SpellsMembers ms cs) (rest : List Char) :
    ∃ ds, skip (cs ++ rest) = Text.quotation :: ds := by
  cases h with
  | last h               =>
    have ⟨ds, _, _, _, hs, _⟩ := h.reads (.inr rfl) rest
    exact ⟨ds, by rw [List.append_assoc, List.singleton_append, hs]⟩
  | @more _ _ _ ds' h hs =>
    have ⟨ds, _, _, _, hs, _⟩ := h.reads (.inl rfl) (ds' ++ rest)
    exact ⟨ds, by rw [List.append_assoc, List.cons_append, hs]⟩

-- Whichever way an object has been written, it is read as what it is.
theorem read_of_spells (h : SpellsRecord j text) (hn : ∀ ms, j = .obj ms → (ms.map Prod.fst).Nodup) :
    read text = .ok j := by
  obtain ⟨ms, b₁, cs, b₂, rfl, h₁, hs, h₂, ht⟩ := h
  have hr : Reads (readValue ('\x7b' :: (cs ++ b₂))) (.obj ms) b₂ := by
    have ⟨_, hq⟩ := hs.head b₂
    refine reads_object (fun _ h => ?_) (hs.reads (hn ms rfl))
    cases hq.symm.trans h
  have hb : (b₁ ++ '\x7b' :: (cs ++ b₂)).head? ≠ some '\ufeff' := by
    cases b₁ with
    | nil      => simp
    | cons c b =>
      rintro ⟨⟩
      exact absurd (h₁ _ List.mem_cons_self) (by decide)
  have hk : skip (b₁ ++ '\x7b' :: (cs ++ b₂)) = '\x7b' :: (cs ++ b₂) := by
    rw [skip_blanks h₁, skip_of_not_blank (by decide)]
  rw [← hk] at hr
  exact read_of_reads ht hb hr (List.dropWhile_eq_nil_iff.mpr h₂)

-- The ways in which objects are written here are among those in which they may be written.

theorem blank_nil : Blank [] :=
  nofun

theorem blank_newline (depth : Nat) : Blank (newline depth) :=
  fun _ => isBlank_of_mem_newline

theorem SpellsText.escaped (s : List Char) : SpellsText s (s.flatMap Json.escape) := by
  induction s with
  | nil         => exact .nil
  | cons c s hi => exact .escape c hi

namespace SpellsScalar

variable {xs : List Char}

theorem indented (h : SpellsScalar x cs) (depth : Nat) : SpellsScalar x (writeIndented depth x) := by
  cases h with
  | null  => exact .null
  | int h => exact .int h
  | str h => exact .str (.escaped _)

theorem compact (h : SpellsScalar x cs) : SpellsScalar x (writeCompact x) := by
  cases h with
  | null  => exact .null
  | int h => exact .int h
  | str h => exact .str (.escaped _)

theorem member {b₁ b₂ b₃ : List Char} (h : SpellsScalar m.2 xs) (h₁ : Blank b₁) (h₂ : Blank b₂) (h₃ : Blank b₃) :
    SpellsMember m (b₁ ++ (writeString m.1 ++ ':' :: (b₂ ++ (xs ++ b₃)))) := by
  rw [writeString_append]
  exact .intro (.escaped _) h h₁ blank_nil h₂ h₃

end SpellsScalar

theorem spells_writeMembers (h : ∀ n ∈ m :: ms, ∃ xs, SpellsScalar n.2 xs) (d d' : Nat) :
    SpellsMembers (m :: ms) (newline d ++ (writeString m.1 ++ ':' :: ' ' :: (writeIndented d m.2 ++
      (writeMembers d ms ++ (newline d' ++ ['\x7d']))))) := by
  have hs : Blank [' '] := List.forall_mem_singleton.mpr (by decide)
  induction ms generalizing m with
  | nil          =>
    obtain ⟨_, hx⟩ := h m List.mem_cons_self
    have hm := SpellsMembers.last ((hx.indented d).member (blank_newline d) hs (blank_newline d'))
    simpa [writeMembers] using hm
  | cons n ms hi =>
    rw [List.forall_mem_cons] at h
    obtain ⟨⟨_, hx⟩, h⟩ := h
    have hm := SpellsMembers.more ((hx.indented d).member (blank_newline d) hs blank_nil) (hi h)
    simpa [writeMembers] using hm

theorem spells_writeCompactMembers (h : ∀ n ∈ m :: ms, ∃ xs, SpellsScalar n.2 xs) :
    SpellsMembers (m :: ms) (writeCompactMembers (m :: ms) ++ ['\x7d']) := by
  induction ms generalizing m with
  | nil          =>
    obtain ⟨_, hx⟩ := h m List.mem_cons_self
    have hm := SpellsMembers.last (hx.compact.member blank_nil blank_nil blank_nil)
    simpa [writeCompactMembers] using hm
  | cons n ms hi =>
    rw [List.forall_mem_cons] at h
    obtain ⟨⟨_, hx⟩, h⟩ := h
    have hm := SpellsMembers.more (hx.compact.member blank_nil blank_nil blank_nil) (hi h)
    simpa [writeCompactMembers] using hm

theorem spells_render (h : ∀ n ∈ m :: ms, ∃ xs, SpellsScalar n.2 xs) :
    SpellsRecord (.obj (m :: ms)) (Json.obj (m :: ms)).render := by
  refine ⟨_, [], _, [], rfl, blank_nil, spells_writeMembers h 1 0, blank_nil, ?_⟩
  simp [render, writeIndented]

theorem spells_compact (h : ∀ n ∈ m :: ms, ∃ xs, SpellsScalar n.2 xs) :
    SpellsRecord (.obj (m :: ms)) (Json.obj (m :: ms)).compact := by
  refine ⟨_, [], _, [], rfl, blank_nil, spells_writeCompactMembers h, blank_nil, ?_⟩
  simp [compact, writeCompact]

end Json
end Gamebook
