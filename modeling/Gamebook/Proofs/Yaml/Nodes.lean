import Mathlib
import Gamebook.Proofs.Chain
import Gamebook.Proofs.Yaml.Block
import Gamebook.Yaml.Document

namespace Gamebook
namespace Yaml

namespace Node

-- The tree that data is read as.
mutual
def ofJson : Json → Node
  | .str s  => .scalar none none (isPlain s) (heard s)
  | .arr xs => .seq none none (ofItems xs)
  | .obj ms => .map none none (ofEntries ms)
  | j       => .scalar none none true (String.ofList (Json.writeCompact j))

def ofItems : List Json → List Node
  | []      => []
  | x :: xs => ofJson x :: ofItems xs

def ofEntries : List (String × Json) → List (Node × Node)
  | []           => []
  | (k, x) :: ms => (.scalar none none (isPlain k) (heard k), ofJson x) :: ofEntries ms
end

-- The tokens with which the content of a node starts.
def opens : Token → Bool
  | .scalar _ _ | .flowSequenceStart | .flowMappingStart | .blockSequenceStart | .blockMappingStart => true
  | _ => false

variable {hs : Handles} {d : Nat} {j : Json} {x : Node} {t : Token} {ts rest : List Token} {xs : List Json}
  {ms : List (String × Json)}

theorem properties_of_opens (h : opens t) : properties hs (t :: ts) = .ok ({}, t :: ts) := by
  cases t <;> first | rfl | cases h

theorem read_of_content {hr : rest.length < (t :: ts).length} (ht : opens t)
    (h : readContent hs true {} (t :: ts) = .ok (some (x, ⟨rest, hr⟩))) :
    read hs true (t :: ts) = .ok (x, ⟨rest, hr⟩) := by
  have ha : ∀ name rest, t :: ts = .alias name :: rest → False := by
    intro _ _ he
    cases he
    cases ht
  rw [read]
  case x => exact ha
  split
  case h_1 he => cases (properties_of_opens ht).symm.trans he
  case h_2 he =>
    cases (properties_of_opens ht).symm.trans he
    rw [h]
    rfl

theorem read_scalar {text : String} {plain : Bool} :
    ∃ h, read hs true (.scalar text plain :: rest) = .ok (.scalar none none plain text, ⟨rest, h⟩) := by
  refine ⟨by simp, read_of_content rfl ?_⟩
  rw [readContent]
  simp

theorem read_emptySequence :
    ∃ h, read hs true (.flowSequenceStart :: .flowSequenceEnd :: rest) = .ok (.seq none none [], ⟨rest, h⟩) := by
  refine ⟨by simp only [List.length_cons]; omega, read_of_content rfl ?_⟩
  rw [readContent, readFlowItems]
  rfl

theorem read_emptyMapping :
    ∃ h, read hs true (.flowMappingStart :: .flowMappingEnd :: rest) = .ok (.map none none [], ⟨rest, h⟩) := by
  refine ⟨by simp only [List.length_cons]; omega, read_of_content rfl ?_⟩
  rw [readContent, readFlowPairs]
  rfl

theorem read_sequence {ys : List Node} (h : ∃ h, readItems hs ts = .ok (ys, ⟨rest, h⟩)) :
    ∃ h, read hs true (.blockSequenceStart :: ts) = .ok (.seq none none ys, ⟨rest, h⟩) := by
  have ⟨hr, h⟩ := h
  refine ⟨Nat.lt_succ_of_lt hr, read_of_content rfl ?_⟩
  rw [readContent, h]
  rfl

theorem read_mapping {ps : List (Node × Node)} (h : ∃ h, readPairs hs ts = .ok (ps, ⟨rest, h⟩)) :
    ∃ h, read hs true (.blockMappingStart :: ts) = .ok (.map none none ps, ⟨rest, h⟩) := by
  have ⟨hr, h⟩ := h
  refine ⟨Nat.lt_succ_of_lt hr, read_of_content rfl ?_⟩
  rw [readContent, h]
  rfl

theorem not_missingItem (h : opens t) : ¬missingItem (t :: ts) := by
  cases t <;> first | exact Bool.false_ne_true | cases h

theorem not_missingPart (h : opens t) : ¬missingPart (t :: ts) := by
  cases t <;> first | exact Bool.false_ne_true | cases h

theorem readPart_of_read (ht : opens t) (h : ∃ h, read hs true (t :: ts) = .ok (x, ⟨rest, h⟩)) :
    ∃ h, readPart hs (t :: ts) = .ok (x, ⟨rest, h⟩) := by
  obtain ⟨hr, h⟩ := h
  have hb : (t :: ts).head? ≠ some .blockEntry := by
    intro he
    cases he
    cases ht
  refine ⟨Nat.le_of_lt hr, ?_⟩
  rw [readPart, if_neg (not_missingPart ht)]
  split
  case h_1 he => cases (properties_of_opens ht).symm.trans he
  case h_2 he =>
    cases (properties_of_opens ht).symm.trans he
    rw [if_neg hb, h]
    rfl

theorem readPart_of_indentless {ys : List Node}
    (h : ∃ h, readIndentless hs (.blockEntry :: ts) = .ok (ys, ⟨rest, h⟩)) :
    ∃ h, readPart hs (.blockEntry :: ts) = .ok (.seq none none ys, ⟨rest, h⟩) := by
  obtain ⟨hr, h⟩ := h
  have hp : properties hs (.blockEntry :: ts) = .ok ({}, .blockEntry :: ts) := rfl
  refine ⟨hr, ?_⟩
  rw [readPart, if_neg (show ¬missingPart (.blockEntry :: ts) from Bool.false_ne_true)]
  split
  case h_1 he => cases hp.symm.trans he
  case h_2 he =>
    cases hp.symm.trans he
    rw [if_pos (List.head?_cons ..), h]
    rfl

theorem readPart_tagged {handle : Option String} {suffix : String} {tag : Option Tag} {unmarked : Bool} (text : String)
    (plain : Bool) (h : resolve hs handle suffix = .ok (tag, unmarked)) :
    ∃ h, readPart hs (.tag handle suffix :: .scalar text plain :: rest) =
      .ok (.scalar none tag ((plain && tag.isNone) || unmarked) text, ⟨rest, h⟩) := by
  have hp : properties hs (.tag handle suffix :: .scalar text plain :: rest) =
      .ok ({ tag, unmarked }, .scalar text plain :: rest) := by
    simp only [properties, h]
    rfl
  have hl : rest.length < (Token.tag handle suffix :: .scalar text plain :: rest).length := by
    simp only [List.length_cons]
    omega
  have hr : read hs true (.tag handle suffix :: .scalar text plain :: rest) =
      .ok (.scalar none tag ((plain && tag.isNone) || unmarked) text, ⟨rest, hl⟩) := by
    rw [read]
    case x =>
      intro _ _ he
      cases he
    split
    case h_1 he => cases hp.symm.trans he
    case h_2 he =>
      cases hp.symm.trans he
      rw [readContent]
      rfl
  have hb : (Token.scalar text plain :: rest).head? ≠ some .blockEntry := by
    intro he
    cases he
  have hm : ¬missingPart (.tag handle suffix :: .scalar text plain :: rest) := Bool.false_ne_true
  refine ⟨Nat.le_of_lt hl, ?_⟩
  rw [readPart, if_neg hm]
  split
  case h_1 he => cases hp.symm.trans he
  case h_2 he =>
    cases hp.symm.trans he
    rw [if_neg hb, hr]
    rfl

-- One item or pair and those after it.

theorem readItems_cons {ts' : List Token} {ys : List Node} (ht : opens t)
    (h : ∃ h, read hs true (t :: ts) = .ok (x, ⟨ts', h⟩)) (h' : ∃ h, readItems hs ts' = .ok (ys, ⟨rest, h⟩)) :
    ∃ h, readItems hs (.blockEntry :: t :: ts) = .ok (x :: ys, ⟨rest, h⟩) := by
  have ⟨hl, h⟩ := h
  have ⟨hr, h'⟩ := h'
  refine ⟨Nat.lt_succ_of_lt (Nat.lt_trans hr hl), ?_⟩
  rw [readItems, if_neg (not_missingItem ht), h, Chain.ok_bind]
  simp only [h']
  rfl

theorem readIndentless_cons {ts' : List Token} {ys : List Node} (ht : opens t)
    (h : ∃ h, read hs true (t :: ts) = .ok (x, ⟨ts', h⟩)) (h' : ∃ h, readIndentless hs ts' = .ok (ys, ⟨rest, h⟩)) :
    ∃ h, readIndentless hs (.blockEntry :: t :: ts) = .ok (x :: ys, ⟨rest, h⟩) := by
  have ⟨hl, h⟩ := h
  have ⟨hr, h'⟩ := h'
  have hm : ¬(missingItem (t :: ts) || missingPart (t :: ts)) := by
    simp [not_missingItem ht, not_missingPart ht]
  refine ⟨Nat.le_succ_of_le (Nat.le_trans hr (Nat.le_of_lt hl)), ?_⟩
  rw [readIndentless, if_neg hm, h, Chain.ok_bind]
  simp only [h']
  rfl

theorem readPairs_cons {k : Node} {ts' ts'' : List Token} {ps : List (Node × Node)}
    (hk : ∃ h, readPart hs ts = .ok (k, ⟨.value :: ts', h⟩)) (hv : ∃ h, readPart hs ts' = .ok (x, ⟨ts'', h⟩))
    (h : ∃ h, readPairs hs ts'' = .ok (ps, ⟨rest, h⟩)) :
    ∃ h, readPairs hs (.key :: ts) = .ok ((k, x) :: ps, ⟨rest, h⟩) := by
  have ⟨hlk, hk⟩ := hk
  have ⟨hlv, hv⟩ := hv
  have ⟨hr, h⟩ := h
  have hv : readValue hs (.value :: ts') = .ok (x, ⟨ts'', Nat.le_succ_of_le hlv⟩) := by
    rw [readValue, hv]
    rfl
  have hl : rest.length < (Token.key :: ts).length := by
    simp only [List.length_cons] at hlk ⊢
    omega
  refine ⟨hl, ?_⟩
  rw [readPairs, hk, Chain.ok_bind]
  simp only [hv, Chain.ok_bind]
  rw [h]
  rfl

-- The tokens of data are read as its tree, whatever follows them.

theorem opens_tokens (h : Shallow d j) : ∃ t ts, tokens true j = t :: ts ∧ opens t := by
  cases h with
  | str      => exact ⟨_, _, rfl, rfl⟩
  | bool     => exact ⟨_, _, rfl, rfl⟩
  | @arr xs  => cases xs <;> exact ⟨_, _, rfl, rfl⟩
  | @obj ms  => cases ms <;> exact ⟨_, _, rfl, rfl⟩

structure Readable (hs : Handles) (j : Json) : Prop where
  head : ∃ t ts, tokens true j = t :: ts ∧ opens t
  read (rest : List Token) : ∃ h, read hs true (tokens true j ++ rest) = .ok (ofJson j, ⟨rest, h⟩)
  part (framed : Bool) {rest : List Token} : rest.head? ≠ some .blockEntry →
    ∃ h, readPart hs (tokens framed j ++ rest) = .ok (ofJson j, ⟨rest, h⟩)

theorem readItems_tokens (hx : ∀ x ∈ xs, Readable hs x) :
    ∃ h, readItems hs (itemTokens xs ++ .blockEnd :: rest) = .ok (ofItems xs, ⟨rest, h⟩) := by
  induction xs with
  | nil =>
    refine ⟨Nat.lt_succ_self _, ?_⟩
    simp only [itemTokens, List.nil_append]
    rw [readItems]
    rfl
  | cons x xs hi =>
    obtain ⟨hx, hxs⟩ := List.forall_mem_cons.mp hx
    obtain ⟨t, ts, he, ht⟩ := hx.head
    have h := hx.read (itemTokens xs ++ .blockEnd :: rest)
    rw [he, List.cons_append] at h
    rw [itemTokens, he, List.cons_append, List.append_assoc, List.cons_append]
    exact readItems_cons ht h (hi hxs)

theorem readIndentless_tokens (hx : ∀ x ∈ xs, Readable hs x) (hr : rest.head? ≠ some .blockEntry) :
    ∃ h, readIndentless hs (itemTokens xs ++ rest) = .ok (ofItems xs, ⟨rest, h⟩) := by
  induction xs with
  | nil =>
    refine ⟨Nat.le_refl _, ?_⟩
    simp only [itemTokens, List.nil_append]
    rw [readIndentless]
    · rfl
    · intro _ he
      exact hr (he ▸ rfl)
  | cons x xs hi =>
    obtain ⟨hx, hxs⟩ := List.forall_mem_cons.mp hx
    obtain ⟨t, ts, he, ht⟩ := hx.head
    have h := hx.read (itemTokens xs ++ rest)
    rw [he, List.cons_append] at h
    rw [itemTokens, he, List.cons_append, List.append_assoc, List.cons_append]
    exact readIndentless_cons ht h (hi hxs)

theorem head?_entryTokens (ms : List (String × Json)) (rest : List Token) :
    (entryTokens ms ++ .blockEnd :: rest).head? ≠ some .blockEntry := by
  cases ms <;> exact fun h => nomatch h

theorem readPairs_tokens (hm : ∀ m ∈ ms, Readable hs m.2) :
    ∃ h, readPairs hs (entryTokens ms ++ .blockEnd :: rest) = .ok (ofEntries ms, ⟨rest, h⟩) := by
  induction ms with
  | nil =>
    refine ⟨Nat.lt_succ_self _, ?_⟩
    simp only [entryTokens, List.nil_append]
    rw [readPairs]
    rfl
  | cons m ms hi =>
    obtain ⟨k, x⟩ := m
    obtain ⟨hx, hms⟩ := List.forall_mem_cons.mp hm
    have hv := hx.part (!Style.isSimpleKey k.toList) (head?_entryTokens ms rest)
    rw [entryTokens, List.cons_append, List.cons_append, List.cons_append, List.append_assoc]
    exact readPairs_cons (readPart_of_read rfl read_scalar) hv (hi hms)

theorem readable_of_read (hf : tokens false j = tokens true j) (hh : ∃ t ts, tokens true j = t :: ts ∧ opens t)
    (h : ∀ rest, ∃ h, read hs true (tokens true j ++ rest) = .ok (ofJson j, ⟨rest, h⟩)) : Readable hs j := by
  refine ⟨hh, h, fun framed rest _ => ?_⟩
  have ⟨t, ts, he, ht⟩ := hh
  have h := h rest
  have hf : tokens framed j = tokens true j := by cases framed <;> simp [hf]
  rw [hf]
  rw [he] at h ⊢
  exact readPart_of_read ht h

theorem readable_of_shallow (h : Shallow d j) : Readable hs j := by
  induction h with
  | str s  => exact readable_of_read rfl ⟨_, _, rfl, rfl⟩ fun _ => read_scalar
  | bool b => exact readable_of_read rfl ⟨_, _, rfl, rfl⟩ fun _ => read_scalar
  | @obj ms d _ hi =>
    cases ms with
    | nil       => exact readable_of_read rfl ⟨_, _, rfl, rfl⟩ fun _ => read_emptyMapping
    | cons m ms =>
      refine readable_of_read rfl ⟨_, _, rfl, rfl⟩ fun rest => ?_
      rw [tokens, List.cons_append, List.append_assoc]
      exact read_mapping (readPairs_tokens hi)
  | @arr xs d _ hi =>
    cases xs with
    | nil       => exact readable_of_read rfl ⟨_, _, rfl, rfl⟩ fun _ => read_emptySequence
    | cons x xs =>
      have h (rest : List Token) :
          ∃ h, read hs true (tokens true (.arr (x :: xs)) ++ rest) = .ok (ofJson (.arr (x :: xs)), ⟨rest, h⟩) := by
        rw [tokens, if_pos rfl, List.cons_append, List.append_assoc]
        exact read_sequence (readItems_tokens hi)
      refine ⟨⟨_, _, rfl, rfl⟩, h, fun framed rest hr => ?_⟩
      cases framed with
      | true  => exact readPart_of_read rfl (h rest)
      | false => exact readPart_of_indentless (readIndentless_tokens hi hr)

theorem ofTokens_tokens (h : Shallow d j) : ofTokens (tokens true j) = .ok (some (ofJson j)) := by
  have ⟨t, ts, he, ht⟩ := opens_tokens h
  have hj : Readable defaultHandles j := readable_of_shallow h
  have hr := hj.read []
  rw [List.append_nil, he] at hr
  have ⟨_, hr⟩ := hr
  rw [he]
  cases t <;> first | contradiction | (rw [ofTokens.eq_def]; simp only [hr]; rfl)

end Node
end Yaml
end Gamebook
