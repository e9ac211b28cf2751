import Mathlib
import Gamebook.Proofs.Yaml.Modest
import Gamebook.Yaml.Document

namespace Gamebook
namespace Yaml
namespace Node

open Chain

-- Where the parts of a tree come from: each of its texts is that of a token, or nothing at all. This
-- holds as long as there are no tags among the tokens.
inductive Drawn (T : Token → Prop) : Node → Prop
  | tagged (h : T (.tag handle suffix))                                : Drawn T x
  | link                                                               : Drawn T (.alias name)
  | empty                                                              : Drawn T (.scalar a none true "")
  | scalar (h : T (.scalar text plain))                                : Drawn T (.scalar a none plain text)
  | seq (h : ∀ x ∈ xs, Drawn T x)                                      : Drawn T (.seq a none xs)
  | map (hk : ∀ p ∈ ps, Drawn T p.fst) (hv : ∀ p ∈ ps, Drawn T p.snd) : Drawn T (.map a none ps)

variable {T : Token → Prop} {hs : Handles} {block first : Bool} {p : Properties} {t : Token} {ts : List Token}
  {xs : List Node} {ps : List (Node × Node)}

-- Tokens are a tree, or they are malformed. The proofs follow the readers and their measures.

theorem fails_resolve (hs : Handles) (h : Option String) (s : String) : Fails (fun _ => True) (resolve hs h s) := by
  rw [resolve.eq_def]
  dsimp only
  split
  case h_1 => exact .error rfl
  case h_2 => exact .ok trivial

-- What is known of properties. Only a token of a tag makes them those of a tag.
def Properties.Drawn (T : Token → Prop) (p : Properties) : Prop :=
  (∃ handle suffix, T (.tag handle suffix)) ∨ p.tag = none ∧ p.unmarked = false

namespace Drawn

theorem content {plain : Bool} {text : String} (hp : p.Drawn T) (h : T (.scalar text plain)) :
    Drawn T (.scalar p.anchor p.tag ((plain && p.tag.isNone) || p.unmarked) text) := by
  obtain ⟨_, _, ht⟩ | ⟨ht, hu⟩ := hp
  case inl => exact .tagged ht
  case inr =>
    rw [ht, hu, Option.isNone_none, Bool.and_true, Bool.or_false]
    exact .scalar h

theorem nothing (hp : p.Drawn T) : Drawn T (.scalar p.anchor p.tag p.tag.isNone "") := by
  obtain ⟨_, _, ht⟩ | ⟨ht, _⟩ := hp
  case inl => exact .tagged ht
  case inr => exact ht ▸ .empty

theorem items (hp : p.Drawn T) (h : ∀ x ∈ xs, Drawn T x) : Drawn T (.seq p.anchor p.tag xs) := by
  obtain ⟨_, _, ht⟩ | ⟨ht, _⟩ := hp
  case inl => exact .tagged ht
  case inr => exact ht ▸ .seq h

theorem pairs (hp : p.Drawn T) (h : ∀ q ∈ ps, Drawn T q.fst ∧ Drawn T q.snd) : Drawn T (.map p.anchor p.tag ps) := by
  obtain ⟨_, _, ht⟩ | ⟨ht, _⟩ := hp
  case inl => exact .tagged ht
  case inr => exact ht ▸ .map (fun q hq => (h q hq).left) (fun q hq => (h q hq).right)

end Drawn

theorem fails_properties (hs : Handles) (h : ∀ t ∈ ts, T t) :
    Fails (fun r => r.1.Drawn T ∧ ∀ t ∈ r.2, T t) (properties hs ts) := by
  have ht {handle : Option String} {suffix : String} {a : Option String} {rest : List Token}
      (hm : T (.tag handle suffix)) (hr : ∀ t ∈ rest, T t) :
      Fails (fun r => Properties.Drawn T r.1 ∧ ∀ t ∈ r.2, T t) (do
        let r ← resolve hs handle suffix
        return ({ anchor := a, tag := r.1, unmarked := r.2 }, rest)) :=
    (fails_resolve _ _ _).map fun _ _ => ⟨.inl ⟨_, _, hm⟩, hr⟩
  rw [properties.eq_def]
  split
  case h_1 => exact ht (h _ (by simp)) fun t ht => h t (by simp [ht])
  case h_2 => exact ht (h _ (by simp)) fun t ht => h t (by simp [ht])
  case h_3 => exact .ok ⟨.inr ⟨rfl, rfl⟩, fun t ht => h t (List.mem_cons_of_mem _ ht)⟩
  case h_4 => exact ht (h _ (by simp)) fun t ht => h t (by simp [ht])
  case h_5 => exact .ok ⟨.inr ⟨rfl, rfl⟩, h⟩

-- What is read from tokens is drawn from them, and so is what is left to others.
abbrev Draws (T : Token → Prop) (P : α → Prop) {q : List Token → Prop} (x : Except Fault (α × { rest // q rest })) : Prop :=
  Fails (fun r => P r.1 ∧ ∀ t ∈ r.2.1, T t) x

abbrev AreDrawn (T : Token → Prop) (xs : List Node) : Prop :=
  ∀ x ∈ xs, Drawn T x

abbrev IsDrawn (T : Token → Prop) (p : Node × Node) : Prop :=
  Drawn T p.fst ∧ Drawn T p.snd

-- The readers do so with fewer than `n` tokens.
structure Sound (T : Token → Prop) (hs : Handles) (n : Nat) : Prop where
  read       : ∀ block ts, ts.length < n → (∀ t ∈ ts, T t) → Draws T (Drawn T) (read hs block ts)
  part       : ∀ ts, ts.length < n → (∀ t ∈ ts, T t) → Draws T (Drawn T) (readPart hs ts)
  value      : ∀ ts, ts.length < n → (∀ t ∈ ts, T t) → Draws T (Drawn T) (readValue hs ts)
  items      : ∀ ts, ts.length < n → (∀ t ∈ ts, T t) → Draws T (AreDrawn T) (readItems hs ts)
  unindented : ∀ ts, ts.length < n → (∀ t ∈ ts, T t) → Draws T (AreDrawn T) (readIndentless hs ts)
  pairs      : ∀ ts, ts.length < n → (∀ t ∈ ts, T t) → Draws T (∀ p ∈ ·, IsDrawn T p) (readPairs hs ts)
  flowValue  : ∀ ts, ts.length < n → (∀ t ∈ ts, T t) → Draws T (Drawn T) (readFlowValue hs ts)
  flowPair   : ∀ ts, ts.length < n → (∀ t ∈ ts, T t) → Draws T (IsDrawn T) (readFlowPair hs ts)
  flowItems  : ∀ first ts, ts.length < n → (∀ t ∈ ts, T t) → Draws T (AreDrawn T) (readFlowItems hs first ts)
  flowItem   : ∀ ts, ts.length < n → (∀ t ∈ ts, T t) → Draws T (AreDrawn T) (readFlowItem hs ts)
  flowPairs  : ∀ first ts, ts.length < n → (∀ t ∈ ts, T t) → Draws T (∀ p ∈ ·, IsDrawn T p) (readFlowPairs hs first ts)
  flowKey    : ∀ ts, ts.length < n → (∀ t ∈ ts, T t) → Draws T (∀ p ∈ ·, IsDrawn T p) (readFlowKey hs ts)

namespace Sound

theorem mono {m n : Nat} (h : Sound T hs n) (hm : m ≤ n) : Sound T hs m where
  read block ts hl      := h.read block ts (Nat.lt_of_lt_of_le hl hm)
  part ts hl            := h.part ts (Nat.lt_of_lt_of_le hl hm)
  value ts hl           := h.value ts (Nat.lt_of_lt_of_le hl hm)
  items ts hl           := h.items ts (Nat.lt_of_lt_of_le hl hm)
  unindented ts hl      := h.unindented ts (Nat.lt_of_lt_of_le hl hm)
  pairs ts hl           := h.pairs ts (Nat.lt_of_lt_of_le hl hm)
  flowValue ts hl       := h.flowValue ts (Nat.lt_of_lt_of_le hl hm)
  flowPair ts hl        := h.flowPair ts (Nat.lt_of_lt_of_le hl hm)
  flowItems first ts hl := h.flowItems first ts (Nat.lt_of_lt_of_le hl hm)
  flowItem ts hl        := h.flowItem ts (Nat.lt_of_lt_of_le hl hm)
  flowPairs first ts hl := h.flowPairs first ts (Nat.lt_of_lt_of_le hl hm)
  flowKey ts hl         := h.flowKey ts (Nat.lt_of_lt_of_le hl hm)

theorem tail (h : ∀ u ∈ t :: ts, T u) : ∀ u ∈ ts, T u :=
  fun u hu => h u (List.mem_cons_of_mem t hu)

theorem readContent (h : Sound T hs ts.length) (ht : ∀ t ∈ ts, T t) (hp : p.Drawn T) :
    Fails (fun r => ∀ r' ∈ r, Drawn T r'.1 ∧ ∀ t ∈ r'.2.1, T t) (readContent hs block p ts) := by
  have hn {q : List Token → Prop} :
      Fails (fun r : Option (Node × { rest // q rest }) => ∀ r' ∈ r, Drawn T r'.1 ∧ ∀ t ∈ r'.2.1, T t) (.ok none) :=
    .ok nofun
  rw [readContent.eq_def]
  split
  case h_1 => exact .ok (by rintro _ ⟨⟩; exact ⟨.content hp (ht _ List.mem_cons_self), tail ht⟩)
  case h_2 =>
    exact (h.flowItems _ _ (Nat.lt_succ_self _) (tail ht)).map fun r hr => by rintro _ ⟨⟩; exact ⟨.items hp hr.left, hr.right⟩
  case h_3 =>
    exact (h.flowPairs _ _ (Nat.lt_succ_self _) (tail ht)).map fun r hr => by rintro _ ⟨⟩; exact ⟨.pairs hp hr.left, hr.right⟩
  case h_4 =>
    refine .ite hn ?_
    exact (h.items _ (Nat.lt_succ_self _) (tail ht)).map fun r hr => by rintro _ ⟨⟩; exact ⟨.items hp hr.left, hr.right⟩
  case h_5 =>
    refine .ite hn ?_
    exact (h.pairs _ (Nat.lt_succ_self _) (tail ht)).map fun r hr => by rintro _ ⟨⟩; exact ⟨.pairs hp hr.left, hr.right⟩
  case h_6 => exact hn

theorem readNode (h : Sound T hs ts.length) (ht : ∀ t ∈ ts, T t) : Draws T (Drawn T) (Node.read hs block ts) := by
  rw [read.eq_def]
  split
  case h_1 => exact .ok ⟨.link, tail ht⟩
  case h_2 =>
    have hp := fails_properties hs ht
    split
    case h_1 he => exact .error (he ▸ hp).of_error
    case h_2 he =>
      obtain ⟨hp, ht⟩ := (he ▸ hp).of_ok
      refine ((h.mono (length_of_properties he)).readContent ht hp).bind fun x hx => ?_
      split
      case h_1 => exact .ok (hx _ rfl)
      case h_2 =>
        split
        case isTrue  => exact .ok ⟨.nothing hp, ht⟩
        case isFalse => exact .error rfl

theorem readIndentless (h : Sound T hs ts.length) (ht : ∀ t ∈ ts, T t) : Draws T (AreDrawn T) (readIndentless hs ts) := by
  rw [readIndentless.eq_def]
  split
  case h_1 =>
    refine .ite ?_ ?_
    · refine (h.unindented _ (Nat.lt_succ_self _) (tail ht)).map fun r hr => ?_
      exact ⟨List.forall_mem_cons.mpr ⟨.empty, hr.left⟩, hr.right⟩
    · refine (h.read _ _ (Nat.lt_succ_self _) (tail ht)).bind ?_
      rintro ⟨_, _, hl⟩ ⟨hx, ht⟩
      refine (h.unindented _ (Nat.lt_succ_of_lt hl) ht).map fun r hr => ?_
      exact ⟨List.forall_mem_cons.mpr ⟨hx, hr.left⟩, hr.right⟩
  case h_2 => exact .ok ⟨List.forall_mem_nil _, ht⟩

theorem readPart (h : Sound T hs ts.length) (ht : ∀ t ∈ ts, T t) : Draws T (Drawn T) (readPart hs ts) := by
  have hp := fails_properties hs ht
  rw [readPart.eq_def]
  refine .ite (.ok ⟨.empty, ht⟩) ?_
  split
  case h_1 he => exact .error (he ▸ hp).of_error
  case h_2 he =>
    obtain ⟨hp, ht'⟩ := (he ▸ hp).of_ok
    refine .ite ?_ ?_
    · exact ((h.mono (length_of_properties he)).readIndentless ht').map fun r hr => ⟨.items hp hr.left, hr.right⟩
    · exact (h.readNode ht).map fun r hr => hr

theorem readValue (h : Sound T hs ts.length) (ht : ∀ t ∈ ts, T t) : Draws T (Drawn T) (readValue hs ts) := by
  rw [readValue.eq_def]
  split
  case h_1 => exact (h.part _ (Nat.lt_succ_self _) (tail ht)).map fun r hr => hr
  case h_2 => exact .ok ⟨.empty, ht⟩

theorem readItems (h : Sound T hs ts.length) (ht : ∀ t ∈ ts, T t) : Draws T (AreDrawn T) (readItems hs ts) := by
  rw [readItems.eq_def]
  split
  case h_1 => exact .ok ⟨List.forall_mem_nil _, tail ht⟩
  case h_2 =>
    refine .ite ?_ ?_
    · refine (h.items _ (Nat.lt_succ_self _) (tail ht)).map fun r hr => ?_
      exact ⟨List.forall_mem_cons.mpr ⟨.empty, hr.left⟩, hr.right⟩
    · refine (h.read _ _ (Nat.lt_succ_self _) (tail ht)).bind ?_
      rintro ⟨_, _, hl⟩ ⟨hx, ht⟩
      refine (h.items _ (Nat.lt_succ_of_lt hl) ht).map fun r hr => ?_
      exact ⟨List.forall_mem_cons.mpr ⟨hx, hr.left⟩, hr.right⟩
  case h_3 => exact .error rfl

theorem readPairs (h : Sound T hs ts.length) (ht : ∀ t ∈ ts, T t) : Draws T (∀ p ∈ ·, IsDrawn T p) (readPairs hs ts) := by
  rw [readPairs.eq_def]
  split
  case h_1 => exact .ok ⟨List.forall_mem_nil _, tail ht⟩
  case h_2 =>
    refine (h.part _ (Nat.lt_succ_self _) (tail ht)).bind ?_
    rintro ⟨_, _, hl⟩ ⟨hk, ht⟩
    refine (h.value _ (Nat.lt_succ_of_le hl) ht).bind ?_
    rintro ⟨_, _, hl'⟩ ⟨hv, ht⟩
    refine (h.pairs _ (Nat.lt_succ_of_le (Nat.le_trans hl' hl)) ht).map fun r hr => ?_
    exact ⟨List.forall_mem_cons.mpr ⟨⟨hk, hv⟩, hr.left⟩, hr.right⟩
  case h_3 => exact .error rfl

theorem readFlowValue (h : Sound T hs ts.length) (ht : ∀ t ∈ ts, T t) : Draws T (Drawn T) (readFlowValue hs ts) := by
  rw [readFlowValue.eq_def]
  split
  case h_1 => exact .ite (.ok ⟨.empty, tail ht⟩) ((h.read _ _ (Nat.lt_succ_self _) (tail ht)).map fun r hr => hr)
  case h_2 => exact .ok ⟨.empty, ht⟩

theorem readFlowPair (h : Sound T hs ts.length) (ht : ∀ t ∈ ts, T t) : Draws T (IsDrawn T) (readFlowPair hs ts) := by
  rw [readFlowPair.eq_def]
  refine .ite ((h.readFlowValue ht).map fun r hr => ⟨⟨.empty, hr.left⟩, hr.right⟩) ?_
  refine (h.readNode ht).bind ?_
  rintro ⟨_, _, hl⟩ ⟨hk, ht⟩
  exact (h.flowValue _ hl ht).map fun r hr => ⟨⟨hk, hr.left⟩, hr.right⟩

theorem readFlowItem (h : Sound T hs ts.length) (ht : ∀ t ∈ ts, T t) : Draws T (AreDrawn T) (readFlowItem hs ts) := by
  rw [readFlowItem.eq_def]
  split
  case h_1 =>
    refine (h.flowPair _ (Nat.lt_succ_self _) (tail ht)).bind ?_
    rintro ⟨p, _, hl⟩ ⟨⟨hk, hv⟩, ht⟩
    have hp : Drawn T (.map none none [p]) := .map (List.forall_mem_singleton.mpr hk) (List.forall_mem_singleton.mpr hv)
    refine (h.flowItems _ _ (Nat.lt_succ_of_le hl) ht).map fun r hr => ?_
    exact ⟨List.forall_mem_cons.mpr ⟨hp, hr.left⟩, hr.right⟩
  case h_2 =>
    refine (h.readNode ht).bind ?_
    rintro ⟨_, _, hl⟩ ⟨hx, ht⟩
    refine (h.flowItems _ _ hl ht).map fun r hr => ?_
    exact ⟨List.forall_mem_cons.mpr ⟨hx, hr.left⟩, hr.right⟩

theorem readFlowItems (h : Sound T hs ts.length) (ht : ∀ t ∈ ts, T t) :
    Draws T (AreDrawn T) (readFlowItems hs first ts) := by
  rw [readFlowItems.eq_def]
  split
  case h_1 => exact .ok ⟨List.forall_mem_nil _, tail ht⟩
  case h_2 =>
    refine .ite (h.readFlowItem ht) (.ite ?_ (.error rfl))
    split
    case h_1 => exact .ok ⟨List.forall_mem_nil _, tail (tail ht)⟩
    case h_2 => exact (h.flowItem _ (Nat.lt_succ_self _) (tail ht)).map fun r hr => hr
  case h_3 => exact .error rfl

theorem readFlowKey (h : Sound T hs ts.length) (ht : ∀ t ∈ ts, T t) :
    Draws T (∀ p ∈ ·, IsDrawn T p) (readFlowKey hs ts) := by
  rw [readFlowKey.eq_def]
  split
  case h_1 =>
    refine (h.flowPair _ (Nat.lt_succ_self _) (tail ht)).bind ?_
    rintro ⟨_, _, hl⟩ ⟨hp, ht⟩
    refine (h.flowPairs _ _ (Nat.lt_succ_of_le hl) ht).map fun r hr => ?_
    exact ⟨List.forall_mem_cons.mpr ⟨hp, hr.left⟩, hr.right⟩
  case h_2 =>
    refine (h.readNode ht).bind ?_
    rintro ⟨_, _, hl⟩ ⟨hk, ht⟩
    refine (h.flowPairs _ _ hl ht).map fun r hr => ?_
    exact ⟨List.forall_mem_cons.mpr ⟨⟨hk, .empty⟩, hr.left⟩, hr.right⟩

theorem readFlowPairs (h : Sound T hs ts.length) (ht : ∀ t ∈ ts, T t) :
    Draws T (∀ p ∈ ·, IsDrawn T p) (readFlowPairs hs first ts) := by
  rw [readFlowPairs.eq_def]
  split
  case h_1 => exact .ok ⟨List.forall_mem_nil _, tail ht⟩
  case h_2 =>
    refine .ite (h.readFlowKey ht) (.ite ?_ (.error rfl))
    split
    case h_1 => exact .ok ⟨List.forall_mem_nil _, tail (tail ht)⟩
    case h_2 => exact (h.flowKey _ (Nat.lt_succ_self _) (tail ht)).map fun r hr => hr
  case h_3 => exact .error rfl

end Sound

theorem sound (T : Token → Prop) (hs : Handles) (n : Nat) : Sound T hs n := by
  induction n with
  | zero      => constructor <;> intros <;> contradiction
  | succ n hi =>
    have h {ts : List Token} (hl : ts.length < n + 1) : Sound T hs ts.length := hi.mono (Nat.le_of_lt_succ hl)
    exact {
      read       := fun _ _ hl => (h hl).readNode
      part       := fun _ hl => (h hl).readPart
      value      := fun _ hl => (h hl).readValue
      items      := fun _ hl => (h hl).readItems
      unindented := fun _ hl => (h hl).readIndentless
      pairs      := fun _ hl => (h hl).readPairs
      flowValue  := fun _ hl => (h hl).readFlowValue
      flowPair   := fun _ hl => (h hl).readFlowPair
      flowItems  := fun _ _ hl => (h hl).readFlowItems
      flowItem   := fun _ hl => (h hl).readFlowItem
      flowPairs  := fun _ _ hl => (h hl).readFlowPairs
      flowKey    := fun _ hl => (h hl).readFlowKey
    }

theorem fails_read (hs : Handles) (block : Bool) (ht : ∀ t ∈ ts, T t) : Draws T (Drawn T) (read hs block ts) :=
  (sound T hs ts.length).readNode ht

theorem fails_add (p : Prolog) (d : Directive) : Fails (fun _ => True) (p.add d) := by
  cases d
  case version => exact .ite (.error rfl) (.ok trivial)
  case tag     => exact .ite (.error rfl) (.ok trivial)
  case other   => exact .ok trivial

theorem fails_directives (p : Prolog) (ht : ∀ t ∈ ts, T t) :
    Fails (fun r => ∀ t ∈ r.2, T t) (directives p ts) := by
  fun_induction directives p ts with
  | case1 p _ _ hi => exact (fails_add p _).bind fun p' _ => hi p' (Sound.tail ht)
  | case2          => exact .ok ht

theorem fails_readRoot (hs : Handles) (ht : ∀ t ∈ ts, T t) : Fails (fun r => Drawn T r.1) (readRoot hs ts) := by
  rw [readRoot.eq_def]
  split
  case h_5 => exact (fails_read hs true ht).map fun _ hx => hx.left
  all_goals exact .ok .empty

theorem fails_finish {x : Node × List Token} (hx : Drawn T x.1) :
    Fails (fun r => ∀ x ∈ r, Drawn T x) (ofTokens.finish x) :=
  .ite (.ok fun _ hy => Option.some.inj hy ▸ hx) (.error rfl)

-- What the tokens of a document are, and where that comes from.
theorem fails_ofTokens (ht : ∀ t ∈ ts, T t) : Fails (fun r => ∀ x ∈ r, Drawn T x) (ofTokens ts) := by
  rw [ofTokens.eq_def]
  split
  case h_1       => exact .ok nofun
  case h_2 | h_3 =>
    refine (fails_directives {} ht).bind fun _ ht => ?_
    dsimp only
    split
    case h_1 he => exact (fails_readRoot _ (Sound.tail (he ▸ ht))).bind fun _ hx => fails_finish hx
    case h_2    => exact .error rfl
  case h_4       => exact (fails_read _ true ht).bind fun _ hx => fails_finish hx.left

theorem fails_addAnchor (seen : List String) (a : Option String) : Fails (fun _ => True) (addAnchor seen a) := by
  cases a
  case none => exact .ok trivial
  case some => exact .ite (.error rfl) (.ok trivial)

mutual
theorem fails_anchors (seen : List String) (x : Node) : Fails (fun _ => True) (anchors seen x) := by
  match x with
  | .alias _        => exact .ite (.ok trivial) (.error rfl)
  | .scalar _ _ _ _ => exact fails_addAnchor seen _
  | .seq _ _ xs     => exact (fails_addAnchor seen _).bind fun seen _ => fails_anchorsOfItems seen xs
  | .map _ _ ps     => exact (fails_addAnchor seen _).bind fun seen _ => fails_anchorsOfPairs seen ps

theorem fails_anchorsOfItems (seen : List String) (xs : List Node) :
    Fails (fun _ => True) (anchorsOfItems seen xs) := by
  match xs with
  | []      => exact .ok trivial
  | x :: xs => exact (fails_anchors seen x).bind fun seen _ => fails_anchorsOfItems seen xs

theorem fails_anchorsOfPairs (seen : List String) (ps : List (Node × Node)) :
    Fails (fun _ => True) (anchorsOfPairs seen ps) := by
  match ps with
  | []           => exact .ok trivial
  | (k, v) :: ps =>
    refine (fails_anchors seen k).bind fun seen _ => ?_
    exact (fails_anchors seen v).bind fun seen _ => fails_anchorsOfPairs seen ps
end

end Node
end Yaml
end Gamebook
