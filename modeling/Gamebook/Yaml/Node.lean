import Gamebook.Yaml.Fault
import Gamebook.Yaml.Token

namespace Gamebook
namespace Yaml

-- The types that a tag can give to a node.
inductive Tag
  | null
  | bool
  | int
  | float
  | binary
  | timestamp
  | omap
  | pairs
  | set
  | str
  | seq
  | map
  | merge
  | value
  | other
deriving DecidableEq, Repr

namespace Tag

-- The tags of the YAML 1.1 type library.
def library : List (String × Tag) := [
  ("null", .null), ("bool", .bool), ("int", .int), ("float", .float), ("binary", .binary),
  ("timestamp", .timestamp), ("omap", .omap), ("pairs", .pairs), ("set", .set), ("str", .str),
  ("seq", .seq), ("map", .map), ("merge", .merge), ("value", .value)
]

def domain : String := "tag:yaml.org,2002:"

def ofText (s : String) : Tag :=
  match library.find? fun e => domain ++ e.1 = s with
  | some e => e.2
  | none   => .other

end Tag

-- The tree that a document is. A node that has no tag, or only an exclamation mark, is typed by
-- what it is. `plain` scalars are those that may mean null.
inductive Node
  | alias  (name : String)
  | scalar (anchor : Option String) (tag : Option Tag) (plain : Bool) (text : String)
  | seq    (anchor : Option String) (tag : Option Tag) (items : List Node)
  | map    (anchor : Option String) (tag : Option Tag) (pairs : List (Node × Node))
deriving Inhabited

namespace Node

def empty : Node :=
  .scalar none none true ""

-- What the handles of tags stand for.
abbrev Handles := List (String × String)

def defaultHandles : Handles :=
  [("!", "!"), ("!!", Tag.domain)]

-- An anchor, a tag and whether the tag is only an exclamation mark.
structure Properties where
  anchor  : Option String := none
  tag     : Option Tag := none
  unmarked : Bool := false

-- The tag of a handle and a suffix.
def resolve (hs : Handles) (handle : Option String) (suffix : String) :
    Except Fault (Option Tag × Bool) :=
  let text := match handle with
    | none   => some suffix
    | some h => (hs.find? (·.1 = h)).map (·.2 ++ suffix)
  match text with
  | none   => .error .malformed
  | some s => .ok (if s = "!" then (none, true) else (some (.ofText s), false))

-- The anchor and the tag before a node, in any order, each possibly missing.
def properties (hs : Handles) : List Token →
    Except Fault (Properties × List Token)
  | .anchor a :: .tag h s :: ts | .tag h s :: .anchor a :: ts => do
    let (tag, unmarked) ← resolve hs h s
    return ({ anchor := some a, tag, unmarked }, ts)
  | .anchor a :: ts => .ok ({ anchor := some a }, ts)
  | .tag h s :: ts  => do
    let (tag, unmarked) ← resolve hs h s
    return ({ tag, unmarked }, ts)
  | ts => .ok ({}, ts)

theorem length_of_properties {hs : Handles} {ts rest : List Token} {p : Properties}
    (h : properties hs ts = .ok (p, rest)) : rest.length ≤ ts.length := by
  have bound : ∀ {h s a n} {ts rest : List Token}, n ≤ ts.length →
      (do let (tag, unmarked) ← resolve hs h s
          return (({ anchor := a, tag, unmarked } : Properties), ts)) = .ok (p, rest) →
      rest.length + n ≤ ts.length + ts.length := by
    intro h s a n ts rest hn h'
    cases hr : resolve hs h s with
    | error e => simp [hr, bind, Except.bind] at h'
    | ok r =>
      simp only [hr, bind, Except.bind, pure, Except.pure, Except.ok.injEq, Prod.mk.injEq] at h'
      rw [← h'.2]; omega
  unfold properties at h
  split at h
  · have := bound (Nat.le_refl _) h; simp; omega
  · have := bound (Nat.le_refl _) h; simp; omega
  · cases h; simp
  · have := bound (Nat.le_refl _) h; simp; omega
  · cases h; simp

-- A node that is read takes at least one token. The rest of a collection may take none.
abbrev Read (α : Type) (ts : List Token) : Type :=
  Except Fault (α × { rest : List Token // rest.length < ts.length })

abbrev ReadSome (α : Type) (ts : List Token) : Type :=
  Except Fault (α × { rest : List Token // rest.length ≤ ts.length })

-- Where the node at the start of some tokens is left out.

def missingItem : List Token → Bool
  | .blockEntry :: _ | .blockEnd :: _ => true
  | _ => false

def missingPart : List Token → Bool
  | .key :: _ | .value :: _ | .blockEnd :: _ => true
  | _ => false

def missingFlowValue : List Token → Bool
  | .flowEntry :: _ | .flowSequenceEnd :: _ | .flowMappingEnd :: _ => true
  | _ => false

def missingFlowKey : List Token → Bool
  | .value :: _ => true
  | ts          => missingFlowValue ts

mutual
-- What follows the properties `p` of a node, if that is the node's content.
def readContent (hs : Handles) (block : Bool) (p : Properties) (ts : List Token) :
    Except Fault (Option (Node × { rest : List Token // rest.length < ts.length })) :=
  match ts with
  | .scalar text plain :: rest =>
    let plain := (plain && p.tag.isNone) || p.unmarked
    .ok (some (.scalar p.anchor p.tag plain text, ⟨rest, by simp⟩))
  | .flowSequenceStart :: rest => do
    let (xs, ⟨rest, h⟩) ← readFlowItems hs true rest
    return some (.seq p.anchor p.tag xs, ⟨rest, by simp; omega⟩)
  | .flowMappingStart :: rest => do
    let (xs, ⟨rest, h⟩) ← readFlowPairs hs true rest
    return some (.map p.anchor p.tag xs, ⟨rest, by simp; omega⟩)
  | .blockSequenceStart :: rest => do
    if !block then return none
    let (xs, ⟨rest, h⟩) ← readItems hs rest
    return some (.seq p.anchor p.tag xs, ⟨rest, by simp; omega⟩)
  | .blockMappingStart :: rest => do
    if !block then return none
    let (xs, ⟨rest, h⟩) ← readPairs hs rest
    return some (.map p.anchor p.tag xs, ⟨rest, by simp; omega⟩)
  | _ => .ok none
termination_by (ts.length, 0)
decreasing_by all_goals (apply Prod.Lex.left; simp)

-- A node. Block collections are allowed only if `block` is set. Properties alone make an empty
-- scalar.
def read (hs : Handles) (block : Bool) (ts : List Token) : Read Node ts :=
  match ts with
  | .alias name :: rest => .ok (.alias name, ⟨rest, by simp⟩)
  | ts => match hp : properties hs ts with
    | .error e      => .error e
    | .ok (p, rest) => do
      have hl := length_of_properties hp
      match ← readContent hs block p rest with
      | some (x, ⟨rest, h⟩) => return (x, ⟨rest, by omega⟩)
      | none                =>
        if h : rest.length < ts.length then
          return (.scalar p.anchor p.tag p.tag.isNone "", ⟨rest, h⟩)
        else throw .malformed
termination_by (ts.length, 1)
decreasing_by
  rcases Nat.lt_or_eq_of_le hl with h | h
  · exact Prod.Lex.left _ _ h
  · rw [h]; exact Prod.Lex.right _ (by omega)

-- A key or value in a block mapping. A sequence there may be indented no more than the mapping,
-- and has no start and end then.
def readPart (hs : Handles) (ts : List Token) : ReadSome Node ts :=
  if missingPart ts then .ok (.empty, ⟨ts, Nat.le_refl _⟩)
  else match hp : properties hs ts with
    | .error e      => .error e
    | .ok (p, rest) => do
      have hl := length_of_properties hp
      if rest.head? = some .blockEntry then
        let (xs, ⟨rest, h⟩) ← readIndentless hs rest
        return (.seq p.anchor p.tag xs, ⟨rest, by omega⟩)
      else
        let (x, ⟨rest, h⟩) ← read hs true ts
        return (x, ⟨rest, by omega⟩)
termination_by (ts.length, 2)
decreasing_by
  · rcases Nat.lt_or_eq_of_le hl with h | h
    · exact Prod.Lex.left _ _ h
    · rw [h]; exact Prod.Lex.right _ (by omega)
  · exact Prod.Lex.right _ (by omega)

-- The value in a block mapping, if there is one.
def readValue (hs : Handles) (ts : List Token) : ReadSome Node ts :=
  match ts with
  | .value :: rest => do
    let (v, ⟨rest, h⟩) ← readPart hs rest
    return (v, ⟨rest, by simp; omega⟩)
  | ts => .ok (.empty, ⟨ts, Nat.le_refl _⟩)
termination_by (ts.length, 0)
decreasing_by apply Prod.Lex.left; simp

-- The items of a block sequence and its end.
def readItems (hs : Handles) (ts : List Token) : Read (List Node) ts :=
  match ts with
  | .blockEnd :: rest   => .ok ([], ⟨rest, by simp⟩)
  | .blockEntry :: rest =>
    if missingItem rest then do
      let (xs, ⟨rest, h⟩) ← readItems hs rest
      return (.empty :: xs, ⟨rest, by simp; omega⟩)
    else do
      let (x, ⟨rest, h⟩) ← read hs true rest
      let (xs, ⟨rest, h⟩) ← readItems hs rest
      return (x :: xs, ⟨rest, by simp; omega⟩)
  | _ => .error .malformed
termination_by (ts.length, 0)
decreasing_by all_goals (apply Prod.Lex.left; simp; try omega)

-- The items of a sequence that is indented no more than the mapping around it.
def readIndentless (hs : Handles) (ts : List Token) : ReadSome (List Node) ts :=
  match ts with
  | .blockEntry :: rest =>
    if missingItem rest || missingPart rest then do
      let (xs, ⟨rest, h⟩) ← readIndentless hs rest
      return (.empty :: xs, ⟨rest, by simp; omega⟩)
    else do
      let (x, ⟨rest, h⟩) ← read hs true rest
      let (xs, ⟨rest, h⟩) ← readIndentless hs rest
      return (x :: xs, ⟨rest, by simp; omega⟩)
  | ts => .ok ([], ⟨ts, Nat.le_refl _⟩)
termination_by (ts.length, 0)
decreasing_by all_goals (apply Prod.Lex.left; simp; try omega)

-- The pairs of a block mapping and its end.
def readPairs (hs : Handles) (ts : List Token) : Read (List (Node × Node)) ts :=
  match ts with
  | .blockEnd :: rest => .ok ([], ⟨rest, by simp⟩)
  | .key :: rest      => do
    let (k, ⟨rest, h₁⟩) ← readPart hs rest
    let (v, ⟨rest, h₂⟩) ← readValue hs rest
    let (xs, ⟨rest, h₃⟩) ← readPairs hs rest
    return ((k, v) :: xs, ⟨rest, by simp; omega⟩)
  | _ => .error .malformed
termination_by (ts.length, 0)
decreasing_by all_goals (apply Prod.Lex.left; simp; try omega)

-- The value of a flow pair, if it has one.
def readFlowValue (hs : Handles) (ts : List Token) : ReadSome Node ts :=
  match ts with
  | .value :: rest =>
    if missingFlowValue rest then .ok (.empty, ⟨rest, by simp⟩)
    else do
      let (v, ⟨rest, h⟩) ← read hs false rest
      return (v, ⟨rest, by simp; omega⟩)
  | ts => .ok (.empty, ⟨ts, Nat.le_refl _⟩)
termination_by (ts.length, 0)
decreasing_by apply Prod.Lex.left; simp

-- A flow pair after the sign of its key.
def readFlowPair (hs : Handles) (ts : List Token) : ReadSome (Node × Node) ts :=
  if missingFlowKey ts then do
    let (v, rest) ← readFlowValue hs ts
    return ((.empty, v), rest)
  else do
    let (k, ⟨rest, h⟩) ← read hs false ts
    let (v, ⟨rest, h⟩) ← readFlowValue hs rest
    return ((k, v), ⟨rest, by omega⟩)
termination_by (ts.length, 2)
decreasing_by
  · exact Prod.Lex.right _ (by omega)
  · exact Prod.Lex.right _ (by omega)
  · apply Prod.Lex.left; omega

-- The items of a flow sequence and its end. All but the first follow a comma.
def readFlowItems (hs : Handles) (first : Bool) (ts : List Token) : Read (List Node) ts :=
  match ts with
  | .flowSequenceEnd :: rest => .ok ([], ⟨rest, by simp⟩)
  | t :: rest =>
    if first then readFlowItem hs (t :: rest)
    else if t = .flowEntry then
      match rest with
      | .flowSequenceEnd :: rest => .ok ([], ⟨rest, by simp only [List.length_cons]; omega⟩)
      | rest => do
        let (xs, ⟨rest, h⟩) ← readFlowItem hs rest
        return (xs, ⟨rest, by simp; omega⟩)
    else .error .malformed
  | [] => .error .malformed
termination_by (ts.length, 4)
decreasing_by
  · exact Prod.Lex.right _ (by omega)
  · apply Prod.Lex.left; simp

-- An item of a flow sequence, which may be a single pair, and those after it.
def readFlowItem (hs : Handles) (ts : List Token) : Read (List Node) ts :=
  match ts with
  | .key :: rest => do
    let (p, ⟨rest, h⟩) ← readFlowPair hs rest
    let (xs, ⟨rest, h⟩) ← readFlowItems hs false rest
    return (.map none none [p] :: xs, ⟨rest, by simp; omega⟩)
  | ts => do
    let (x, ⟨rest, h⟩) ← read hs false ts
    let (xs, ⟨rest, h⟩) ← readFlowItems hs false rest
    return (x :: xs, ⟨rest, by omega⟩)
termination_by (ts.length, 3)
decreasing_by
  · apply Prod.Lex.left; simp
  · apply Prod.Lex.left; simp; omega
  · exact Prod.Lex.right _ (by omega)
  · apply Prod.Lex.left; omega

-- The pairs of a flow mapping and its end. A node alone is a key without a value.
def readFlowPairs (hs : Handles) (first : Bool) (ts : List Token) : Read (List (Node × Node)) ts :=
  match ts with
  | .flowMappingEnd :: rest => .ok ([], ⟨rest, by simp⟩)
  | t :: rest =>
    if first then readFlowKey hs (t :: rest)
    else if t = .flowEntry then
      match rest with
      | .flowMappingEnd :: rest => .ok ([], ⟨rest, by simp only [List.length_cons]; omega⟩)
      | rest => do
        let (xs, ⟨rest, h⟩) ← readFlowKey hs rest
        return (xs, ⟨rest, by simp; omega⟩)
    else .error .malformed
  | [] => .error .malformed
termination_by (ts.length, 4)
decreasing_by
  · exact Prod.Lex.right _ (by omega)
  · apply Prod.Lex.left; simp

def readFlowKey (hs : Handles) (ts : List Token) : Read (List (Node × Node)) ts :=
  match ts with
  | .key :: rest => do
    let (p, ⟨rest, h⟩) ← readFlowPair hs rest
    let (xs, ⟨rest, h⟩) ← readFlowPairs hs false rest
    return (p :: xs, ⟨rest, by simp; omega⟩)
  | ts => do
    let (k, ⟨rest, h⟩) ← read hs false ts
    let (xs, ⟨rest, h⟩) ← readFlowPairs hs false rest
    return ((k, .empty) :: xs, ⟨rest, by omega⟩)
termination_by (ts.length, 3)
decreasing_by
  · apply Prod.Lex.left; simp
  · apply Prod.Lex.left; simp; omega
  · exact Prod.Lex.right _ (by omega)
  · apply Prod.Lex.left; omega
end

end Node
end Yaml
end Gamebook
