import Gamebook.Yaml.Node
import Gamebook.Yaml.Typed

namespace Gamebook
namespace Yaml

namespace Node

-- What the directives before a document have set.
structure Prolog where
  version : Bool := false
  handles : Handles := []

def Prolog.add (p : Prolog) : Directive → Except Fault Prolog
  | .version major =>
    if p.version || major ≠ 1 then .error .malformed else .ok { p with version := true }
  | .tag h uri     =>
    if p.handles.any (·.1 = h) then .error .malformed
    else .ok { p with handles := p.handles ++ [(h, uri)] }
  | .other         => .ok p

-- The handles that hold in a document. Those that it does not define itself keep their meaning.
def Prolog.all (p : Prolog) : Handles :=
  p.handles ++ defaultHandles

def directives (p : Prolog) : List Token → Except Fault (Prolog × List Token)
  | .directive d :: ts => do directives (← p.add d) ts
  | ts                 => .ok (p, ts)

def dropDocumentEnds : List Token → List Token
  | .documentEnd :: ts => dropDocumentEnds ts
  | ts                 => ts

-- What follows the start of a document. It may be missing.
def readRoot (hs : Handles) (ts : List Token) : Except Fault (Node × List Token) :=
  match ts with
  | [] | .directive _ :: _ | .documentStart :: _ | .documentEnd :: _ => .ok (.empty, ts)
  | ts => (read hs true ts).map fun (x, ⟨rest, _⟩) => (x, rest)

-- The only document of a text, if there is one. Without directives it needs no start.
def ofTokens (ts : List Token) : Except Fault (Option Node) :=
  match ts with
  | [] => .ok none
  | .directive _ :: _ | .documentStart :: _ => do
    let (p, ts) ← directives {} ts
    match ts with
    | .documentStart :: ts => finish (← readRoot p.all ts)
    | _                    => throw .malformed
  | ts => do
    let (x, ⟨rest, _⟩) ← read defaultHandles true ts
    finish (x, rest)
where
  finish : Node × List Token → Except Fault (Option Node)
    | (x, rest) => if (dropDocumentEnds rest).isEmpty then .ok (some x) else .error .malformed

mutual
-- The names of the anchors in a tree after those in `seen`. Each is used once, and before its
-- aliases.
def anchors (seen : List String) : Node → Except Fault (List String)
  | .alias name      => if seen.contains name then .ok seen else .error .malformed
  | .scalar a _ _ _  => addAnchor seen a
  | .seq a _ xs      => do anchorsOfItems (← addAnchor seen a) xs
  | .map a _ ps      => do anchorsOfPairs (← addAnchor seen a) ps

def anchorsOfItems (seen : List String) : List Node → Except Fault (List String)
  | []      => .ok seen
  | x :: xs => do anchorsOfItems (← anchors seen x) xs

def anchorsOfPairs (seen : List String) : List (Node × Node) → Except Fault (List String)
  | []           => .ok seen
  | (k, v) :: ps => do anchorsOfPairs (← anchors (← anchors seen k) v) ps

def addAnchor (seen : List String) : Option String → Except Fault (List String)
  | none   => .ok seen
  | some a => if seen.contains a then .error .malformed else .ok (a :: seen)
end

end Node

end Yaml
end Gamebook
