import Gamebook.Number.Binary64

namespace Gamebook

-- One thing that a front end is to do.
inductive Directive
  | say (text : String)
  | delay (seconds : Binary64)
  | play (soundId : String)
  | notUnderstood
  | bye
  | finished
deriving DecidableEq, Repr

-- What a command is answered with.
inductive Response
  | single (d : Directive)
  | multiple (rs : List Response)
deriving Repr, Inhabited

namespace Response

-- A response that is alone stands for itself.
def collapse : List Response → Response
  | [r] => r
  | rs  => multiple rs

mutual
-- The directives of a response in their order, whatever its nesting.
def flatten : Response → List Directive
  | single d    => [d]
  | multiple rs => flattenAll rs

def flattenAll : List Response → List Directive
  | []      => []
  | r :: rs => flatten r ++ flattenAll rs
end

def ofDirectives (ds : List Directive) : Response :=
  collapse (ds.map single)

theorem flattenAll_eq_flatMap (rs : List Response) : flattenAll rs = rs.flatMap flatten := by
  induction rs with
  | nil          => rfl
  | cons r rs ih => rw [flattenAll, ih, List.flatMap_cons]

theorem flatten_collapse (rs : List Response) : (collapse rs).flatten = rs.flatMap flatten := by
  match rs with
  | []           => rfl
  | [r]          => simp [collapse]
  | r :: s :: rs => rw [collapse, flatten, flattenAll_eq_flatMap]; simp

theorem flatten_ofDirectives (ds : List Directive) : (ofDirectives ds).flatten = ds := by
  rw [ofDirectives, flatten_collapse]
  induction ds with
  | nil          => rfl
  | cons d ds ih => rw [List.map_cons, List.flatMap_cons, ih]; rfl

end Response

-- A front end, by what it does for each kind of directive.
structure Handler (m : Type → Type) where
  say           : String → m Unit
  delay         : Binary64 → m Unit
  play          : String → m Unit
  notUnderstood : m Unit
  bye           : m Unit
  finished      : m Unit

namespace Handler

variable {m : Type → Type}

def handle (h : Handler m) : Directive → m Unit
  | .say text      => h.say text
  | .delay f       => h.delay f
  | .play id       => h.play id
  | .notUnderstood => h.notUnderstood
  | .bye           => h.bye
  | .finished      => h.finished

-- One directive of a response after the other.
def dispatch [Monad m] (h : Handler m) (r : Response) : m Unit :=
  r.flatten.forM h.handle

-- A front end that only takes down what it is asked to do.
def recorder : Handler (StateM (List Directive)) where
  say text      := modify (· ++ [.say text])
  delay f       := modify (· ++ [.delay f])
  play id       := modify (· ++ [.play id])
  notUnderstood := modify (· ++ [.notUnderstood])
  bye           := modify (· ++ [.bye])
  finished      := modify (· ++ [.finished])

end Handler

namespace Response

def calls (r : Response) : List Directive :=
  ((Handler.recorder.dispatch r).run []).2

end Response
end Gamebook
