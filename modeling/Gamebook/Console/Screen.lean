import Gamebook.Speech

namespace Gamebook

-- What makes the screen wait.
inductive Wait
  | keystroke
  | delay (seconds : Binary64)
deriving DecidableEq, Repr

-- What has been shown, how long it has taken, and whether the game is over.
@[ext]
structure Screen where
  out   : String
  waits : List Wait
  quit  : Bool
deriving DecidableEq, Repr

namespace Screen

def empty : Screen :=
  ⟨"", [], false⟩

def print (s : Screen) (text : String) : Screen :=
  { s with out := s.out ++ text }

-- A line of text. If it is typed out, every character is waited for.
def say (typing : Bool) (s : Screen) (text : String) : Screen :=
  { s.print (text ++ "\n") with
    waits := s.waits ++ if typing then text.toList.map fun _ => .keystroke else [] }

def reveal (typing : Bool) (s : Screen) : Directive → Screen
  | .say text      => s.say typing text
  | .delay f       => { s with waits := s.waits ++ [.delay f] }
  | .play id       => s.print ("(" ++ id ++ ")\n")
  | .notUnderstood => s.say typing Speech.notUnderstood
  | .bye           => { s with quit := true }
  | .finished      => s

def display (typing : Bool) (s : Screen) (r : Response) : Screen :=
  r.flatten.foldl (reveal typing) s

end Screen
end Gamebook
