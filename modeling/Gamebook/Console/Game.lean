import Gamebook.Console.Screen
import Gamebook.Story.Turn

namespace Gamebook

-- A game at the terminal: the player and the screen between two prompts.
structure Game where
  player : Player
  screen : Screen
deriving DecidableEq, Repr

namespace Game

def prompt : String := "> "

def recordId : String := "console"

-- What a player enters at a prompt. At the end of the input the player quits.
def command? : Option String → Option Command
  | some line => Command.parse line
  | none      => some .quit

def issue (g : PlaceGraph) (typing : Bool) (now : Timestamp) (s : Game) (c : Command) : Game :=
  let (p, r) := s.player.attempt g now c
  ⟨p, s.screen.display typing r⟩

-- Every game begins with a restart.
def start (g : PlaceGraph) (typing : Bool) (now : Timestamp) (p : Player) : Game :=
  issue g typing now ⟨p, .empty⟩ .restart

def enter (g : PlaceGraph) (typing : Bool) (now : Timestamp) (s : Game) (line : Option String) : Game :=
  match command? line with
  | some c => s.issue g typing now c
  | none   => { s with screen := s.screen.display typing (.single .notUnderstood) }

-- A game that has come to its end, or to the last prompt that it was allowed.
structure Played where
  game    : Game
  prompts : Nat
  unread  : List String
deriving DecidableEq, Repr

def print (s : Game) (text : String) : Game :=
  { s with screen := s.screen.print text }

-- The game goes on until the player quits, or for the given number of prompts. Something may be
-- printed at each of them. The clock tells the time after so many prompts.
def play (g : PlaceGraph) (typing : Bool) (echo : String) (clock : Nat → Timestamp) :
    (limit shown : Nat) → Game → List String → Played
  | 0,         shown, s, lines => ⟨s, shown, lines⟩
  | limit + 1, shown, s, lines =>
    if s.screen.quit then ⟨s, shown, lines⟩
    else
      let s := (s.print echo).enter g typing (clock (shown + 1)) lines.head?
      play g typing echo clock limit (shown + 1) s lines.tail

end Game
end Gamebook
