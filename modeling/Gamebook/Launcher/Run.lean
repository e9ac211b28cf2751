import Gamebook.Console.Game
import Gamebook.Definition.File
import Gamebook.Launcher.Invocation

namespace Gamebook
namespace Launcher

-- How a server is to be started: its command, and where it finds its data and the adventure.
structure Launch where
  command    : List String
  dataFolder : Option Spot
  adventure  : Option Spot
deriving DecidableEq, Repr

-- What has come of an invocation: what was shown, how long it took, and the number that the
-- program ends with, unless something has gone wrong that nobody expected.
structure Report where
  screen : Screen
  ending : Except Definition.LoadError Int

def Report.print (text : String) (ending : Except Definition.LoadError Int) : Report :=
  ⟨Screen.empty.print text, ending⟩

def isExpected : Definition.LoadError → Bool
  | .file _    => true
  | .notText   => false
  | .problem p => p.isReported

def message : Definition.LoadError → String
  | .file e    => FileError.message e
  | .notText   => "Not a text"
  | .problem p => p.message

-- Plays the adventure in a file, given all lines that the player enters.
def play (files : Files) (file : PathName) (typing : Bool) (clock : Nat → Timestamp)
    (lines : List String) : Report :=
  match files.isFile file with
  | .error e   => .print "" (.error (.file e))
  | .ok false  => .print "ERROR: cannot find file.\n" (.ok 1)
  | .ok true   => match Definition.load files file with
    | .error e =>
      if isExpected e then .print ("ERROR: unable to load file\n" ++ message e ++ "\n") (.ok 1)
      else .print "" (.error e)
    | .ok g    =>
      let game := Game.start g typing (clock 0) (.fresh Game.recordId (clock 0))
      let played := game.play g typing Game.prompt clock (lines.length + 1) 0 lines
      ⟨played.game.screen, .ok 0⟩

def host : String := "0.0.0.0"

def port : String := "13013"

def launch (dataFolder adventure : Option PathName) (reload : Bool) : Launch where
  command    := ["-m", "uvicorn", "backend.app:app", "--host", host, "--port", port] ++
    if reload then ["--reload"] else []
  dataFolder := dataFolder.map Spot.ofPath
  adventure  := adventure.map Spot.ofPath

def announcement : String :=
  "Starting skill server on http://localhost:" ++ port ++ " ...\n"

def farewell : String := "\nShutting down...\n"

-- What is shown while a server runs that ends with a number, or is interrupted.
def serve (ending : Option Int) : Report :=
  match ending with
  | some n => .print announcement (.ok n)
  | none   => .print (announcement ++ farewell) (.ok 0)

end Launcher
end Gamebook
