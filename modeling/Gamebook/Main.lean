import Gamebook.Launcher.Run

namespace Gamebook
namespace Terminal

-- The area of a single file, or an empty one if there is no such file.
def readFiles (file name : PathName) : IO Files := do
  try
    let content ← IO.FS.readBinFile file.text
    match Files.empty.supply name (.file content (.given 0)) with
    | .ok files => return files
    | .error _  => return .empty
  catch _ => return .empty

-- The times that a game at the terminal takes note of are not shown to anyone.
def now : IO Timestamp := do
  let seconds := (← IO.monoMsNow) / 1000
  return (Timestamp.ofUnix? seconds 0).getD ⟨.epoch, .midnight, none⟩

def pass : Wait → IO Unit
  | .keystroke => IO.sleep 20
  | .delay f   => match Speech.milliseconds f with
    | .ok ms   => IO.sleep (.ofNat ms.toNat)
    | .error _ => return

def reveal (s : Screen) : IO Unit := do
  IO.print s.out
  (← IO.getStdout).flush
  s.waits.forM pass

partial def proceed (g : PlaceGraph) (typing : Bool) (s : Game) : IO Unit := do
  reveal s.screen
  if s.screen.quit then return
  reveal (Screen.empty.print Game.prompt)
  let line ← (← IO.getStdin).getLine
  let entered := if line.isEmpty then none else some line
  proceed g typing (Game.enter g typing (← now) { s with screen := .empty } entered)

def play (file : PathName) (typing : Bool) : IO UInt32 := do
  let name := PathName.ofNames [file.name]
  let files ← readFiles file name
  match Definition.load files name with
  | .ok g    =>
    let time ← now
    proceed g typing (.start g typing time (.fresh Game.recordId time))
    return 0
  | .error _ =>
    let time ← now
    let report := Launcher.play files name typing (fun _ => time) []
    reveal report.screen
    match report.ending with
    | .ok n    => return .ofNat n.toNat
    | .error e => throw (.userError (Launcher.message e))

-- The server itself is started by whoever carries out the command.
def serve (dataFolder adventure : Option PathName) (reload : Bool) : IO UInt32 := do
  IO.print Launcher.announcement
  IO.println (" ".intercalate (Launcher.launch dataFolder adventure reload).command)
  return 0

def usage : String :=
  "usage: play FILE [--no-typing] | serve [--data-dir DIR] [--adventure-file FILE] [--reload]"

end Terminal
end Gamebook

open Gamebook in
def main (args : List String) : IO UInt32 := do
  match Invocation.parse args with
  | .ok (.play file typing)                 => Terminal.play file typing
  | .ok (.serve folder adventure reloading) => Terminal.serve folder adventure reloading
  | .error .help                            =>
    IO.println Terminal.usage
    return 0
  | .error .wrong                           =>
    IO.eprintln Terminal.usage
    return 2
