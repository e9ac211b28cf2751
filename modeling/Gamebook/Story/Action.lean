import Gamebook.Text.Lower

namespace Gamebook

inductive ActionKind
  | goto
  | say
  | pause
  | play
deriving DecidableEq, Repr

namespace ActionKind

def name : ActionKind → String
  | goto  => "Goto"
  | say   => "Say"
  | pause => "Pause"
  | play  => "Play"

def all : List ActionKind :=
  [goto, say, pause, play]

theorem mem_all (k : ActionKind) : k ∈ all := by
  cases k <;> simp [all]

def parse (text : String) : Option ActionKind :=
  let key := Text.fold text
  all.find? fun k => Text.lower k.name = key

def ofName? (name : String) : Option ActionKind :=
  all.find? (·.name = name)

end ActionKind

-- One step of what a choice does: where to go, what to say or play, or how long to pause.
structure Action where
  kind     : ActionKind
  argument : String
deriving DecidableEq, Repr

end Gamebook
