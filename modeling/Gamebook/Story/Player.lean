import Gamebook.Story.Place
import Gamebook.Time.Timestamp
import Gamebook.Json.Basic

namespace Gamebook

inductive Status
  | new
  | inProgress
  | restored
deriving DecidableEq, Repr

namespace Status

def name : Status → String
  | new        => "New"
  | inProgress => "InProgress"
  | restored   => "Restored"

def all : List Status :=
  [new, inProgress, restored]

theorem mem_all (s : Status) : s ∈ all := by
  cases s <;> simp [all]

def ofName? (name : String) : Option Status :=
  all.find? (·.name = name)

end Status

-- How far a player has come.
@[ext]
structure Player where
  recordId       : String
  placeId        : String
  status         : Status
  commandsIssued : Int
  attempts       : Int
  started        : Timestamp
  ended          : Option Timestamp
deriving DecidableEq, Repr

namespace Player

def fresh (recordId : String) (now : Timestamp) : Player where
  recordId       := recordId
  placeId        := PlaceGraph.start
  status         := .new
  commandsIssued := 0
  attempts       := 0
  started        := now
  ended          := none

def toJson (p : Player) : Json :=
  .obj [
    ("record_id", .str p.recordId),
    ("current_place_id", .str p.placeId),
    ("status", .str p.status.name),
    ("commands_issued", .int p.commandsIssued),
    ("attempts", .int p.attempts),
    ("start", .str p.started.wire),
    ("end", .ofOption (fun t => .str t.wire) p.ended)
  ]

-- What others are told about a player who has reached an ending.
def summary (p : Player) : List (String × Json) := [
  ("record_id", .str p.recordId),
  ("place_id", .str p.placeId),
  ("attempts", .int p.attempts),
  ("commands_issued", .int p.commandsIssued),
  ("start", .str p.started.iso),
  ("end", .ofOption (fun t => .str t.iso) p.ended)
]

-- Do two players agree, if times that name the same moment count as equal?
def agree (p q : Player) : Bool :=
  p.recordId = q.recordId && p.placeId = q.placeId && p.status = q.status &&
    p.commandsIssued = q.commandsIssued && p.attempts = q.attempts && p.started.same q.started &&
    match p.ended, q.ended with
    | some t, some u => t.same u
    | none,   none   => true
    | _,      _      => false

end Player
end Gamebook
