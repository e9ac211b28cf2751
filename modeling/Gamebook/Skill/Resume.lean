import Gamebook.Form.Player
import Gamebook.Store.Players

namespace Gamebook
namespace Player

-- A player from saved data that can go on in the adventure. The record is always the one that was
-- asked for.
def resume? (g : PlaceGraph) (now : Timestamp) (recordId : String) (saved : Json) : Option Player := do
  let p ← (Player.ofJson now saved).toOption
  if g.contains p.placeId then some { p with recordId } else none

def restored (p : Player) : Player :=
  { p with status := .restored }

-- In a new session a player goes on where the store has them.
def ofStored (g : PlaceGraph) (now : Timestamp) (recordId : String) (stored : Option Json) : Player :=
  ((stored.bind (resume? g now recordId)).map restored).getD (fresh recordId now)

-- In a running session the player comes along with every request.
def ofAttributes (g : PlaceGraph) (now : Timestamp) (recordId : String)
    (attributes : List (String × Json)) : Player :=
  ((Json.get? attributes "player").bind (resume? g now recordId)).getD (fresh recordId now)

end Player

namespace Store

-- The player of a session. Without a record id nothing is looked up.
def restorePlayer (s : Store) (g : PlaceGraph) (now : Timestamp) (recordId : String)
    (new : Bool) (attributes : List (String × Json)) : Except Fault Player :=
  if new then
    if recordId = "" then .ok (.fresh recordId now)
    else return .ofStored g now recordId (← s.player? recordId)
  else .ok (.ofAttributes g now recordId attributes)

-- Stores a player. One without a record id lives in the session only.
def keepPlayer (s : Store) (p : Player) : Except Fault Store :=
  if p.recordId = "" then .ok s else s.savePlayer p.recordId p.toJson

end Store
end Gamebook
