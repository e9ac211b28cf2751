import Gamebook.Form.Field
import Gamebook.Story.Player

namespace Gamebook

open Checked Form

-- A player from stored or sent data. What is left out is as for a fresh player.
def Player.ofJson (now : Timestamp) : Json → Checked Player
  | .obj ms =>
    let p := Player.fresh "" now
    Player.mk <$>
      memberOr ms "record_id" p.recordId text <*>
      memberOr ms "current_place_id" p.placeId text <*>
      memberOr ms "status" p.status (word Status.ofName?) <*>
      memberOr ms "commands_issued" p.commandsIssued int <*>
      memberOr ms "attempts" p.attempts int <*>
      memberOr ms "start" p.started time <*>
      memberOr ms "end" p.ended (nullable time)
  | _ => fail .notRecord

end Gamebook
