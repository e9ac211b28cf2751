import Gamebook.Form.Skill
import Gamebook.Service.Voice

namespace Gamebook
namespace Service

-- What can be asked for.
inductive Route
  | health
  | settings
  | adventure
  | players
  | player (recordId : String)
  | skill
deriving DecidableEq, Repr

namespace Route

def ofPlace? (place : String) : Option Route :=
  match (place.toList.splitOn '/').map String.ofList with
  | ["", "api", "health"]      => some health
  | ["", "api", "settings"]    => some settings
  | ["", "api", "adventure"]   => some adventure
  | ["", "api", "players"]     => some players
  | ["", "api", "players", id] => if id = "" then none else some (player id)
  | ["", "api", "skill"]       => some skill
  | _                          => none

-- Are there slashes at the end that should not be there?
def isSlashed (place : String) : Bool :=
  let cs := place.toList.reverse
  cs.head? = some '/' && (ofPlace? (String.ofList (cs.dropWhile (· = '/')).reverse)).isSome

end Route

-- What a reader of a request's body makes of it.
inductive Body (α : Type)
  | good (a : α)
  | unfit (issues : List Issue)
  | unreadable

namespace Body

def step : Step := .key "body"

-- A byte order mark in front does not count.
def unmarked (text : String) : String :=
  match text.toList with
  | '\ufeff' :: cs => String.ofList cs
  | _              => text

def read (form : Json → Checked α) (text : String) : Body α :=
  if text = "" then unfit [⟨[step], .missing⟩]
  else match Json.read (unmarked text) with
    | .error .numberTooLong   => unreadable
    | .error (.malformed _ i) => unfit [⟨[step, .index i], .notJson⟩]
    | .ok j                   => match (form j).under step with
      | .good a => good a
      | .bad is => unfit is

end Body

-- The issues with a body, each with its place and its kind.
def issues (is : List Issue) : Http.Reply :=
  .detail 422 (.arr (is.map fun i => .obj [
    ("loc", .arr (i.path.map location)),
    ("type", .str i.misfit.name)
  ]))
where
  location : Step → Json
    | .key k   => .str k
    | .index n => .int n

def missingPlayer : Http.Reply :=
  .detail 404 (.str "Player not found")

def getPlayer (s : Service) (recordId : String) : Except Fault Http.Reply := do
  match ← (s.store.player? recordId).mapError .store with
  | none | some .null => return missingPlayer
  | some j            => reply j

def deletePlayer (s : Service) (recordId : String) : Outcome Http.Reply :=
  match s.store.deletePlayer recordId with
  | .error e           => ⟨s, none, .error (.store e)⟩
  | .ok (store, true)  => ⟨{ s with store }, none, reply (.obj [("ok", .bool true)])⟩
  | .ok (store, false) => ⟨{ s with store }, none, .ok missingPlayer⟩

def patchSettings (s : Service) (body : String) : Outcome Http.Reply :=
  match Body.read Settings.changesOfJson body with
  | .unreadable => ⟨s, none, .ok .unreadable⟩
  | .unfit is   => ⟨s, none, .ok (issues is)⟩
  | .good ms    => match s.store.updateSettings ms with
    | .error e              => ⟨s, none, .error (.store e)⟩
    | .ok (store, settings) => ⟨{ s with store }, none, reply settings.toJson⟩

-- Of what keeps an adventure from being shown, the reader is told what its author can mend.
def adventureProblem : Fault → Except Fault Http.Reply
  | .load (.file .missing) => .ok (.detail 404 (.str "Adventure file not found"))
  | .load (.problem p)     =>
    if p.isReported then .ok (.detail 422 (.str p.message)) else .error (.load (.problem p))
  | e => .error e

def getAdventure (s : Service) : Outcome Http.Reply :=
  match s.adventure with
  | (s, .ok g)    => ⟨s, none, reply (Definition.dump g)⟩
  | (s, .error e) => ⟨s, none, adventureProblem e⟩

def postSkill (s : Service) (now : Timestamp) (body : String) : Outcome Http.Reply :=
  match Body.read Skill.Request.ofJson body with
  | .unreadable => ⟨s, none, .ok .unreadable⟩
  | .unfit is   => ⟨s, none, .ok (issues is)⟩
  | .good r     =>
    let o := Voice.answer s now r
    ⟨o.service, o.notice, do reply (← o.result).toJson⟩

def follow (s : Service) (now : Timestamp) (r : Http.Request) (route : Route) : Outcome Http.Reply :=
  match r.method, route with
  | "GET",    .health    => ⟨s, none, reply (.obj [("status", .str "ok")])⟩
  | "GET",    .settings  => ⟨s, none, do reply (← s.store.settings.mapError .store).toJson⟩
  | "PATCH",  .settings  => patchSettings s r.body
  | "GET",    .adventure => getAdventure s
  | "GET",    .players   => ⟨s, none, do reply (.arr (← s.store.players.mapError .store))⟩
  | "GET",    .player id => ⟨s, none, getPlayer s id⟩
  | "DELETE", .player id => deletePlayer s id
  | "POST",   .skill     => postSkill s now r.body
  | _,        _          => ⟨s, none, .ok .wrongMethod⟩

-- The answer to a request.
def handle (s : Service) (now : Timestamp) (r : Http.Request) : Service × Option Notice × Http.Reply :=
  match Route.ofPlace? r.place with
  | some route =>
    let o := follow s now r route
    (o.service, o.notice, match o.result with
      | .ok reply => reply
      | .error _  => .failure)
  | none => (s, none, if Route.isSlashed r.place then .redirect else .notFound)

end Service
end Gamebook
