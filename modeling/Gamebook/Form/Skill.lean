import Gamebook.Form.Field
import Gamebook.Skill.Request
import Gamebook.Store.Settings

namespace Gamebook
namespace Form

open Checked

-- The members of a record within a request.
def record (read : List (String × Json) → Checked α) : Json → Checked α
  | .obj ms => read ms
  | _       => fail .notMembers

-- A member with two names, of which the first goes before the second.
def memberOfEither (members : List (String × Json)) (name other : String) (default : α)
    (read : Json → Checked α) : Checked α :=
  if (Json.get? members name).isSome then memberOr members name default read
  else memberOr members other default read

def attributes : Json → Checked (List (String × Json))
  | .obj ms => good ms
  | .null   => good []
  | _       => fail .notMap

end Form

open Checked Form

namespace Skill

-- The part of a request that tells whose session it belongs to.
structure Session where
  isNew      : Bool
  sessionId  : String
  userId     : String
  attributes : List (String × Json)

def Session.anonymous : Session :=
  ⟨false, "", "", []⟩

def readUser (ms : List (String × Json)) : Checked String :=
  memberOfEither ms "userId" "user_id" "" text

def readSession (ms : List (String × Json)) : Checked Session :=
  Session.mk <$>
    memberOr ms "new" false flag <*>
    memberOfEither ms "sessionId" "session_id" "" text <*>
    memberOr ms "user" "" (record readUser) <*>
    memberOr ms "attributes" [] attributes

def readIntent (ms : List (String × Json)) : Checked String :=
  member ms "name" text

-- Which occasion the type of a request and its intent are.
def occasionOf (type : String) (intent : Option String) : Occasion :=
  if type = "LaunchRequest" then .launch
  else if type = "IntentRequest" then .intent (intent.getD "")
  else .other

def readOccasion (ms : List (String × Json)) : Checked Occasion :=
  occasionOf <$> member ms "type" text <*> memberOr ms "intent" none (nullable (record readIntent))

def Request.of (s : Session) (o : Occasion) : Request where
  isNew      := s.isNew
  recordId   := if s.userId = "" then s.sessionId else s.userId
  attributes := s.attributes
  occasion   := o

def Request.ofJson : Json → Checked Request :=
  record fun ms =>
    (fun _ => Request.of) <$>
      memberOr ms "version" "1.0" text <*>
      memberOr ms "session" .anonymous (record readSession) <*>
      member ms "request" (record readOccasion)

end Skill

-- New values for some of the settings. One that is null is not given.
def Settings.changesOfJson : Json → Checked (List (String × Json)) :=
  record fun ms => go ms Setting.all
where
  go (ms : List (String × Json)) : List Setting → Checked (List (String × Json))
    | []      => good []
    | k :: ks =>
      (fun v vs => (v.map fun s => (k.name, Json.str s)).toList ++ vs) <$>
        memberOr ms k.name none (nullable text) <*> go ms ks

end Gamebook
