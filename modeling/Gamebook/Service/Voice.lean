import Gamebook.Service.Basic
import Gamebook.Skill.Resume

namespace Gamebook

def Directive.isPlay : Directive → Bool
  | play _ => true
  | _      => false

-- A response as the settings have it spoken. Only sounds need an address.
def Settings.speak (s : Settings) (r : Response) : Except Service.Fault Speech :=
  match s .soundFilesUrl with
  | .str address => (Speech.ofResponse address r).mapError .speech
  | _            =>
    if r.flatten.any Directive.isPlay then .error .soundAddress
    else (Speech.ofResponse "" r).mapError .speech

-- Makes it known that a player has reached an ending. Without an address there is just a line.
def Settings.announce (s : Settings) (d : Delivery) (p : Player) :
    Option Notice × Except Notice.Fault Unit :=
  if (s .webhookUrl).isNothing then (some (.log (Notice.line p.summary)), .ok ())
  else match s .webhookUrl with
    | .str url => Webhook.send ⟨url, s .webhookKey, Webhook.defaultTimeout⟩ d p.summary
    | _        => (none, .error .notAddress)

namespace Service

-- What a request leads to, besides the answer: the service after it, and a notice.
structure Outcome (α : Type) where
  service : Service
  notice  : Option Notice
  result  : Except Fault α

namespace Voice

open Skill

-- A session ends with the farewell, and where the player is not prompted again.
def speak (settings : Settings) (t : Turn) : Except Fault Answer := do
  let speech ← settings.speak t.response
  match if speech.ended then none else t.reprompt with
  | none   => return .spoken speech.text none true (some t.player)
  | some r => return .spoken speech.text (some (← settings.speak r).text) false (some t.player)

def apology : Answer :=
  .spoken (Speech.document [.paragraph Player.apology]) none true none

-- Is a player told no more than that something went wrong?
def isExcused : Fault → Bool
  | .load (.problem p)       => p.isReported
  | .load (.file .unfitName) => false
  | .load (.file _)          => true
  | _                        => false

-- A notice that does not arrive is no matter to the player.
def excuse (r : Except Notice.Fault Unit) : Except Fault Unit :=
  match r with
  | .ok ()   => .ok ()
  | .error e => if e.isExpected then .ok () else .error (.notice e)

-- The player is stored before anything is said.
def finish (s : Service) (settings : Settings) (t : Turn) : Outcome Answer :=
  match s.store.keepPlayer t.player with
  | .error e  => ⟨s, none, .error (.store e)⟩
  | .ok store =>
    let (notice, sent) :=
      if t.finishes then settings.announce s.delivery t.player else (none, .ok ())
    ⟨{ s with store }, notice, do excuse sent; speak settings t⟩

def play (s : Service) (settings : Settings) (g : PlaceGraph) (now : Timestamp) (r : Request)
    (plan : Plan) : Outcome Answer :=
  match s.store.restorePlayer g now r.recordId r.isNew r.attributes with
  | .error e => ⟨s, none, .error (.store e)⟩
  | .ok p    => finish s settings (.take g now p plan)

def begin (s : Service) (now : Timestamp) (r : Request) (plan : Plan) : Outcome Answer :=
  match s.store.settings with
  | .error e     => ⟨s, none, .error (.store e)⟩
  | .ok settings => match s.adventure with
    | (s, .ok g)    => play s settings g now r plan
    | (s, .error e) => ⟨s, none, if isExcused e then .ok apology else .error e⟩

-- The answer to the request of a voice assistant.
def answer (s : Service) (now : Timestamp) (r : Request) : Outcome Answer :=
  match r.occasion.plan? with
  | some plan => begin s now r plan
  | none      => ⟨s, none, .ok .nothing⟩

end Voice
end Service
end Gamebook
