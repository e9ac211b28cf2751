import Gamebook.Form.Field
import Gamebook.Story.Response

namespace Gamebook
namespace Response

open Checked Form

-- The kinds of responses by their names in data.
inductive Kind
  | say
  | delay
  | play
  | notUnderstood
  | bye
  | finished
  | multiple
deriving DecidableEq, Repr

namespace Kind

def name : Kind → String
  | say           => "say"
  | delay         => "delay"
  | play          => "play"
  | notUnderstood => "not_understood"
  | bye           => "bye"
  | finished      => "finished"
  | multiple      => "multiple"

def all : List Kind :=
  [say, delay, play, notUnderstood, bye, finished, multiple]

def ofJson? : Json → Option Kind
  | .str s => all.find? (·.name = s)
  | _      => none

end Kind

-- The kind that data names, which says what other members it has to have.
def readKind (members : List (String × Json)) : Checked Kind :=
  match Json.get? members "kind" with
  | some j => orFail .unknownTag (Kind.ofJson? j)
  | none   => fail .noTag

mutual
def ofJson : Json → Checked Response
  | .obj ms => match readKind ms with
    | bad is => bad is
    | good k => Checked.under (.key k.name) (match k with
      | .say           => (fun s => single (.say s)) <$> member ms "text" text
      | .delay         => (fun f => single (.delay f)) <$> member ms "seconds" float
      | .play          => (fun s => single (.play s)) <$> member ms "sound_id" text
      | .notUnderstood => good (single .notUnderstood)
      | .bye           => good (single .bye)
      | .finished      => good (single .finished)
      | .multiple      => multiple <$> ofMembers ms)
  | _ => fail .notMembers

def ofMembers : List (String × Json) → Checked (List Response)
  | []           => good []
  | (k, j) :: ms => if k = "responses" then (ofValue j).under (.key k) else ofMembers ms

def ofValue : Json → Checked (List Response)
  | .arr xs => ofItems 0 xs
  | _       => fail .notTuple

def ofItems (i : Nat) : List Json → Checked (List Response)
  | []      => good []
  | x :: xs => List.cons <$> (ofJson x).under (.index i) <*> ofItems (i + 1) xs
end

end Response
end Gamebook
