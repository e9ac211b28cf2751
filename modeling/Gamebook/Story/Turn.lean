import Gamebook.Number.Numeral
import Gamebook.Story.Player
import Gamebook.Story.Response

namespace Gamebook

-- Why a command cannot be carried out.
inductive Mishap
  | noCurrentPlace (id : String)
  | noTarget (id : String)
  | noStart
  | invalidDelay (value : String)
deriving DecidableEq, Repr

def Mishap.message : Mishap → String
  | noCurrentPlace id => "Cannot find current place: '" ++ id ++ "'"
  | noTarget id       => "Cannot find goto place: '" ++ id ++ "'"
  | noStart           => "Cannot find place: '" ++ PlaceGraph.start ++ "'"
  | invalidDelay v    => "Delay must be a non-negative number: '" ++ v ++ "'"

namespace Place

def texts (p : Place) : List Directive :=
  (p.description.map .say).toList ++ (p.instructions.map .say).toList

end Place

-- The seconds of a pause, which are finite and not negative.
def delay (value : String) : Except Mishap Binary64 :=
  match Numeral.binary64? value with
  | some f => if f.isFinite && !f.isNegative then .ok f else .error (.invalidDelay value)
  | none   => .error (.invalidDelay value)

-- Where a choice has led so far, what has come of it, and whether a place has been described or an
-- ending been reached on the way.
structure Walk where
  place      : Place
  directives : List Directive
  described  : Bool
  ending     : Bool
deriving DecidableEq, Repr

namespace Walk

def «at» (p : Place) : Walk :=
  ⟨p, [], false, false⟩

def add (w : Walk) (ds : List Directive) : Walk :=
  { w with directives := w.directives ++ ds }

-- To go where one already is has no effect.
def goto (w : Walk) (target : Place) : Walk :=
  if target.id = w.place.id then w
  else {
    place      := target
    directives := w.directives ++ target.texts ++ (if target.finished then [.finished] else [])
    described  := true
    ending     := w.ending || target.finished
  }

def step (g : PlaceGraph) (w : Walk) (a : Action) : Except Mishap Walk :=
  match a.kind with
  | .goto  => match g.get? a.argument with
    | some target => .ok (w.goto target)
    | none        => .error (.noTarget a.argument)
  | .say   => .ok (w.add [.say a.argument])
  | .pause => do return w.add [.delay (← delay a.argument)]
  | .play  => .ok (w.add [.play a.argument])

def run (g : PlaceGraph) (w : Walk) (as : List Action) : Except Mishap Walk :=
  as.foldlM (step g) w

-- What the choice of a place for a command does. Where none is defined, only commands that may be
-- left out are understood.
def choose (g : PlaceGraph) (p : Place) (c : Command) : Except Mishap Walk :=
  match p.choices.get? c with
  | some as => run g (.at p) as
  | none    => .ok (if c.IsOptional then .at p else (Walk.at p).add [.notUnderstood])

def navigates (p : Place) (c : Command) : Bool :=
  (p.choices.get? c).any fun as => as.any (·.kind = .goto)

def describe (w : Walk) : Walk :=
  w.add w.place.texts

-- What a command does of its own accord after the choice. A restart leads to the start unless the
-- choice itself has led somewhere.
def conclude (g : PlaceGraph) (p : Place) (c : Command) (w : Walk) : Except Mishap Walk :=
  match c with
  | .describe => .ok w.describe
  | .help     => .ok (w.add (w.place.instructions.map .say).toList)
  | .restart  =>
    if navigates p c then .ok (if w.described then w else w.describe)
    else match g.get? PlaceGraph.start with
      | some s => .ok (describe { w with place := s })
      | none   => .error .noStart
  | .quit     => .ok (w.add [.bye])
  | _         => .ok w

def ofCommand (g : PlaceGraph) (placeId : String) (c : Command) : Except Mishap Walk := do
  match g.get? placeId with
  | some p => conclude g p c (← choose g p c)
  | none   => .error (.noCurrentPlace placeId)

end Walk

namespace Player

def counted (p : Player) : Player :=
  { p with commandsIssued := p.commandsIssued + 1 }

def restarted (p : Player) (now : Timestamp) : Player :=
  { p with attempts := p.attempts + 1, started := now, ended := none }

-- The player after a command that has been carried out. The first time of quitting stands until
-- an ending is reached, and a restart clears it.
def commit (p : Player) (now : Timestamp) (c : Command) (w : Walk) : Player :=
  let p := { p with placeId := w.place.id }
  match c with
  | .restart => p.restarted now
  | .quit    => { p with ended := if w.ending then some now else p.ended.or (some now) }
  | _        => { p with ended := if w.ending then some now else p.ended }

-- A command counts whether or not it can be carried out. If not, nothing else changes.
def execute (g : PlaceGraph) (now : Timestamp) (p : Player) (c : Command) :
    Player × Except Mishap Response :=
  let p := p.counted
  match Walk.ofCommand g p.placeId c with
  | .ok w    => (p.commit now c w, .ok (.ofDirectives w.directives))
  | .error m => (p, .error m)

def apology : String := "Oops, something went wrong. Please try again."

-- Like `execute`, with an apology for a command that cannot be carried out.
def attempt (g : PlaceGraph) (now : Timestamp) (p : Player) (c : Command) : Player × Response :=
  match p.execute g now c with
  | (p, .ok r)    => ({ p with status := .inProgress }, r)
  | (p, .error _) => (p, .single (.say apology))

end Player
end Gamebook
