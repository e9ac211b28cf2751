import Mathlib
import Gamebook.Proofs.Story.Failure

namespace Gamebook

-- A command and the time at which it is given.
structure Move where
  now     : Timestamp
  command : Command
deriving DecidableEq, Repr

-- A move within a run, together with the player who makes it.
structure Ply extends Move where
  player : Player
deriving DecidableEq, Repr

namespace Ply

def after (g : PlaceGraph) (x : Ply) : Player :=
  (x.player.execute g x.now x.command).1

def outcome (g : PlaceGraph) (x : Ply) : Except Mishap Response :=
  (x.player.execute g x.now x.command).2

end Ply

namespace Player

-- The player after a run of moves. What a move that fails has left is carried on.
def follow (g : PlaceGraph) (p : Player) (ms : List Move) : Player :=
  ms.foldl (fun p m => Ply.after g ⟨m, p⟩) p

def plies (g : PlaceGraph) (p : Player) : List Move → List Ply
  | []      => []
  | m :: ms => ⟨m, p⟩ :: plies g (Ply.after g ⟨m, p⟩) ms

end Player

variable {g : PlaceGraph} {p : Player} {m : Move} {ms ms' : List Move} {x : Ply} {r : Response}
  {e : Mishap}

namespace Player

theorem follow_cons : p.follow g (m :: ms) = (Ply.after g ⟨m, p⟩).follow g ms :=
  rfl

theorem follow_append : p.follow g (ms ++ ms') = (p.follow g ms).follow g ms' :=
  List.foldl_append

theorem follow_concat : p.follow g (ms ++ [m]) = Ply.after g ⟨m, p.follow g ms⟩ :=
  follow_append

theorem length_plies : (p.plies g ms).length = ms.length := by
  induction ms generalizing p with
  | nil          => rfl
  | cons m ms hi => rw [plies, List.length_cons, hi, List.length_cons]

theorem plies_append : p.plies g (ms ++ ms') = p.plies g ms ++ (p.follow g ms).plies g ms' := by
  induction ms generalizing p with
  | nil          => rfl
  | cons m ms hi => rw [List.cons_append, plies, hi, follow_cons, plies, List.cons_append]

theorem plies_concat : p.plies g (ms ++ [m]) = p.plies g ms ++ [⟨m, p.follow g ms⟩] :=
  plies_append

-- What every move keeps holds of the player at each move of a run.
theorem of_mem_plies {I : Player → Prop} (hs : ∀ x : Ply, I x.player → I (x.after g)) (hp : I p)
    (hx : x ∈ p.plies g ms) : I x.player := by
  induction ms generalizing p with
  | nil => cases hx
  | cons m ms hi =>
    cases List.mem_cons.mp hx
    case inl hx => exact hx ▸ hp
    case inr hx => exact hi (hs ⟨m, p⟩ hp) hx

end Player

namespace Ply

theorem after_of_error (h : x.outcome g = .error e) : x.after g = x.player.counted :=
  Player.execute_of_error h

theorem outcome_eq_error : x.outcome g = .error e ↔ FirstCause g x.player.placeId x.command e :=
  Player.execute_eq_error

-- A move that succeeds is a walk that is brought to its end.
theorem walk_of_ok (h : x.outcome g = .ok r) :
    ∃ w, Walk.ofCommand g x.player.placeId x.command = .ok w ∧ r.flatten = w.directives ∧
      x.after g = x.player.counted.commit x.now x.command w := by
  rw [outcome, Player.execute, show x.player.counted.placeId = x.player.placeId from rfl] at h
  rw [after, Player.execute, show x.player.counted.placeId = x.player.placeId from rfl]
  cases hw : Walk.ofCommand g x.player.placeId x.command with
  | ok w =>
    rw [hw] at h
    cases h
    exact ⟨w, rfl, Response.flatten_ofDirectives _, rfl⟩
  | error e =>
    rw [hw] at h
    cases h

end Ply
end Gamebook
