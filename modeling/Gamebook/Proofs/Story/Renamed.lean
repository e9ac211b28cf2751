import Mathlib
import Gamebook.Proofs.Story.Travel

namespace Gamebook

-- Other ids for places. Different places keep different ids, and the start keeps its own.
structure Renaming extends String ↪ String where
  start : toFun PlaceGraph.start = PlaceGraph.start

namespace Renaming

instance : CoeFun Renaming fun _ => String → String where
  coe f := f.toFun

theorem eq_iff (f : Renaming) {id id' : String} : f id = f id' ↔ id = id' :=
  f.injective.eq_iff

-- Two ids that are exchanged.
def swap (id id' : String) (h : PlaceGraph.start ≠ id) (h' : PlaceGraph.start ≠ id') : Renaming where
  toEmbedding := (Equiv.swap id id').toEmbedding
  start       := Equiv.swap_apply_of_ne_of_ne h h'

end Renaming

-- Of all that is in an adventure, only the ids of places and what leads to them are ids.

def Action.rename (f : Renaming) (a : Action) : Action :=
  { a with argument := if a.kind = .goto then f a.argument else a.argument }

def Place.rename (f : Renaming) (p : Place) : Place :=
  { p with id := f p.id, choices := p.choices.mapValues (List.map (Action.rename f)) }

def PlaceGraph.rename (f : Renaming) (g : PlaceGraph) : PlaceGraph :=
  ⟨(g.places.mapKeys f.toEmbedding).mapValues (Place.rename f)⟩

def Player.rename (f : Renaming) (p : Player) : Player :=
  { p with placeId := f p.placeId }

def Walk.rename (f : Renaming) (w : Walk) : Walk :=
  { w with place := w.place.rename f }

def Mishap.rename (f : Renaming) : Mishap → Mishap
  | noCurrentPlace id => noCurrentPlace (f id)
  | noTarget id       => noTarget (f id)
  | noStart           => noStart
  | invalidDelay v    => invalidDelay v

-- What has come of a command or a part of it, told under the other ids.
def Walk.renameOutcome (f : Renaming) (x : Except Mishap Walk) : Except Mishap Walk :=
  (x.map (rename f)).mapError (Mishap.rename f)

variable {f : Renaming} {g : PlaceGraph} {p : Place} {w : Walk} {c : Command} {a : Action} {as : List Action}

namespace PlaceGraph

theorem get?_rename {id : String} : (g.rename f).get? (f id) = (g.get? id).map (Place.rename f) := by
  rw [get?, rename, Ordered.get?_mapValues]
  exact congrArg _ Ordered.get?_mapKeys

theorem get?_start_rename : (g.rename f).get? start = (g.get? start).map (Place.rename f) := by
  have hs : f start = start := f.start
  have h : (g.rename f).get? (f start) = (g.get? start).map (Place.rename f) := get?_rename
  rwa [hs] at h

end PlaceGraph

theorem Place.get?_choices_rename :
    (p.rename f).choices.get? c = (p.choices.get? c).map (List.map (Action.rename f)) :=
  Ordered.get?_mapValues

namespace Walk

theorem goto_rename {q : Place} : (w.rename f).goto (q.rename f) = (w.goto q).rename f := by
  have hid : (q.rename f).id = (w.rename f).place.id ↔ q.id = w.place.id := f.eq_iff
  by_cases h : q.id = w.place.id
  case pos => rw [goto, goto, if_pos h, if_pos (hid.mpr h)]
  case neg =>
    rw [goto, goto, if_neg h, if_neg (mt hid.mp h)]
    rfl

theorem step_rename : step (g.rename f) (w.rename f) (a.rename f) = renameOutcome f (step g w a) := by
  obtain ⟨kind, argument⟩ := a
  cases kind with
  | goto =>
    simp only [step, Action.rename, if_true, PlaceGraph.get?_rename]
    cases g.get? argument with
    | none   => rfl
    | some q => exact congrArg Except.ok goto_rename
  | pause =>
    simp only [step, Action.rename, reduceCtorEq, if_false]
    cases h : delay argument with
    | ok s    => rfl
    | error m =>
      have hm : m = .invalidDelay argument := (delay_eq_error.mp h).right
      rw [hm]
      rfl
  | say | play => rfl

theorem run_rename : run (g.rename f) (w.rename f) (as.map (Action.rename f)) = renameOutcome f (run g w as) := by
  induction as generalizing w with
  | nil          => rfl
  | cons a as hi =>
    simp only [run, List.map_cons, List.foldlM_cons, step_rename]
    cases step g w a with
    | ok v    => exact hi
    | error m => rfl

theorem choose_rename : choose (g.rename f) (p.rename f) c = renameOutcome f (choose g p c) := by
  simp only [choose, Place.get?_choices_rename]
  cases p.choices.get? c with
  | some as => exact run_rename (w := .at p)
  | none    => by_cases h : c.IsOptional <;> simp only [h, if_true, if_false] <;> rfl

theorem navigates_rename : navigates (p.rename f) c = navigates p c := by
  simp only [navigates, Place.get?_choices_rename]
  cases p.choices.get? c with
  | none    => rfl
  | some as => simp [Action.rename, Function.comp_def]

theorem conclude_rename : conclude (g.rename f) (p.rename f) c (w.rename f) = renameOutcome f (conclude g p c w) := by
  cases c with
  | restart =>
    obtain ⟨_, _, described, _⟩ := w
    simp only [conclude, navigates_rename, PlaceGraph.get?_start_rename]
    cases navigates p .restart with
    | true  => cases described <;> rfl
    | false => cases g.get? PlaceGraph.start <;> rfl
  | _ => rfl

theorem ofCommand_rename {id : String} : ofCommand (g.rename f) (f id) c = renameOutcome f (ofCommand g id c) := by
  simp only [ofCommand, PlaceGraph.get?_rename]
  cases g.get? id with
  | none   => rfl
  | some p =>
    simp only [Option.map_some, choose_rename]
    cases choose g p c with
    | ok w    => exact conclude_rename
    | error m => rfl

end Walk

namespace Player

variable {q : Player} {now : Timestamp} {ms : List Move}

theorem commit_rename : (q.rename f).commit now c (w.rename f) = (q.commit now c w).rename f := by
  cases c <;> rfl

theorem execute_rename :
    (q.rename f).execute (g.rename f) now c =
      ((q.execute g now c).1.rename f, (q.execute g now c).2.mapError (Mishap.rename f)) := by
  have h : Walk.ofCommand (g.rename f) (q.rename f).counted.placeId c =
      Walk.renameOutcome f (Walk.ofCommand g q.counted.placeId c) := Walk.ofCommand_rename
  simp only [execute, h]
  cases Walk.ofCommand g q.counted.placeId c with
  | ok w    =>
    have hc : (q.rename f).counted.commit now c (w.rename f) = (q.counted.commit now c w).rename f :=
      commit_rename (q := q.counted)
    exact Prod.ext hc rfl
  | error m => rfl

-- Nothing but who is where and what is missing depends on what places are called.
theorem follow_rename (f : Renaming) (g : PlaceGraph) (p : Player) (ms : List Move) :
    ((p.rename f).plies (g.rename f) ms).map (Ply.outcome (g.rename f)) =
      (p.plies g ms).map (fun x => (x.outcome g).mapError (Mishap.rename f)) ∧
    ((p.rename f).plies (g.rename f) ms).map (Ply.after (g.rename f)) =
      (p.plies g ms).map (fun x => (x.after g).rename f) ∧
    (p.rename f).follow (g.rename f) ms = (p.follow g ms).rename f := by
  induction ms generalizing p with
  | nil          => exact ⟨rfl, rfl, rfl⟩
  | cons m ms hi =>
    have ha : Ply.after (g.rename f) ⟨m, p.rename f⟩ = (Ply.after g ⟨m, p⟩).rename f :=
      congrArg Prod.fst execute_rename
    have ho : Ply.outcome (g.rename f) ⟨m, p.rename f⟩ = (Ply.outcome g ⟨m, p⟩).mapError (Mishap.rename f) :=
      congrArg Prod.snd execute_rename
    obtain ⟨hos, has, hf⟩ := hi (Ply.after g ⟨m, p⟩)
    simp only [plies, List.map_cons, follow_cons, ha, ho, hos, has, hf, and_self]

end Player

-- The far bank goes by the name of the missing bridge, and the other way round.
def Renaming.bridge : Renaming :=
  swap "bank" "bridge" (by decide) (by decide)

namespace Player

theorem follow_rename_bridge :
    ((fresh "traveller" .morning).plies (PlaceGraph.crossing.rename .bridge)
      [⟨.morning, .option 0⟩, ⟨.morning, .no⟩]).map (Ply.outcome (PlaceGraph.crossing.rename .bridge))
        = [.ok (.multiple []), .error (.noTarget "bank")] ∧
    ((fresh "traveller" .morning).follow (PlaceGraph.crossing.rename .bridge)
      [⟨.morning, .option 0⟩, ⟨.morning, .no⟩]).placeId = "bridge" := by
  have ⟨ho, _, hf⟩ := follow_rename .bridge .crossing (fresh "traveller" .morning)
    [⟨.morning, .option 0⟩, ⟨.morning, .no⟩]
  have hp : (fresh "traveller" .morning).rename .bridge = fresh "traveller" .morning := rfl
  rw [hp] at ho hf
  exact ⟨ho, congrArg placeId hf⟩

end Player
end Gamebook
