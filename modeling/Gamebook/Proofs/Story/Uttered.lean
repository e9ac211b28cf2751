import Mathlib
import Gamebook.Proofs.Chain
import Gamebook.Proofs.Ordered
import Gamebook.Proofs.Story.Run

namespace Gamebook

-- What an action has a player told by itself. What is told of a place that it leads to is that place's.
def Action.Utters (a : Action) (d : Directive) : Prop :=
  match a.kind with
  | .goto  => False
  | .say   => d = .say a.argument
  | .pause => ∃ f, delay a.argument = .ok f ∧ d = .delay f
  | .play  => d = .play a.argument

namespace PlaceGraph

-- What can be told in an adventure: what its author has written, and what is told in all of them.
inductive Utters (g : PlaceGraph) (d : Directive) : Prop
  | text {q : Place} (hq : q ∈ g.places.values) (hd : d ∈ q.texts)
  | action {q : Place} {as : List Action} {a : Action} (hq : q ∈ g.places.values) (has : as ∈ q.choices.values)
      (ha : a ∈ as) (hd : a.Utters d)
  | own (hd : d = .notUnderstood ∨ d = .bye)

-- What the engine returns: what a command has come to, or an apology for one that has failed.
def Returns (g : PlaceGraph) (r : Response) : Prop :=
  ∃ (now : Timestamp) (p : Player) (c : Command), (p.execute g now c).2 = .ok r ∨ (p.attempt g now c).2 = r

end PlaceGraph

namespace Walk

-- The walks that there are in an adventure, on which nothing is told but what can be told there.
inductive Taken (g : PlaceGraph) : Walk → Prop
  | here {q : Place} (hq : q ∈ g.places.values) : Taken g (.at q)
  | tell {w : Walk} {ds : List Directive} (hw : Taken g w) (hd : ∀ d ∈ ds, g.Utters d) : Taken g (w.add ds)
  | goto {w : Walk} {q : Place} (hw : Taken g w) (hq : q ∈ g.places.values) : Taken g (w.goto q)
  | back {w : Walk} {q : Place} (hw : Taken g w) (hq : q ∈ g.places.values) : Taken g { w with place := q }

namespace Taken

variable {g : PlaceGraph} {p : Place} {w w' : Walk} {a : Action} {as : List Action} {c : Command} {id : String}
  {d : Directive}

theorem place_mem (h : Taken g w) : w.place ∈ g.places.values := by
  induction h with
  | here hq      => exact hq
  | tell _ _ hi  => exact hi
  | back _ hq    => exact hq
  | goto _ hq hi =>
    rw [Walk.goto]
    split
    case isTrue  => exact hi
    case isFalse => exact hq

-- Nothing is told but what can be told, and that an ending has been reached.
theorem uttered (h : Taken g w) (hd : d ∈ w.directives) : d = .finished ∨ g.Utters d := by
  induction h with
  | here         => cases hd
  | tell _ ht hi => exact (List.mem_append.mp hd).elim hi fun hd => .inr (ht d hd)
  | back _ _ hi  => exact hi hd
  | goto _ hq hi =>
    rw [Walk.goto] at hd
    split at hd
    case isTrue  => exact hi hd
    case isFalse =>
      rcases List.mem_append.mp hd with hd | hd
      · exact (List.mem_append.mp hd).elim hi fun hd => .inr (.text hq hd)
      · split at hd
        case isTrue  => exact .inl (List.mem_singleton.mp hd)
        case isFalse => cases hd

theorem tellOne (h : Taken g w) (hd : g.Utters d) : Taken g (w.add [d]) :=
  h.tell (List.forall_mem_singleton.mpr hd)

theorem describe (h : Taken g w) : Taken g w.describe :=
  h.tell fun _ => .text h.place_mem

theorem step (hw : Taken g w) (ha : ∀ d, a.Utters d → g.Utters d) (h : Walk.step g w a = .ok w') : Taken g w' := by
  obtain ⟨kind, argument⟩ := a
  cases kind with
  | goto =>
    simp only [Walk.step] at h
    split at h
    case h_1 q hq =>
      cases h
      exact hw.goto (Ordered.mem_values_of_get? hq)
    case h_2 => cases h
  | pause =>
    obtain ⟨f, hf, h⟩ := Chain.bind_eq_ok.mp h
    cases h
    exact hw.tellOne (ha _ ⟨f, hf, rfl⟩)
  | _ =>
    cases h
    exact hw.tellOne (ha _ rfl)

theorem run (hw : Taken g w) (ha : ∀ a ∈ as, ∀ d, a.Utters d → g.Utters d) (h : Walk.run g w as = .ok w') :
    Taken g w' := by
  induction as generalizing w with
  | nil =>
    cases h
    exact hw
  | cons a as hi =>
    obtain ⟨_, hv, h⟩ := Chain.bind_eq_ok.mp h
    rw [List.forall_mem_cons] at ha
    exact hi (hw.step ha.left hv) ha.right h

theorem choose (hp : p ∈ g.places.values) (h : Walk.choose g p c = .ok w) : Taken g w := by
  rw [Walk.choose] at h
  split at h
  case h_1 as has => exact (here hp).run (fun _ ha _ => .action hp (Ordered.mem_values_of_get? has) ha) h
  case h_2 =>
    cases h
    split
    case isTrue  => exact here hp
    case isFalse => exact (here hp).tellOne (.own (.inl rfl))

theorem conclude (hw : Taken g w) (h : Walk.conclude g p c w = .ok w') : Taken g w' := by
  cases c with
  | describe =>
    cases h
    exact hw.describe
  | help =>
    cases h
    exact hw.tell fun _ hd => .text hw.place_mem (List.mem_append_right _ hd)
  | restart =>
    simp only [Walk.conclude] at h
    split at h
    case isTrue =>
      cases h
      split
      case isTrue  => exact hw
      case isFalse => exact hw.describe
    case isFalse =>
      split at h
      case h_1 s hs =>
        cases h
        exact (hw.back (Ordered.mem_values_of_get? hs)).describe
      case h_2 => cases h
  | quit =>
    cases h
    exact hw.tellOne (.own (.inr rfl))
  | _ =>
    cases h
    exact hw

theorem ofCommand (h : Walk.ofCommand g id c = .ok w) : Taken g w := by
  rw [Walk.ofCommand] at h
  split at h
  case h_1 hp =>
    obtain ⟨_, hv, h⟩ := Chain.bind_eq_ok.mp h
    exact (choose (Ordered.mem_values_of_get? hp) hv).conclude h
  case h_2 => cases h

end Taken
end Walk

namespace PlaceGraph

variable {g : PlaceGraph} {p : Player} {now : Timestamp} {c : Command} {r : Response} {d : Directive}

theorem uttered_of_execute (h : (p.execute g now c).2 = .ok r) (hd : d ∈ r.flatten) :
    d = .finished ∨ g.Utters d := by
  have ⟨_, hw, hr, _⟩ := Ply.walk_of_ok (x := ⟨⟨now, c⟩, p⟩) h
  exact (Walk.Taken.ofCommand hw).uttered (hr ▸ hd)

theorem uttered_of_attempt (hd : d ∈ (p.attempt g now c).2.flatten) :
    d = .say Player.apology ∨ d = .finished ∨ g.Utters d := by
  cases he : (p.execute g now c).2 with
  | ok r    =>
    rw [Player.attempt_of_ok he] at hd
    exact .inr (uttered_of_execute he hd)
  | error m =>
    rw [Player.attempt_of_error he] at hd
    exact .inl (List.mem_singleton.mp hd)

theorem Returns.uttered (h : g.Returns r) (hd : d ∈ r.flatten) :
    d = .say Player.apology ∨ d = .finished ∨ g.Utters d := by
  obtain ⟨now, p, c, h | rfl⟩ := h
  · exact .inr (uttered_of_execute h hd)
  · exact uttered_of_attempt hd

end PlaceGraph
end Gamebook
