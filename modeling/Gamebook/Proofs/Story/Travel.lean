import Mathlib
import Gamebook.Proofs.Definition.Accepted
import Gamebook.Proofs.Story.Run

namespace Gamebook

-- Where the last of some actions that lead anywhere leads.
def Action.lastTarget? (as : List Action) : Option String :=
  ((as.filter (·.kind = .goto)).getLast?).map Action.argument

namespace PlaceGraph

-- What is defined for a command at a place.
def choice? (g : PlaceGraph) (id : String) (c : Command) : Option (List Action) :=
  (g.get? id).bind (·.choices.get? c)

-- Where a command leads that is carried out at a place.
def destination (g : PlaceGraph) (id : String) (c : Command) : String :=
  match (g.choice? id c).bind Action.lastTarget? with
  | some target => target
  | none        => if c = .restart then start else id

end PlaceGraph

-- The place that a mishap says is missing.
def Mishap.place? : Mishap → Option String
  | noCurrentPlace id => some id
  | noTarget id       => some id
  | noStart           => some PlaceGraph.start
  | invalidDelay _    => none

variable {g : PlaceGraph} {id : String} {p q : Place} {c : Command} {w w' : Walk} {a : Action}
  {as : List Action} {x : Ply} {m : Mishap} {r : Response}

namespace Action

theorem lastTarget?_cons :
    lastTarget? (a :: as) = (lastTarget? as).or (if a.kind = .goto then some a.argument else none) := by
  by_cases h : a.kind = .goto
  case pos =>
    simp only [lastTarget?, h, List.filter_cons, decide_true, if_true]
    rw [List.getLast?_cons]
    cases (as.filter (·.kind = .goto)).getLast? <;> rfl
  case neg => simp [lastTarget?, h]

theorem isSome_lastTarget? : (lastTarget? as).isSome = as.any (·.kind = .goto) := by
  induction as with
  | nil => rfl
  | cons a as hi =>
    rw [lastTarget?_cons, Option.isSome_or, hi, List.any_cons, Bool.or_comm]
    by_cases h : a.kind = .goto <;> simp [h]

end Action

namespace PlaceGraph

theorem mem_ids_of_get? (h : g.get? id = some p) : id ∈ g.ids :=
  Classical.byContradiction fun hn => nomatch h.symm.trans (get?_eq_none.mpr hn)

theorem mem_ids_iff : id ∈ g.ids ↔ g.contains id :=
  Ordered.contains_iff.symm

theorem choice?_of_get? (h : g.get? id = some p) : g.choice? id c = p.choices.get? c := by
  rw [choice?, h, Option.bind_some]

theorem Keyed.id_eq (hk : g.Keyed) (h : g.get? id = some p) : p.id = id :=
  hk _ (Ordered.mem_of_get? h)

end PlaceGraph

namespace Walk

-- The walk has come to a place of the graph.
def Stands (g : PlaceGraph) (w : Walk) : Prop :=
  g.get? w.place.id = some w.place

theorem place_goto (h : q.id = w.place.id → q = w.place) : (w.goto q).place = q := by
  rw [goto]
  split
  case isTrue hq => exact (h hq).symm
  case isFalse   => rfl

theorem step_stands (hk : g.Keyed) (hw : w.Stands g) (h : step g w a = .ok w') :
    w'.Stands g ∧ w'.place.id = if a.kind = .goto then a.argument else w.place.id := by
  obtain ⟨kind, argument⟩ := a
  cases kind with
  | goto =>
    simp only [step] at h
    split at h
    case h_1 q hq =>
      have hid : q.id = argument := hk.id_eq hq
      have hp : (w.goto q).place = q := place_goto fun he =>
        Option.some.inj ((hid ▸ hq).symm.trans (he ▸ hw))
      cases h
      rw [Stands, hp]
      exact ⟨hid ▸ hq, hid⟩
    case h_2 => cases h
  | pause =>
    obtain ⟨_, _, h⟩ := Chain.bind_eq_ok.mp h
    cases h
    exact ⟨hw, rfl⟩
  | say | play =>
    cases h
    exact ⟨hw, rfl⟩

theorem run_stands (hk : g.Keyed) (hw : w.Stands g) (h : run g w as = .ok w') :
    w'.Stands g ∧ w'.place.id = (Action.lastTarget? as).getD w.place.id := by
  induction as generalizing w with
  | nil =>
    cases h
    exact ⟨hw, rfl⟩
  | cons a as hi =>
    have ⟨v, hv, h⟩ := Chain.bind_eq_ok.mp h
    have ⟨hs, hp⟩ := step_stands hk hw hv
    have ⟨hs', hp'⟩ := hi hs h
    refine ⟨hs', ?_⟩
    rw [hp', hp, Action.lastTarget?_cons]
    cases Action.lastTarget? as <;> split <;> rfl

theorem choose_stands (hk : g.Keyed) (hp : g.get? p.id = some p) (h : choose g p c = .ok w) :
    w.Stands g ∧ w.place.id = ((p.choices.get? c).bind Action.lastTarget?).getD p.id := by
  rw [choose] at h
  split at h
  case h_1 hc => exact hc ▸ run_stands (w := .at p) hk hp h
  case h_2 hc =>
    cases h
    rw [hc]
    split <;> exact ⟨hp, rfl⟩

theorem navigates_eq : navigates p c = ((p.choices.get? c).bind Action.lastTarget?).isSome := by
  rw [navigates]
  cases p.choices.get? c
  case none    => rfl
  case some as => exact Action.isSome_lastTarget?.symm

-- Of the commands, only a restart leads anywhere of its own accord.
theorem conclude_stands (hk : g.Keyed) (hw : w.Stands g) (h : conclude g p c w = .ok w') :
    w'.Stands g ∧ w'.place.id =
      if c = .restart ∧ navigates p c = false then PlaceGraph.start else w.place.id := by
  cases c with
  | restart =>
    simp only [conclude] at h
    split at h
    case isTrue hn =>
      cases h
      refine ⟨?_, ?_⟩ <;> split <;> simp_all [Stands, describe, add]
    case isFalse hn =>
      split at h
      case h_1 s hs =>
        cases h
        have hid : s.id = PlaceGraph.start := hk.id_eq hs
        refine ⟨?_, by simp [describe, add, hn, hid]⟩
        exact (congrArg g.get? hid).trans hs
      case h_2 => cases h
  | _ =>
    cases h
    exact ⟨hw, by simp [describe, add]⟩

theorem ofCommand_stands (hk : g.Keyed) (h : ofCommand g id c = .ok w) :
    w.Stands g ∧ w.place.id = g.destination id c := by
  rw [ofCommand] at h
  split at h
  case h_1 p hp =>
    obtain ⟨v, hv, h⟩ := Chain.bind_eq_ok.mp h
    have hid : p.id = id := hk.id_eq hp
    obtain ⟨hs, he⟩ := choose_stands hk (hid ▸ hp) hv
    obtain ⟨hs', he'⟩ := conclude_stands hk hs h
    refine ⟨hs', ?_⟩
    rw [he', he, navigates_eq, PlaceGraph.destination, PlaceGraph.choice?_of_get? hp, hid]
    cases (p.choices.get? c).bind Action.lastTarget? <;> simp
  case h_2 => cases h

end Walk

theorem Player.placeId_commit {p : Player} {now : Timestamp} : (p.commit now c w).placeId = w.place.id := by
  cases c <;> rfl

namespace Ply

theorem placeId_of_ok (hk : g.Keyed) (h : x.outcome g = .ok r) :
    (x.after g).placeId = g.destination x.player.placeId x.command ∧ (x.after g).placeId ∈ g.ids := by
  have ⟨w, hw, _, ha⟩ := walk_of_ok h
  have ⟨hs, hd⟩ := Walk.ofCommand_stands hk hw
  have hp : (x.after g).placeId = w.place.id := ha ▸ Player.placeId_commit
  exact hp ▸ ⟨hd, PlaceGraph.mem_ids_of_get? hs⟩

theorem placeId_of_error (h : x.outcome g = .error m) : (x.after g).placeId = x.player.placeId :=
  after_of_error h ▸ rfl

theorem mem_ids_after (hk : g.Keyed) (hx : x.player.placeId ∈ g.ids) : (x.after g).placeId ∈ g.ids := by
  cases h : x.outcome g
  case ok    => exact (placeId_of_ok hk h).right
  case error => exact placeId_of_error h ▸ hx

-- Where the player is and where the adventure starts are never what is missing.
theorem missing_of_error (hg : g.WellFormed) (hx : x.player.placeId ∈ g.ids)
    (h : x.outcome g = .error m) (hm : m.place? = some id) :
    id ∉ g.ids ∧ ∃ as, g.choice? x.player.placeId x.command = some as ∧ ⟨.goto, id⟩ ∈ as := by
  cases outcome_eq_error.mp h with
  | place hn                => exact absurd hx hn
  | start _ _ _ _ hn        => exact absurd (PlaceGraph.mem_ids_iff.mpr hg.start) hn
  | action hp hc _ hf =>
    cases hf with
    | pause     => cases hm
    | goto hn =>
      cases hm
      exact ⟨hn, _, (PlaceGraph.choice?_of_get? hp).trans hc, List.mem_append_cons_self⟩

end Ply

namespace Player

variable {p : Player} {ms : List Move}

-- Whatever players do, they are always at a place from where they can go on.
theorem never_stranded {source : String} {hint : Option String}
    (h : Definition.parse source hint = .ok g) (hp : g.contains p.placeId) (ms : List Move) :
    (∀ recordId now, g.contains (fresh recordId now).placeId) ∧
    ∀ x ∈ p.plies g ms,
      g.contains (x.after g).placeId ∧
      (∀ r, x.outcome g = .ok r →
        (x.after g).placeId = g.destination x.player.placeId x.command) ∧
      (∀ m, x.outcome g = .error m → (x.after g).placeId = x.player.placeId) ∧
      (∀ m id, x.outcome g = .error m → m.place? = some id →
        (∃ as, g.choice? x.player.placeId x.command = some as ∧ ⟨.goto, id⟩ ∈ as) ∧
        id ≠ x.player.placeId ∧ id ≠ PlaceGraph.start) := by
  have hg := Definition.wellFormed_of_parse h
  refine ⟨fun _ _ => hg.start, fun x hx => ?_⟩
  have hi : x.player.placeId ∈ g.ids :=
    of_mem_plies (I := fun p => p.placeId ∈ g.ids) (fun _ => Ply.mem_ids_after hg.keyed)
      (PlaceGraph.mem_ids_iff.mpr hp) hx
  refine ⟨PlaceGraph.mem_ids_iff.mp (Ply.mem_ids_after hg.keyed hi), ?_, ?_, ?_⟩
  · intro r hr
    exact (Ply.placeId_of_ok hg.keyed hr).left
  · intro m hm
    exact Ply.placeId_of_error hm
  · intro m id hm hid
    have ⟨hn, ha⟩ := Ply.missing_of_error hg hi hm hid
    exact ⟨ha, fun he => hn (he ▸ hi), fun he => hn (he ▸ PlaceGraph.mem_ids_iff.mpr hg.start)⟩

end Player

-- Two banks of a river. Whoever takes the first option goes over, back and over again.
def PlaceGraph.crossing : PlaceGraph where
  places := ⟨[
    ("start", {
      id      := "start"
      choices := ⟨[(.option 0, [⟨.goto, "bank"⟩, ⟨.goto, "start"⟩, ⟨.goto, "bank"⟩])], by decide⟩
    }),
    ("bank", {
      id      := "bank"
      choices := ⟨[(.no, [⟨.say, "No way."⟩, ⟨.goto, "bridge"⟩])], by decide⟩
    })
  ], by decide⟩

theorem PlaceGraph.wellFormed_crossing : crossing.WellFormed :=
  ⟨by unfold Keyed; decide, by decide⟩

def crossingText : String :=
  "\x7b\"places\": \x7b" ++
    "\"start\": \x7b\"choices\": \x7b\"1\": " ++
      "[\x7b\"Goto\": \"bank\"\x7d, \x7b\"Goto\": \"start\"\x7d, \x7b\"Goto\": \"bank\"\x7d]\x7d\x7d, " ++
    "\"bank\": \x7b\"choices\": \x7b\"No\": [\x7b\"Say\": \"No way.\"\x7d, \x7b\"Goto\": \"bridge\"\x7d]\x7d\x7d\x7d\x7d"

def crossingJson : Json :=
  .obj [("places", .obj [
    ("start", .obj [("choices", .obj [("1", .arr
      [.obj [("Goto", .str "bank")], .obj [("Goto", .str "start")], .obj [("Goto", .str "bank")]])])]),
    ("bank", .obj [("choices", .obj [("No", .arr
      [.obj [("Say", .str "No way.")], .obj [("Goto", .str "bridge")]])])])])]

namespace Definition

theorem parse_crossing : parse crossingText (some "json") = .ok .crossing := by
  have ht : crossingText.toList = _ :=
    toList_append_eq (toList_append_eq (toList_append_eq String.toList_ofList String.toList_ofList)
      String.toList_ofList) String.toList_ofList
  rw [parse_of_readDocument (j := crossingJson) ht (by cbv)]
  decide +kernel

end Definition

namespace Player

-- Over the river, in vain to the bridge, and back to the start.
theorem never_stranded_crossing :
    Definition.parse crossingText (some "json") = .ok .crossing ∧
    ∃ x y z : Ply,
      (fresh "traveller" .morning).plies .crossing
        [⟨.morning, .option 0⟩, ⟨.morning, .no⟩, ⟨.morning, .restart⟩] = [x, y, z] ∧
      (x.after .crossing).placeId = "bank" ∧
      (y.after .crossing).placeId = "bank" ∧ "bridge" ≠ y.player.placeId ∧
      (z.after .crossing).placeId = "start" := by
  have h := Definition.parse_crossing
  obtain ⟨_, hx⟩ := never_stranded h (p := fresh "traveller" .morning) (by decide)
    [⟨.morning, .option 0⟩, ⟨.morning, .no⟩, ⟨.morning, .restart⟩]
  refine ⟨h, _, _, _, rfl, ?_, ?_, ?_, ?_⟩
  · exact (hx _ (.head _)).right.left _ rfl
  · exact (hx _ (.tail _ (.head _))).right.right.left (.noTarget "bridge") rfl
  · exact ((hx _ (.tail _ (.head _))).right.right.right (.noTarget "bridge") "bridge" rfl rfl).right.left
  · exact (hx _ (.tail _ (.tail _ (.head _)))).right.left _ rfl

end Player
end Gamebook
