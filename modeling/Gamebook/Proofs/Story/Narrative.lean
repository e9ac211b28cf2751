import Mathlib
import Gamebook.Proofs.Story.Travel

namespace Gamebook

-- Where one is who has set out somewhere and carried out some actions.
def Action.whereabouts (id : String) (as : List Action) : String :=
  (lastTarget? as).getD id

-- What a player is told on coming to a place.
def Place.arrival (p : Place) : List Directive :=
  p.texts ++ if p.finished then [.finished] else []

namespace PlaceGraph

-- What an action has a player told who is somewhere. It is no arrival to go where one already is.
def segment? (g : PlaceGraph) (here : String) (a : Action) : Option (List Directive) :=
  match a.kind with
  | .goto  => if a.argument = here then some [] else (g.get? a.argument).map Place.arrival
  | .say   => some [.say a.argument]
  | .pause => (Numeral.binary64? a.argument).map fun f => [.delay f]
  | .play  => some [.play a.argument]

-- What some actions have a player told, each where those before it have led.
def segments? (g : PlaceGraph) (id : String) (as : List Action) : Option (List (List Directive)) :=
  as.zipIdx.mapM fun (a, i) => g.segment? (Action.whereabouts id (as.take i)) a

-- What a command has a player told of its own accord, after the actions that are defined for it.
def epilogue? (g : PlaceGraph) (id : String) (c : Command) (as : List Action) : Option (List Directive) :=
  match c with
  | .describe => (g.get? (Action.whereabouts id as)).map Place.texts
  | .help     => (g.get? (Action.whereabouts id as)).map fun p => (p.instructions.map .say).toList
  | .restart  =>
    if ∀ a ∈ as, a.kind ≠ .goto then (g.get? start).map Place.texts
    else if ∀ a ∈ as, a.kind = .goto → a.argument = id then (g.get? id).map Place.texts
    else some []
  | .quit     => some [.bye]
  | _         => some []

-- All that a command has a player told who is somewhere, if some actions are defined for it there.
def narrative? (g : PlaceGraph) (id : String) (c : Command) (as : List Action) : Option (List Directive) := do
  let segments ← g.segments? id as
  let epilogue ← g.epilogue? id c as
  return segments.flatten ++ epilogue

end PlaceGraph

variable {g : PlaceGraph} {id : String} {p : Place} {c : Command} {w w' : Walk} {a : Action} {as : List Action}

namespace Action

theorem whereabouts_cons :
    whereabouts id (a :: as) = whereabouts (if a.kind = .goto then a.argument else id) as := by
  rw [whereabouts, whereabouts, lastTarget?_cons]
  cases lastTarget? as <;> split <;> rfl

theorem whereabouts_of_stays (h : ∀ a ∈ as, a.kind = .goto → a.argument = id) : whereabouts id as = id := by
  induction as with
  | nil          => rfl
  | cons a as hi =>
    obtain ⟨ha, has⟩ := List.forall_mem_cons.mp h
    rw [whereabouts_cons]
    split
    case isTrue hg  => exact ha hg ▸ hi has
    case isFalse hg => exact hi has

end Action

theorem binary64?_of_delay {v : String} {f : Binary64} (h : delay v = .ok f) : Numeral.binary64? v = some f := by
  rw [delay] at h
  split at h
  case h_1 f' hv =>
    split at h
    case isTrue =>
      cases h
      exact hv
    case isFalse => cases h
  case h_2 => cases h

namespace PlaceGraph

theorem segments?_cons : g.segments? id (a :: as) = do
    let segment ← g.segment? id a
    let segments ← g.segments? (if a.kind = .goto then a.argument else id) as
    return segment :: segments := by
  simp only [segments?, List.zipIdx_cons, List.mapM_cons, List.zipIdx_succ, List.mapM_map, Function.comp_def,
    List.take_succ_cons, Action.whereabouts_cons]
  rfl

theorem narrative?_eq_some {segments : List (List Directive)} {epilogue : List Directive}
    (hs : g.segments? id as = some segments) (he : g.epilogue? id c as = some epilogue) :
    g.narrative? id c as = some (segments.flatten ++ epilogue) := by
  rw [narrative?, hs, he]
  rfl

end PlaceGraph

namespace Walk

-- Each action has the player told its segment, and a place is described if one goes there from another.
theorem step_told (hk : g.Keyed) (h : step g w a = .ok w') :
    (∃ segment, g.segment? w.place.id a = some segment ∧ w'.directives = w.directives ++ segment) ∧
    (w'.described ↔ w.described ∨ a.kind = .goto ∧ a.argument ≠ w.place.id) := by
  obtain ⟨kind, argument⟩ := a
  cases kind with
  | goto =>
    simp only [step] at h
    split at h
    case h_1 q hq =>
      have hid : q.id = argument := hk.id_eq hq
      cases h
      simp only [PlaceGraph.segment?, goto, hid, hq, Option.map_some]
      split
      case isTrue he  => exact ⟨⟨[], rfl, (List.append_nil _).symm⟩, by simp [he]⟩
      case isFalse he => exact ⟨⟨q.arrival, rfl, List.append_assoc _ _ _⟩, by simp [he]⟩
    case h_2 => cases h
  | pause =>
    obtain ⟨f, hf, h⟩ := Chain.bind_eq_ok.mp h
    cases h
    simp only [PlaceGraph.segment?, binary64?_of_delay hf, Option.map_some]
    exact ⟨⟨_, rfl, rfl⟩, by simp [add]⟩
  | say | play =>
    cases h
    exact ⟨⟨_, rfl, rfl⟩, by simp [add]⟩

theorem run_told (hk : g.Keyed) (hw : w.Stands g) (h : run g w as = .ok w') :
    (∃ segments, g.segments? w.place.id as = some segments ∧ w'.directives = w.directives ++ segments.flatten) ∧
    (w'.described ↔ w.described ∨ ∃ a ∈ as, a.kind = .goto ∧ a.argument ≠ w.place.id) := by
  induction as generalizing w with
  | nil =>
    cases h
    exact ⟨⟨[], rfl, (List.append_nil _).symm⟩, by simp⟩
  | cons a as hi =>
    obtain ⟨v, hv, h⟩ := Chain.bind_eq_ok.mp h
    obtain ⟨hs, hp⟩ := step_stands hk hw hv
    obtain ⟨⟨segment, hg, hd⟩, hb⟩ := step_told hk hv
    obtain ⟨⟨segments, hgs, hds⟩, hbs⟩ := hi hs h
    refine ⟨⟨segment :: segments, ?_, ?_⟩, ?_⟩
    · rw [PlaceGraph.segments?_cons, hg, ← hp, hgs]
      rfl
    · rw [hds, hd, List.append_assoc, List.flatten_cons]
    · rw [hbs, hb, hp, List.exists_mem_cons_iff, or_assoc]
      by_cases ha : a.kind = .goto ∧ a.argument ≠ w.place.id
      case pos => simp [ha]
      case neg =>
        have he : (if a.kind = .goto then a.argument else w.place.id) = w.place.id := by
          by_cases hg : a.kind = .goto
          case pos => simpa [hg] using ha
          case neg => exact if_neg hg
        rw [he]

-- A walk that has set out from a place and carried out some actions.
structure Tells (g : PlaceGraph) (id : String) (as : List Action) (w : Walk) : Prop where
  stands    : w.Stands g
  place     : w.place.id = Action.whereabouts id as
  segments  : ∃ segments, g.segments? id as = some segments ∧ w.directives = segments.flatten
  described : w.described ↔ ∃ a ∈ as, a.kind = .goto ∧ a.argument ≠ id

theorem tells_at (hp : g.get? p.id = some p) : Tells g p.id [] (.at p) where
  stands    := hp
  place     := rfl
  segments  := ⟨[], rfl, rfl⟩
  described := by simp [Walk.at]

theorem choose_tells (hk : g.Keyed) (hp : g.get? p.id = some p) (hc : (p.choices.get? c).isSome ∨ c.IsOptional)
    (h : choose g p c = .ok w) : Tells g p.id ((p.choices.get? c).getD []) w := by
  rw [choose] at h
  cases has : p.choices.get? c with
  | none =>
    rw [has] at h hc
    rw [if_pos (hc.resolve_left Bool.false_ne_true)] at h
    cases h
    exact tells_at hp
  | some as =>
    rw [has] at h
    have hs : (Walk.at p).Stands g := hp
    obtain ⟨hw, hid⟩ := run_stands hk hs h
    obtain ⟨⟨segments, hss, hd⟩, hb⟩ := run_told hk hs h
    exact ⟨hw, hid, ⟨segments, hss, hd⟩, by simpa [Walk.at] using hb⟩

theorem navigates_iff : navigates p c ↔ ¬∀ a ∈ (p.choices.get? c).getD [], a.kind ≠ .goto := by
  rw [← Bool.not_eq_false, navigates_eq_false, Place.Stays]
  cases p.choices.get? c <;> simp

namespace Tells

theorem get?_place (h : Tells g id as w) : g.get? (Action.whereabouts id as) = some w.place :=
  h.place ▸ h.stands

-- What a command adds of its own accord depends on where the actions have led, and on whether they have led away.
theorem conclude (h : Tells g p.id ((p.choices.get? c).getD []) w) (hw : Walk.conclude g p c w = .ok w') :
    ∃ epilogue, g.epilogue? p.id c ((p.choices.get? c).getD []) = some epilogue ∧
      w'.directives = w.directives ++ epilogue := by
  cases c with
  | describe =>
    cases hw
    exact ⟨w.place.texts, by rw [PlaceGraph.epilogue?, h.get?_place, Option.map_some], rfl⟩
  | help =>
    cases hw
    exact ⟨_, by rw [PlaceGraph.epilogue?, h.get?_place, Option.map_some], rfl⟩
  | restart =>
    simp only [Walk.conclude] at hw
    split at hw
    case isTrue hn =>
      cases hw
      rw [PlaceGraph.epilogue?, if_neg (navigates_iff.mp hn)]
      split
      case isTrue hs =>
        have hd : ¬w.described := by
          rw [h.described]
          push Not
          exact hs
        have hp : g.get? p.id = some w.place := Action.whereabouts_of_stays hs ▸ h.get?_place
        rw [if_neg hd, hp]
        exact ⟨w.place.texts, rfl, rfl⟩
      case isFalse hs =>
        have hd : w.described := h.described.mpr (by simpa using hs)
        rw [if_pos hd]
        exact ⟨[], rfl, (List.append_nil _).symm⟩
    case isFalse hn =>
      split at hw
      case h_1 s hs =>
        cases hw
        rw [PlaceGraph.epilogue?, if_pos (not_not.mp (mt navigates_iff.mpr hn)), hs]
        exact ⟨s.texts, rfl, rfl⟩
      case h_2 => cases hw
  | quit =>
    cases hw
    exact ⟨[.bye], rfl, rfl⟩
  | _ =>
    cases hw
    exact ⟨[], rfl, (List.append_nil _).symm⟩

end Tells

theorem ofCommand_narrative (hk : g.Keyed) (hc : (g.choice? id c).isSome ∨ c.IsOptional)
    (h : ofCommand g id c = .ok w) : g.narrative? id c ((g.choice? id c).getD []) = some w.directives := by
  rw [ofCommand] at h
  split at h
  case h_1 p hp =>
    obtain ⟨v, hv, h⟩ := Chain.bind_eq_ok.mp h
    have hid : p.id = id := hk.id_eq hp
    rw [PlaceGraph.choice?_of_get? hp] at hc ⊢
    have ht := choose_tells hk (hid ▸ hp) hc hv
    obtain ⟨segments, hss, hd⟩ := ht.segments
    obtain ⟨epilogue, he, hd'⟩ := ht.conclude h
    rw [hid] at hss he
    rw [PlaceGraph.narrative?_eq_some hss he, hd', hd]
  case h_2 => cases h

end Walk

namespace Player

variable {q : Player} {now : Timestamp} {r : Response}

-- What a turn has the player told, action by action.
theorem execute_narrative (hk : g.Keyed) (hc : (g.choice? q.placeId c).isSome ∨ c.IsOptional)
    (h : (q.execute g now c).2 = .ok r) :
    g.narrative? q.placeId c ((g.choice? q.placeId c).getD []) = some r.flatten := by
  obtain ⟨w, hw, hr, _⟩ := Ply.walk_of_ok (x := ⟨⟨now, c⟩, q⟩) h
  exact hr ▸ Walk.ofCommand_narrative hk hc hw

end Player

-- A hut below a hill. Whoever starts over climbs the hill first, which is done but once.
def PlaceGraph.hill : PlaceGraph where
  places := ⟨[
    ("start", {
      id           := "start"
      description  := some "A hut."
      instructions := some "Mind the step."
      choices      := ⟨[(.restart, [
        ⟨.say, "Up!"⟩, ⟨.goto, "top"⟩, ⟨.goto, "top"⟩, ⟨.pause, "1.5"⟩, ⟨.play, "wind"⟩, ⟨.goto, "start"⟩
      ])], by decide⟩
    }),
    ("top", { id := "top", description := some "The top.", finished := true })
  ], show ["start", "top"].Nodup by decide⟩

namespace Player

-- A climb is an ending, even if it is followed by a rest and by the way back.
def climb : List Directive := [
  .say "Up!", .say "The top.", .finished, .delay (.finite false (3 * 2 ^ 51) (-52)), .play "wind",
  .say "A hut.", .say "Mind the step."
]

theorem execute_narrative_hill :
    PlaceGraph.hill.Keyed ∧ (PlaceGraph.hill.choice? "start" .restart).isSome ∧
    ((fresh "climber" .morning).execute .hill .morning .restart).2 = .ok (.ofDirectives climb) ∧
    PlaceGraph.hill.narrative? "start" .restart ((PlaceGraph.hill.choice? "start" .restart).getD []) = some climb := by
  have hk : PlaceGraph.hill.Keyed := by
    rw [PlaceGraph.Keyed]
    decide
  have hc : (PlaceGraph.hill.choice? "start" .restart).isSome := by decide
  have hr : ((fresh "climber" .morning).execute .hill .morning .restart).2 = .ok (.ofDirectives climb) := rfl
  have hn := execute_narrative hk (.inl hc) hr
  rw [Response.flatten_ofDirectives] at hn
  exact ⟨hk, hc, hr, hn⟩

end Player
end Gamebook
