import Mathlib
import Gamebook.Proofs.Definition.Accepted
import Gamebook.Proofs.Definition.Meaning
import Gamebook.Proofs.Definition.Verdict
import Gamebook.Proofs.Story.Failure

namespace Gamebook

namespace Json

variable {ms : List (String × Json)} {name : String} {j : Json}

theorem get?_of_member? (h : member? ms name = some j) : get? ms name = some j := by
  rw [member?] at h
  split at h
  case h_1 => cases h
  case h_2 => exact h

theorem ne_null_of_member? (h : member? ms name = some j) : j ≠ null := by
  rintro rfl
  rw [member?, get?_of_member? h] at h
  cases h

end Json

theorem Datum.member?_ofMembers (ms : List (String × Json)) (name : String) :
    member? (ofMembers ms) name = (Json.member? ms name).map ofJson := by
  rw [member?, get?_ofMembers, Json.member?]
  cases Json.get? ms name with
  | none   => rfl
  | some j => cases j <;> rfl

namespace Definition

open Chain

variable {path : Path} {j j' : Json} {m m' : String × Json} {ms es es' es'' : List (String × Json)} {name id : String}
  {a : Action} {as : List Action} {p q : Place} {g g' : PlaceGraph}

-- What is built is what is defined, part by part.

theorem textOf_eq_ok {s : String} (h : j ≠ .null) (hj : j.IsFlat) : textOf (.ofJson j) = .ok s ↔ DefinesText j s := by
  cases j
  case null  => contradiction
  case bool b =>
    cases b <;> simp [DefinesText, Json.text?, textOf, Datum.ofJson, Datum.toText, Datum.isOversize, Scalar.isOversize]
  case int i =>
    rw [DefinesText, Json.text?, textOf, Datum.isOversize_ofJson]
    cases (Json.int i).isOversize <;> simp [Datum.ofJson, Datum.toText, Scalar.toText]
  case float | str =>
    simp [DefinesText, Json.text?, textOf, Datum.ofJson, Datum.toText, Datum.isOversize, Scalar.isOversize,
      Scalar.toText]
  case arr | obj => cases hj

theorem argument_eq_ok {kind : ActionKind} (h : j ≠ .null) (hj : j.IsFlat) :
    (textOf (.ofJson j) >>= fun s => .ok ⟨kind, s⟩) = Except.ok a ↔ kind = a.kind ∧ DefinesText j a.argument := by
  simp only [bind_eq_ok, textOf_eq_ok h hj, Except.ok.injEq]
  constructor
  · rintro ⟨s, hs, rfl⟩
    exact ⟨rfl, hs⟩
  · rintro ⟨rfl, ha⟩
    exact ⟨a.argument, ha, rfl⟩

theorem definesAction_singleton {value : Json} :
    DefinesAction (.obj [(name, value)]) a ↔ a.kind.Spells name ∧ DefinesText value a.argument := by
  simp [DefinesAction]

theorem buildAction_eq_ok : buildAction path (.ofJson j) = .ok a ↔ DefinesAction j a := by
  cases j
  case obj ms =>
    rcases ms with _ | ⟨⟨name, value⟩, _ | ⟨m, ms⟩⟩
    case cons.nil =>
      simp only [Datum.ofJson, Datum.ofMembers, buildAction, nameOf_text, ok_bind, definesAction_singleton,
        ← ActionKind.parse_eq_some_iff]
      cases ActionKind.parse name with
      | none      => simp
      | some kind =>
        rw [Option.some.injEq]
        cases value
        case null | arr | obj => simp [Datum.ofJson, DefinesText, Json.text?]
        all_goals exact argument_eq_ok (by simp) trivial
    all_goals simp [Datum.ofJson, Datum.ofMembers, buildAction, DefinesAction]
  all_goals simp [Datum.ofJson, buildAction, DefinesAction]

theorem buildActions_eq_ok {items : List Json} :
    buildActions path (Datum.ofItems items) = .ok as ↔ List.Forall₂ DefinesAction items as := by
  have h : List.Forall₂ (fun x a => DefinesAction x.1 a) items.zipIdx as ↔ List.Forall₂ DefinesAction items as := by
    rw [← List.forall₂_map_left_iff (R := DefinesAction), List.zipIdx_map_fst]
  rw [← h, buildActions, Datum.ofItems_eq_map, List.zipIdx_map, List.mapM_map, mapM_eq_ok_iff]
  simp only [Function.comp_def, Prod.map, id_eq, buildAction_eq_ok]

theorem buildChoice_eq_ok {e : Command × List Action} :
    buildChoice path (.text m.1) (.ofJson m.2) = .ok e ↔ DefinesChoice m e := by
  obtain ⟨name, value⟩ := m
  simp only [buildChoice, nameOf_text, ok_bind, DefinesChoice, ← Command.parse_eq_some_iff]
  cases Command.parse name with
  | none         => simp
  | some command =>
    cases value
    case arr items =>
      simp only [Datum.ofJson, bind_eq_ok, buildActions_eq_ok, pure, Except.pure, Except.ok.injEq, Option.some.injEq,
        Json.arr.injEq]
      constructor
      · rintro ⟨as, has, rfl⟩
        exact ⟨rfl, items, rfl, has⟩
      · rintro ⟨rfl, _, rfl, has⟩
        exact ⟨e.2, has, rfl⟩
    all_goals simp [Datum.ofJson]

theorem buildChoices_eq_ok {choices : Ordered Command (List Action)} :
    buildChoices path (Datum.ofMembers es) = .ok choices ↔ DefinesChoices es choices := by
  simp only [buildChoices, Datum.ofMembers_eq_map, List.mapM_map, bind_eq_ok, mapM_eq_ok_iff, Function.comp_apply,
    buildChoice_eq_ok, pure, Except.pure, Except.ok.injEq, DefinesChoices]
  refine exists_congr fun cs => and_congr_right fun _ => ⟨?_, ?_⟩
  · rintro rfl
    exact ⟨Ordered.keys_ofList, fun _ => Ordered.get?_ofList⟩
  · rintro ⟨hk, hc⟩
    exact Ordered.eq_of_get? (Ordered.keys_ofList.trans hk.symm) fun c => Ordered.get?_ofList.trans (hc c).symm

theorem optionalObject_eq_ok {entries : List (Scalar × Datum)} :
    optionalObject (Datum.ofMembers ms) name path = .ok entries ↔
      ∃ es, Json.entries? ms name = some es ∧ Datum.ofMembers es = entries := by
  rw [optionalObject, Datum.member?_ofMembers, Json.entries?]
  cases Json.member? ms name with
  | none   => simp [Datum.ofMembers]
  | some j => cases j <;> simp [Datum.ofJson]

theorem optionalText_eq_ok {text : Option String} :
    optionalText (Datum.ofMembers ms) name path = .ok text ↔ Option.Rel DefinesText (Json.member? ms name) text := by
  rw [optionalText, Datum.member?_ofMembers]
  cases h : Json.member? ms name with
  | none   => cases text <;> simp
  | some j =>
    have hj := Json.ne_null_of_member? h
    have ht : (some <$> textOf (.ofJson j)) = .ok text ↔ ∃ s, textOf (.ofJson j) = .ok s ∧ some s = text := map_eq_ok
    cases j
    case null      => contradiction
    case arr | obj => cases text <;> simp [Datum.ofJson, DefinesText, Json.text?]
    all_goals
      refine ht.trans ?_
      cases text <;> simp [textOf_eq_ok hj trivial]

theorem optionalFlag_eq_ok {flag : Bool} :
    optionalFlag (Datum.ofMembers ms) name path = .ok flag ↔ DefinesFlag (Json.member? ms name) flag := by
  rw [optionalFlag, Datum.member?_ofMembers]
  cases h : Json.member? ms name with
  | none   => simp [DefinesFlag]
  | some j =>
    have hj := Json.ne_null_of_member? h
    cases j
    case null => contradiction
    all_goals cases flag <;> simp [Datum.ofJson, DefinesFlag, Json.IsFlat, isTrueText]

theorem buildPlace_eq_ok : buildPlace id path (.ofJson j) = .ok p ↔ DefinesPlace id j p := by
  cases j
  case obj ms =>
    simp only [Datum.ofJson, buildPlace, bind_eq_ok, optionalObject_eq_ok, optionalText_eq_ok, optionalFlag_eq_ok,
      pure, Except.pure, Except.ok.injEq]
    constructor
    · rintro ⟨_, ⟨es, he, rfl⟩, choices, hc, description, hd, instructions, hi, finished, hf, rfl⟩
      exact ⟨ms, rfl, rfl, hd, hi, hf, es, he, buildChoices_eq_ok.mp hc⟩
    · rintro ⟨_, hm, h⟩
      cases hm
      obtain ⟨es, he, hc⟩ := h.choices
      refine ⟨_, ⟨es, he, rfl⟩, p.choices, buildChoices_eq_ok.mpr hc, _, h.description, _, h.instructions, _,
        h.finished, ?_⟩
      exact Place.ext h.id.symm rfl rfl rfl rfl
  all_goals simp [Datum.ofJson, buildPlace, DefinesPlace]

theorem DefinesPlace.unique (h : DefinesPlace id j p) (h' : DefinesPlace id j q) : p = q := by
  have hp : buildPlace id [] (.ofJson j) = .ok p := buildPlace_eq_ok.mpr h
  have hq : buildPlace id [] (.ofJson j) = .ok q := buildPlace_eq_ok.mpr h'
  exact Except.ok.inj (hp.symm.trans hq)

-- An entry of a graph that is being built.
def DefinesEntry (m : String × Json) (e : String × Place) : Prop :=
  e.1 = m.1 ∧ DefinesPlace m.1 m.2 e.2

theorem buildEntry_eq_ok {e : String × Place} :
    (buildPlace m.1 path (.ofJson m.2) >>= fun p => pure (m.1, p)) = Except.ok e ↔ DefinesEntry m e := by
  simp only [bind_eq_ok, buildPlace_eq_ok, pure, Except.pure, Except.ok.injEq, DefinesEntry]
  constructor
  · rintro ⟨p, hp, rfl⟩
    exact ⟨rfl, hp⟩
  · rintro ⟨he, hp⟩
    exact ⟨e.2, hp, Prod.ext he.symm rfl⟩

theorem build_eq_ok_iff_entries : build (.ofJson (.obj ms)) = .ok g ↔ ∃ es places,
    Json.entries? ms "places" = some es ∧ List.Forall₂ DefinesEntry es places ∧ ⟨addStart (.ofList places)⟩ = g := by
  simp only [Datum.ofJson, build, bind_eq_ok, optionalObject_eq_ok]
  constructor
  · rintro ⟨_, ⟨es, he, rfl⟩, places, hp, h⟩
    rw [Datum.ofMembers_eq_map, List.mapM_map, mapM_eq_ok_iff] at hp
    exact ⟨es, places, he, hp.imp fun _ _ => buildEntry_eq_ok.mp, Except.ok.inj h⟩
  · rintro ⟨es, places, he, hp, rfl⟩
    refine ⟨_, ⟨es, he, rfl⟩, places, ?_, rfl⟩
    rw [Datum.ofMembers_eq_map, List.mapM_map, mapM_eq_ok_iff]
    exact hp.imp fun _ _ => buildEntry_eq_ok.mpr

theorem entries_addStart {places : Ordered String Place} : (addStart places).entries =
    places.entries ++ if PlaceGraph.start ∈ places.keys then [] else [(PlaceGraph.start, placeholder)] := by
  rw [addStart]
  by_cases h : PlaceGraph.start ∈ places.keys
  case pos => rw [if_pos (Ordered.contains_iff.mpr h), if_pos h, List.append_nil]
  case neg =>
    rw [if_neg (mt Ordered.contains_iff.mp h), if_neg h]
    exact Ordered.put_of_not_mem h

theorem definesPlaces_of_entries {places : List (String × Place)} (hn : (es.map Prod.fst).Nodup)
    (h : List.Forall₂ DefinesEntry es places) : DefinesPlaces es ⟨addStart (.ofList places)⟩ := by
  have hk : es.map Prod.fst = places.map Prod.fst := map_eq_of_forall₂ h fun _ _ h => h.left.symm
  have he : (Ordered.ofList places).entries = places := Ordered.entries_ofList (hk ▸ hn)
  have hks : (Ordered.ofList places).keys = es.map Prod.fst := by rw [Ordered.keys, he, hk]
  have hs : (addStart (.ofList places)).entries =
      places ++ if PlaceGraph.start ∈ es.map Prod.fst then [] else [(PlaceGraph.start, placeholder)] := by
    simp only [entries_addStart, hks, he]
  refine ⟨?_, fun m hm p => ?_, fun hm => ?_⟩
  · rw [PlaceGraph.ids, Ordered.keys, hs, List.map_append, ← hk]
    split <;> rfl
  · obtain ⟨e, hep, hid, hd⟩ := exists_of_mem_forall₂ h hm
    have hg : PlaceGraph.get? ⟨addStart (.ofList places)⟩ m.1 = some e.2 :=
      hid ▸ Ordered.get?_of_mem (hs ▸ List.mem_append_left _ hep)
    rw [hg]
    exact ⟨fun hp => Option.some.inj hp ▸ hd, fun hp => congrArg some (hd.unique hp)⟩
  · apply Ordered.get?_of_mem (e := (PlaceGraph.start, placeholder))
    rw [hs, if_neg hm]
    exact List.mem_append_right _ (List.mem_singleton_self _)

namespace DefinesPlaces

theorem mem_ids (h : DefinesPlaces es g) : id ∈ g.ids ↔ id ∈ es.map Prod.fst ∨ id = PlaceGraph.start := by
  rw [h.ids, List.mem_append]
  split
  case isTrue hs  => rw [or_iff_left List.not_mem_nil, or_iff_left_of_imp (· ▸ hs)]
  case isFalse hs => rw [List.mem_singleton]

theorem exists_place (h : DefinesPlaces es g) (hm : m ∈ es) : ∃ p, DefinesPlace m.1 m.2 p := by
  have hi : m.1 ∈ g.ids := h.mem_ids.mpr (.inl (List.mem_map_of_mem hm))
  obtain ⟨p, hp⟩ := Option.ne_none_iff_exists'.mp (mt PlaceGraph.get?_eq_none.mp (not_not.mpr hi))
  exact ⟨p, (h.place m hm p).mp hp⟩

-- Two graphs hold the same places if what defines a place of the one also defines it for the other.
theorem get?_eq (h : DefinesPlaces es g) (h' : DefinesPlaces es' g') (hk : (es'.map Prod.fst).Perm (es.map Prod.fst))
    (hm : ∀ m ∈ es, ∃ m' ∈ es', m'.1 = m.1 ∧ ∀ p, DefinesPlace m.1 m.2 p → DefinesPlace m'.1 m'.2 p) (id : String) :
    g'.get? id = g.get? id := by
  by_cases hi : id ∈ es.map Prod.fst
  case pos =>
    obtain ⟨m, hmes, rfl⟩ := List.mem_map.mp hi
    obtain ⟨p, hp⟩ := h.exists_place hmes
    obtain ⟨m', hm', hid, hd⟩ := hm m hmes
    rw [(h.place m hmes p).mpr hp, ← hid]
    exact (h'.place m' hm' p).mpr (hd p hp)
  case neg =>
    have hi' : id ∉ es'.map Prod.fst := mt hk.mem_iff.mp hi
    by_cases hs : id = PlaceGraph.start
    case pos =>
      subst hs
      rw [h.start hi, h'.start hi']
    case neg =>
      have hg : g.get? id = none := PlaceGraph.get?_eq_none.mpr fun hg => (h.mem_ids.mp hg).elim hi hs
      have hg' : g'.get? id = none := PlaceGraph.get?_eq_none.mpr fun hg => (h'.mem_ids.mp hg).elim hi' hs
      rw [hg, hg']

theorem ids_perm (h : DefinesPlaces es g) (h' : DefinesPlaces es' g')
    (hk : (es'.map Prod.fst).Perm (es.map Prod.fst)) : g'.ids.Perm g.ids := by
  rw [h.ids, h'.ids]
  simp only [hk.mem_iff]
  exact hk.append_right _

theorem unique (h : DefinesPlaces es g) (h' : DefinesPlaces es g') : g' = g := by
  refine PlaceGraph.ext (Ordered.eq_of_get? (h'.ids.trans h.ids.symm) ?_)
  exact h.get?_eq h' (.refl _) fun m hm => ⟨m, hm, rfl, fun _ hp => hp⟩

end DefinesPlaces

theorem nodup_places (hj : (Json.obj ms).Distinct) (h : Json.entries? ms "places" = some es) :
    (es.map Prod.fst).Nodup := by
  rw [Json.entries?] at h
  split at h
  case h_1 =>
    cases h
    exact List.nodup_nil
  case h_2 es' hm =>
    cases h
    cases hj
    case flat hf  => cases hf
    case obj hd _ =>
      cases hd _ (Json.mem_of_get? (Json.get?_of_member? hm))
      case flat hf  => cases hf
      case obj _ hn => exact hn
  case h_3 => cases h

theorem exists_build (hn : (es.map Prod.fst).Nodup) (he : Json.entries? ms "places" = some es)
    (h : ∀ m ∈ es, ∃ p, DefinesPlace m.1 m.2 p) : ∃ g, build (.ofJson (.obj ms)) = .ok g ∧ DefinesPlaces es g := by
  have hs : ∀ m ∈ es, ∃ e, DefinesEntry m e := fun m hm =>
    have ⟨p, hp⟩ := h m hm
    ⟨(m.1, p), rfl, hp⟩
  obtain ⟨places, hp⟩ := exists_forall₂ hs
  exact ⟨_, build_eq_ok_iff_entries.mpr ⟨es, places, he, hp, rfl⟩, definesPlaces_of_entries hn hp⟩

theorem build_eq_ok_iff (hj : j.Distinct) : build (.ofJson j) = .ok g ↔ Defines j g := by
  constructor
  · intro h
    cases j
    case obj ms =>
      obtain ⟨es, places, he, hp, rfl⟩ := build_eq_ok_iff_entries.mp h
      exact ⟨ms, es, rfl, he, definesPlaces_of_entries (nodup_places hj he) hp⟩
    all_goals cases h
  · rintro ⟨ms, es, rfl, he, h⟩
    obtain ⟨g', hg, h'⟩ := exists_build (nodup_places hj he) he fun m hm => h.exists_place hm
    exact h'.unique h ▸ hg

-- What is spelled differently is the same.

theorem DefinesAction.respelled (h : RespellsAction j j') (hd : DefinesAction j a) : DefinesAction j' a := by
  obtain ⟨kind, name, name', value, rfl, rfl, hn, hn'⟩ := h
  obtain ⟨_, _, hj, ha, ht⟩ := hd
  cases hj
  exact ⟨name', value, rfl, hn.unique ha ▸ hn', ht⟩

theorem DefinesChoice.respelled {e : Command × List Action} (h : RespellsChoice m m') (hd : DefinesChoice m e) :
    DefinesChoice m' e := by
  obtain ⟨c, items, items', hn, hn', hi, hi', hr⟩ := h
  obtain ⟨he, _, hj, has⟩ := hd
  cases hi.symm.trans hj
  exact ⟨hn.unique he ▸ hn', items', hi', forall₂_of_forall₂ hr has fun _ _ _ h hd => hd.respelled h⟩

theorem DefinesPlace.respelled (h : RespellsPlace m m') (hd : DefinesPlace m.1 m.2 p) : DefinesPlace m'.1 m'.2 p := by
  obtain ⟨hid, ms, ms', es, es', hj, hj', hs, he, he', hr⟩ := h
  obtain ⟨_, ho, hd⟩ := hd
  cases hj.symm.trans ho
  have hm (name : String) (hn : name ≠ "choices") : Json.member? ms name = Json.member? ms' name := by
    rw [Json.member?, Json.member?, hs name hn]
  obtain ⟨_, hes, cs, hc, hks, hv⟩ := hd.choices
  cases he.symm.trans hes
  refine ⟨ms', hj', hd.id.trans hid.symm, ?_, ?_, ?_, es', he', cs, ?_, hks, hv⟩
  · exact hm "description" (by decide) ▸ hd.description
  · exact hm "instructions" (by decide) ▸ hd.instructions
  · exact hm "finished" (by decide) ▸ hd.finished
  · exact forall₂_of_forall₂ hr hc fun _ _ _ h hd => hd.respelled h

theorem perm_of_respells (hp : es'.Perm es'') (hr : List.Forall₂ RespellsPlace es es'') :
    (es'.map Prod.fst).Perm (es.map Prod.fst) := by
  have hk : es.map Prod.fst = es''.map Prod.fst := map_eq_of_forall₂ hr fun _ _ h => h.left.symm
  exact hk ▸ hp.map _

-- What graph is built from a definition, and that it does not matter how that has been written.
theorem build_defines (j : Json) (hj : j.Distinct) :
    (∀ g, build (.ofJson j) = .ok g ↔ Defines j g) ∧
    ∀ g j', build (.ofJson j) = .ok g → Rewrites j j' →
      ∃ g', build (.ofJson j') = .ok g' ∧ g'.places.entries.Perm g.places.entries := by
  refine ⟨fun g => build_eq_ok_iff hj, fun g j' hg hr => ?_⟩
  obtain ⟨ms, es, rfl, he, h⟩ := (build_eq_ok_iff hj).mp hg
  obtain ⟨_, ms', _, es', es'', hj', rfl, he', hes', hp, hr⟩ := hr
  cases hj'
  cases he.symm.trans he'
  have hk := perm_of_respells hp hr
  have hback : ∀ m' ∈ es', ∃ p, DefinesPlace m'.1 m'.2 p := by
    intro m' hm'
    obtain ⟨m, hm, hs⟩ := exists_of_mem_forall₂ hr.flip (hp.mem_iff.mp hm')
    obtain ⟨p, hd⟩ := h.exists_place hm
    exact ⟨p, hd.respelled hs⟩
  have hm : ∀ m ∈ es, ∃ m' ∈ es', m'.1 = m.1 ∧ ∀ p, DefinesPlace m.1 m.2 p → DefinesPlace m'.1 m'.2 p := by
    intro m hm
    obtain ⟨m', hm', hs⟩ := exists_of_mem_forall₂ hr hm
    exact ⟨m', hp.mem_iff.mpr hm', hs.left, fun _ hd => hd.respelled hs⟩
  obtain ⟨g', hg', h'⟩ := exists_build (hk.nodup_iff.mpr (nodup_places hj he)) hes' hback
  exact ⟨g', hg', Ordered.perm_of_get? (h.ids_perm h' hk) (h.get?_eq h' hk hm)⟩

-- A hall, whose first choice is written down twice, and an attic. There is no start.

def hall (one yes option say goto : String) : String × Json :=
  ("hall", .obj [("description", .bool true), ("finished", .str " True\n"), ("choices", .obj [
    (one, .arr []), (yes, .arr [.obj [(say, .int 7)]]), (option, .arr [.obj [(goto, .str "attic")]])])])

def attic : String × Json :=
  ("attic", .obj [("instructions", .null)])

def household (places : List (String × Json)) : Json :=
  .obj [("places", .obj places)]

def house : PlaceGraph where
  places := ⟨[
    ("hall", {
      id          := "hall"
      description := some "true"
      finished    := true
      choices     := ⟨[(.option 0, [⟨.goto, "attic"⟩]), (.yes, [⟨.say, "7"⟩])], by decide⟩
    }),
    ("attic", { id := "attic" }),
    ("start", placeholder)
  ], show ["hall", "attic", "start"].Nodup by decide⟩

theorem distinct_household : (household [hall "1" "Yes" "OptionOne" "Say" "Goto", attic]).Distinct := by
  have action (name : String) (v : Json) (hv : v.IsFlat) : (Json.arr [.obj [(name, v)]]).Distinct :=
    .arr (List.forall_mem_singleton.mpr (.obj (List.forall_mem_singleton.mpr (.flat hv)) (List.nodup_singleton _)))
  refine .obj (List.forall_mem_singleton.mpr (.obj ?_ (by decide))) (List.nodup_singleton _)
  refine List.forall_mem_cons.mpr ⟨.obj ?_ (by decide), List.forall_mem_singleton.mpr (.obj ?_ (by decide))⟩
  · refine List.forall_mem_cons.mpr ⟨.flat trivial, List.forall_mem_cons.mpr ⟨.flat trivial, ?_⟩⟩
    refine List.forall_mem_singleton.mpr (.obj (List.forall_mem_cons.mpr ⟨.arr nofun, ?_⟩) (by decide))
    exact List.forall_mem_cons.mpr ⟨action _ _ trivial, List.forall_mem_singleton.mpr (action _ _ trivial)⟩
  · exact List.forall_mem_singleton.mpr (.flat trivial)

theorem rewrites_household :
    Rewrites (household [hall "1" "Yes" "OptionOne" "Say" "Goto", attic])
      (household [attic, hall "One" " yes" "optionone" "SAY" "goto "]) := by
  have command {c : Command} {text : String} (h : Command.parse text = some c) : c.Spells text :=
    Command.parse_eq_some_iff.mp h
  have kind {k : ActionKind} {text : String} (h : ActionKind.parse text = some k) : k.Spells text :=
    ActionKind.parse_eq_some_iff.mp h
  refine ⟨_, _, _, _, _, rfl, rfl, rfl, rfl, .swap _ _ _, .cons ?_ (.cons ?_ .nil)⟩
  · refine ⟨rfl, _, _, _, _, rfl, rfl, fun name hn => ?_, rfl, rfl, .cons ?_ (.cons ?_ (.cons ?_ .nil))⟩
    · simp [Json.get?, List.find?_cons, hn.symm]
    · exact ⟨.option 0, _, _, command (by decide +kernel), command (by decide +kernel), rfl, rfl, .nil⟩
    · refine ⟨.yes, _, _, command (by decide +kernel), command (by decide +kernel), rfl, rfl, .cons ?_ .nil⟩
      exact ⟨.say, _, _, _, rfl, rfl, kind (by decide +kernel), kind (by decide +kernel)⟩
    · refine ⟨.option 0, _, _, command (by decide +kernel), command (by decide +kernel), rfl, rfl, .cons ?_ .nil⟩
      exact ⟨.goto, _, _, _, rfl, rfl, kind (by decide +kernel), kind (by decide +kernel)⟩
  · exact ⟨rfl, _, _, _, _, rfl, rfl, fun _ _ => rfl, rfl, rfl, .nil⟩

theorem build_defines_household :
    (household [hall "1" "Yes" "OptionOne" "Say" "Goto", attic]).Distinct ∧
    build (.ofJson (household [hall "1" "Yes" "OptionOne" "Say" "Goto", attic])) = .ok house ∧
    Rewrites (household [hall "1" "Yes" "OptionOne" "Say" "Goto", attic])
      (household [attic, hall "One" " yes" "optionone" "SAY" "goto "]) ∧
    Defines (household [hall "1" "Yes" "OptionOne" "Say" "Goto", attic]) house ∧
    ∃ g, build (.ofJson (household [attic, hall "One" " yes" "optionone" "SAY" "goto "])) = .ok g ∧
      g.places.entries.Perm house.places.entries := by
  have hb : build (.ofJson (household [hall "1" "Yes" "OptionOne" "Say" "Goto", attic])) = .ok house := by
    decide +kernel
  have ⟨hd, hr⟩ := build_defines _ distinct_household
  exact ⟨distinct_household, hb, rewrites_household, (hd _).mp hb, hr _ _ hb rewrites_household⟩

end Definition
end Gamebook
