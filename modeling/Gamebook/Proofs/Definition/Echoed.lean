import Mathlib
import Gamebook.Proofs.Definition.Outline
import Gamebook.Proofs.Yaml.Reading

namespace Gamebook
namespace Yaml

theorem echoOfItems_eq_map (xs : List Json) : echoOfItems xs = xs.map echoOf := by
  induction xs with
  | nil          => rfl
  | cons x xs hi => rw [echoOfItems, List.map_cons, hi]

theorem echoOfMembers_eq_map (ms : List (String × Json)) :
    echoOfMembers ms = ms.map fun m => (.text (heard m.1), echoOf m.2) := by
  induction ms with
  | nil          => rfl
  | cons m ms hi => rw [echoOfMembers, List.map_cons, hi]

theorem fitsItems_eq_all (xs : List Json) : fitsItems xs = xs.all fits := by
  induction xs with
  | nil          => rfl
  | cons x xs hi => rw [fitsItems, List.all_cons, hi]

theorem fitsEntries_eq_all (ms : List (String × Json)) :
    fitsEntries ms = ms.all fun m => fitsKey m.1 && fits m.2 := by
  induction ms with
  | nil          => rfl
  | cons m ms hi => rw [fitsEntries, List.all_cons, hi]

-- A character takes ten others at most.

theorem length_escape_le (c : Char) : (escape c).length ≤ 10 := by
  have hu (width n : Nat) : (upperHex width n).length = width := by
    rw [upperHex, List.length_map, Text.length_hexDigits]
  rw [escape.eq_def]
  dsimp only
  split
  case h_1 => exact Nat.le_of_ble_eq_true rfl
  case h_2 =>
    split
    case isTrue  => simp [hu]
    case isFalse => split <;> simp [hu]

theorem length_flatMap_le {f : Char → List Char} {n : Nat} (h : ∀ c, (f c).length ≤ n) (cs : List Char) :
    (cs.flatMap f).length ≤ n * cs.length := by
  induction cs with
  | nil          => exact Nat.zero_le _
  | cons c cs hi =>
    rw [List.flatMap_cons, List.length_append, List.length_cons, Nat.mul_succ, Nat.add_comm]
    exact Nat.add_le_add hi (h c)

theorem length_spelling_le (s : String) : (spelling s).length ≤ 10 * s.toList.length + 2 := by
  unfold spelling
  split
  case h_1 => omega
  case h_2 =>
    have hd : (Single.doubled s.toList).length ≤ 2 * s.toList.length :=
      length_flatMap_le (fun c => by split <;> simp) _
    simp only [List.length_cons, List.length_append, List.length_nil]
    omega
  case h_3 =>
    have he : (Double.escaped s.toList).length ≤ 10 * s.toList.length :=
      length_flatMap_le (fun c => by split <;> simp [length_escape_le]) _
    simp only [List.length_cons, List.length_append, List.length_nil]
    omega

theorem fitsKey_of_length {k : String} (h : k.toList.length ≤ 100) : fitsKey k := by
  have hl : (spelling k).length ≤ Scanner.keyLimit := by
    refine Nat.le_trans (length_spelling_le k) ?_
    rw [Scanner.keyLimit]
    omega
  simp [fitsKey, hl]

end Yaml

namespace Definition

open Yaml

-- The names in a definition are read as they are written, and all fit on their lines.

def memberNames : List String :=
  ["places", "description", "instructions", "finished", "choices"]

theorem heard_kind (k : ActionKind) : heard k.name = k.name :=
  heard_eq_self (by cases k <;> decide)

theorem heard_command (c : Command) : heard c.name = c.name := by
  cases c with
  | option n => exact heard_eq_self (by revert n; decide)
  | _        => exact heard_eq_self (by decide)

theorem heard_member : ∀ name ∈ memberNames, heard name = name := by
  intro name h
  refine heard_eq_self ?_
  revert name
  decide

theorem fitsKey_kind (k : ActionKind) : fitsKey k.name :=
  fitsKey_of_length (by cases k <;> decide)

theorem fitsKey_command (c : Command) : fitsKey c.name := by
  cases c with
  | option n => exact fitsKey_of_length (by revert n; decide)
  | _        => exact fitsKey_of_length (by decide)

theorem fitsKey_member : ∀ name ∈ memberNames, fitsKey name := by
  intro name h
  refine fitsKey_of_length ?_
  revert name
  decide

-- The data that is written of a graph, as YAML holds it.

theorem echoOf_dumpAction (a : Action) : echoOf (dumpAction a) = outlineAction heard a := by
  rw [outlineAction, ← heard_kind]
  rfl

theorem echoOf_dumpChoices (choices : Ordered Command (List Action)) :
    echoOf (dumpChoices choices) = outlineChoices heard choices := by
  have hm : echoOfMembers (choices.entries.map fun e => (e.1.name, .arr (e.2.map dumpAction)))
      = choices.entries.map fun e => (.text e.1.name, .list (e.2.map (outlineAction heard))) := by
    rw [echoOfMembers_eq_map, List.map_map]
    refine List.map_congr_left fun e _ => ?_
    have ha : echoOf ∘ dumpAction = outlineAction heard := funext echoOf_dumpAction
    simp only [Function.comp_apply, echoOf, echoOfItems_eq_map, List.map_map, heard_command, ha]
  rw [dumpChoices, outlineChoices, echoOf, hm, gather_eq_self]
  · intro e he
    obtain ⟨e, _, he⟩ := List.mem_map.mp he
    exact ⟨_, (congrArg Prod.fst he).symm⟩
  · have hn : ((choices.entries.map Prod.fst).map fun c => Scalar.text c.name).Nodup :=
      List.Pairwise.map _ (fun _ _ h he => h (Command.name_injective (Scalar.text.inj he))) choices.nodup
    rw [List.map_map] at hn ⊢
    exact hn

theorem echoOf_dumpPlace (p : Place) : echoOf (dumpPlace p) = .map (outlineMembers heard (.text "true") p) := by
  have hh := heard_member
  simp only [memberNames, List.forall_mem_cons] at hh
  have ⟨_, hd, hi, hf, hc, _⟩ := hh
  have hb : echoOf (.bool true) = .scalar (.text "true") := rfl
  simp only [dumpPlace, outlineMembers, echoOf, echoOfMembers_eq_map, ← echoOf_dumpChoices]
  cases p.description <;> cases p.instructions <;> cases p.finished <;>
    cases p.choices.entries.isEmpty <;> simp [hd, hi, hf, hc, hb] <;> rfl

-- Ids that are read as one fall together.
theorem echoOf_dump (g : PlaceGraph) : echoOf (dump g) = .map [(.text "places", .map (gather
    (g.places.entries.map fun e => (.text (heard e.1), .map (outlineMembers heard (.text "true") e.2)))))] := by
  have hp := heard_member "places" List.mem_cons_self
  simp only [dump, echoOf, echoOfMembers_eq_map, List.map_map, List.map_cons, List.map_nil, Function.comp_def,
    echoOf_dumpPlace, hp]
  rfl

theorem echoOf_dump_of_heard {g : PlaceGraph} (h : ∀ id ∈ g.ids, heard id = id) :
    echoOf (dump g) = outline heard (.text "true") g := by
  have hm : (g.places.entries.map fun e =>
      (Scalar.text (heard e.1), Datum.map (outlineMembers heard (.text "true") e.2)))
        = g.places.entries.map fun e => (.text e.1, .map (outlineMembers heard (.text "true") e.2)) :=
    List.map_congr_left fun e he => by rw [h e.1 (List.mem_map_of_mem he)]
  rw [echoOf_dump, hm, gather_eq_self, outline]
  · intro e he
    obtain ⟨e, _, he⟩ := List.mem_map.mp he
    exact ⟨_, (congrArg Prod.fst he).symm⟩
  · have hn : ((g.places.entries.map Prod.fst).map Scalar.text).Nodup :=
      List.Pairwise.map _ (fun _ _ h he => h (Scalar.text.inj he)) g.places.nodup
    rw [List.map_map] at hn ⊢
    exact hn

theorem fits_dumpAction (a : Action) : fits (dumpAction a) := by
  simp [dumpAction, fits, fitsEntries, fitsKey_kind]

theorem fits_dumpPlace (p : Place) : fits (dumpPlace p) := by
  have hk := fitsKey_member
  simp only [memberNames, List.forall_mem_cons] at hk
  have ⟨_, hd, hi, hf, hc, _⟩ := hk
  have hcs : fits (dumpChoices p.choices) := by
    rw [dumpChoices, fits, fitsEntries_eq_all, List.all_map]
    refine List.all_eq_true.mpr fun e _ => ?_
    simp only [Function.comp_apply, fits, fitsItems_eq_all, fitsKey_command, List.all_map, Bool.true_and]
    exact List.all_eq_true.mpr fun a _ => fits_dumpAction a
  rw [dumpPlace, fits]
  cases p.description <;> cases p.instructions <;> cases p.finished <;>
    cases p.choices.entries.isEmpty <;> simp [fitsEntries, fits, hd, hi, hf, hc, hcs]

theorem fits_dump (g : PlaceGraph) : fits (dump g) = g.ids.all fitsKey := by
  have hp := fitsKey_member "places" List.mem_cons_self
  simp [dump, fits, fitsEntries_eq_all, hp, List.all_map, Function.comp_def, fits_dumpPlace, PlaceGraph.ids,
    Ordered.keys]

theorem shallow_dumpPlace (p : Place) : Shallow 4 (dumpPlace p) := by
  have ha : ∀ a, Shallow 1 (dumpAction a) := fun a => .obj (by simp [Shallow.str])
  have hc : Shallow 3 (dumpChoices p.choices) := by
    refine .obj fun m hm => ?_
    have ⟨e, _, he⟩ := List.mem_map.mp hm
    refine he ▸ .arr fun x hx => ?_
    have ⟨a, _, hx⟩ := List.mem_map.mp hx
    exact hx ▸ ha a
  refine .obj ?_
  cases p.description <;> cases p.instructions <;> cases p.finished <;>
    cases p.choices.entries.isEmpty <;> simp [hc, Shallow.str, Shallow.bool]

theorem shallow_places (g : PlaceGraph) :
    Shallow 5 (.obj (g.places.entries.map fun e => (e.1, dumpPlace e.2))) := by
  refine .obj fun m hm => ?_
  have ⟨e, _, he⟩ := List.mem_map.mp hm
  exact he ▸ shallow_dumpPlace e.2

theorem read_dump (g : PlaceGraph) : Yaml.read (Yaml.render (dump g))
    = if g.ids.all fitsKey then .ok (echoOf (dump g)) else .error .malformed := by
  rw [← fits_dump]
  refine read_render (fun e he => ?_) (by decide : 2 * 5 + 2 < Pen.width)
  cases List.mem_singleton.mp he
  exact shallow_places g

end Definition
end Gamebook
