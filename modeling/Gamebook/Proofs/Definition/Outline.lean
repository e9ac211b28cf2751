import Mathlib
import Gamebook.Definition.Build
import Gamebook.Definition.Dump
import Gamebook.Proofs.Definition.Accepted
import Gamebook.Proofs.Story.Names

namespace Gamebook

-- Changes all texts but the ids of places.

def Action.mapText (f : String → String) (a : Action) : Action :=
  { a with argument := f a.argument }

def Place.mapTexts (f : String → String) (p : Place) : Place where
  id           := p.id
  description  := p.description.map f
  instructions := p.instructions.map f
  finished     := p.finished
  choices      := p.choices.mapValues (List.map (Action.mapText f))

def PlaceGraph.mapTexts (f : String → String) (g : PlaceGraph) : PlaceGraph :=
  ⟨g.places.mapValues (Place.mapTexts f)⟩

-- The texts that are changed.

def Place.strings (p : Place) : List String :=
  p.description.toList ++ p.instructions.toList ++
    p.choices.entries.flatMap fun e => e.2.map Action.argument

def PlaceGraph.strings (g : PlaceGraph) : List String :=
  g.places.entries.flatMap fun e => e.2.strings

section

variable {f : String → String}

theorem Action.mapText_eq_self {a : Action} : a.mapText f = a ↔ f a.argument = a.argument := by
  cases a
  simp [mapText]

theorem Place.mapTexts_eq_self {p : Place} : p.mapTexts f = p ↔ ∀ s ∈ p.strings, f s = s := by
  have ho (o : Option String) : o.map f = o ↔ ∀ s ∈ o.toList, f s = s := by
    cases o <;> simp
  have ha (as : List Action) : as.map (Action.mapText f) = as ↔ ∀ s ∈ as.map Action.argument, f s = s := by
    simp only [Ordered.map_eq_self, Action.mapText_eq_self, List.forall_mem_map]
  simp only [Place.ext_iff, mapTexts, strings, ho, ha, Ordered.mapValues_eq_self, List.forall_mem_append,
    List.forall_mem_flatMap, true_and, and_assoc]

theorem PlaceGraph.mapTexts_eq_self {g : PlaceGraph} : g.mapTexts f = g ↔ ∀ s ∈ g.strings, f s = s := by
  simp only [PlaceGraph.ext_iff, mapTexts, strings, Ordered.mapValues_eq_self, Place.mapTexts_eq_self,
    List.forall_mem_flatMap]

theorem PlaceGraph.agree_refl (g : PlaceGraph) : g.agree g :=
  Ordered.agree_refl fun p => by simp [Place.agree, Ordered.agree_refl]

theorem Place.eq_of_agree {p : Place} (h : (p.mapTexts f).agree p) : p.mapTexts f = p := by
  simp only [agree, Bool.and_eq_true, decide_eq_true_eq] at h
  have ⟨⟨⟨⟨_, hd⟩, hi⟩, _⟩, hc⟩ := h
  have hc : p.choices.mapValues (List.map (Action.mapText f)) = p.choices :=
    Ordered.mapValues_eq_self.mpr fun e he => by simpa using Ordered.agree_mapValues hc e he
  exact Place.ext rfl hd hi rfl hc

-- A graph agrees with the one that its texts come from only if none has changed.
theorem PlaceGraph.strings_of_agree {g : PlaceGraph} (h : (g.mapTexts f).agree g) : ∀ s ∈ g.strings, f s = s := by
  refine mapTexts_eq_self.mp (PlaceGraph.ext (Ordered.mapValues_eq_self.mpr fun e he => ?_))
  exact Place.eq_of_agree (Ordered.agree_mapValues h e he)

end

namespace Definition

-- The data that a graph is written as. A reader may find other texts in it, as `f` tells, and may
-- take the sign of an ending for a text.

def outlineAction (f : String → String) (a : Action) : Datum :=
  .map [(.text a.kind.name, .text (f a.argument))]

def outlineChoices (f : String → String) (choices : Ordered Command (List Action)) : Datum :=
  .map (choices.entries.map fun e => (.text e.1.name, .list (e.2.map (outlineAction f))))

def outlineMembers (f : String → String) (flag : Scalar) (p : Place) : List (Scalar × Datum) :=
  (p.description.map fun s => (.text "description", .text (f s))).toList ++
  (p.instructions.map fun s => (.text "instructions", .text (f s))).toList ++
  (if p.finished then [(.text "finished", .scalar flag)] else []) ++
  (if p.choices.entries.isEmpty then [] else [(.text "choices", outlineChoices f p.choices)])

def outline (f : String → String) (flag : Scalar) (g : PlaceGraph) : Datum :=
  .map [(.text "places", .map (g.places.entries.map fun e =>
    (.text e.1, .map (outlineMembers f flag e.2))))]

inductive IsTrue : Scalar → Prop
  | bool : IsTrue (.bool true)
  | text : IsTrue (.text "true")

variable {f : String → String} {flag : Scalar} {path : Path}

theorem buildAction_outline (a : Action) :
    buildAction path (outlineAction f a) = .ok (a.mapText f) := by
  simp only [outlineAction, buildAction, nameOf_text, Chain.ok_bind, ActionKind.parse_name]
  rfl

theorem buildActions_outline (as : List Action) :
    buildActions path (as.map (outlineAction f)) = .ok (as.map (Action.mapText f)) := by
  rw [buildActions, List.zipIdx_map]
  refine (Chain.mapM_map_eq_ok (g := Action.mapText f ∘ Prod.fst) fun x _ => ?_).trans ?_
  · exact buildAction_outline x.1
  · rw [← List.map_map, List.zipIdx_map_fst]

theorem buildChoice_outline (c : Command) (as : List Action) :
    buildChoice path (.text c.name) (.list (as.map (outlineAction f)))
      = .ok (c, as.map (Action.mapText f)) := by
  simp only [buildChoice, nameOf_text, Chain.ok_bind, Command.parse_name, buildActions_outline]
  rfl

theorem buildChoices_outline (choices : Ordered Command (List Action)) :
    buildChoices path (choices.entries.map fun e => (.text e.1.name, .list (e.2.map (outlineAction f))))
      = .ok (choices.mapValues (List.map (Action.mapText f))) := by
  rw [buildChoices, Chain.mapM_map_eq_ok (g := fun e => (e.1, e.2.map (Action.mapText f)))]
  · exact congrArg Except.ok (Ordered.ofList_entries (choices.mapValues _))
  · intro e _
    exact buildChoice_outline e.1 e.2

-- What is found under a name in the outline of a place. Every member stands there at most once.
section

variable {p : Place} {name name' : String}

theorem get?_append (es es' : List (Scalar × Datum)) :
    Datum.get? (es ++ es') name = (Datum.get? es name).or (Datum.get? es' name) := by
  rw [Datum.get?, List.find?_append, Option.map_or]
  rfl

theorem get?_option (o : Option α) (d : α → Datum) :
    Datum.get? (o.map fun a => (.text name', d a)).toList name
      = if name' = name then o.map d else none := by
  cases o <;> by_cases h : name' = name <;> simp [Datum.get?, h]

theorem get?_ite (b : Prop) [Decidable b] (es es' : List (Scalar × Datum)) :
    Datum.get? (if b then es else es') name
      = if b then Datum.get? es name else Datum.get? es' name := by
  split <;> rfl

theorem get?_single (d : Datum) :
    Datum.get? [(.text name', d)] name = if name' = name then some d else none := by
  by_cases h : name' = name <;> simp [Datum.get?, h]

theorem get?_nil : Datum.get? [] name = none :=
  rfl

theorem get?_members :
    Datum.get? (outlineMembers f flag p) name =
      ((((if "description" = name then p.description.map (.text ∘ f) else none).or
      (if "instructions" = name then p.instructions.map (.text ∘ f) else none)).or
      (if p.finished then if "finished" = name then some (.scalar flag) else none else none)).or
      (if p.choices.entries.isEmpty then none
        else if "choices" = name then some (outlineChoices f p.choices) else none)) := by
  simp only [outlineMembers, get?_append, get?_option, get?_ite, get?_single, get?_nil]
  rfl

theorem optionalObject_members :
    optionalObject (outlineMembers f flag p) "choices" path
      = .ok (p.choices.entries.map fun e => (.text e.1.name, .list (e.2.map (outlineAction f)))) := by
  rw [optionalObject, Datum.member?, get?_members]
  cases hc : p.choices.entries <;> simp [outlineChoices, hc]

theorem optionalText_description :
    optionalText (outlineMembers f flag p) "description" path = .ok (p.description.map f) := by
  rw [optionalText, Datum.member?, get?_members]
  cases p.description <;> simp [Datum.text]

theorem optionalText_instructions :
    optionalText (outlineMembers f flag p) "instructions" path = .ok (p.instructions.map f) := by
  rw [optionalText, Datum.member?, get?_members]
  cases p.instructions <;> simp [Datum.text]

theorem isTrueText_true : isTrueText "true" := by
  decide

theorem optionalFlag_members (h : IsTrue flag) :
    optionalFlag (outlineMembers f flag p) "finished" path = .ok p.finished := by
  rw [optionalFlag, Datum.member?, get?_members]
  cases h <;> cases p.finished <;> simp [isTrueText_true]

end

theorem buildPlace_outline {p : Place} (h : IsTrue flag) :
    buildPlace p.id path (.map (outlineMembers f flag p)) = .ok (p.mapTexts f) := by
  simp only [buildPlace, optionalObject_members, buildChoices_outline, optionalText_description,
    optionalText_instructions, optionalFlag_members h, Chain.ok_bind]
  rfl

theorem addStart_of_contains {places : Ordered String Place}
    (h : places.contains PlaceGraph.start) : addStart places = places :=
  if_pos h

-- What is written of a graph is read as that graph, with the texts that the reader finds.
theorem build_outline {g : PlaceGraph} (hg : g.WellFormed) (h : IsTrue flag) :
    build (outline f flag g) = .ok (g.mapTexts f) := by
  have hs : (g.places.mapValues (Place.mapTexts f)).contains PlaceGraph.start :=
    Ordered.contains_mapValues.mpr hg.start
  have ho : optionalObject [(.text "places", .map (g.places.entries.map fun e =>
      (.text e.1, .map (outlineMembers f flag e.2))))] "places" []
        = .ok (g.places.entries.map fun e => (.text e.1, .map (outlineMembers f flag e.2))) := by
    rw [optionalObject, Datum.member?, get?_single]
    rfl
  simp only [build, outline, ho, Chain.ok_bind]
  rw [Chain.mapM_map_eq_ok (g := fun e => (e.1, e.2.mapTexts f))]
  · refine congrArg (Except.ok ∘ PlaceGraph.mk) ?_
    rw [← addStart_of_contains hs]
    exact congrArg addStart (Ordered.ofList_entries (g.places.mapValues _))
  · intro e he
    simp only [nameOf_text, ← hg.keyed e he, buildPlace_outline h, Chain.ok_bind]
    rfl

end Definition
end Gamebook
