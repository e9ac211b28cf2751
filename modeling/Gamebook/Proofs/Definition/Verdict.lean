import Mathlib
import Gamebook.Proofs.Definition.Diagnosis

namespace Gamebook

namespace Json

variable {root j : Json} {path : Path} {ms : List (String × Json)} {m : String × Json} {xs : List Json}

theorem follow?_append (j : Json) (path path' : Path) :
    j.follow? (path ++ path') = (j.follow? path).bind (·.follow? path') := by
  induction path generalizing j with
  | nil               => rfl
  | cons step path hi => cases step <;> cases j <;> simp [follow?, hi, Option.bind_assoc]

theorem get?_of_mem (hn : (ms.map Prod.fst).Nodup) (h : m ∈ ms) : get? ms m.fst = some m.snd :=
  Ordered.get?_of_mem (m := ⟨ms, hn⟩) h

theorem mem_of_get? (h : get? ms name = some j) : (name, j) ∈ ms := by
  have ⟨m, hm, hj⟩ := Option.map_eq_some_iff.mp h
  have hn : m.fst = name := by simpa using List.find?_some hm
  exact hn ▸ hj ▸ List.mem_of_find?_eq_some hm

-- A path that leads to a value, of which no object names two members alike.
structure Holds (root : Json) (path : Path) (j : Json) : Prop where
  leads    : root.follow? path = some j
  distinct : j.Distinct

namespace Holds

theorem top (h : root.Distinct) : root.Holds [] root where
  leads    := rfl
  distinct := h

theorem member (h : root.Holds path (.obj ms)) (hm : m ∈ ms) : root.Holds (path ++ [.key m.fst]) m.snd := by
  cases h.distinct
  case flat hf  => cases hf
  case obj hd hn =>
    refine ⟨?_, hd m hm⟩
    rw [follow?_append, h.leads, Option.bind_some, follow?, get?_of_mem hn hm]
    rfl

theorem item (h : root.Holds path (.arr xs)) (hi : (j, i) ∈ xs.zipIdx) : root.Holds (path ++ [.index i]) j := by
  have hx := List.mk_mem_zipIdx_iff_getElem?.mp hi
  cases h.distinct
  case flat hf => cases hf
  case arr hd  =>
    refine ⟨?_, hd j (List.mem_of_getElem? hx)⟩
    rw [follow?_append, h.leads, Option.bind_some, follow?, hx]
    rfl

end Holds
end Json

namespace Definition

variable {root j : Json} {path : Path} {ms : List (String × Json)} {name : String} {known : Bool} {unknown : Problem}
  {fs fs' : List Problem}

-- None of these faults is a matter of the grammar.
def Silent (fs : List Problem) : Prop :=
  ∀ p ∈ fs, ¬p.isReported

theorem violations_eq_nil_iff : violations j = [] ↔ Silent (faults j) :=
  List.filter_eq_nil_iff

namespace Silent

@[simp]
theorem nil : Silent [] :=
  List.forall_mem_nil _

@[simp]
theorem cons_iff {p : Problem} : Silent (p :: fs) ↔ ¬p.isReported ∧ Silent fs :=
  List.forall_mem_cons

@[simp]
theorem append_iff : Silent (fs ++ fs') ↔ Silent fs ∧ Silent fs' :=
  List.forall_mem_append

@[simp]
theorem flatMap_iff {xs : List α} {f : α → List Problem} : Silent (xs.flatMap f) ↔ ∀ x ∈ xs, Silent (f x) := by
  simp only [Silent, List.mem_flatMap]
  exact ⟨fun h x hx p hp => h p ⟨x, hx, hp⟩, fun h p ⟨x, hx, hp⟩ => h x hx p hp⟩

@[simp]
theorem ofText (j : Json) : Silent (faultsOfText j) := by
  rw [faultsOfText]
  split <;> simp [Problem.isReported]

theorem ofName_iff (h : unknown.isReported) : Silent (faultsOfName known unknown) ↔ known := by
  cases known <;> simp [faultsOfName, h]

theorem ofArgument_iff : Silent (faultsOfArgument path j) ↔ IsArgument j := by
  cases j <;> simp [faultsOfArgument, IsArgument, Problem.isReported]

theorem ofAction_iff : Silent (faultsOfAction path j) ↔ IsAction j := by
  match j with
  | .obj [(name, value)] => rw [faultsOfAction, append_iff, ofName_iff rfl, ofArgument_iff, IsAction]
  | .obj [] | .obj (_ :: _ :: _) | .arr _ | .str _ | .int _ | .float _ | .bool _ | .null =>
    simp [faultsOfAction, IsAction, Problem.isReported]

theorem ofActions_iff : Silent (faultsOfActions path j) ↔ ∃ actions, j = .arr actions ∧ ∀ a ∈ actions, IsAction a := by
  cases j
  case arr actions =>
    simp only [faultsOfActions, flatMap_iff, ofAction_iff, Json.arr.injEq, exists_eq_left']
    refine ⟨fun h a ha => ?_, fun h x hx => h x.fst (List.fst_mem_of_mem_zipIdx hx)⟩
    obtain ⟨i, hi⟩ := List.mem_iff_getElem?.mp ha
    exact h (a, i) (List.mk_mem_zipIdx_iff_getElem?.mpr hi)
  all_goals simp [faultsOfActions, Problem.isReported]

theorem ofChoice_iff (path : Path) (name : String) (j : Json) :
    Silent (faultsOfChoice path name j) ↔ IsChoice name j := by
  rw [faultsOfChoice, append_iff, ofName_iff rfl, ofActions_iff]
  cases j <;> simp [IsChoice]

theorem ofObject_iff {faults : Path → String → Json → List Problem} {P : String → Json → Prop}
    (h : ∀ path name j, Silent (faults path name j) ↔ P name j) (path : Path) (j : Json) :
    Silent (faultsOfObject faults path j) ↔ IsObjectOf P j := by
  cases j
  case obj ms => simp only [faultsOfObject, flatMap_iff, h, IsObjectOf]
  all_goals simp [faultsOfObject, IsObjectOf, Problem.isReported]

theorem ofMember_iff {faults : Path → Json → List Problem} {P : Json → Prop}
    (h : ∀ path j, Silent (faults path j) ↔ P j) :
    Silent (faultsOfMember faults path ms name) ↔ MayHave ms name P := by
  rw [faultsOfMember, MayHave]
  cases Json.get? ms name with
  | none   => simp
  | some v => cases v <;> simp [h]

theorem ofFlat_iff (expected : Expected) (path : Path) (j : Json) :
    Silent (faultsOfFlat expected path j) ↔ j.IsFlat := by
  cases j <;> simp [faultsOfFlat, Json.IsFlat, Problem.isReported]

theorem ofFlatText_iff (path : Path) (j : Json) : Silent (faultsOfFlatText path j) ↔ j.IsFlat := by
  rw [faultsOfFlatText, append_iff, ofFlat_iff]
  exact and_iff_left (ofText j)

theorem ofPlace_iff (path : Path) (j : Json) : Silent (faultsOfPlace path j) ↔ IsPlace j := by
  cases j
  case obj ms =>
    simp only [faultsOfPlace, append_iff, and_assoc]
    exact and_congr (ofMember_iff <| ofObject_iff ofChoice_iff) <| and_congr (ofMember_iff ofFlatText_iff) <|
      and_congr (ofMember_iff ofFlatText_iff) (ofMember_iff <| ofFlat_iff _)
  all_goals simp [faultsOfPlace, IsPlace, Problem.isReported]

end Silent

theorem isDefinition_iff (j : Json) : j.IsDefinition ↔ violations j = [] := by
  rw [violations_eq_nil_iff]
  cases j
  case obj ms => exact (Silent.ofMember_iff <| Silent.ofObject_iff fun path _ => Silent.ofPlace_iff path).symm
  all_goals simp [faults, Json.IsDefinition, Problem.isReported]

-- Each of these faults is one of a node.
def Located (root : Json) (fs : List Problem) : Prop :=
  ∀ p ∈ fs, ∃ path j, root.follow? path = some j ∧ p.Condemns path j

namespace Located

@[simp]
theorem nil : Located root [] :=
  List.forall_mem_nil _

theorem singleton {p : Problem} (h : root.Holds path j) (hp : p.Condemns path j) : Located root [p] :=
  List.forall_mem_singleton.mpr ⟨path, j, h.leads, hp⟩

theorem append (h : Located root fs) (h' : Located root fs') : Located root (fs ++ fs') :=
  List.forall_mem_append.mpr ⟨h, h'⟩

theorem flatMap {xs : List α} {f : α → List Problem} (h : ∀ x ∈ xs, Located root (f x)) :
    Located root (xs.flatMap f) := by
  intro p hp
  have ⟨x, hx, hp⟩ := List.mem_flatMap.mp hp
  exact h x hx p hp

theorem ofText (h : root.Holds path j) : Located root (faultsOfText j) := by
  rw [faultsOfText]
  split
  case isTrue hj => exact singleton h hj
  case isFalse   => exact nil

theorem ofName (h : ¬known → Located root [unknown]) : Located root (faultsOfName known unknown) := by
  cases known
  case true  => exact nil
  case false => exact h Bool.false_ne_true

theorem ofArgument (h : root.Holds path j) : Located root (faultsOfArgument path j) := by
  rw [faultsOfArgument.eq_def]
  split
  case h_4 => exact ofText h
  all_goals exact singleton h ⟨rfl, id, rfl⟩

theorem ofAction (h : root.Holds path j) : Located root (faultsOfAction path j) := by
  rw [faultsOfAction.eq_def]
  split
  case h_1 name value =>
    have hv := h.member List.mem_cons_self
    refine append (ofName fun hn => ?_) (ofArgument hv)
    exact singleton hv ⟨rfl, List.getLast?_concat, by simpa using hn⟩
  case h_2 hj => exact singleton h ⟨rfl, fun m => hj m.fst m.snd, rfl⟩

theorem ofActions (h : root.Holds path j) : Located root (faultsOfActions path j) := by
  rw [faultsOfActions.eq_def]
  split
  case h_1    => exact flatMap fun x hx => ofAction (h.item hx)
  case h_2 hj => exact singleton h ⟨rfl, fun ⟨xs, hx⟩ => hj xs hx, rfl⟩

theorem ofChoice (h : root.Holds (path ++ [.key name]) j) :
    Located root (faultsOfChoice (path ++ [.key name]) name j) := by
  refine append (ofName fun hn => ?_) (ofActions h)
  exact singleton h ⟨rfl, List.getLast?_concat, by simpa using hn⟩

theorem ofObject {faults : Path → String → Json → List Problem}
    (hf : ∀ {path name j}, root.Holds (path ++ [.key name]) j → Located root (faults (path ++ [.key name]) name j))
    (h : root.Holds path j) : Located root (faultsOfObject faults path j) := by
  rw [faultsOfObject.eq_def]
  split
  case h_1    => exact flatMap fun m hm => hf (h.member hm)
  case h_2 hj => exact singleton h ⟨rfl, fun ⟨ms, hm⟩ => hj ms hm, rfl⟩

theorem ofMember {faults : Path → Json → List Problem}
    (hf : ∀ {path j}, root.Holds path j → Located root (faults path j)) (h : root.Holds path (.obj ms)) :
    Located root (faultsOfMember faults path ms name) := by
  rw [faultsOfMember.eq_def]
  split
  case h_3 hj => exact hf (h.member (Json.mem_of_get? hj))
  all_goals exact nil

theorem ofFlat {expected : Expected} (he : ∀ j, expected.Admits j → j.IsFlat) (h : root.Holds path j) :
    Located root (faultsOfFlat expected path j) := by
  rw [faultsOfFlat.eq_def]
  split
  case h_3 => exact nil
  all_goals exact singleton h ⟨rfl, he _, rfl⟩

theorem ofFlatText (h : root.Holds path j) : Located root (faultsOfFlatText path j) :=
  append (ofFlat (fun _ => id) h) (ofText h)

theorem ofPlace (h : root.Holds path j) : Located root (faultsOfPlace path j) := by
  rw [faultsOfPlace.eq_def]
  split
  case h_1 =>
    refine append (append (append ?_ ?_) ?_) ?_
    · exact ofMember (ofObject ofChoice) h
    · exact ofMember ofFlatText h
    · exact ofMember ofFlatText h
    · exact ofMember (ofFlat fun _ => id) h
  case h_2 hj => exact singleton h ⟨rfl, fun ⟨ms, hm⟩ => hj ms hm, rfl⟩

theorem ofDefinition (h : root.Distinct) : Located root (faults root) := by
  rw [faults.eq_def]
  split
  case h_1    => exact ofMember (ofObject ofPlace) (.top h)
  case h_2 hj => exact singleton (.top h) ⟨rfl, hj, rfl⟩

end Located

theorem Problem.Condemns.isReported {p : Problem} (h : p.Condemns path j) (hp : p ≠ .numberTooLong) : p.isReported := by
  cases p
  case numberTooLong                     => exact absurd rfl hp
  case unsupportedFormat                 => cases h
  case invalidJson | invalidYaml | unfit => cases h
  all_goals rfl

-- The first fault is the first violation, if it is no number that is too long.
theorem head?_violations (h : j.Distinct) (hn : (faults j).head? ≠ some .numberTooLong) :
    (violations j).head? = (faults j).head? := by
  have hl := Located.ofDefinition h
  rw [violations]
  cases hf : faults j with
  | nil       => rfl
  | cons p ps =>
    rw [hf] at hl hn
    have ⟨_, _, _, hp⟩ := hl p List.mem_cons_self
    rw [List.filter_cons_of_pos (hp.isReported fun he => hn (congrArg some he)), List.head?_cons, List.head?_cons]

-- Of a definition the first violation is reported, and it is found where the report says. This fails
-- where a number with too many digits is read as a text before anything else is wrong.
theorem judges_iff (j : Json) (h : j.Distinct) :
    (Judges j (build (.ofJson j)) ↔ (faults j).head? ≠ some .numberTooLong) ∧
      ((faults j).head? = some .numberTooLong ↔ build (.ofJson j) = .error .numberTooLong) ∧
      ∀ p ∈ faults j, ∃ path v, j.follow? path = some v ∧ p.Condemns path v := by
  have hm := meets_build j
  refine ⟨⟨fun hj he => ?_, fun hn => ⟨?_, fun p => ?_⟩⟩, hm.eq_error_iff.symm, Located.ofDefinition h⟩
  · have hv := (hj.right _).mp (hm.eq_error_iff.mpr he)
    have ⟨_, hr⟩ := List.mem_filter.mp (List.mem_of_head? hv)
    cases hr
  · rw [hm.eq_ok_iff, isDefinition_iff, ← List.head?_eq_none_iff, ← List.head?_eq_none_iff, head?_violations h hn]
  · rw [hm.eq_error_iff, head?_violations h hn]

-- An action that there is none of, after another that there is.
def jumping : Json :=
  .obj [("places", .obj [("start", .obj [("choices", .obj [("1", .arr
    [.obj [("Say", .str "Hi")], .obj [("Jump", .str "off")]])])])])]

theorem judges_jumping : jumping.Distinct ∧ ¬jumping.IsDefinition ∧
    build (.ofJson jumping) = .error (.unknownAction "Jump"
      [.key "places", .key "start", .key "choices", .key "1", .index 1, .key "Jump"]) := by
  have hd : jumping.Distinct := by
    have say (name s : String) : (Json.obj [(name, .str s)]).Distinct :=
      .obj (List.forall_mem_singleton.mpr <| .flat trivial) (List.nodup_singleton _)
    refine .obj (List.forall_mem_singleton.mpr <| .obj (List.forall_mem_singleton.mpr <| .obj
      (List.forall_mem_singleton.mpr <| .obj (List.forall_mem_singleton.mpr <| .arr ?_) ?_) ?_) ?_) ?_
    · exact List.forall_mem_cons.mpr ⟨say _ _, List.forall_mem_singleton.mpr (say _ _)⟩
    all_goals exact List.nodup_singleton _
  have hv : (violations jumping).head? = some (.unknownAction "Jump"
      [.key "places", .key "start", .key "choices", .key "1", .index 1, .key "Jump"]) := by
    decide +kernel
  have hj := (judges_iff jumping hd).left.mpr (by decide +kernel)
  refine ⟨hd, fun hg => ?_, (hj.right _).mpr hv⟩
  rw [(isDefinition_iff _).mp hg] at hv
  cases hv

-- A description that is a number with too many digits.
def boundless : Json :=
  .obj [("places", .obj [("start", .obj [("description", .int (16 ^ 3572 : Nat))])])]

theorem boundless_unjudged : boundless.IsDefinition ∧ ¬Judges boundless (build (.ofJson boundless)) := by
  have hg : boundless.IsDefinition := (isDefinition_iff _).mpr (by decide +kernel)
  have hb : build (.ofJson boundless) = .error .numberTooLong :=
    (meets_build _).eq_error_iff.mpr (by decide +kernel)
  refine ⟨hg, fun hj => ?_⟩
  have ⟨_, ho⟩ := hj.left.mpr hg
  cases hb.symm.trans ho

end Definition
end Gamebook
