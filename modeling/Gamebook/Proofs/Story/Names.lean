import Mathlib
import Gamebook.Proofs.Chain
import Gamebook.Proofs.Text.Lower
import Gamebook.Story.Action
import Gamebook.Story.Command

namespace Gamebook

-- What a command is called: one of its spellings, whatever the case and the blanks around it.
def Command.Spells (c : Command) (text : String) : Prop :=
  ∃ s ∈ c.spellings, Text.fold text = Text.lower s

def ActionKind.Spells (k : ActionKind) (text : String) : Prop :=
  Text.fold text = Text.lower k.name

namespace Command

variable {c d : Command} {text : String}

-- No spelling is that of another command, too.
theorem find?_spelling (c : Command) :
    ∀ s ∈ c.spellings, all.find? (fun d => d.spellings.any fun t => Text.lower t = Text.lower s) = some c := by
  cases c with
  | option n =>
    revert n
    decide
  | _ => decide

theorem parse_eq_some_iff : parse text = some c ↔ c.Spells text := by
  constructor
  · intro h
    have hc := List.find?_some h
    simp only [List.any_eq_true, decide_eq_true_eq] at hc
    obtain ⟨s, hs, he⟩ := hc
    exact ⟨s, hs, he.symm⟩
  · rintro ⟨s, hs, he⟩
    simp only [parse, he]
    exact find?_spelling c s hs

theorem Spells.unique (h : c.Spells text) (h' : d.Spells text) : c = d :=
  Option.some.inj ((parse_eq_some_iff.mpr h).symm.trans (parse_eq_some_iff.mpr h'))

theorem fold_name (c : Command) : Text.fold c.name = Text.lower c.name := by
  cases c with
  | option n =>
    revert n
    decide
  | _ => decide

theorem spells_name (c : Command) : c.Spells c.name :=
  ⟨c.name, by cases c <;> exact List.mem_cons_self, c.fold_name⟩

theorem parse_name (c : Command) : parse c.name = some c :=
  parse_eq_some_iff.mpr c.spells_name

theorem name_injective : Function.Injective name := by
  intro c d h
  exact c.spells_name.unique (h ▸ d.spells_name)

end Command

namespace ActionKind

variable {k l : ActionKind} {text : String}

theorem find?_name (k : ActionKind) : all.find? (fun l => Text.lower l.name = Text.lower k.name) = some k := by
  cases k <;> decide

theorem parse_eq_some_iff : parse text = some k ↔ k.Spells text := by
  constructor
  · intro h
    have hk := List.find?_some h
    exact (of_decide_eq_true hk).symm
  · intro h
    rw [Spells] at h
    simp only [parse, h]
    exact find?_name k

theorem Spells.unique (h : k.Spells text) (h' : l.Spells text) : k = l :=
  Option.some.inj ((parse_eq_some_iff.mpr h).symm.trans (parse_eq_some_iff.mpr h'))

theorem spells_name (k : ActionKind) : k.Spells k.name := by
  rw [Spells]
  cases k <;> decide

theorem parse_name (k : ActionKind) : parse k.name = some k :=
  parse_eq_some_iff.mpr k.spells_name

end ActionKind

namespace Text

-- A name in ASCII that not even the sign of the unit kelvin can be a letter of.
def IsPlain (name : String) : Prop :=
  ∀ c ∈ name.toList, c.toNat < 128 ∧ c.toLower ≠ 'k'

instance (name : String) : Decidable (IsPlain name) :=
  List.decidableBAll _ _

variable {text name key : String}

theorem toList_lower (h : IsPlain name) : (lower name).toList = name.toList.map Char.toLower :=
  eq_of_lowers (lowers_lower name) fun c hc => (h c hc).left

-- It makes no difference which of its forms a capital sigma gets.
theorem lower_eq_iff (h : IsPlain name) (hk : Lowers text.toList key.toList) :
    lower name = key ↔ SameButCase text name := by
  rw [eq_comm, ← String.toList_inj, toList_lower h]
  exact lowers_iff hk h

theorem fold_eq_iff (h : IsPlain name) : fold text = lower name ↔ SameButCase (trim text) name :=
  eq_comm.trans (lower_eq_iff h (lowers_lower (trim text)))

theorem SameButCase.ascii (h : SameButCase text name) (hn : IsPlain name) : ∀ c ∈ text.toList, c.toNat < 128 := by
  intro c hc
  obtain ⟨d, hd, hs⟩ := Chain.exists_of_mem_forall₂ h hc
  have hd := (hn d hd).left
  rcases hs with rfl | ⟨hu, _⟩ | ⟨hu, he⟩
  · exact hd
  · have := isUpper_iff.mp hu
    omega
  · have := isUpper_iff.mp hu
    omega

end Text

namespace Command

variable {c : Command} {text : String}

theorem isPlain_spelling (c : Command) : ∀ s ∈ c.spellings, Text.IsPlain s := by
  cases c with
  | option n =>
    revert n
    decide
  | _ => decide

theorem parse_iff : parse text = some c ↔ ∃ s ∈ c.spellings, Text.SameButCase (Text.trim text) s := by
  rw [parse_eq_some_iff, Spells]
  exact exists_congr fun s => and_congr_right fun hs => Text.fold_eq_iff (c.isPlain_spelling s hs)

end Command

namespace ActionKind

variable {k : ActionKind} {text : String}

theorem isPlain_name (k : ActionKind) : Text.IsPlain k.name := by
  cases k <;> decide

theorem parse_iff : parse text = some k ↔ Text.SameButCase (Text.trim text) k.name := by
  rw [parse_eq_some_iff, Spells, Text.fold_eq_iff k.isPlain_name]

end ActionKind

-- Names are recognised by the letters of ASCII, in either case, and by nothing else.
theorem recognised_iff (text : String) :
    (∀ c, Command.parse text = some c ↔ ∃ s ∈ c.spellings, Text.SameButCase (Text.trim text) s) ∧
    (∀ k, ActionKind.parse text = some k ↔ Text.SameButCase (Text.trim text) k.name) ∧
    ((Command.parse text).isSome ∨ (ActionKind.parse text).isSome → ∀ c ∈ (Text.trim text).toList, c.toNat < 128) ∧
    ∀ key, Text.Lowers (Text.trim text).toList key.toList →
      (∀ c, Command.parse text = some c ↔ ∃ s ∈ c.spellings, Text.lower s = key) ∧
      ∀ k, ActionKind.parse text = some k ↔ Text.lower k.name = key := by
  refine ⟨fun c => Command.parse_iff, fun k => ActionKind.parse_iff, ?_, fun key hk => ⟨fun c => ?_, fun k => ?_⟩⟩
  · rintro (h | h)
    · obtain ⟨c, hc⟩ := Option.isSome_iff_exists.mp h
      obtain ⟨s, hs, hn⟩ := Command.parse_iff.mp hc
      exact hn.ascii (c.isPlain_spelling s hs)
    · obtain ⟨k, hk⟩ := Option.isSome_iff_exists.mp h
      exact (ActionKind.parse_iff.mp hk).ascii k.isPlain_name
  · rw [Command.parse_iff]
    exact exists_congr fun s => and_congr_right fun hs => (Text.lower_eq_iff (c.isPlain_spelling s hs) hk).symm
  · rw [ActionKind.parse_iff, Text.lower_eq_iff k.isPlain_name hk]

-- The letter that the sign of the unit kelvin becomes is not among those of the names.
example : Text.lower "\u212a" = "k" ∧ Command.spellings (.option 5) = ["OptionSix", "Six", "6"] := by
  decide

end Gamebook
