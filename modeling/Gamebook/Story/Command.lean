import Gamebook.Text.Lower

namespace Gamebook

-- What a player can ask for. The options of a place are numbered from one to nine.
inductive Command
  | option (n : Fin 9)
  | yes
  | no
  | describe
  | help
  | hint
  | restart
  | quit
deriving DecidableEq, Repr

namespace Command

-- Options can be given by numerals. Zero is that of the core library, whatever else is imported.
instance neZeroOptions : @NeZero Nat Zero.ofOfNat0 9 :=
  ⟨by decide⟩

def optionWords : List String :=
  ["One", "Two", "Three", "Four", "Five", "Six", "Seven", "Eight", "Nine"]

def optionWord (n : Fin 9) : String :=
  optionWords[n]

def name : Command → String
  | option n => "Option" ++ optionWord n
  | yes      => "Yes"
  | no       => "No"
  | describe => "Describe"
  | help     => "Help"
  | hint     => "Hint"
  | restart  => "Restart"
  | quit     => "Quit"

def all : List Command :=
  (List.finRange 9).map option ++ [yes, no, describe, help, hint, restart, quit]

theorem mem_all (c : Command) : c ∈ all := by
  cases c <;> simp [all]

-- An option is also known by its number word alone and by its digit.
def spellings : Command → List String
  | option n => [name (option n), optionWord n, String.ofList (Nat.toDigits 10 (n + 1))]
  | c        => [name c]

def parse (text : String) : Option Command :=
  let key := Text.fold text
  all.find? fun c => c.spellings.any fun s => Text.lower s = key

def ofName? (name : String) : Option Command :=
  all.find? (·.name = name)

-- A place may leave these undefined without the player being told so.
def IsOptional (c : Command) : Prop :=
  c = describe ∨ c = help ∨ c = hint ∨ c = restart ∨ c = quit

instance (c : Command) : Decidable c.IsOptional :=
  inferInstanceAs (Decidable (_ ∨ _ ∨ _ ∨ _ ∨ _))

end Command
end Gamebook
