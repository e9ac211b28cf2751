import Mathlib
import Gamebook.Proofs.Text.Pattern
import Gamebook.Yaml.Typed

namespace Gamebook
namespace Yaml
namespace Typed

variable {s : String} {plain : Bool}

-- The words for null.
def nullWords : List String :=
  ["~", "null", "Null", "NULL", ""]

-- What text stands for, depending on whether it is plain.
def meaning (plain : Bool) (s : String) : Scalar :=
  if plain ∧ s ∈ nullWords then .null else .text s

-- Nothing but null is told from text, be it a number, a flag, a day or a mark of YAML.
theorem typeOf_none (plain : Bool) (s : String) : typeOf none plain s = none ∨ typeOf none plain s = some .null := by
  cases plain with
  | false => exact .inl rfl
  | true  =>
    rw [typeOf, Option.none_or, if_pos rfl]
    cases h : resolvers.find? (·.accepts s) with
    | none   => exact .inl rfl
    | some r =>
      obtain rfl := List.mem_singleton.mp (List.mem_of_find?_eq_some h)
      exact .inr rfl

theorem matches_null (h : s.toList.getLast? ≠ some '\n') : Implicit.null.matchesLine s.toList ↔ s ∈ nullWords := by
  have hw : Implicit.null = Pattern.words nullWords := rfl
  simp [hw, Pattern.matchesLine_eq h, Pattern.matchesAll_words, String.toList_inj]

-- Each of the words starts with one of the characters for which there is a resolver.
theorem accepts_iff {r : Resolver} (hr : r ∈ resolvers) (h : s.toList.getLast? ≠ some '\n') :
    r.accepts s ↔ s ∈ nullWords := by
  have hs : ∀ w ∈ nullWords, [some '~', some 'n', some 'N', none].contains w.toList.head? := by decide
  obtain rfl := List.mem_singleton.mp hr
  rw [Resolver.accepts, Bool.and_eq_true, matches_null h]
  exact and_iff_right_of_imp (hs s)

theorem typeOf_plain (h : s.toList.getLast? ≠ some '\n') :
    typeOf none true s = if s ∈ nullWords then some .null else none := by
  have hr := accepts_iff (List.mem_singleton_self _) h
  by_cases hs : s ∈ nullWords <;> simp [typeOf, resolvers, hr, hs]

theorem read_untagged (h : plain → s.toList.getLast? ≠ some '\n') : read none plain s = .ok (meaning plain s) := by
  cases plain with
  | false => rfl
  | true  =>
    rw [read, typeOf_plain (h rfl), meaning]
    by_cases hs : s ∈ nullWords <;> simp [hs, ofType]

end Typed
end Yaml
end Gamebook
