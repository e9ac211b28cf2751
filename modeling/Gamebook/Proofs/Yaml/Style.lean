import Mathlib
import Gamebook.Yaml.Cursor
import Gamebook.Yaml.Style

namespace Gamebook
namespace Yaml
namespace Style

variable {p q : Char → Bool} {ch : Char} {cs ds : List Char}

theorem inner_of_not_special (h : ¬isSpecial ch) (hb : ¬isLineBreak ch) :
    ch = ' ' ∨ ¬isWhite ch ∧ ¬isBreak ch := by
  simp only [isLineBreak, Bool.or_eq_true, decide_eq_true_eq, not_or] at hb
  have ht : ch ≠ '\t' := fun he => h (he ▸ by decide)
  have hr : ch ≠ '\r' := fun he => h (he ▸ by decide)
  by_cases hs : ch = ' '
  case pos => exact .inl hs
  case neg => simp [isWhite, isBreak, hs, ht, hr, hb]

theorem adjacent_tail (h : adjacent p q (ch :: cs) = false) : adjacent p q cs = false := by
  cases cs with
  | nil => rfl
  | cons =>
    rw [adjacent, Bool.or_eq_false_iff] at h
    exact h.right

theorem adjacent_append (h : adjacent p q (cs ++ ds) = false) : adjacent p q ds = false := by
  induction cs with
  | nil          => exact h
  | cons c cs hi => exact hi (adjacent_tail h)

-- What follows characters of the one class is not of the other.
theorem not_head_of_adjacent (hn : cs ≠ []) (hp : ∀ c ∈ cs, p c) (h : adjacent p q (cs ++ ds) = false) :
    ∀ c ∈ ds.head?, ¬q c := by
  induction cs with
  | nil          => contradiction
  | cons c cs hi =>
    cases cs with
    | cons => exact hi (by simp) (fun c hc => hp c (List.mem_cons_of_mem _ hc)) (adjacent_tail h)
    | nil =>
      intro d hd
      cases ds with
      | nil => cases hd
      | cons =>
        cases hd
        rw [List.singleton_append, adjacent, Bool.or_eq_false_iff, hp c List.mem_cons_self] at h
        simpa using h.left

theorem not_isMultiline_drop (h : ¬isMultiline (cs ++ ds)) : ¬isMultiline ds := by
  intro hd
  refine h ?_
  rw [isMultiline, List.any_append, show ds.any isLineBreak = true from hd, Bool.or_true]

theorem not_isMultiline_tail (h : ¬isMultiline (ch :: cs)) : ¬isMultiline cs :=
  not_isMultiline_drop (List.singleton_append ▸ h)

end Style
end Yaml
end Gamebook
