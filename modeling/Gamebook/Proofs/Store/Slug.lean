import Mathlib
import Gamebook.Store.Slug

namespace Gamebook

theorem Text.mem_of_mem_stripBy {p : Char → Bool} {c : Char} {cs : List Char} (h : c ∈ stripBy p cs) :
    c ∈ cs := by
  have h := (List.dropWhile_suffix p).subset (List.mem_reverse.mp h)
  exact (List.dropWhile_suffix p).subset (List.mem_reverse.mp h)

theorem Text.stripBy_of_all {p : Char → Bool} {cs : List Char} (h : ∀ c ∈ cs, ¬p c) : stripBy p cs = cs := by
  have hd {cs : List Char} (h : ∀ c ∈ cs, ¬p c) : cs.dropWhile p = cs := by
    cases cs with
    | nil      => rfl
    | cons c _ => exact List.dropWhile_cons_of_neg (h c List.mem_cons_self)
  rw [stripBy, hd h, hd (by simpa using h), List.reverse_reverse]

-- What is cut off at the ends is known by what stops it.
theorem Text.stripBy_append {p : Char → Bool} {l m r : List Char} (hl : ∀ c ∈ l, p c) (hr : ∀ c ∈ r, p c)
    (hh : ∀ c ∈ m.head?, ¬p c) (ht : ∀ c ∈ m.getLast?, ¬p c) : stripBy p (l ++ m ++ r) = m := by
  have hd {cs : List Char} (h : ∀ c ∈ cs.head?, ¬p c) : cs.dropWhile p = cs := by
    cases cs with
    | nil      => rfl
    | cons c _ => exact List.dropWhile_cons_of_neg (h c rfl)
  have hr' : ∀ c ∈ r.reverse, p c := fun c hc => hr c (List.mem_reverse.mp hc)
  have ht' : ∀ c ∈ m.reverse.head?, ¬p c := by rwa [List.head?_reverse]
  rw [stripBy, List.append_assoc, List.dropWhile_append_of_pos hl]
  cases m with
  | nil      => rw [List.nil_append, List.dropWhile_eq_nil_iff.mpr hr]; rfl
  | cons c m =>
    have hm : ∀ d ∈ (c :: m ++ r).head?, ¬p d := hh
    rw [hd hm, List.reverse_append, List.dropWhile_append_of_pos hr', hd ht', List.reverse_reverse]

namespace Slug

variable {c : Char} {cs ds w : List Char} {ws : List (List Char)} {gap : Bool} {text : String}

theorem mem_join (h : c ∈ join gap cs) : isSlugChar c ∨ c = '-' := by
  induction cs generalizing gap with
  | nil => cases h
  | cons c' cs hi =>
    rw [join] at h
    split at h
    case isTrue hc =>
      cases List.mem_cons.mp h
      case inl h => exact .inl (h ▸ hc)
      case inr h => exact hi h
    case isFalse =>
      split at h
      case isTrue => exact hi h
      case isFalse =>
        cases List.mem_cons.mp h
        case inl h => exact .inr h
        case inr h => exact hi h

theorem mem_ofText (h : c ∈ (ofText text).toList) : isSlugChar c ∨ c = '-' := by
  rw [ofText] at h
  split at h
  case isTrue =>
    have hu : untitled.toList.all isSlugChar := by cbv
    exact .inl (List.all_eq_true.mp hu c h)
  case isFalse =>
    rw [String.toList_ofList] at h
    exact mem_join (Text.mem_of_mem_stripBy h)

theorem join_of_slugChars (h : ∀ c ∈ cs, isSlugChar c) : join gap cs = cs := by
  induction cs generalizing gap with
  | nil => rfl
  | cons c cs hi =>
    have ⟨hc, h⟩ := List.forall_mem_cons.mp h
    rw [join, if_pos hc, hi h]

theorem toNat_lt_of_isSlugChar (h : isSlugChar c) : c.toNat < 128 := by
  simp only [isSlugChar, Bool.or_eq_true, Bool.and_eq_true, decide_eq_true_eq, Char.le_def,
    UInt32.le_iff_toNat_le] at h
  exact h.elim (fun h => h.right.trans_lt (by decide)) fun h => h.right.trans_lt (by decide)

theorem asciiFold_eq_self (h : text.toList.all (·.toNat < 128)) : Text.asciiFold text = text := by
  have hf : text.toList.flatMap Text.asciiFoldChar = text.toList.map id := by
    rw [← List.flatMap_pure_eq_map]
    exact List.flatMap_congr fun c hc => if_pos (by simpa using List.all_eq_true.mp h c hc)
  rw [Text.asciiFold, hf, List.map_id, String.ofList_toList]

theorem of_isSlugChar (h : isSlugChar c) : c.toLower = c ∧ ¬isQuote c ∧ c ≠ '-' := by
  have hc : ∀ n < 128, isSlugChar (.ofNat n) →
      (Char.ofNat n).toLower = .ofNat n ∧ ¬isQuote (.ofNat n) ∧ .ofNat n ≠ '-' := by
    decide
  have hc := hc c.toNat (toNat_lt_of_isSlugChar h)
  rw [Char.ofNat_toNat] at hc
  exact hc h

-- Lower case letters and digits are filed under their own names.
theorem ofText_eq_self (h : text.toList.all isSlugChar) (hn : text ≠ "") : ofText text = text := by
  rw [List.all_eq_true] at h
  have hf : Text.asciiFold text = text :=
    asciiFold_eq_self (List.all_eq_true.mpr fun c hc => by simpa using toNat_lt_of_isSlugChar (h c hc))
  have hl : text.toList.map Char.toLower = text.toList.map id :=
    List.map_congr_left fun c hc => (of_isSlugChar (h c hc)).left
  have hq : text.toList.filter (!isQuote ·) = text.toList :=
    List.filter_eq_self.mpr fun c hc => by simpa using (of_isSlugChar (h c hc)).right.left
  have hs : Text.stripBy (· = '-') text.toList = text.toList :=
    Text.stripBy_of_all fun c hc => by simpa using (of_isSlugChar (h c hc)).right.right
  rw [List.map_id] at hl
  rw [ofText, hf, hl, hq, join_of_slugChars h, hs]
  simp [hn]

theorem ofText_alice : ofText "alice" = "alice" :=
  ofText_eq_self (by cbv) (by simp)

theorem ofText_bob : ofText "bob" = "bob" :=
  ofText_eq_self (by cbv) (by simp)

-- Who has a full stop in the name and who has a hyphen there are filed under one name.
theorem ofText_dotted : ofText "a.b" = "a-b" := by
  have hf : Text.asciiFold "a.b" = "a.b" := asciiFold_eq_self (by cbv)
  have hc : "a.b".toList = ['a', '.', 'b'] := by simp
  rw [ofText, hf, hc]
  rfl

theorem ofText_hyphened : ofText "a-b" = "a-b" := by
  have hf : Text.asciiFold "a-b" = "a-b" := asciiFold_eq_self (by cbv)
  have hc : "a-b".toList = ['a', '-', 'b'] := by simp
  rw [ofText, hf, hc]
  rfl

-- All characters of slugs are ASCII ones.
theorem toNat_lt_of_mem_ofText (h : c ∈ (ofText text).toList) : c.toNat < 128 := by
  cases mem_ofText h
  case inl h => exact toNat_lt_of_isSlugChar h
  case inr h => exact h ▸ by decide

theorem utf8ByteSize_ofText : (ofText text).utf8ByteSize = (ofText text).length := by
  have hl {cs : List Char} (h : ∀ c ∈ cs, c.toNat < 128) : String.utf8Len cs = cs.length := by
    induction cs with
    | nil          => rfl
    | cons c cs hi =>
      have ⟨hc, h⟩ := List.forall_mem_cons.mp h
      have hs : c.utf8Size = 1 :=
        Char.utf8Size_eq_one_iff.mpr (UInt32.le_iff_toNat_le.mpr (Nat.le_of_lt_succ hc))
      rw [String.utf8Len_cons, hi h, hs, List.length_cons]
  rw [← String.utf8Len_toList, hl fun _ => toNat_lt_of_mem_ofText, String.length_toList]

def IsWord (w : List Char) : Prop :=
  w ≠ [] ∧ ∀ c ∈ w, isSlugChar c

-- Words with one hyphen between each two of them.
def IsSlug (text : String) : Prop :=
  ∃ ws ≠ [], (∀ w ∈ ws, IsWord w) ∧ text.toList = ['-'].intercalate ws

-- The longest runs of lower case letters and digits.
def runs (cs : List Char) : List (List Char) :=
  (cs.splitOnP (!isSlugChar ·)).filter (· ≠ [])

-- What is filed of a text.
def folded (text : String) : List Char :=
  ((Text.asciiFold text).toList.map Char.toLower).filter (!isQuote ·)

-- The words of which the name of a text is made up.
def words (text : String) : List (List Char) :=
  if runs (folded text) = [] then [untitled.toList] else runs (folded text)

theorem runs_nil : runs [] = [] :=
  rfl

-- What is no letter or digit parts the runs before it from those behind it.
theorem runs_append_cons (hc : ¬isSlugChar c) : runs (cs ++ c :: ds) = runs cs ++ runs ds := by
  rw [runs, List.splitOnP_append_cons cs ds (by simpa using hc), List.filter_append]
  rfl

theorem runs_of_isWord (h : IsWord w) : runs w = [w] := by
  have hw : w.splitOnP (!isSlugChar ·) = [w] :=
    List.splitOnP_eq_singleton fun c hc => by simpa using h.right c hc
  rw [runs, hw, List.filter_singleton, decide_eq_true h.left]
  rfl

theorem forall_not_of_mem_splitOnP {p : Char → Bool} (h : w ∈ cs.splitOnP p) : ∀ c ∈ w, ¬p c := by
  induction cs generalizing w with
  | nil =>
    rw [List.splitOnP_nil, List.mem_singleton] at h
    exact h ▸ List.forall_mem_nil _
  | cons c cs hi =>
    rw [List.splitOnP_cons_eq_if_modifyHead] at h
    split at h
    case isTrue =>
      cases List.mem_cons.mp h
      case inl h => exact h ▸ List.forall_mem_nil _
      case inr h => exact hi h
    case isFalse hc =>
      obtain ⟨v, vs, hv⟩ := List.exists_cons_of_ne_nil (List.splitOnP_ne_nil p cs)
      rw [hv] at h hi
      cases List.mem_cons.mp h
      case inl h => exact h ▸ List.forall_mem_cons.mpr ⟨hc, hi List.mem_cons_self⟩
      case inr h => exact hi (List.mem_cons_of_mem _ h)

theorem isWord_of_mem_runs (h : w ∈ runs cs) : IsWord w := by
  obtain ⟨hw, hn⟩ := List.mem_filter.mp h
  exact ⟨of_decide_eq_true hn, fun c hc => by simpa using forall_not_of_mem_splitOnP hw c hc⟩

theorem not_isSlugChar_hyphen : ¬isSlugChar '-' := by
  decide

theorem runs_intercalate (h : ∀ w ∈ ws, IsWord w) : runs (['-'].intercalate ws) = ws := by
  induction ws with
  | nil          => rfl
  | cons w ws hi =>
    have ⟨hw, h⟩ := List.forall_mem_cons.mp h
    cases ws with
    | nil       => rw [List.intercalate_singleton, runs_of_isWord hw]
    | cons v ws =>
      rw [List.intercalate_cons_cons, List.append_assoc, List.singleton_append,
        runs_append_cons not_isSlugChar_hyphen, runs_of_isWord hw, hi h]
      rfl

-- While a text is read, a word may have been begun. Hyphens at its end are still there.
theorem exists_join (h : ∀ c ∈ w, isSlugChar c) :
    ∃ r, (∀ c ∈ r, c = '-') ∧ w ++ join w.isEmpty cs = ['-'].intercalate (runs (w ++ cs)) ++ r := by
  induction cs generalizing w with
  | nil =>
    refine ⟨[], List.forall_mem_nil _, ?_⟩
    rw [join, List.append_nil, List.append_nil]
    cases w with
    | nil      => rfl
    | cons d w => rw [runs_of_isWord ⟨List.cons_ne_nil d w, h⟩, List.intercalate_singleton]
  | cons c cs hi =>
    by_cases hc : isSlugChar c
    case pos =>
      have hw : ∀ d ∈ w ++ [c], isSlugChar d := List.forall_mem_append.mpr ⟨h, List.forall_mem_singleton.mpr hc⟩
      obtain ⟨r, hr, he⟩ := hi hw
      refine ⟨r, hr, ?_⟩
      rw [List.isEmpty_eq_false_iff.mpr (List.concat_ne_nil c w), List.append_assoc, List.append_assoc] at he
      rwa [join, if_pos hc]
    case neg =>
      obtain ⟨r, hr, he⟩ := hi (w := []) (List.forall_mem_nil _)
      rw [List.nil_append, List.nil_append, List.isEmpty_nil] at he
      rw [runs_append_cons hc, join, if_neg hc]
      cases w with
      | nil      => exact ⟨r, hr, he⟩
      | cons d w =>
        rw [runs_of_isWord ⟨List.cons_ne_nil d w, h⟩, List.singleton_append, List.isEmpty_cons,
          if_neg Bool.false_ne_true, he]
        by_cases hn : runs cs = []
        case pos => exact ⟨'-' :: r, List.forall_mem_cons.mpr ⟨rfl, hr⟩, by rw [hn, List.intercalate_singleton]; rfl⟩
        case neg => exact ⟨r, hr, by simp [List.intercalate_cons_of_ne_nil hn]⟩

theorem head?_intercalate (h : ∀ w ∈ ws, IsWord w) : ∀ c ∈ (['-'].intercalate ws).head?, isSlugChar c := by
  cases ws with
  | nil       => exact nofun
  | cons w ws =>
    obtain ⟨hw, _⟩ := List.forall_mem_cons.mp h
    obtain ⟨d, w, rfl⟩ := List.exists_cons_of_ne_nil hw.left
    intro c hc
    have hd : c = d := by
      cases ws with
      | nil       => simpa [eq_comm] using hc
      | cons v ws => simpa [List.intercalate_cons_cons, eq_comm] using hc
    exact hd ▸ hw.right d List.mem_cons_self

theorem intercalate_ne_nil (h : ∀ w ∈ ws, IsWord w) (hn : ws ≠ []) : ['-'].intercalate ws ≠ [] := by
  intro he
  have hr := runs_intercalate h
  rw [he, runs_nil] at hr
  exact hn hr.symm

theorem getLast?_intercalate (h : ∀ w ∈ ws, IsWord w) : ∀ c ∈ (['-'].intercalate ws).getLast?, isSlugChar c := by
  induction ws with
  | nil          => exact nofun
  | cons w ws hi =>
    obtain ⟨hw, h⟩ := List.forall_mem_cons.mp h
    intro c hc
    by_cases hn : ws = []
    case pos =>
      rw [hn, List.intercalate_singleton] at hc
      exact hw.right c (List.mem_of_getLast? hc)
    case neg =>
      rw [List.intercalate_cons_of_ne_nil hn, List.getLast?_append_of_ne_nil _ (intercalate_ne_nil h hn)] at hc
      exact hi h c hc

-- Of all the hyphens, those between two words remain.
theorem stripBy_join : Text.stripBy (· = '-') (join gap cs) = ['-'].intercalate (runs cs) := by
  have hw : ∀ w ∈ runs cs, IsWord w := fun w => isWord_of_mem_runs
  have hn : ∀ {c}, isSlugChar c → ¬decide (c = '-') = true := fun hc => by simpa using (of_isSlugChar hc).right.right
  obtain ⟨r, hr, he⟩ : ∃ r, (∀ c ∈ r, c = '-') ∧ join true cs = ['-'].intercalate (runs cs) ++ r :=
    exists_join (List.forall_mem_nil _)
  obtain ⟨l, hl, hj⟩ : ∃ l, (∀ c ∈ l, c = '-') ∧ join gap cs = l ++ join true cs := by
    cases gap with
    | true  => exact ⟨[], List.forall_mem_nil _, rfl⟩
    | false =>
      cases cs with
      | nil       => exact ⟨[], List.forall_mem_nil _, rfl⟩
      | cons c cs =>
        by_cases hc : isSlugChar c
        case pos => exact ⟨[], List.forall_mem_nil _, by simp [join, hc]⟩
        case neg => exact ⟨['-'], List.forall_mem_singleton.mpr rfl, by simp [join, hc]⟩
  rw [hj, he, ← List.append_assoc]
  apply Text.stripBy_append
  case hl => simpa using hl
  case hr => simpa using hr
  case hh => exact fun c hc => hn (head?_intercalate hw c hc)
  case ht => exact fun c hc => hn (getLast?_intercalate hw c hc)

theorem isWord_of_mem_words (h : w ∈ words text) : IsWord w := by
  rw [words] at h
  split at h
  case isTrue  =>
    rw [List.mem_singleton.mp h]
    exact ⟨by decide, List.all_eq_true.mp (by cbv)⟩
  case isFalse => exact isWord_of_mem_runs h

theorem words_ne_nil : words text ≠ [] := by
  rw [words]
  split
  case isTrue    => exact List.cons_ne_nil _ _
  case isFalse h => exact h

-- A text is filed under its words.
theorem toList_ofText : (ofText text).toList = ['-'].intercalate (words text) := by
  have ho : ofText text =
      let cs := Text.stripBy (· = '-') (join false (folded text))
      if cs.isEmpty then untitled else .ofList cs := rfl
  rw [ho, stripBy_join, words]
  by_cases hn : runs (folded text) = []
  case pos =>
    rw [hn, if_pos rfl, List.intercalate_singleton]
    rfl
  case neg =>
    have hi : ['-'].intercalate (runs (folded text)) ≠ [] := intercalate_ne_nil (fun w => isWord_of_mem_runs) hn
    rw [if_neg hn]
    simp [hi]

theorem isSlug_ofText : IsSlug (ofText text) :=
  ⟨words text, words_ne_nil, fun _ => isWord_of_mem_words, toList_ofText⟩

-- A slug begins with a letter or a digit.
theorem exists_toList_ofText (text : String) : ∃ c cs, (ofText text).toList = c :: cs ∧ isSlugChar c := by
  have hw : ∀ w ∈ words text, IsWord w := fun _ => isWord_of_mem_words
  obtain ⟨c, cs, hc⟩ := List.exists_cons_of_ne_nil (intercalate_ne_nil hw words_ne_nil)
  exact ⟨c, cs, toList_ofText.trans hc, head?_intercalate hw c (by rw [hc]; rfl)⟩

theorem mem_intercalate (h : ∀ w ∈ ws, IsWord w) (hc : c ∈ ['-'].intercalate ws) : isSlugChar c ∨ c = '-' := by
  induction ws with
  | nil          => cases hc
  | cons w ws hi =>
    obtain ⟨hw, h⟩ := List.forall_mem_cons.mp h
    by_cases hn : ws = []
    case pos =>
      rw [hn, List.intercalate_singleton] at hc
      exact .inl (hw.right c hc)
    case neg =>
      rw [List.intercalate_cons_of_ne_nil hn, List.append_assoc, List.singleton_append, List.mem_append, List.mem_cons] at hc
      rcases hc with hc | hc | hc
      · exact .inl (hw.right c hc)
      · exact .inr hc
      · exact hi h hc

theorem IsSlug.folded (h : IsSlug text) : Slug.folded text = text.toList := by
  obtain ⟨ws, _, hw, ht⟩ := h
  have hs : ∀ c ∈ text.toList, c.toNat < 128 ∧ c.toLower = c ∧ ¬isQuote c := by
    intro c hc
    rw [ht] at hc
    rcases mem_intercalate hw hc with hc | rfl
    · exact ⟨toNat_lt_of_isSlugChar hc, (of_isSlugChar hc).left, (of_isSlugChar hc).right.left⟩
    · decide
  have ha : Text.asciiFold text = text :=
    asciiFold_eq_self (List.all_eq_true.mpr fun c hc => decide_eq_true (hs c hc).left)
  have hl : text.toList.map Char.toLower = text.toList.map id :=
    List.map_congr_left fun c hc => (hs c hc).right.left
  rw [Slug.folded, ha, hl, List.map_id]
  exact List.filter_eq_self.mpr fun c hc => by simpa using (hs c hc).right.right

-- Slugs are filed under themselves, and nothing else is.
theorem ofText_eq_iff : ofText text = text ↔ IsSlug text := by
  constructor
  · exact fun h => h ▸ isSlug_ofText
  · intro h
    have hf := h.folded
    obtain ⟨ws, hn, hw, ht⟩ := h
    have hr : words text = ws := by
      rw [words, hf, ht, runs_intercalate hw, if_neg hn]
    rw [← String.toList_inj, toList_ofText, hr, ht]

theorem ofText_ofText : ofText (ofText text) = ofText text :=
  ofText_eq_iff.mpr isSlug_ofText

end Slug
end Gamebook
