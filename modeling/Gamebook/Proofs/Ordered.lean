import Mathlib
import Gamebook.Ordered

namespace Gamebook
namespace Ordered

variable [DecidableEq κ] {k : κ} {a : α} {e : κ × α} {es : List (κ × α)} {m n : Ordered κ α}

theorem put_of_not_mem (h : k ∉ es.map Prod.fst) : put k a es = es ++ [(k, a)] := by
  induction es with
  | nil => rfl
  | cons e es hi =>
    simp only [List.map_cons, List.mem_cons, not_or] at h
    rw [put, if_neg (Ne.symm h.left), hi h.right, List.cons_append]

theorem mem_of_mem_put {e : κ × α} (h : e ∈ put k a es) : e = (k, a) ∨ e ∈ es := by
  induction es with
  | nil => exact .inl (List.mem_singleton.mp h)
  | cons e' es hi =>
    rw [put] at h
    split at h
    case isTrue hk =>
      cases List.mem_cons.mp h
      case inl h => exact .inl (hk ▸ h)
      case inr h => exact .inr (List.mem_cons_of_mem _ h)
    case isFalse =>
      cases List.mem_cons.mp h
      case inl h => exact .inr (h ▸ List.mem_cons_self)
      case inr h => exact (hi h).imp_right (List.mem_cons_of_mem _)

-- What a map holds after further entries have been put into it one by one.
theorem entries_foldl_insert {es : List (κ × α)} {m : Ordered κ α}
    (h : ((m.entries ++ es).map Prod.fst).Nodup) :
    (es.foldl (fun m e => m.insert e.1 e.2) m).entries = m.entries ++ es := by
  induction es generalizing m with
  | nil => simp
  | cons e es hi =>
    have hd : e.1 ∉ m.entries.map Prod.fst := by
      intro hm
      rw [List.map_append, List.nodup_append] at h
      exact h.right.right _ hm _ (by simp) rfl
    have hm : (m.insert e.1 e.2).entries = m.entries ++ [e] := put_of_not_mem hd
    rw [List.foldl_cons, hi (by simpa [hm] using h), hm, List.append_assoc, List.singleton_append]

theorem entries_ofList (h : (es.map Prod.fst).Nodup) : (ofList es).entries = es :=
  entries_foldl_insert (m := empty) h

theorem ofList_entries (m : Ordered κ α) : ofList m.entries = m :=
  Ordered.ext (entries_ofList m.nodup)

theorem mem_foldl_insert {e : κ × α}
    (h : e ∈ (es.foldl (fun m e => m.insert e.1 e.2) m).entries) : e ∈ m.entries ∨ e ∈ es := by
  induction es generalizing m with
  | nil => exact .inl h
  | cons e' es hi =>
    cases hi h
    case inl h =>
      cases mem_of_mem_put h
      case inl h => exact .inr (h ▸ List.mem_cons_self)
      case inr h => exact .inl h
    case inr h => exact .inr (List.mem_cons_of_mem _ h)

theorem mem_of_mem_ofList {e : κ × α} (h : e ∈ (ofList es).entries) : e ∈ es :=
  (mem_foldl_insert h).resolve_left List.not_mem_nil

theorem contains_iff : m.contains k ↔ k ∈ m.keys := by
  simp [contains, keys]

theorem get?_eq_none : m.get? k = none ↔ k ∉ m.keys := by
  rw [get?, Option.map_eq_none_iff, List.find?_eq_none, keys, List.mem_map]
  simp only [decide_eq_true_eq, not_exists, not_and]

theorem mem_of_get? (h : m.get? k = some a) : (k, a) ∈ m.entries := by
  obtain ⟨e, he, rfl⟩ := Option.map_eq_some_iff.mp h
  have hk : e.1 = k := by simpa using List.find?_some he
  exact hk ▸ List.mem_of_find?_eq_some he

theorem mem_values_of_get? (h : m.get? k = some a) : a ∈ m.values :=
  List.mem_map_of_mem (mem_of_get? h)

theorem get?_filter_pos {p : κ → α → Bool} (h : ∀ a, p k a) : (m.filter p).get? k = m.get? k := by
  obtain ⟨es, _⟩ := m
  simp only [filter, get?, List.find?_filter]
  refine congrArg _ (congrArg₂ _ (funext fun e => ?_) rfl)
  by_cases he : e.1 = k
  case pos => simp [he, h]
  case neg => simp [he]

theorem get?_filter_neg {p : κ → α → Bool} (h : ∀ a, ¬p k a) : (m.filter p).get? k = none := by
  obtain ⟨es, _⟩ := m
  simp only [filter, get?, List.find?_filter, Option.map_eq_none_iff, List.find?_eq_none]
  intro e _ he
  obtain ⟨hp, hk⟩ := by simpa using he
  exact h e.2 (hk ▸ hp)

theorem mem_keys_insert {k' : κ} : k' ∈ (m.insert k a).keys ↔ k' = k ∨ k' ∈ m.keys :=
  mem_keys_put

theorem mem_keys_foldl_insert :
    k ∈ (es.foldl (fun m e => m.insert e.1 e.2) m).keys ↔ k ∈ m.keys ∨ k ∈ es.map Prod.fst := by
  induction es generalizing m with
  | nil => simp
  | cons e es hi =>
    rw [List.foldl_cons, hi, mem_keys_insert, List.map_cons, List.mem_cons, or_assoc, or_left_comm]

theorem mem_keys_ofList : k ∈ (ofList es).keys ↔ k ∈ es.map Prod.fst := by
  rw [ofList, mem_keys_foldl_insert]
  exact or_iff_right List.not_mem_nil

theorem keys_put :
    (put k a es).map Prod.fst = if k ∈ es.map Prod.fst then es.map Prod.fst else es.map Prod.fst ++ [k] := by
  induction es with
  | nil          => rfl
  | cons e es hi =>
    rw [put]
    by_cases h : e.1 = k
    case pos => simp [h]
    case neg =>
      simp only [h, if_false, List.map_cons, hi, List.mem_cons, eq_comm (a := k), false_or]
      split <;> rfl

theorem keys_insert : (m.insert k a).keys = if k ∈ m.keys then m.keys else m.keys ++ [k] :=
  keys_put

theorem ofList_concat : ofList (es ++ [e]) = (ofList es).insert e.1 e.2 :=
  List.foldl_append

theorem eraseDups_concat {ks : List κ} :
    (ks ++ [k]).eraseDups = if k ∈ ks then ks.eraseDups else ks.eraseDups ++ [k] := by
  rw [List.eraseDups_append]
  by_cases h : k ∈ ks <;> simp [List.removeAll, List.eraseDups_cons, h]

-- Each key stands where it first came.
theorem keys_ofList : (ofList es).keys = (es.map Prod.fst).eraseDups := by
  induction es using List.reverseRecOn with
  | nil                      => rfl
  | append_singleton es e hi =>
    rw [ofList_concat, keys_insert, List.map_append, List.map_singleton, eraseDups_concat]
    simp only [← hi, mem_keys_ofList]

-- Under each key stands what came last.
theorem get?_ofList : (ofList es).get? k = ((es.filter (·.1 = k)).getLast?).map Prod.snd := by
  induction es using List.reverseRecOn with
  | nil                      => rfl
  | append_singleton es e hi =>
    rw [ofList_concat, get?_insert, hi, List.filter_append]
    by_cases h : e.1 = k
    case pos => simp [h]
    case neg => simp [h, Ne.symm h]

omit [DecidableEq κ] in
theorem keys_map_values (f : α → β) (es : List (κ × α)) :
    (es.map fun e => (e.1, f e.2)).map Prod.fst = es.map Prod.fst := by
  simp [Function.comp_def]

omit [DecidableEq κ] in
-- Changes what is held under the keys.
def mapValues (f : α → β) (m : Ordered κ α) : Ordered κ β where
  entries := m.entries.map fun e => (e.1, f e.2)
  nodup   := keys_map_values f m.entries ▸ m.nodup

theorem get?_mapValues {f : α → β} : (m.mapValues f).get? k = (m.get? k).map f := by
  rw [get?, get?, mapValues, List.find?_map, Option.map_map, Option.map_map]
  rfl

theorem contains_mapValues {f : α → β} : (m.mapValues f).contains k ↔ m.contains k := by
  rw [contains_iff, contains_iff, keys, keys, mapValues, keys_map_values]

omit [DecidableEq κ] in
theorem map_eq_self {f : α → α} {xs : List α} : xs.map f = xs ↔ ∀ x ∈ xs, f x = x := by
  have h := List.map_inj_left (l := xs) (f := f) (g := id)
  rwa [List.map_id] at h

omit [DecidableEq κ] in
theorem mapValues_eq_self {f : α → α} : m.mapValues f = m ↔ ∀ e ∈ m.entries, f e.2 = e.2 := by
  rw [Ordered.ext_iff, mapValues, map_eq_self]
  simp [Prod.ext_iff]

omit [DecidableEq κ] in
-- Changes the keys. Different ones stay different.
def mapKeys (f : κ ↪ ι) (m : Ordered κ α) : Ordered ι α where
  entries := m.entries.map fun e => (f e.1, e.2)
  nodup   := by
    have h : (m.entries.map fun e => (f e.1, e.2)).map Prod.fst = (m.entries.map Prod.fst).map f := by
      simp [Function.comp_def]
    exact h ▸ m.nodup.map f.injective

theorem get?_mapKeys [DecidableEq ι] {f : κ ↪ ι} : (m.mapKeys f).get? (f k) = m.get? k := by
  rw [get?, get?, mapKeys, List.find?_map, Option.map_map]
  simp [Function.comp_def]

theorem get?_of_mem {e : κ × α} (h : e ∈ m.entries) : m.get? e.1 = some e.2 := by
  obtain ⟨es, hn⟩ := m
  simp only [get?] at h ⊢
  induction es with
  | nil => cases h
  | cons e' es hi =>
    rw [List.map_cons, List.nodup_cons] at hn
    cases List.mem_cons.mp h
    case inl h => simp [h]
    case inr h =>
      have hne : e'.1 ≠ e.1 := fun he => hn.left (he ▸ List.mem_map_of_mem h)
      rw [List.find?_cons_of_neg (by simpa using hne)]
      exact hi hn.right h

theorem entries_eq_filterMap (m : Ordered κ α) : m.entries = m.keys.filterMap fun k => (m.get? k).map (k, ·) := by
  rw [keys, List.filterMap_map]
  conv_lhs => rw [← List.filterMap_some (l := m.entries)]
  refine List.filterMap_congr fun e he => ?_
  rw [Function.comp_apply, get?_of_mem he]
  rfl

-- A map is known by the order of its keys and by what it holds under them.
theorem eq_of_get? (hk : m.keys = n.keys) (h : ∀ k, m.get? k = n.get? k) : m = n := by
  apply Ordered.ext
  rw [entries_eq_filterMap m, entries_eq_filterMap n, hk]
  simp only [h]

theorem perm_of_get? (hk : m.keys.Perm n.keys) (h : ∀ k, m.get? k = n.get? k) : m.entries.Perm n.entries := by
  rw [entries_eq_filterMap m, entries_eq_filterMap n]
  simp only [h]
  exact hk.filterMap _

theorem agree_refl {r : α → α → Bool} (h : ∀ a, r a a) : m.agree r m := by
  have hm : ∀ e ∈ m.entries, (m.get? e.1).any (r e.2) := fun e he => by
    rw [get?_of_mem he]
    exact h e.2
  simp only [agree, decide_true, Bool.true_and]
  exact List.all_eq_true.mpr hm

-- Changed values may agree with those that they come from.
theorem agree_mapValues {f : α → α} {r : α → α → Bool} (h : (m.mapValues f).agree r m) :
    ∀ e ∈ m.entries, r (f e.2) e.2 := by
  intro e he
  simp only [agree, Bool.and_eq_true, List.all_eq_true] at h
  have h := h.right _ (List.mem_map_of_mem he)
  rwa [get?_of_mem he] at h

end Ordered
end Gamebook
