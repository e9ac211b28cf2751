namespace Gamebook

-- A finite map that remembers in which order its keys first came.
@[ext]
structure Ordered (κ α : Type _) where
  entries : List (κ × α)
  nodup   : (entries.map Prod.fst).Nodup := by decide
deriving DecidableEq, Repr

namespace Ordered

-- Association lists whose keys are distinct. A key that comes again keeps its first position.
def put [DecidableEq κ] (k : κ) (a : α) : List (κ × α) → List (κ × α)
  | []      => [(k, a)]
  | e :: es => if e.1 = k then (e.1, a) :: es else e :: put k a es

variable [DecidableEq κ]

theorem mem_keys_put {k k' : κ} {a : α} {es : List (κ × α)} :
    k' ∈ (put k a es).map Prod.fst ↔ k' = k ∨ k' ∈ es.map Prod.fst := by
  induction es with
  | nil => simp [put]
  | cons e es ih =>
    by_cases h : e.1 = k
    · simp [put, h]
    · rw [put, if_neg h, List.map_cons, List.mem_cons, ih, List.map_cons, List.mem_cons]
      constructor
      · rintro (h | h | h) <;> simp [h]
      · rintro (h | h | h) <;> simp [h]

theorem nodup_put {k : κ} {a : α} {es : List (κ × α)} (h : (es.map Prod.fst).Nodup) :
    ((put k a es).map Prod.fst).Nodup := by
  induction es with
  | nil => simp [put]
  | cons e es ih =>
    rw [List.map_cons, List.nodup_cons] at h
    by_cases he : e.1 = k
    · rwa [put, if_pos he, List.map_cons, List.nodup_cons]
    · rw [put, if_neg he, List.map_cons, List.nodup_cons]
      refine ⟨fun hm => ?_, ih h.2⟩
      rcases mem_keys_put.mp hm with hk | hm
      · exact he hk
      · exact h.1 hm

def empty : Ordered κ α where
  entries := []
  nodup   := List.nodup_nil

instance : Inhabited (Ordered κ α) := ⟨empty⟩

def insert (m : Ordered κ α) (k : κ) (a : α) : Ordered κ α where
  entries := put k a m.entries
  nodup   := nodup_put m.nodup

def get? (m : Ordered κ α) (k : κ) : Option α :=
  (m.entries.find? (·.1 = k)).map Prod.snd

-- The view through which maps are reasoned about.
theorem get?_insert (m : Ordered κ α) (k k' : κ) (a : α) :
    (m.insert k a).get? k' = if k' = k then some a else m.get? k' := by
  obtain ⟨es, _⟩ := m
  simp only [insert, get?]
  induction es with
  | nil => by_cases h : k = k' <;> simp [put, h, eq_comm]
  | cons e es ih => grind [put]

def contains (m : Ordered κ α) (k : κ) : Bool :=
  m.entries.any (·.1 = k)

def keys (m : Ordered κ α) : List κ :=
  m.entries.map Prod.fst

def values (m : Ordered κ α) : List α :=
  m.entries.map Prod.snd

def size (m : Ordered κ α) : Nat :=
  m.entries.length

def ofList (es : List (κ × α)) : Ordered κ α :=
  es.foldl (fun m e => m.insert e.1 e.2) empty

omit [DecidableEq κ] in
theorem nodup_filter {es : List (κ × α)} {p : κ × α → Bool} (h : (es.map Prod.fst).Nodup) :
    ((es.filter p).map Prod.fst).Nodup :=
  h.sublist (List.filter_sublist.map Prod.fst)

omit [DecidableEq κ] in
def filter (m : Ordered κ α) (p : κ → α → Bool) : Ordered κ α where
  entries := m.entries.filter fun e => p e.1 e.2
  nodup   := nodup_filter m.nodup

def erase (m : Ordered κ α) (k : κ) : Ordered κ α :=
  m.filter fun k' _ => k' ≠ k

-- Do two maps hold related values under the same keys? Their orders do not matter.
def agree (r : α → α → Bool) (m n : Ordered κ α) : Bool :=
  m.size = n.size && m.entries.all fun e => (n.get? e.1).any (r e.2)

end Ordered
end Gamebook
