import Mathlib
import Gamebook.Proofs.Yaml.Block

namespace Gamebook
namespace Yaml

open Scanner

-- What is written between two pens: a token or two, the text after a sign or after the colon of a key,
-- and parts, which start where the pen is.

def WritesLeaf (n : Nat) (ts : List Token) (p q : Pen) : Prop :=
  ∃ w, p.Writes q w ∧ Solid w ∧ ReadsLeaf n ts w

def WritesInner (n : Nat) (ok : Bool) (ts : List Token) (p q : Pen) : Prop :=
  ∃ w, p.Writes q w ∧ Solid w ∧ ReadsInner n ok ts w

def WritesValue (n : Nat) (ok : Bool) (ts : List Token) (p q : Pen) : Prop :=
  ∃ w, q.text = p.text ++ w ∧ ¬q.fresh ∧ endsWord w.head? ∧ (∀ c ∈ w, isAllowed c) ∧ ReadsValue n ok ts w

def WritesParts (n : Nat) (start : Token) (ok : Bool) (ts : List Token) (p q : Pen) : Prop :=
  ∃ w, q.text = p.text ++ w ∧ ¬q.fresh ∧ Solid w ∧ ReadsParts n start ok ts w

variable {p q r : Pen} {n d : Nat} {ok ok' : Bool} {ts ts' : List Token} {start : Token} {j : Json} {k : String}
  {xs : List Json} {ms : List (String × Json)}

theorem writeText_leaf (hn : n + 2 < Pen.width) (s : String) :
    WritesLeaf n [.scalar (heard s) (isPlain s)] p (writeText (n + 2) true p s) := by
  have ⟨w, hw, hs, _⟩ := writeText_spelled (p := p) true s (Nat.succ_ne_zero _) hn
  exact ⟨w, hw, hs.solid, readsLeaf_spelled hs (by omega)⟩

theorem writeBool_leaf (b : Bool) :
    WritesLeaf n (tokens true (.bool b)) p (writeLeaf n p (.bool b)) := by
  have hb : Style.allowsPlain (Json.writeCompact (.bool b)) ∧ Json.writeCompact (.bool b) ≠ [] := by
    cases b <;> decide
  have ⟨w, hw, hs, _⟩ := writePlain_spelled (p := p) (n + 2) true hb.left hb.right
  exact ⟨w, hw, hs.solid, readsLeaf_spelled hs (by omega)⟩

theorem writeSequence_leaf : WritesLeaf n (tokens true (.arr [])) p (writeLeaf n p (.arr [])) := by
  refine ⟨['[', ']'], ⟨?_, by simp [writeLeaf]⟩, ⟨.cons (by decide), by simp, List.all_eq_true.mp (by decide)⟩, readsLeaf_sequence⟩
  cases hb : p.blank <;> simp [writeLeaf, hb]

theorem writeMapping_leaf : WritesLeaf n (tokens true (.obj [])) p (writeLeaf n p (.obj [])) := by
  refine ⟨['\x7b', '\x7d'], ⟨?_, by simp [writeLeaf]⟩, ⟨.cons (by decide), by simp, List.all_eq_true.mp (by decide)⟩, readsLeaf_mapping⟩
  cases hb : p.blank <;> simp [writeLeaf, hb]

theorem WritesLeaf.inner (h : WritesLeaf n ts p q) : WritesInner n true ts p q := by
  have ⟨w, hw, hs, h⟩ := h
  exact ⟨w, hw, hs, h.inner⟩

theorem WritesLeaf.value (h : WritesLeaf n ts p q) (hb : ¬p.blank) : WritesValue n true ts p q := by
  have ⟨w, hw, hs, h⟩ := h
  have ht := hw.text
  rw [if_neg hb] at ht
  exact ⟨' ' :: w, ht, hw.fresh, rfl, List.forall_mem_cons.mpr ⟨by decide, hs.allowed⟩, h.value hs⟩

theorem WritesParts.append (h : WritesParts n start ok ts p q) (h' : WritesParts n start ok' ts' (q.toColumn n) r) :
    WritesParts n start (ok && ok') (ts ++ ts') p r := by
  have ⟨w, ht, hf, hs, h⟩ := h
  have ⟨v, ht', hf', hs', h'⟩ := h'
  refine ⟨w ++ newLine n v, ?_, hf', ?_, h.append h' hs'⟩
  · rw [ht', (Pen.toColumn_occupied (.inl hf)).left, ht, newLine]
    simp
  · have hv : ∀ c ∈ newLine n v, isAllowed c := fun c => isAllowed_of_mem_newLine hs'.allowed
    exact ⟨hs.starts.append hs.ne, by simp [hs.ne], List.forall_mem_append.mpr ⟨hs.allowed, hv⟩⟩

-- Parts in the line of a sign.
theorem WritesParts.inner (hf : p.fresh) (hb : ¬p.blank) (hc : p.column = n + 1)
    (h : WritesParts (n + 2) start ok ts (p.toColumn (n + 2)) q) :
    WritesInner n ok (start :: (ts ++ [.blockEnd])) p q := by
  have ⟨w, ht, hf', hs, h⟩ := h
  have ht' := (Pen.toColumn_fresh hf (n := n + 2) (by omega)).left
  refine ⟨w, ⟨?_, hf'⟩, hs, h.inner⟩
  rw [ht, ht', hc, if_neg hb, show n + 2 - (n + 1) = 1 by omega, List.append_assoc]
  rfl

-- Parts on the lines after a key.
theorem WritesParts.value (hf : ¬p.fresh) (h : WritesParts (n + 2) start ok ts (p.toColumn (n + 2)) q) :
    WritesValue n ok (start :: (ts ++ [.blockEnd])) p q := by
  have ⟨w, ht, hf', hs, h⟩ := h
  have ht' := (Pen.toColumn_occupied (.inl hf) (n := n + 2)).left
  refine ⟨newLine (n + 2) w, ?_, hf', rfl, fun _ => isAllowed_of_mem_newLine hs.allowed, h.value hs⟩
  rw [ht, ht', newLine, List.append_assoc]
  rfl

theorem WritesParts.indentless (hf : ¬p.fresh) (h : WritesParts n start ok ts (p.toColumn n) q) :
    WritesValue n ok ts p q := by
  have ⟨w, ht, hf', hs, h⟩ := h
  have ht' := (Pen.toColumn_occupied (.inl hf) (n := n)).left
  refine ⟨newLine n w, ?_, hf', rfl, fun _ => isAllowed_of_mem_newLine hs.allowed, h.indentless hs⟩
  rw [ht, ht', newLine, List.append_assoc]
  rfl

-- The parts of a block.

theorem writeItem_part (hp : p.Ready n) (h : WritesInner n ok ts (p.mark ['-'] true false true) q) :
    WritesParts n .blockSequenceStart ok (.blockEntry :: ts) p q := by
  have ⟨w, hw, hs, h⟩ := h
  refine ⟨'-' :: ' ' :: w, ?_, hw.fresh, ⟨.cons (by decide), by simp, ?_⟩, readsParts_item h hs⟩
  · rw [hw.text]
    simp [hp.blank]
  · exact List.forall_mem_cons.mpr ⟨by decide, List.forall_mem_cons.mpr ⟨by decide, hs.allowed⟩⟩

theorem writeEntry_simple (hp : p.Ready n) (hn : n + 2 < Pen.width) (hk : Style.isSimpleKey k.toList)
    (h : WritesValue n ok ts ((writeText (n + 2) false p k).mark [':'] false false false) q) :
    WritesParts n .blockMappingStart (fitsKey k && ok) (.key :: .scalar (heard k) (isPlain k) :: .value :: ts) p q := by
  have ⟨w, hw, hsp, hd⟩ := writeText_spelled (p := p) false k (Nat.succ_ne_zero _) hn
  have hm : ¬Style.isMultiline k.toList := by
    simp only [Style.isSimpleKey, Bool.and_eq_true, Bool.not_eq_true'] at hk
    simp [hk]
  have hd := hd (by simp) hm
  have hf : fitsKey k = decide (w.length ≤ keyLimit) := by simp [fitsKey, hk, hd]
  have ⟨v, ht, hf', he, ha, h⟩ := h
  refine ⟨w ++ ':' :: v, ?_, hf', ⟨hsp.solid.starts.append hsp.solid.ne, by simp, ?_⟩, ?_⟩
  · rw [ht, Pen.text_mark, hw.text]
    simp [hp.blank]
  · exact List.forall_mem_append.mpr ⟨hsp.allowed, List.forall_mem_cons.mpr ⟨by decide, ha⟩⟩
  · exact hf ▸ readsParts_simple hsp (hd ▸ not_isBreak_of_mem_spelling hm) (by omega) he h

theorem writeEntry_complex (hp : p.Ready n) (hn : n + 2 < Pen.width) (hk : ¬Style.isSimpleKey k.toList)
    (h : WritesInner n ok ts
      (((writeText (n + 2) true (p.mark ['?'] true false true) k).toColumn n).mark [':'] true false true) q) :
    WritesParts n .blockMappingStart (fitsKey k && ok) (.key :: .scalar (heard k) (isPlain k) :: .value :: ts) p q := by
  have ⟨w, hw, hs, hl⟩ := writeText_leaf (p := p.mark ['?'] true false true) hn k
  have ⟨ht, hr⟩ := Pen.toColumn_occupied (n := n) (.inl hw.fresh)
  have hf : fitsKey k = true := by simp [fitsKey, hk]
  have ⟨v, hv, hsv, h⟩ := h
  refine ⟨'?' :: ' ' :: (w ++ newLine n (':' :: ' ' :: v)), ?_, hv.fresh, ⟨.cons (by decide), by simp, ?_⟩, ?_⟩
  · rw [hv.text, Pen.text_mark, ht, hw.text]
    simp [hp.blank, hr.blank, newLine]
  · have ha : ∀ c ∈ ':' :: ' ' :: v, isAllowed c :=
      List.forall_mem_cons.mpr ⟨by decide, List.forall_mem_cons.mpr ⟨by decide, hsv.allowed⟩⟩
    have ha : ∀ c ∈ w ++ newLine n (':' :: ' ' :: v), isAllowed c :=
      List.forall_mem_append.mpr ⟨hs.allowed, fun _ => isAllowed_of_mem_newLine ha⟩
    exact List.forall_mem_cons.mpr ⟨by decide, List.forall_mem_cons.mpr ⟨by decide, ha⟩⟩
  · rw [hf, Bool.true_and]
    exact readsParts_complex hl hs h hsv

-- How data is written after a sign, and after the colon of a key.
structure Written (d : Nat) (j : Json) : Prop where
  inner {n : Nat} {p : Pen} : p.fresh → ¬p.blank → p.column = n + 1 → n + 2 * d + 2 < Pen.width →
    WritesInner n (fits j) (tokens true j) p (writeItem n p j)
  value {n : Nat} {p : Pen} : ¬p.fresh → ¬p.blank → n + 2 * d + 2 < Pen.width →
    WritesValue n (fits j) (tokens false j) p (writeValue n p j)

theorem writeValue_fresh (hf : p.fresh) : writeValue n p j = writeItem n p j := by
  cases j with
  | arr xs => cases xs <;> simp [writeValue, writeItem, hf]
  | obj ms => cases ms <;> simp [writeValue, writeItem]
  | _      => simp [writeValue, writeItem]

theorem writeItems_parts (hx : ∀ x ∈ xs, Written d x) (hn : xs ≠ []) (hp : (p.toColumn n).Ready n)
    (hw : n + 2 * d + 2 < Pen.width) :
    WritesParts n .blockSequenceStart (fitsItems xs) (itemTokens xs) (p.toColumn n) (writeItems n p xs) := by
  induction xs generalizing p with
  | nil => contradiction
  | cons x xs hi =>
    have ⟨hx, hxs⟩ := List.forall_mem_cons.mp hx
    have h := hx.inner (n := n) (p := (p.toColumn n).mark ['-'] true false true) (by simp [hp.fresh]) (by simp)
      (by simp [hp.column, hp.blank]) hw
    have h := writeItem_part hp h
    rw [writeItems, fitsItems, itemTokens]
    by_cases hn : xs = []
    case pos =>
      subst hn
      simpa [writeItems, fitsItems, itemTokens] using h
    case neg =>
      have ⟨_, _, hf, _⟩ := h
      exact h.append (hi hxs hn (Pen.toColumn_occupied (.inl hf)).right)

theorem writeEntry_part (hx : Written d j) (hp : (p.toColumn n).Ready n) (hw : n + 2 * d + 2 < Pen.width) :
    WritesParts n .blockMappingStart (fitsKey k && fits j)
      (.key :: .scalar (heard k) (isPlain k) :: .value :: tokens (!Style.isSimpleKey k.toList) j) (p.toColumn n)
      (writeValue n (writeKey n p k) j) := by
  have hn : n + 2 < Pen.width := by omega
  rw [writeKey]
  by_cases hk : Style.isSimpleKey k.toList
  case pos =>
    rw [if_pos hk, hk]
    exact writeEntry_simple hp hn hk (hx.value (by simp) (by simp) hw)
  case neg =>
    have ⟨_, hv, _⟩ := writeText_leaf (p := (p.toColumn n).mark ['?'] true false true) hn k
    have hr := (Pen.toColumn_occupied (n := n) (.inl hv.fresh)).right
    rw [if_neg hk, Bool.eq_false_iff.mpr hk, writeValue_fresh (by simp [hr.fresh])]
    exact writeEntry_complex hp hn hk
      (hx.inner (by simp [hr.fresh]) (by simp) (by simp [hr.column, hr.blank]) hw)

theorem writeEntries_parts (hx : ∀ m ∈ ms, Written d m.2) (hn : ms ≠ []) (hp : (p.toColumn n).Ready n)
    (hw : n + 2 * d + 2 < Pen.width) :
    WritesParts n .blockMappingStart (fitsEntries ms) (entryTokens ms) (p.toColumn n) (writeEntries n p ms) := by
  induction ms generalizing p with
  | nil => contradiction
  | cons m ms hi =>
    obtain ⟨k, x⟩ := m
    have ⟨hx, hms⟩ := List.forall_mem_cons.mp hx
    have h := writeEntry_part (k := k) hx hp hw
    rw [writeEntries, fitsEntries, entryTokens]
    by_cases hn : ms = []
    case pos =>
      subst hn
      simpa [writeEntries, fitsEntries, entryTokens] using h
    case neg =>
      have ⟨_, _, hf, _⟩ := h
      exact h.append (hi hms hn (Pen.toColumn_occupied (.inl hf)).right)

theorem written_of_leaf (hf : fits j = true) (ht : tokens false j = tokens true j)
    (hi : ∀ n p, writeItem n p j = writeLeaf n p j) (hv : ∀ n p, writeValue n p j = writeLeaf n p j)
    (h : ∀ {n p}, n + 2 < Pen.width → WritesLeaf n (tokens true j) p (writeLeaf n p j)) : Written d j where
  inner _ _ _ hw  := by
    rw [hf, hi]
    exact (h (by omega)).inner
  value _ hb hw := by
    rw [hf, hv, ht]
    exact (h (by omega)).value hb

theorem Shallow.written (h : Shallow d j) : Written d j := by
  induction h with
  | str s  => exact written_of_leaf rfl rfl (fun _ _ => rfl) (fun _ _ => rfl) fun hn => writeText_leaf hn s
  | bool b => exact written_of_leaf rfl rfl (fun _ _ => rfl) (fun _ _ => rfl) fun _ => writeBool_leaf b
  | @arr xs d _ hi =>
    cases xs with
    | nil       => exact written_of_leaf rfl rfl (fun _ _ => rfl) (fun _ _ => rfl) fun _ => writeSequence_leaf
    | cons x xs =>
      refine ⟨@fun n p hf hb hc hw => ?_, @fun n p hf _ hw => ?_⟩
      · have hr := (Pen.toColumn_fresh hf (Nat.lt_of_le_of_lt (Nat.le_of_eq hc) (Nat.lt_succ_self _))).right
        have h := writeItems_parts hi (List.cons_ne_nil _ _) hr (by omega)
        exact h.inner hf hb hc
      · have hr := (Pen.toColumn_occupied (n := n) (.inl hf)).right
        have h := writeItems_parts hi (List.cons_ne_nil _ _) hr (by omega)
        rw [writeValue, if_neg hf]
        exact h.indentless hf
  | @obj ms d _ hi =>
    cases ms with
    | nil       => exact written_of_leaf rfl rfl (fun _ _ => rfl) (fun _ _ => rfl) fun _ => writeMapping_leaf
    | cons m ms =>
      refine ⟨@fun n p hf hb hc hw => ?_, @fun n p hf _ hw => ?_⟩
      · have hr := (Pen.toColumn_fresh hf (Nat.lt_of_le_of_lt (Nat.le_of_eq hc) (Nat.lt_succ_self _))).right
        have h := writeEntries_parts hi (List.cons_ne_nil _ _) hr (by omega)
        exact h.inner hf hb hc
      · have hr := (Pen.toColumn_occupied (n := n + 2) (.inl hf)).right
        have h := writeEntries_parts hi (List.cons_ne_nil _ _) hr (by omega)
        exact h.value hf

end Yaml
end Gamebook
