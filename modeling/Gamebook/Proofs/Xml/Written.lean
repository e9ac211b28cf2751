import Mathlib
import Gamebook.Speech
import Gamebook.Xml.Reader

namespace Gamebook
namespace Xml

open Speech

-- What a reader takes from the start of a text, and what it leaves.
def Reads {P : List Char → Prop} (r : Option (α × { rest : List Char // P rest })) (a : α) (rest : List Char) : Prop :=
  ∃ h, r = some (a, ⟨rest, h⟩)

variable {c d : Char} {cs rest ds : List Char} {name s : String} {a : String × String} {as : List (String × String)}
  {ts us : List Token}

-- References.

theorem resolve_pending (hn : ';' ∉ cs) :
    resolve (some ds) (cs ++ ';' :: rest) =
      (reference? (ds.reverse ++ cs)).bind fun d => (resolve none rest).map (d :: ·) := by
  induction cs generalizing ds with
  | nil          => simp [resolve]
  | cons c cs hi =>
    have hc : c ≠ ';' := fun hc => hn (hc ▸ List.mem_cons_self)
    rw [List.cons_append, resolve]
    simp only [if_neg hc]
    rw [hi fun hm => hn (List.mem_cons_of_mem _ hm), List.reverse_cons, List.append_assoc, List.singleton_append]

theorem resolve_reference (cs : List Char) (hn : ';' ∉ cs) (hd : reference? cs = some d) :
    resolve none ('&' :: (cs ++ ';' :: rest)) = (resolve none rest).map (d :: ·) := by
  rw [resolve]
  simp only [if_true]
  rw [resolve_pending hn, List.reverse_nil, List.nil_append, hd, Option.bind_some]

theorem resolve_plain (hc : c ≠ '&') : resolve none (c :: cs) = (resolve none cs).map (c :: ·) := by
  rw [resolve]
  simp only [if_neg hc]

theorem resolve_escapeText (c : Char) (cs : List Char) :
    resolve none (escapeText c ++ cs) = (resolve none cs).map (c :: ·) := by
  rw [escapeText]
  split_ifs with ha hl hg
  · exact ha ▸ resolve_reference "amp".toList (by decide) (by decide)
  · exact hl ▸ resolve_reference "lt".toList (by decide) (by decide)
  · exact hg ▸ resolve_reference "gt".toList (by decide) (by decide)
  · exact resolve_plain ha

theorem resolve_escapeAttribute (c : Char) (cs : List Char) :
    resolve none (escapeAttribute c ++ cs) = (resolve none cs).map (c :: ·) := by
  rw [escapeAttribute]
  split_ifs with hq hr hn ht
  · exact hq ▸ resolve_reference "quot".toList (by decide) (by decide)
  · exact hr ▸ resolve_reference "#13".toList (by decide) (by decide)
  · exact hn ▸ resolve_reference "#10".toList (by decide) (by decide)
  · exact ht ▸ resolve_reference "#09".toList (by decide) (by decide)
  · exact resolve_escapeText c cs

theorem resolve_flatMap {escape : Char → List Char}
    (h : ∀ c cs, resolve none (escape c ++ cs) = (resolve none cs).map (c :: ·)) (cs : List Char) :
    resolve none (cs.flatMap escape) = some cs := by
  induction cs with
  | nil          => rfl
  | cons c cs hi => rw [List.flatMap_cons, h, hi, Option.map_some]

-- Texts and values.

theorem not_mem_escapeText (hd : d = '<' ∨ d = '>') : d ∉ escapeText c := by
  rw [escapeText]
  rcases hd with rfl | rfl <;> split_ifs <;> simp_all [eq_comm]

theorem not_mem_escapeAttribute (hd : d = '<' ∨ d = Text.quotation ∨ d = '\r' ∨ d = '\n' ∨ d = '\t') :
    d ∉ escapeAttribute c := by
  rw [escapeAttribute, escapeText]
  rcases hd with rfl | rfl | rfl | rfl | rfl <;> split_ifs <;> simp_all [eq_comm, Text.quotation]

theorem closesSection_eq_false (h : '>' ∉ cs) : closesSection cs = false := by
  fun_induction closesSection cs with
  | case1           => simp at h
  | case2 c cs _ hi => exact hi fun hm => h (List.mem_cons_of_mem _ hm)
  | case3           => rfl

theorem textOf?_written (s : String) : textOf? (s.toList.flatMap escapeText) = some s := by
  have hc : closesSection (s.toList.flatMap escapeText) = false := by
    refine closesSection_eq_false fun hm => ?_
    have ⟨_, _, hm⟩ := List.mem_flatMap.mp hm
    exact not_mem_escapeText (.inr rfl) hm
  rw [textOf?, hc, resolve_flatMap resolve_escapeText]
  simp

theorem flatMap_escapeText_eq_nil : s.toList.flatMap escapeText = [] ↔ s = "" := by
  constructor
  · intro h
    have hs := textOf?_written s
    rw [h] at hs
    exact (Option.some.inj hs).symm
  · rintro rfl
    rfl

theorem not_mem_value (hd : d = '<' ∨ d = Text.quotation ∨ d = '\r' ∨ d = '\n' ∨ d = '\t') :
    d ∉ s.toList.flatMap escapeAttribute := by
  intro hm
  have ⟨_, _, hm⟩ := List.mem_flatMap.mp hm
  exact not_mem_escapeAttribute hd hm

theorem valueOf?_written (s : String) : valueOf? (s.toList.flatMap escapeAttribute) = some s := by
  have hb : ∀ c ∈ s.toList.flatMap escapeAttribute, (if isBlank c then ' ' else c) = id c := by
    intro c hc
    split
    case isTrue h =>
      simp only [isBlank, Bool.or_eq_true, decide_eq_true_eq] at h
      rcases h with ((rfl | rfl) | rfl) | rfl
      · rfl
      all_goals exact absurd hc (not_mem_value (by simp))
    case isFalse => rfl
  have hl : (s.toList.flatMap escapeAttribute).contains '<' = false := by
    rw [List.contains_eq_mem]
    exact decide_eq_false (not_mem_value (.inl rfl))
  rw [valueOf?, hl, List.map_congr_left hb, List.map_id, resolve_flatMap resolve_escapeAttribute]
  simp

-- Names and attributes.

theorem takeWhile_append_stop {p : Char → Bool} (hc : ∀ c ∈ cs, p c) (rest : List Char) (hr : ∀ c ∈ rest.head?, ¬p c) :
    (cs ++ rest).takeWhile p = cs ∧ (cs ++ rest).dropWhile p = rest := by
  rw [List.takeWhile_append_of_pos hc, List.dropWhile_append_of_pos hc]
  cases rest with
  | nil => simp
  | cons c rest =>
    rw [List.takeWhile_cons_of_neg (hr c rfl), List.dropWhile_cons_of_neg (hr c rfl), List.append_nil]
    exact ⟨rfl, rfl⟩

theorem exists_of_isName (h : isName cs) : ∃ c ds, cs = c :: ds ∧ isNameStart c ∧ ∀ d ∈ ds, isNameChar d := by
  cases cs with
  | nil       => cases h
  | cons c ds =>
    have ⟨hc, hds⟩ := Bool.and_eq_true_iff.mp h
    exact ⟨c, ds, rfl, hc, List.all_eq_true.mp hds⟩

theorem not_isBlank_of_isNameStart (h : isNameStart c) : ¬isBlank c := by
  intro hb
  simp only [isBlank, Bool.or_eq_true, decide_eq_true_eq] at hb
  rcases hb with ((rfl | rfl) | rfl) | rfl <;> exact absurd h (by decide)

theorem reads_name (hn : isName name.toList) (rest : List Char) (hr : ∀ c ∈ rest.head?, ¬isNameChar c) :
    Reads (readName (name.toList ++ rest)) name rest := by
  have ⟨c, ds, hs, hc, hds⟩ := exists_of_isName hn
  have ⟨ht, hd⟩ := takeWhile_append_stop hds rest hr
  rw [hs]
  refine ⟨by simp, ?_⟩
  simp only [List.cons_append, readName, if_pos hc, ht, hd, ← hs, String.ofList_toList]

theorem skip_of_not_blank (h : ¬isBlank c) : skip (c :: cs) = c :: cs :=
  List.dropWhile_cons_of_neg h

theorem reads_sign (h : skip cs = d :: rest) : Reads (readSign d cs) () rest := by
  refine ⟨length_lt_of_dropWhile h, ?_⟩
  rw [readSign]
  split
  case h_1 h' =>
    cases h.symm.trans h'
    simp
  case h_2 h' => simp [h] at h'

theorem reads_value (s : String) :
    Reads (readValue (Text.quotation :: (s.toList.flatMap escapeAttribute ++ Text.quotation :: rest))) s rest := by
  have hq : ∀ c ∈ s.toList.flatMap escapeAttribute, decide (c ≠ Text.quotation) := by
    intro c hc
    refine decide_eq_true fun he => ?_
    exact not_mem_value (.inr (.inl rfl)) (he ▸ hc)
  have ⟨ht, hd⟩ := takeWhile_append_stop hq (Text.quotation :: rest) (by simp)
  refine ⟨by simp; omega, ?_⟩
  rw [readValue]
  simp only [decide_true, Bool.true_or, if_true]
  split
  case h_1 h =>
    cases hd.symm.trans h
    rw [ht, valueOf?_written]
    rfl
  case h_2 h => cases hd.symm.trans h

theorem reads_attribute {cs' : List Char} (hn : isName a.1.toList) (hs : skip cs = a.1.toList ++ '=' :: cs')
    (hv : Reads (readValue (skip cs')) a.2 rest) : Reads (readAttribute (skip cs)) a rest := by
  rw [hs]
  have ⟨h₁, hn⟩ := reads_name hn ('=' :: cs') (by simp; decide)
  have ⟨h₂, he⟩ : Reads (readSign '=' ('=' :: cs')) () cs' := reads_sign (skip_of_not_blank (by decide))
  have ⟨h₃, hv⟩ := hv
  refine ⟨(h₃.trans_le (length_dropWhile_le isBlank cs')).trans (h₂.trans h₁), ?_⟩
  rw [readAttribute]
  simp only [hn, he, hv, Option.bind_eq_bind, Option.bind_some]
  rfl

theorem reads_no_attributes (hs : skip cs = d :: rest) (hd : ¬isNameStart d) :
    Reads (readAttributes cs) [] (d :: rest) := by
  rw [readAttributes, if_neg (by simp [hs, hd])]
  exact ⟨hs ▸ length_dropWhile_le isBlank cs, by simp only [hs]⟩

theorem reads_more_attributes (ha : Reads (readAttribute (skip cs)) a rest) (hb : cs.head?.any isBlank)
    (hn : (skip cs).head?.any isNameStart) {rest' : List Char} (h : Reads (readAttributes rest) as rest')
    (hd : a.1 ∉ as.map Prod.fst) : Reads (readAttributes cs) (a :: as) rest' := by
  have ⟨hl, ha⟩ := ha
  have ⟨hl', h⟩ := h
  have hd : ¬as.any (·.1 = a.1) := by simpa using hd
  refine ⟨hl'.trans (hl.le.trans (length_dropWhile_le isBlank cs)), ?_⟩
  rw [readAttributes, hb, hn, ha]
  simp only [Bool.and_self, if_true, Option.bind_eq_bind, Option.bind_some, h, if_neg hd]
  rfl

theorem reads_attributes (hn : ∀ a ∈ as, isName a.1.toList) (hd : (as.map Prod.fst).Nodup)
    (hs : skip cs = d :: rest) (hr : ¬isNameStart d) :
    Reads (readAttributes (as.flatMap emptyElement.chars ++ cs)) as (d :: rest) := by
  induction as with
  | nil          => exact reads_no_attributes hs hr
  | cons a as hi =>
    have ⟨hn, hns⟩ := List.forall_mem_cons.mp hn
    have ⟨hd, hds⟩ := List.nodup_cons.mp hd
    have ⟨c, ds, hc, hc', _⟩ := exists_of_isName hn
    have hw : (a :: as).flatMap emptyElement.chars ++ cs = ' ' :: (a.1.toList ++ '=' :: Text.quotation ::
        (a.2.toList.flatMap escapeAttribute ++ Text.quotation :: (as.flatMap emptyElement.chars ++ cs))) := by
      simp [emptyElement.chars]
    have hk : skip ((a :: as).flatMap emptyElement.chars ++ cs) = a.1.toList ++ '=' :: Text.quotation ::
        (a.2.toList.flatMap escapeAttribute ++ Text.quotation :: (as.flatMap emptyElement.chars ++ cs)) := by
      rw [hw, hc]
      exact skip_of_not_blank (not_isBlank_of_isNameStart hc')
    refine reads_more_attributes (reads_attribute hn hk (reads_value a.2)) ?_ ?_ (hi hns hds) hd
    · rw [hw]
      rfl
    · rw [hk, hc]
      exact hc'

-- Tags.

theorem not_slash_of_isName (hn : isName cs) (ds : List Char) : cs ++ rest ≠ '/' :: ds := by
  have ⟨c, _, hc, hc', _⟩ := exists_of_isName hn
  intro h
  rw [hc, List.cons_append] at h
  cases h
  exact absurd hc' (by decide)

section

variable {cs' : List Char} (hc : ∀ ds, cs ≠ '/' :: ds) (hn : Reads (readName cs) name cs')
include hc hn

theorem reads_opening (h : Reads (readAttributes cs') as ('>' :: rest)) :
    Reads (readTag cs) (.opening name as) rest := by
  have ⟨hl, h₁⟩ := hn
  have ⟨hl', h₂⟩ := h
  refine ⟨by simp at hl'; omega, ?_⟩
  rw [readTag.eq_2 cs hc]
  simp [h₁, h₂]

theorem reads_empty (h : Reads (readAttributes cs') as ('/' :: '>' :: rest)) :
    Reads (readTag cs) (.empty name as) rest := by
  have ⟨hl, h₁⟩ := hn
  have ⟨hl', h₂⟩ := h
  refine ⟨by simp at hl'; omega, ?_⟩
  rw [readTag.eq_2 cs hc]
  simp [h₁, h₂]

end

theorem reads_closing (hn : isName name.toList) :
    Reads (readTag ('/' :: (name.toList ++ '>' :: rest))) (.closing name) rest := by
  have ⟨_, h₁⟩ := reads_name hn ('>' :: rest) (by simp; decide)
  have ⟨h, h₂⟩ : Reads (readSign '>' ('>' :: rest)) () rest := reads_sign (skip_of_not_blank (by decide))
  refine ⟨by simp; omega, ?_⟩
  rw [readTag]
  simp only [h₁, h₂, Option.bind_eq_bind, Option.bind_some]
  rfl

-- Characters that are read as some tokens, wherever they stand.
def Lexed (cs : List Char) (ts : List Token) : Prop :=
  ∀ rest, tokens (cs ++ rest) = (tokens rest).map (ts ++ ·)

namespace Lexed

theorem nil : Lexed [] [] := by
  intro rest
  simp

theorem append (h : Lexed cs ts) (h' : Lexed ds us) : Lexed (cs ++ ds) (ts ++ us) := by
  intro rest
  rw [List.append_assoc, h, h', Option.map_map]
  simp [Function.comp_def]

theorem tag {t : Token} (h : ∀ rest, Reads (readTag (cs ++ rest)) t rest) : Lexed ('<' :: cs) [t] := by
  intro rest
  have ⟨_, h⟩ := h rest
  rw [List.cons_append, tokens]
  simp only [h, Option.bind_eq_bind, Option.bind_some]
  cases tokens rest <;> rfl

theorem opening (hn : isName name.toList) : Lexed ('<' :: (name.toList ++ ['>'])) [.opening name []] := by
  refine tag fun rest => ?_
  rw [List.append_assoc]
  exact reads_opening (not_slash_of_isName hn) (reads_name hn _ (by simp; decide))
    (reads_no_attributes (skip_of_not_blank (by decide)) (by decide))

theorem closing (hn : isName name.toList) : Lexed ('<' :: '/' :: (name.toList ++ ['>'])) [.closing name] := by
  refine tag fun rest => ?_
  rw [List.cons_append, List.append_assoc]
  exact reads_closing hn

theorem empty (hn : isName name.toList) (has : ∀ a ∈ as, isName a.1.toList) (hd : (as.map Prod.fst).Nodup) :
    Lexed (emptyElement name as) [.empty name as] := by
  have he : emptyElement name as = '<' :: (name.toList ++ (as.flatMap emptyElement.chars ++ " />".toList)) := by
    simp [emptyElement]
  rw [he]
  refine tag fun rest => ?_
  rw [List.append_assoc, List.append_assoc]
  refine reads_empty (not_slash_of_isName hn) (reads_name hn _ ?_) (reads_attributes has hd ?_ ?_)
  · cases as <;> simp [emptyElement.chars] <;> decide
  · rfl
  · decide

end Lexed

theorem tokens_text (hs : s ≠ "") : tokens (s.toList.flatMap escapeText ++ '<' :: rest) =
    (tokens ('<' :: rest)).map (.text s :: ·) := by
  have hw := textOf?_written s
  have hl : ∀ c ∈ s.toList.flatMap escapeText, decide (c ≠ '<') := by
    intro c hc
    have ⟨_, _, hc⟩ := List.mem_flatMap.mp hc
    exact decide_eq_true fun he => not_mem_escapeText (.inl rfl) (he ▸ hc)
  have ⟨c, cs, hr⟩ := List.exists_cons_of_ne_nil (mt flatMap_escapeText_eq_nil.mp hs)
  rw [hr] at hw hl ⊢
  have ⟨hc, hcs⟩ := List.forall_mem_cons.mp hl
  have ⟨ht, hd⟩ := takeWhile_append_stop hcs ('<' :: rest) (by simp)
  rw [List.cons_append, tokens.eq_def]
  split
  case h_1 he => cases he
  case h_2 he =>
    cases he
    cases hc
  case h_3 he =>
    cases he
    simp only [ht, hd, hw, Option.bind_eq_bind, Option.bind_some]
    cases tokens ('<' :: rest) <;> rfl

-- Tokens that are read as some nodes, wherever they stand.
def Nested (ts : List Token) (nodes : List Xml) : Prop :=
  ∀ frames before rest, nest frames before (ts ++ rest) = nest frames (nodes.reverse ++ before) rest

namespace Nested

variable {xs ys : List Xml}

theorem nil : Nested [] [] :=
  fun _ _ _ => rfl

theorem append (h : Nested ts xs) (h' : Nested us ys) : Nested (ts ++ us) (xs ++ ys) := by
  intro frames before rest
  rw [List.append_assoc, h, h', List.reverse_append, List.append_assoc]

theorem text : Nested [.text s] [.text s] :=
  fun _ _ _ => rfl

theorem empty : Nested [.empty name as] [.element name as []] :=
  fun _ _ _ => rfl

theorem element (h : Nested ts xs) :
    Nested (.opening name as :: ts ++ [.closing name]) [.element name as xs] := by
  intro frames before rest
  have h := h (⟨name, as, before⟩ :: frames) [] (.closing name :: rest)
  rw [List.append_nil] at h
  rw [List.append_assoc, List.cons_append, nest, List.singleton_append, h, nest, if_pos rfl, List.reverse_reverse]
  rfl

end Nested

-- Characters that spell some nodes, wherever they stand.
def Spells (cs : List Char) (nodes : List Xml) : Prop :=
  ∃ ts, Lexed cs ts ∧ Nested ts nodes

namespace Spells

variable {xs ys : List Xml}

theorem nil : Spells [] [] :=
  ⟨[], .nil, .nil⟩

theorem append (h : Spells cs xs) (h' : Spells ds ys) : Spells (cs ++ ds) (xs ++ ys) :=
  have ⟨ts, hl, hn⟩ := h
  have ⟨us, hl', hn'⟩ := h'
  ⟨ts ++ us, hl.append hl', hn.append hn'⟩

theorem flatMap {f : β → List Char} {g : β → Xml} (h : ∀ b, Spells (f b) [g b]) (bs : List β) :
    Spells (bs.flatMap f) (bs.map g) := by
  induction bs with
  | nil          => exact nil
  | cons b bs hi => exact (h b).append hi

theorem emptyElement (hn : isName name.toList) (has : ∀ a ∈ as, isName a.1.toList) (hd : (as.map Prod.fst).Nodup) :
    Spells (Speech.emptyElement name as) [.element name as []] :=
  ⟨_, .empty hn has hd, .empty⟩

theorem element (hn : isName name.toList) (h : Spells cs xs) (hc : cs = [] → xs = []) :
    Spells (Speech.element name cs) [.element name [] xs] := by
  rw [Speech.element.eq_def]
  split
  case isTrue he =>
    rw [hc (List.isEmpty_iff.mp he)]
    exact emptyElement hn (List.forall_mem_nil _) List.nodup_nil
  case isFalse =>
    have ⟨ts, hl, ht⟩ := h
    have hw := ((Lexed.opening hn).append hl).append (.closing hn)
    exact ⟨_, by simpa using hw, ht.element⟩

theorem text (hn : isName name.toList) (hs : s ≠ "") :
    Spells (Speech.element name (s.toList.flatMap escapeText)) [.element name [] [.text s]] := by
  have hl : Lexed (Speech.element name (s.toList.flatMap escapeText)) [.opening name [], .text s, .closing name] := by
    intro rest
    have ho := Lexed.opening hn (s.toList.flatMap escapeText ++ '<' :: '/' :: (name.toList ++ '>' :: rest))
    have hc := Lexed.closing hn rest
    simp only [List.cons_append, List.append_assoc, List.nil_append] at ho hc
    rw [Speech.element, if_neg (by simpa using mt flatMap_escapeText_eq_nil.mp hs)]
    simp only [List.cons_append, List.append_assoc, List.nil_append]
    rw [ho, tokens_text hs, hc]
    cases tokens rest <;> rfl
  exact ⟨_, hl, Nested.text.element⟩

end Spells

theorem ends_element (name : String) (cs : List Char) : ∃ ds, Speech.element name cs = '<' :: (ds ++ ['>']) := by
  rw [Speech.element, Speech.emptyElement]
  split
  case isTrue  => exact ⟨name.toList ++ [' ', '/'], by simp⟩
  case isFalse => exact ⟨name.toList ++ '>' :: cs ++ '<' :: '/' :: name.toList, by simp⟩

theorem read_of_spells {xs : List Xml} (h : Spells (Speech.element name cs) [.element name as xs]) :
    read (String.ofList (Speech.element name cs)) = some (.element name as xs) := by
  have ⟨ts, hl, hn⟩ := h
  have ⟨ds, hd⟩ := ends_element name cs
  have hs : Text.stripBy isBlank (Speech.element name cs) = Speech.element name cs := by
    rw [hd]
    simp [Text.stripBy, isBlank]
  have ht := hl []
  have hn := hn [] [] []
  rw [List.append_nil] at ht hn
  rw [read, String.toList_ofList, hs, ht]
  simp [tokens, nest, single?, hn]

end Xml
end Gamebook
