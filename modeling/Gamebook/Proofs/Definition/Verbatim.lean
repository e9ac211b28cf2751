import Mathlib
import Gamebook.Definition.Source
import Gamebook.Proofs.Story.Names
import Gamebook.Proofs.Yaml.Shown

namespace Gamebook

-- A step into data: to the value of a key, or to an item by its place.
inductive Datum.Step
  | member (key : Scalar)
  | item (i : Nat)

-- Where some steps lead to.
inductive Datum.Leads : Datum → List Step → Datum → Prop
  | here                                              : Leads d [] d
  | member (h : (k, d) ∈ es) (hl : Leads d path d')   : Leads (.map es) (.member k :: path) d'
  | item (h : ds[i]? = some d) (hl : Leads d path d') : Leads (.list ds) (.item i :: path) d'

namespace Yaml

open Chain

-- Of pairs with the same key the last one counts.
def Node.follow? (root : Node) : Node → List Datum.Step → Option Node
  | x, []                => some (root.unaliased x)
  | x, .member k :: path => match root.unaliased x with
    | .map _ _ ps => (ps.reverse.find? fun p => root.key? p.1 = some k).bind fun p => root.follow? p.2 path
    | _           => none
  | x, .item i :: path   => match root.unaliased x with
    | .seq _ _ xs => xs[i]?.bind fun y => root.follow? y path
    | _           => none

variable {root x y : Node} {d d' : Datum} {path : List Datum.Step} {k : Scalar} {es : List (Scalar × Datum)}
  {ps : List (Node × Node)} {n : Nat}

-- The entry that data have for a key is that of the last pair with it.
theorem exists_pair_of_mem (h : List.Forall₂ (fun p e => root.key? p.1 = some e.1 ∧ root.Shows n p.2 e.2) ps es)
    (hm : (k, d) ∈ (Ordered.ofList es).entries) :
    ∃ p, ps.reverse.find? (fun p => root.key? p.1 = some k) = some p ∧ root.Shows n p.2 d := by
  have he : es.reverse.find? (·.1 = k) = some (k, d) := by
    have hg := Ordered.get?_of_mem hm
    rw [Ordered.get?_ofList, List.getLast?_eq_head?_reverse, ← List.filter_reverse, List.head?_filter] at hg
    obtain ⟨e, he, rfl⟩ := Option.map_eq_some_iff.mp hg
    have hk : e.1 = k := by simpa using List.find?_some he
    rw [he, ← hk]
  have h := List.forall₂_reverse_iff.mpr h
  generalize ps.reverse = qs, es.reverse = fs at h he
  induction h with
  | nil                 => cases he
  | @cons p e qs fs hp _ hi =>
    rw [List.find?_cons] at he ⊢
    by_cases hk : e.1 = k
    case pos =>
      simp only [hk, decide_true, Option.some.injEq] at he
      subst he
      exact ⟨p, by simp [hp.left], hp.right⟩
    case neg =>
      simp only [hk, decide_false] at he
      obtain ⟨p', hp', hs⟩ := hi he
      refine ⟨p', ?_, hs⟩
      simpa [hp.left, hk] using hp'

namespace Node.Shows

-- What is shown tells what is reached.

theorem of_scalar (hs : root.Shows (n + 1) x (.scalar k)) :
    ∃ a t plain s, root.unaliased x = .scalar a t plain s ∧ k = Typed.meaning plain s := by
  rw [Shows] at hs
  split at hs
  case h_1                => cases hs
  case h_2 a t plain s hx => exact ⟨a, t, plain, s, hx, Datum.scalar.inj hs⟩
  case h_3 | h_4          => obtain ⟨_, hd, _⟩ := hs; cases hd

theorem of_list {ds : List Datum} (hs : root.Shows (n + 1) x (.list ds)) :
    ∃ a t xs, root.unaliased x = .seq a t xs ∧ List.Forall₂ (root.Shows n) xs ds := by
  rw [Shows] at hs
  split at hs
  case h_1 | h_2     => cases hs
  case h_3 a t xs hx =>
    obtain ⟨_, hd, h⟩ := hs
    cases hd
    exact ⟨a, t, xs, hx, h⟩
  case h_4           => obtain ⟨_, hd, _⟩ := hs; cases hd

theorem of_map (hs : root.Shows (n + 1) x (.map es)) :
    ∃ a t ps es', root.unaliased x = .map a t ps ∧ es = (Ordered.ofList es').entries ∧
      List.Forall₂ (fun p e => root.key? p.1 = some e.1 ∧ root.Shows n p.2 e.2) ps es' := by
  rw [Shows] at hs
  split at hs
  case h_1 | h_2     => cases hs
  case h_3           => obtain ⟨_, hd, _⟩ := hs; cases hd
  case h_4 a t ps hx =>
    obtain ⟨es', hd, h⟩ := hs
    exact ⟨a, t, ps, es', hx, Datum.map.inj hd, h⟩

-- Whatever scalar is reached in data is the meaning of the scalar that is reached in their tree.
theorem follow? (hs : root.Shows n x d) (hl : d.Leads path (.scalar k)) (hn : path.length < n) :
    ∃ a t plain s, root.follow? x path = some (.scalar a t plain s) ∧ k = Typed.meaning plain s := by
  generalize hd : Datum.scalar k = d' at hl
  induction hl generalizing x n with
  | here =>
    obtain ⟨n, rfl⟩ := Nat.exists_eq_add_one.mpr hn
    obtain ⟨a, t, plain, s, hx, hk⟩ := of_scalar (hd ▸ hs)
    exact ⟨a, t, plain, s, congrArg some hx, hk⟩
  | member hm _ hi =>
    obtain ⟨n, rfl⟩ := Nat.exists_eq_add_one.mpr (Nat.zero_lt_of_lt hn)
    obtain ⟨a, t, ps, es', hx, rfl, h⟩ := hs.of_map
    obtain ⟨p, hp, hs⟩ := exists_pair_of_mem h hm
    rw [Node.follow?, hx]
    simpa [hp] using hi hs (Nat.lt_of_succ_lt_succ hn) hd
  | item hm _ hi =>
    obtain ⟨n, rfl⟩ := Nat.exists_eq_add_one.mpr (Nat.zero_lt_of_lt hn)
    obtain ⟨a, t, xs, hx, h⟩ := hs.of_list
    obtain ⟨y, hy, hs⟩ := exists_of_getElem?_forall₂ h hm
    rw [Node.follow?, hx]
    simpa [hy] using hi hs (Nat.lt_of_succ_lt_succ hn) hd

end Node.Shows

-- The data of a tree, in which an alias inside of what it stands for is followed a number of times.
def Node.unfolded (root : Node) (n : Nat) : Datum :=
  (build n [] root).1.datum

-- A text that can be told as a tree, in which there are no tags.
structure Composes (source : String) (ts : List Token) (root : Node) : Prop where
  scan     : Token.scan source.toList = .ok ts
  untagged : ∀ handle suffix, .tag handle suffix ∉ ts
  tree     : (Node.ofTokens ts).map (·.getD .empty) = .ok root
  anchors  : ∃ names, Node.anchors [] root = .ok names

namespace Composes

variable {source : String} {ts : List Token}

theorem drawn (h : Composes source ts root) : Node.Drawn (· ∈ ts) root := by
  obtain ⟨o, ho, rfl⟩ := map_eq_ok.mp h.tree
  have hf := Node.fails_ofTokens (T := (· ∈ ts)) fun _ ht => ht
  cases o with
  | none   => exact .empty
  | some x => exact (ho ▸ hf).of_ok x rfl

theorem isComposed (h : Composes source ts root) : root.IsComposed where
  bare     := h.drawn.mono fun t ht =>
    ⟨isTrim_of_scan h.scan t ht, fun handle suffix he => h.untagged handle suffix (he ▸ ht)⟩
  distinct := have ⟨_, hn⟩ := h.anchors; Node.nodup_anchors hn

theorem builds (h : Composes source ts root) (fuel : Nat) :
    ∃ names, Node.Builds root fuel names [] root (Node.build fuel [] root) := by
  obtain ⟨names, hn⟩ := h.anchors
  have he : Anchors.Tells root fuel [] := ⟨nofun, nofun, nofun⟩
  have hf : Node.Follow root [] [] [root] :=
    ⟨List.forall_mem_singleton.mpr root.mem_parts_self, List.forall_mem_nil _, fun _ _ _ => nofun⟩
  exact ⟨names, Node.builds h.isComposed (Node.buildsBelow h.isComposed fuel) [] root [] names he hf hn⟩

theorem read_eq (h : Composes source ts root) : read source = match (Node.build Node.unfolding [] root).1.fault with
    | some (_, f) => .error f
    | none        => .ok (Node.build Node.unfolding [] root).1.datum := by
  obtain ⟨names, hn⟩ := h.anchors
  obtain ⟨o, ho, rfl⟩ := map_eq_ok.mp h.tree
  rw [read, h.scan, ok_bind, ho, ok_bind]
  cases o with
  | none   =>
    rw [Option.getD_none, Node.empty, Node.build, Option.bind_none, Typed.read_untagged fun _ => by decide]
    rfl
  | some x =>
    rw [Option.getD_some] at hn
    simp only [hn, ok_bind]
    rfl

-- A text is read if all its keys can be keys.
theorem exists_read_iff (h : Composes source ts root) : (∃ d, read source = .ok d) ↔ root.HasKeys root := by
  obtain ⟨_, hb⟩ := h.builds Node.unfolding
  rw [h.read_eq]
  constructor
  · rintro ⟨d, hd⟩
    split at hd
    case h_1    => cases hd
    case h_2 hn => exact hb.keys (by decide) hn
  · intro hk
    rw [hb.tells.fault hk]
    exact ⟨_, rfl⟩

-- What is read shows the tree, to any depth unless an alias is inside of what it stands for. If there is
-- one, data that are unfolded further show more of the tree.
theorem read_shows {d : Datum} (h : Composes source ts root) (hd : read source = .ok d) :
    d = root.unfolded Node.unfolding ∧ (∀ n, (root.unfolded n).IsTextual ∧ root.Shows n root (root.unfolded n)) ∧
      (¬root.IsKnotted → ∀ n, root.Shows n root d) := by
  have hk := h.exists_read_iff.mp ⟨d, hd⟩
  obtain ⟨_, hb⟩ := h.builds Node.unfolding
  rw [h.read_eq, hb.tells.fault hk] at hd
  cases hd
  refine ⟨rfl, fun n => ?_, fun hn n => hb.tells.shows hk n (.inr hn)⟩
  obtain ⟨_, hb⟩ := h.builds n
  exact ⟨hb.tells.textual, hb.tells.shows hk n (.inl (Node.le_reach n root))⟩

end Composes
end Yaml

namespace Definition

open Chain

variable {d v : Datum} {ds : List Datum} {es es' : List (Scalar × Datum)} {e : Command × List Action} {key : Scalar}
  {name id : String} {path : Path} {a : Action} {as : List Action} {c : Command} {p : Place} {g : PlaceGraph} {i : Nat}

-- Where the arguments of a graph come from in the data that it is built of.

theorem toText_of_nameOf (h : nameOf key = .ok name) : key.toText = name := by
  rw [nameOf] at h
  split at h <;> cases h
  rfl

theorem mem_of_optionalObject (h : optionalObject es name path = .ok es') (hm : (key, d) ∈ es') :
    (.text name, .map es') ∈ es := by
  rw [optionalObject] at h
  split at h
  case h_1    => cases h; cases hm
  case h_2 he =>
    cases h
    rw [Datum.member?] at he
    split at he
    case h_1 => cases he
    case h_2 =>
      obtain ⟨e, hf, hv⟩ := Option.map_eq_some_iff.mp he
      have hk : e.1 = .text name := by simpa using List.find?_some hf
      exact hk ▸ hv ▸ List.mem_of_find?_eq_some hf
  case h_3 => cases h

theorem text_of_argument (hv : v.IsTextual) {s : String} (h : textOf v = .ok s) (hn : v ≠ .null)
    (hm : ∀ es, v ≠ .map es) (hl : ∀ ds, v ≠ .list ds) : v = .text s := by
  cases hv with
  | scalar h' =>
    rename_i k
    cases k
    case null => exact absurd rfl hn
    case text => cases h; rfl
    all_goals cases h'
  | list => exact absurd rfl (hl _)
  | map  => exact absurd rfl (hm _)

theorem leads_of_buildAction (hd : d.IsTextual) (h : buildAction path d = .ok a) :
    ∃ key, ActionKind.parse key.toText = some a.kind ∧ key.IsTextual ∧ d.Leads [.member key] (.text a.argument) := by
  rw [buildAction.eq_def] at h
  split at h
  case h_1 key value =>
    obtain ⟨hk, hv⟩ := hd.parts
    obtain ⟨name, hn, h⟩ := bind_eq_ok.mp h
    obtain rfl := toText_of_nameOf hn
    split at h
    case h_1 => cases h
    case h_2 kind hkind =>
      split at h
      case h_4 hnull hmap hlist =>
        obtain ⟨s, hs, h⟩ := bind_eq_ok.mp h
        cases h
        have ht := text_of_argument (hv _ List.mem_cons_self) hs hnull hmap hlist
        exact ⟨key, hkind, hk _ List.mem_cons_self, .member (ht ▸ List.mem_cons_self) .here⟩
      all_goals cases h
  case h_2 => cases h

theorem leads_of_buildActions (hd : ∀ d ∈ ds, d.IsTextual) (h : buildActions path ds = .ok as) (ha : as[i]? = some a) :
    ∃ key, ActionKind.parse key.toText = some a.kind ∧ key.IsTextual ∧
      (Datum.list ds).Leads [.item i, .member key] (.text a.argument) := by
  rw [buildActions, mapM_eq_ok_iff] at h
  obtain ⟨⟨d, j⟩, hi, h⟩ := exists_of_getElem?_forall₂ h ha
  rw [List.getElem?_zipIdx] at hi
  obtain ⟨_, hj, he⟩ := Option.map_eq_some_iff.mp hi
  cases he
  obtain ⟨key, hk, ht, hl⟩ := leads_of_buildAction (hd d (List.mem_of_getElem? hj)) h
  exact ⟨key, hk, ht, .item hj hl⟩

theorem leads_of_buildChoice (hv : v.IsTextual) (h : buildChoice path key v = .ok (c, as)) (ha : as[i]? = some a) :
    Command.parse key.toText = some c ∧ ∃ kind, ActionKind.parse kind.toText = some a.kind ∧ kind.IsTextual ∧
      v.Leads [.item i, .member kind] (.text a.argument) := by
  rw [buildChoice] at h
  obtain ⟨name, hn, h⟩ := bind_eq_ok.mp h
  obtain rfl := toText_of_nameOf hn
  dsimp only at h
  split at h
  case h_1 => cases h
  case h_2 hc =>
    split at h
    case h_1 items =>
      obtain ⟨as', has, h⟩ := bind_eq_ok.mp h
      cases h
      refine ⟨hc, leads_of_buildActions ?_ has ha⟩
      cases hv
      assumption
    case h_2 => cases h

theorem leads_of_buildPlace (hd : d.IsTextual) (h : buildPlace id path d = .ok p) (hc : p.choices.get? c = some as)
    (ha : as[i]? = some a) :
    ∃ key kind, Command.parse key.toText = some c ∧ key.IsTextual ∧ ActionKind.parse kind.toText = some a.kind ∧
      kind.IsTextual ∧ d.Leads [.member (.text "choices"), .member key, .item i, .member kind] (.text a.argument) := by
  cases d with
  | map cfg =>
    obtain ⟨es, he, h⟩ := bind_eq_ok.mp h
    obtain ⟨choices, hcs, h⟩ := bind_eq_ok.mp h
    obtain ⟨_, _, h⟩ := bind_eq_ok.mp h
    obtain ⟨_, _, h⟩ := bind_eq_ok.mp h
    obtain ⟨_, _, h⟩ := bind_eq_ok.mp h
    cases h
    obtain ⟨cs, hm, h⟩ := bind_eq_ok.mp hcs
    cases h
    obtain ⟨⟨key, v⟩, hm, hb⟩ := exists_of_mem_mapM hm (Ordered.mem_of_mem_ofList (Ordered.mem_of_get? hc))
    have hes := mem_of_optionalObject he hm
    obtain ⟨hk, hv⟩ := (hd.parts.right _ hes).parts
    obtain ⟨hkey, kind, hkind, ht, hl⟩ := leads_of_buildChoice (hv _ hm) hb ha
    exact ⟨key, kind, hkey, hk _ hm, hkind, ht, .member hes (.member hm hl)⟩
  | _       => cases h

-- A place that is none of those in the data is a placeholder, in which there are no choices.
theorem mem_of_addStart {places : List (String × Place)} (h : (addStart (.ofList places)).get? id = some p)
    (hc : p.choices.get? c = some as) : (id, p) ∈ places := by
  rw [addStart] at h
  split at h
  case isTrue  => exact Ordered.mem_of_mem_ofList (Ordered.mem_of_get? h)
  case isFalse =>
    rw [Ordered.get?_insert] at h
    split at h
    case isTrue  => cases h; cases hc
    case isFalse => exact Ordered.mem_of_mem_ofList (Ordered.mem_of_get? h)

-- Null has a name, but not that of a command or of an action.

theorem parse_none : Command.parse "None" = none ∧ ActionKind.parse "None" = none := by
  decide

theorem eq_text_of_ne {key : Scalar} (ht : key.IsTextual) (hn : key.toText ≠ "None") : key = .text key.toText := by
  cases key
  case null => exact absurd rfl hn
  case text => rfl
  all_goals cases ht

theorem leads_of_build (hd : d.IsTextual) (h : build d = .ok g) (hp : g.get? id = some p)
    (hc : p.choices.get? c = some as) (ha : as[i]? = some a) :
    ∃ key name kind, key.toText = id ∧ c.Spells name ∧ a.kind.Spells kind ∧
      d.Leads [.member (.text "places"), .member key, .member (.text "choices"), .member (.text name), .item i,
        .member (.text kind)] (.text a.argument) := by
  cases d with
  | map cfg =>
    obtain ⟨es, he, h⟩ := bind_eq_ok.mp h
    obtain ⟨places, hps, h⟩ := bind_eq_ok.mp h
    cases h
    obtain ⟨⟨key, v⟩, hm, hb⟩ := exists_of_mem_mapM hps (mem_of_addStart hp hc)
    obtain ⟨id', hid, hb⟩ := bind_eq_ok.mp hb
    obtain ⟨p', hb, hp'⟩ := bind_eq_ok.mp hb
    cases hp'
    have hes := mem_of_optionalObject he hm
    obtain ⟨hk, hv⟩ := (hd.parts.right _ hes).parts
    obtain ⟨name, kind, hc, hct, hkind, hkt, hl⟩ := leads_of_buildPlace (hv _ hm) hb hc ha
    have hn : name = .text name.toText := eq_text_of_ne hct fun h => by
      rw [h, parse_none.left] at hc
      cases hc
    have hn' : kind = .text kind.toText := eq_text_of_ne hkt fun h => by
      rw [h, parse_none.right] at hkind
      cases hkind
    refine ⟨key, name.toText, kind.toText, toText_of_nameOf hid, Command.parse_eq_some_iff.mp hc,
      ActionKind.parse_eq_some_iff.mp hkind, ?_⟩
    rw [← hn, ← hn']
    exact .member hes (.member hm hl)
  | _       => cases h

variable {source : String} {ts : List Yaml.Token} {root : Yaml.Node}

theorem read_of_parse {hint : Option String} (hh : Format.ofHint? hint = some .yaml) (h : parse source hint = .ok g) :
    ∃ d, Yaml.read source = .ok d ∧ build d = .ok g := by
  rw [parse, hh] at h
  obtain ⟨d, hd, h⟩ := bind_eq_ok.mp h
  refine ⟨d, ?_, h⟩
  rw [readAs, readYaml] at hd
  split at hd <;> cases hd
  assumption

-- A text without tags is read as text. Nothing in it but five words, where they are plain, stands for
-- something else, and the arguments of its actions are what is written there.
theorem read_verbatim (h : Yaml.Composes source ts root) :
    (∀ a t plain s, Yaml.Node.scalar a t plain s ∈ root.parts → t = none ∧ (s = "" ∧ plain ∨ .scalar s plain ∈ ts)) ∧
    ((∃ d, Yaml.read source = .ok d) ↔ root.HasKeys root) ∧
    (∀ d, Yaml.read source = .ok d → d = root.unfolded Yaml.Node.unfolding ∧
      (∀ n, (root.unfolded n).IsTextual ∧ root.Shows n root (root.unfolded n)) ∧
      (¬root.IsKnotted → ∀ n, root.Shows n root d)) ∧
    ∀ hint g, Format.ofHint? hint = some .yaml → parse source hint = .ok g →
      ∀ id p c as i a, g.get? id = some p → p.choices.get? c = some as → as[i]? = some a →
        ∃ key name kind, key.toText = id ∧ c.Spells name ∧ a.kind.Spells kind ∧
          ∃ anchor tag, ∃ plain : Bool, ¬(plain ∧ a.argument ∈ Yaml.Typed.nullWords) ∧
            root.follow? root [.member (.text "places"), .member key, .member (.text "choices"), .member (.text name),
              .item i, .member (.text kind)] = some (.scalar anchor tag plain a.argument) := by
  refine ⟨fun a t plain s hs => (h.drawn.part hs).of_scalar h.untagged, h.exists_read_iff, fun d => h.read_shows, ?_⟩
  intro hint g hh hg id p c as i a hp hc ha
  obtain ⟨d, hd, hb⟩ := read_of_parse hh hg
  obtain ⟨rfl, hu, _⟩ := h.read_shows hd
  obtain ⟨key, name, kind, hkey, hname, hkind, hl⟩ := leads_of_build (hu _).left hb hp hc ha
  obtain ⟨anchor, tag, plain, s, hf, hm⟩ := (hu _).right.follow? hl (show 6 < Yaml.Node.unfolding by decide)
  refine ⟨key, name, kind, hkey, hname, hkind, anchor, tag, plain, ?_⟩
  rw [Yaml.Typed.meaning] at hm
  split at hm
  case isTrue     => cases hm
  case isFalse hn =>
    cases hm
    exact ⟨hn, hf⟩

-- A start with two choices, of which the second is as the first one, and without a description.

def twofold : String :=
  "places:\n  start:\n    choices:\n      yes: &a [\x7bsay: No\x7d]\n      no: *a\n    description: ~\n"

def twofoldTokens : List Yaml.Token := [
  .blockMappingStart, .key, .scalar "places" true, .value,
  .blockMappingStart, .key, .scalar "start" true, .value,
  .blockMappingStart, .key, .scalar "choices" true, .value,
  .blockMappingStart, .key, .scalar "yes" true, .value, .anchor "a", .flowSequenceStart,
  .flowMappingStart, .key, .scalar "say" true, .value, .scalar "No" true, .flowMappingEnd, .flowSequenceEnd,
  .key, .scalar "no" true, .value, .alias "a", .blockEnd,
  .key, .scalar "description" true, .value, .scalar "~" true, .blockEnd, .blockEnd, .blockEnd]

def twofoldTree : Yaml.Node :=
  .map none none [(word "places", .map none none [(word "start", .map none none [
    (word "choices", .map none none [
      (word "yes", .seq (some "a") none [.map none none [(word "say", word "No")]]),
      (word "no", .alias "a")]),
    (word "description", word "~")])])]
where
  word (s : String) : Yaml.Node := .scalar none none true s

def twofoldGraph : PlaceGraph where
  places := ⟨[("start", { id := "start", choices := ⟨[(.yes, [⟨.say, "No"⟩]), (.no, [⟨.say, "No"⟩])], by decide⟩ })],
    List.nodup_singleton _⟩

def twofoldData : Datum :=
  .map [(.text "places", .map [(.text "start", .map [
    (.text "choices", .map [
      (.text "yes", .list [.map [(.text "say", .text "No")]]),
      (.text "no", .list [.map [(.text "say", .text "No")]])]),
    (.text "description", .null)])])]

theorem composes_twofold : Yaml.Composes twofold twofoldTokens twofoldTree where
  scan     := by
    have ht : twofold.toList = _ := String.toList_ofList
    have hs : (Yaml.Token.scan twofold.toList).toOption = some twofoldTokens := by
      rw [ht]
      decide +kernel
    cases hr : Yaml.Token.scan twofold.toList <;> rw [hr] at hs <;> cases hs
    rfl
  untagged := by simp [twofoldTokens]
  tree     := by
    have ht : Yaml.Node.ofTokens twofoldTokens = .ok (some twofoldTree) := by cbv
    rw [ht]
    rfl
  anchors  := ⟨["a"], by cbv⟩

theorem parse_twofold : parse twofold (some "yaml") = .ok twofoldGraph := by
  have hh : Format.ofHint? (some "yaml") = some .yaml := by decide
  have hb : build twofoldData = .ok twofoldGraph := by decide +kernel
  have hr : Yaml.read twofold = .ok twofoldData := by
    rw [composes_twofold.read_eq]
    cbv
  have hy : readYaml twofold = .ok twofoldData := by
    rw [readYaml, hr]
  rw [parse, hh]
  exact bind_eq_ok.mpr ⟨_, hy, hb⟩

theorem read_verbatim_twofold :
    Yaml.Composes twofold twofoldTokens twofoldTree ∧ parse twofold (some "yaml") = .ok twofoldGraph ∧
    ∃ d, Yaml.read twofold = .ok d ∧ d.IsTextual ∧ twofoldTree.Shows 8 twofoldTree d ∧
      ∃ key name kind anchor tag plain, Command.no.Spells name ∧ ActionKind.say.Spells kind ∧
        twofoldTree.follow? twofoldTree [.member (.text "places"), .member key, .member (.text "choices"),
          .member (.text name), .item 0, .member (.text kind)] = some (.scalar anchor tag plain "No") := by
  have hh : Format.ofHint? (some "yaml") = some .yaml := by decide
  obtain ⟨_, _, hd, hg⟩ := read_verbatim composes_twofold
  obtain ⟨d, hr, _⟩ := read_of_parse hh parse_twofold
  obtain ⟨rfl, hu, _⟩ := hd d hr
  obtain ⟨key, name, kind, _, hn, hk, anchor, tag, plain, _, hf⟩ :=
    hg _ _ hh parse_twofold "start" _ .no [⟨.say, "No"⟩] 0 ⟨.say, "No"⟩ rfl rfl rfl
  exact ⟨composes_twofold, parse_twofold, _, hr, (hu 8).left, (hu 8).right, key, name, kind, anchor, tag, plain, hn, hk,
    hf⟩

end Definition
end Gamebook
