import Mathlib
import Gamebook.Proofs.Yaml.Scanned

namespace Gamebook
namespace Yaml

open Chain

variable {c d : Cursor} {s s' : Scanner} {t : Token} {cs : List Char} {ch : Char} {flow : Bool} {indent : Int} {fuel : Nat}

namespace Plain

theorem not_isBreak_of_mem_word (h : ch ∈ word flow cs) : ¬isBreak ch := by
  fun_induction word flow cs with
  | case1 | case2 | case3 | case4 => cases h
  | case5 c cs hb _ _ hi          =>
    rw [Bool.or_eq_true, not_or] at hb
    cases h with
    | head     => exact hb.right
    | tail _ h => exact hi h

-- A gap that comes to something has been skipped.
theorem length_gap_lt (h : (gap c).text ≠ []) : (gap c).cursor.rest.length < c.rest.length := by
  rw [gap] at h ⊢
  dsimp only at h ⊢
  split
  case h_1 hb =>
    rw [hb] at h
    have hl : 0 < (c.rest.takeWhile (· = ' ')).length := List.length_pos_iff.mpr h
    have hle := (List.takeWhile_prefix (l := c.rest) (· = ' ')).length_le
    rw [Cursor.skipWhile, Cursor.rest_skip, List.length_drop]
    omega
  case h_2 rest hb =>
    have hl := Nat.lt_of_lt_of_le (Cursor.length_moveTo_lt (length_of_splitBreak? hb)) (Cursor.length_skipWhile_le _ c)
    split
    case isTrue  => exact hl
    case isFalse => exact Nat.lt_of_le_of_lt (precedes_breaks _).length_le hl

-- A text ends where a word does, as long as there is fuel for all of it.
theorem read_ends (hl : c.rest.length ≤ fuel) :
    (word flow c.rest ≠ [] → (read flow indent fuel c).1 ≠ []) ∧
      ∀ ch ∈ (read flow indent fuel c).1.getLast?, ¬isBreak ch := by
  fun_induction read flow indent fuel c with
  | case1 c =>
    rw [List.length_eq_zero_iff.mp (Nat.le_zero.mp hl)]
    exact ⟨id, by simp⟩
  | case2 => exact ⟨id, fun _ hc => not_isBreak_of_mem_word (List.mem_of_getLast? hc)⟩
  | case3 fuel c w g next hc text _ _ hr hi =>
    simp only [Bool.or_eq_true, not_or, List.isEmpty_iff] at hc
    have hg : g.cursor.rest.length < c.rest.length :=
      Nat.lt_of_lt_of_le (length_gap_lt hc.1.1.1.2) (Cursor.Precedes.skip c _).length_le
    obtain ⟨hn, he⟩ := hi (by omega)
    rw [hr] at hn he
    have hn : text ≠ [] := hn hc.1.2
    exact ⟨fun _ => by simp [hn], fun ch hc => he ch (by rwa [List.getLast?_append_of_ne_nil _ hn] at hc)⟩

end Plain

-- No line ends at the end of a plain text.
def Token.IsTrim : Token → Prop
  | .scalar text true => text.toList.getLast? ≠ some '\n'
  | _                 => True

namespace Scanner

def AreTrim (s : Scanner) : Prop :=
  ∀ t ∈ s.tokens, t.IsTrim

-- Whatever comes of a scanner, its tokens are trim.
abbrev Trims (x : Except Fault Scanner) : Prop :=
  Within (fun _ => True) AreTrim x

theorem AreTrim.push (h : s.AreTrim) (ht : t.IsTrim) : (s.push t).AreTrim :=
  List.forall_mem_cons.mpr ⟨ht, h⟩

theorem AreTrim.insert (h : s.AreTrim) (ht : t.IsTrim) (n : Nat) : (s.insert n t).AreTrim := by
  refine List.forall_mem_append.mpr ⟨fun u hu => h u (List.mem_of_mem_take hu), ?_⟩
  exact List.forall_mem_cons.mpr ⟨ht, fun u hu => h u (List.mem_of_mem_drop hu)⟩

theorem AreTrim.closeBlocks (h : s.AreTrim) (column : Int) : (s.closeBlocks column).AreTrim := by
  rw [Scanner.closeBlocks]
  split
  case isTrue  => exact h
  case isFalse =>
    exact List.forall_mem_append.mpr ⟨fun t ht => List.eq_of_mem_replicate ht ▸ trivial, h⟩

theorem AreTrim.openBlock (h : s.AreTrim) (ht : t.IsTrim) (column : Int) :
    (((s.openBlock column).map (·.push t)).getD s).AreTrim := by
  rw [Scanner.openBlock]
  split
  case isTrue  => exact AreTrim.push (s := { s with indent := column, indents := s.indent :: s.indents }) h ht
  case isFalse => exact h

theorem trims_forgetKey (h : s.AreTrim) : Trims s.forgetKey := by
  rw [forgetKey]
  split
  case h_1 => exact .ite (.error trivial) (.ok h)
  case h_2 => exact .ok h

theorem trims_rememberKey (h : s.AreTrim) : Trims s.rememberKey := by
  rw [rememberKey]
  exact .ite ((trims_forgetKey h).map fun _ ht => ht) (.ok h)

theorem trims_closeDocument (h : s.AreTrim) : Trims s.closeDocument :=
  (trims_forgetKey (h.closeBlocks _)).map fun _ ht => ht

theorem trims_openEntry (h : s.AreTrim) (ht : t.IsTrim) : Trims (s.openEntry t) :=
  .ite (.ok h) (.ite (.error trivial) (.ok (h.openBlock ht _)))

theorem within_any (x : Except Fault α) : Within (fun _ => True) (fun _ => True) x := by
  cases x
  case ok    => exact .ok trivial
  case error => exact .error trivial

theorem trims_fetchDirective (h : s.AreTrim) : Trims s.fetchDirective :=
  (trims_closeDocument h).bind fun _ ht => (within_any _).bind fun _ _ => (within_any _).map fun _ _ =>
    ht.push trivial

theorem trims_fetchNamed {read : List Char → Except Fault (Property.Rest Token)} (h : s.AreTrim)
    (hr : ∀ cs, Within (fun _ => True) (fun r => r.1.IsTrim) (read cs)) : Trims (s.fetchNamed read) :=
  (trims_rememberKey h).bind fun _ hs => (hr _).map fun _ ht => hs.push (s := disallowKey _) ht

theorem trims_reset (h : s.AreTrim) (allow : Bool) : Trims { s with allowKey := allow }.forgetKey :=
  trims_forgetKey h

theorem trims_fetchValue (h : s.AreTrim) : Trims s.fetchValue := by
  have hk : Token.IsTrim .key := trivial
  have hb : Token.IsTrim .blockMappingStart := trivial
  have hv : Token.IsTrim .value := trivial
  rw [fetchValue]
  split
  case h_1 k ks _ =>
    have hi : AreTrim (({ s with keys := none :: ks } : Scanner).insert k.count .key) := AreTrim.insert h hk _
    refine .ok (AreTrim.push (s := disallowKey _) ?_ hv)
    split
    case isTrue  => exact hi
    case isFalse =>
      rw [openBlock]
      split
      case isTrue  => exact AreTrim.insert (s := { Scanner.insert _ _ _ with indent := _, indents := _ }) hi hb _
      case isFalse => exact hi
  case h_2 => exact (trims_openEntry h hb).bind fun _ ht => (trims_reset ht _).map fun _ hu => hu.push hv

theorem trims_fetchFlowEnd (h : s.AreTrim) (ht : t.IsTrim) : Trims (s.fetchFlowEnd t) :=
  .ite (.error trivial) ((trims_forgetKey h).map fun _ hs => hs.push ht)

theorem trims_fetchPlain (h : s.AreTrim) : Trims s.fetchPlain := by
  refine (trims_rememberKey h).map fun s hs => hs.push fun hn => ?_
  rw [String.toList_ofList] at hn
  exact (Plain.read_ends le_rfl).right _ hn (by decide)

theorem isTrim_name {f : String → Token} (hf : ∀ n, (f n).IsTrim) (cs : List Char) :
    Within (fun _ => True) (fun r => r.1.IsTrim) ((Property.anchor cs).map fun (n, r) => (f n, r)) :=
  (within_any (Property.anchor cs)).map fun _ _ => hf _

theorem isTrim_tag (cs : List Char) : Within (fun _ => True) (fun r => r.1.IsTrim) (Property.tag cs) := by
  have he (h : Option String) (s : String) (cs : List Char) : Within (fun _ => True) (fun r => r.1.IsTrim)
      (do Property.expect (endsPart cs.head?); return (Token.tag h s, cs)) :=
    (within_any _).map fun _ _ => trivial
  rw [Property.tag]
  refine .ite ?_ (.ite (he none "!" cs) (.ite ?_ ?_))
  case refine_1 => exact (within_any _).bind fun r _ => (within_any _).bind fun _ _ => he none r.1 (r.2.drop 1)
  case refine_2 => exact (within_any _).bind fun q _ => (within_any _).bind fun r _ => he (some q.1) r.1 r.2
  case refine_3 => exact (within_any _).bind fun r _ => he (some "!") r.1 r.2

theorem trims_fetch (h : s.AreTrim) (ch : Char) : Trims (s.fetch ch) := by
  have hp {t : Token} (ht : t.IsTrim) : Trims (s.fetchSeparator t) := (trims_closeDocument h).map fun _ hs => hs.push ht
  have hf {t : Token} (ht : t.IsTrim) : Trims (s.fetchFlowStart t) := (trims_rememberKey h).map fun _ hs => hs.push ht
  have hq (double : Bool) : Trims (s.fetchQuoted double) :=
    (trims_rememberKey h).bind fun _ hs => (within_any _).map fun _ _ => hs.push trivial
  have hb (folded : Bool) : Trims (s.fetchBlockScalar folded) :=
    (trims_reset h _).bind fun _ hs => (within_any _).map fun _ _ => hs.push trivial
  have hs : Trims s.fetchBlockEntry :=
    (trims_openEntry h (t := .blockSequenceStart) trivial).bind fun _ ht =>
      (trims_reset ht _).map fun _ hu => hu.push trivial
  have hk : Trims s.fetchKey :=
    (trims_openEntry h (t := .blockMappingStart) trivial).bind fun _ ht =>
      (trims_reset ht _).map fun _ hu => hu.push trivial
  rw [fetch]
  refine .ite (trims_fetchDirective h) (.ite (hp trivial) (.ite (hp trivial) ?_))
  refine .ite (hf trivial) (.ite (hf trivial) ?_)
  refine .ite (trims_fetchFlowEnd h trivial) (.ite (trims_fetchFlowEnd h trivial) ?_)
  refine .ite ((trims_reset h _).map fun _ hs => hs.push trivial) ?_
  refine .ite hs (.ite hk (.ite (trims_fetchValue h) ?_))
  refine .ite (trims_fetchNamed h (isTrim_name fun _ => trivial)) ?_
  refine .ite (trims_fetchNamed h (isTrim_name fun _ => trivial)) (.ite (trims_fetchNamed h isTrim_tag) ?_)
  exact .ite (hb _) (.ite (hb _) (.ite (hq _) (.ite (hq _) (.ite (trims_fetchPlain h) (.error trivial)))))

theorem within_run (h : s.AreTrim) (fuel : Nat) : Within (fun _ => True) (∀ t ∈ ·, t.IsTrim) (run fuel s) := by
  induction fuel generalizing s with
  | zero         => exact .error trivial
  | succ fuel hi =>
    have hd : Trims s.toNextToken.dropStaleKeys := .ite (.error trivial) (.ok h)
    refine hd.bind fun t ht => ?_
    dsimp only
    split
    case h_1 c _ => exact (trims_fetch (ht.closeBlocks _) c).bind fun _ hu => hi hu
    case h_2     =>
      refine (trims_forgetKey ((ht.closeBlocks _).closeBlocks _)).map fun _ hu t ht => ?_
      exact hu t (List.mem_reverse.mp ht)

end Scanner

theorem isTrim_of_scan {ts : List Token} (h : Token.scan cs = .ok ts) : ∀ t ∈ ts, t.IsTrim := by
  have hs : Within (fun _ => True) (∀ t ∈ ·, t.IsTrim) (Token.scan cs) :=
    .ite (Scanner.within_run (s := { cursor := { rest := cs } }) (List.forall_mem_nil _) _) (.error trivial)
  exact (h ▸ hs).of_ok

end Yaml
end Gamebook
