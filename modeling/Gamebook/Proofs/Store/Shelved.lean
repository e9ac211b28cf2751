import Mathlib
import Gamebook.Proofs.Json.Sound
import Gamebook.Proofs.Store.Sharing

namespace Gamebook
namespace Store

def Deed.player? : Deed → Option Json
  | save _ j => some j
  | delete _ => none

-- What is asked of a store of players.
inductive Errand
  | get (recordId : String)
  | list
  | deed (d : Deed)

inductive Answer
  | player (j : Option Json)
  | players (js : List Json)
  | saved
  | deleted (any : Bool)

namespace Errand

-- The players who come along can be told in files.
def IsSound : Errand → Prop
  | deed (.save _ j) => j.Sound
  | _                => True

-- Is the name that an errand is about short enough for a file?
def HasRoom : Errand → Prop
  | get r  => HasRoomFor r
  | list   => True
  | deed d => HasRoomFor d.recordId

-- Is an errand there to change what is stored under a name?
def Concerns (name : String) : Errand → Prop
  | deed d => Slug.ofText d.recordId = name
  | _      => False

-- What an errand leaves under a name, if it changes anything there.
def leaves? (name : String) : Errand → Option (Option Json)
  | deed d => if Slug.ofText d.recordId = name ∧ HasRoomFor d.recordId then some d.player? else none
  | _      => none

end Errand

-- The player saved last under a name, unless there was a deletion since.
def latest? (es : List Errand) (name : String) : Option Json :=
  (es.reverse.findSome? (·.leaves? name)).join

-- What is rightly answered to an errand if names stand for players like that. All players are
-- listed in the order of their files' names.
inductive Answers (m : String → Option Json) : Errand → Answer → Prop
  | got (r : String)                : Answers m (.get r) (.player (m (Slug.ofText r)))
  | saved (r : String) (j : Json)   : Answers m (.deed (.save r j)) .saved
  | deleted (r : String)            : Answers m (.deed (.delete r)) (.deleted (m (Slug.ofText r)).isSome)
  | listed (ps : List (String × Json)) (hm : ∀ p, p ∈ ps ↔ m p.1 = some p.2)
    (hs : (ps.map (·.1 ++ extension)).Pairwise (· < ·)) : Answers m .list (.players (ps.map Prod.snd))

def attend (s : Store) : Errand → Except Fault (Store × Answer)
  | .get r            => return (s, .player (← s.player? r))
  | .list             => return (s, .players (← s.players))
  | .deed (.save r j) => return (← s.savePlayer r j, .saved)
  | .deed (.delete r) => return (← s.deletePlayer r).map id .deleted

-- An errand that fails leaves everything as it is.
def after (s : Store) (e : Errand) : Store :=
  match s.attend e with
  | .ok (store, _) => store
  | .error _       => s

def attendAll (s : Store) (es : List Errand) : Store :=
  es.foldl after s

-- The players of a store are those of a map from names to players, and are found where they belong.
structure Shelves (s : Store) (m : String → Option Json) : Prop where
  isTidy : s.IsTidy
  held   : ∀ r, HasRoomFor r → s.held r = (m (Slug.ofText r)).elim .nothing fun j => .file (FileText.encode j.render)
  named  : ∀ name j, m name = some j → j.Sound ∧ ∃ r, HasRoomFor r ∧ name = Slug.ofText r
  listed : ∀ n ∈ s.playerFiles, ∃ r, HasRoomFor r ∧ n = Slug.ofText r ++ extension

variable {s t : Store} {m : String → Option Json} {e : Errand} {es : List Errand} {d : Deed} {r : String} {j : Json}
  {p : PathName} {name : String}

theorem hasRoomFor_congr {r' : String} (h : Slug.ofText r = Slug.ofText r') : HasRoomFor r ↔ HasRoomFor r' := by
  rw [HasRoomFor, HasRoomFor, h]

theorem after_deed : s.after (.deed d) = s.perform d := by
  cases d with
  | save r j =>
    rw [after, attend, perform]
    cases s.savePlayer r j <;> rfl
  | delete r =>
    rw [after, attend, perform]
    cases s.deletePlayer r <;> rfl

theorem after_get : s.after (.get r) = s := by
  rw [after, attend]
  cases s.player? r <;> rfl

theorem after_list : s.after .list = s := by
  rw [after, attend]
  cases s.players <;> rfl

theorem attendAll_concat : s.attendAll (es ++ [e]) = (s.attendAll es).after e := by
  rw [attendAll, List.foldl_append]
  rfl

theorem latest?_concat : latest? (es ++ [e]) = fun k => (e.leaves? k).getD (latest? es k) := by
  funext k
  rw [latest?, List.reverse_append, List.reverse_singleton, List.singleton_append, List.findSome?_cons]
  cases e.leaves? k <;> rfl

namespace Errand

theorem leaves?_of_not_concerns (h : ¬e.Concerns name) : e.leaves? name = none := by
  cases e with
  | deed d =>
    rw [leaves?, if_neg]
    exact fun hd => h hd.left
  | _      => rfl

theorem leaves?_of_concerns (h : Slug.ofText d.recordId = name) (hr : HasRoomFor d.recordId) :
    (deed d).leaves? name = some d.player? := by
  rw [leaves?, if_pos ⟨h, hr⟩]

theorem leaves?_of_noRoom (h : ¬e.HasRoom) : e.leaves? name = none := by
  cases e with
  | deed d =>
    rw [leaves?, if_neg]
    exact fun hd => h hd.right
  | _      => rfl

end Errand

-- Nothing can be stored, looked up or deleted under a name that no file can have.
theorem attend_of_noRoom (hs : s.IsSetUp) (he : e.IsSound) (hr : ¬e.HasRoom) :
    s.attend e = .error (.file .nameTooLong) := by
  have hh (r : String) (hr : ¬HasRoomFor r) : s.held r = .refused := (held_eq_refused hs).mpr hr
  cases e with
  | list  => exact absurd trivial hr
  | get r =>
    rw [attend, player?_eq, hh r hr]
    rfl
  | deed d =>
    cases d with
    | save r j =>
      have hk : (s.savePlayer r j).map (·.held r) = .error (.file .nameTooLong) := by
        rw [held_savePlayer hs, hh r hr, Found.save, if_pos (Json.Sound.isWritable he)]
      rw [attend, Chain.map_eq_error.mp hk]
      rfl
    | delete r =>
      have hk : (s.deletePlayer r).map (fun d => (d.1.held r, d.2)) = .error (.file .nameTooLong) := by
        rw [held_deletePlayer, hh r hr, Found.delete]
      rw [attend, Chain.map_eq_error.mp hk]
      rfl

theorem after_of_noRoom (hs : s.IsSetUp) (he : e.IsSound) (hr : ¬e.HasRoom) : s.after e = s := by
  rw [after, attend_of_noRoom hs he hr]

theorem readJson_of_readJson? (h : s.readJson? p = .ok (some j)) : s.readJson p = .ok j := by
  obtain ⟨file, _, h⟩ := Chain.bind_eq_ok.mp h
  split at h
  case isTrue =>
    obtain ⟨_, hj, h⟩ := Chain.bind_eq_ok.mp h
    cases h
    exact hj
  case isFalse => cases h

theorem sorted_playerFiles : s.playerFiles.Pairwise (· < ·) := by
  have hs : s.playerFiles.Pairwise fun m n => decide (m ≤ n) = true := by
    apply List.pairwise_mergeSort
    · intro l m n hl hm
      exact decide_eq_true ((of_decide_eq_true hl).trans (of_decide_eq_true hm))
    · intro m n
      simpa using le_total m n
  have hn : s.playerFiles.Nodup := List.nodup_mergeSort.mpr Files.nodup_names
  exact hs.imp₂ (fun _ _ hl => lt_of_le_of_ne (of_decide_eq_true hl)) hn

theorem isPlayerFile_append : isPlayerFile (name ++ extension) := by
  rw [isPlayerFile, String.toList_append, List.isSuffixOf_iff_suffix]
  exact List.suffix_append ..

namespace Shelves

theorem of_empty (hs : s.IsSetUp) (he : s.playerFiles = []) : s.Shelves fun _ => none where
  isTidy      := .of_empty hs he
  held _ hr   := held_of_empty hs he hr
  named _ _ h := nomatch h
  listed _ h  := absurd (he ▸ h) List.not_mem_nil

theorem held_of_some (h : s.Shelves m) (hm : m (Slug.ofText r) = some j) :
    s.held r = .file (FileText.encode j.render) := by
  obtain ⟨_, r', hr, hn⟩ := h.named _ j hm
  rw [h.held r ((hasRoomFor_congr hn).mpr hr), hm]
  rfl

theorem player? (h : s.Shelves m) (hr : HasRoomFor r) : s.player? r = .ok (m (Slug.ofText r)) := by
  rw [player?_eq, h.held r hr]
  cases hm : m (Slug.ofText r) with
  | none   => rfl
  | some j => exact Found.read?_render (h.named _ j hm).left.recoverable

theorem mem_playerFiles (h : s.Shelves m) (hm : m name = some j) : name ++ extension ∈ s.playerFiles := by
  obtain ⟨_, r, hr, he⟩ := h.named name j hm
  rw [he] at hm ⊢
  rw [mem_playerFiles_iff_held h.isTidy.setUp hr, h.held_of_some hm]
  exact nofun

-- Every file that is listed is that of a player.
theorem exists_of_mem_playerFiles (h : s.Shelves m) {n : String} (hn : n ∈ s.playerFiles) :
    ∃ name j, m name = some j ∧ n = name ++ extension := by
  obtain ⟨r, hr, he⟩ := h.listed n hn
  rw [he, mem_playerFiles_iff_held h.isTidy.setUp hr, h.held r hr] at hn
  cases hm : m (Slug.ofText r) with
  | some j => exact ⟨_, j, hm, he⟩
  | none   =>
    rw [hm] at hn
    exact absurd rfl hn

theorem readJson (h : s.Shelves m) (hm : m name = some j) :
    s.readJson (s.playersFolder ++ .ofNames [name ++ extension]) = .ok j := by
  obtain ⟨_, r, hr, he⟩ := h.named name j hm
  rw [he] at hm ⊢
  apply readJson_of_readJson?
  exact (h.player? hr).trans (congrArg Except.ok hm)

theorem players (h : s.Shelves m) : ∃ ps : List (String × Json), s.players = .ok (ps.map Prod.snd) ∧
    (∀ p, p ∈ ps ↔ m p.1 = some p.2) ∧ (ps.map (·.1 ++ extension)).Pairwise (· < ·) := by
  have hf : ∀ n ∈ s.playerFiles, ∃ name j, m name = some j ∧ n = name ++ extension := fun n =>
    h.exists_of_mem_playerFiles
  choose! name player hm hn using hf
  refine ⟨s.playerFiles.map fun n => (name n, player n), ?_, fun p => ?_, ?_⟩
  · have ha : s.playerFiles.filter isPlayerFile = s.playerFiles := by
      rw [List.filter_eq_self]
      exact fun n h => hn n h ▸ isPlayerFile_append
    rw [Store.players, ha, List.map_map]
    apply Chain.mapM_eq_ok
    intro n hl
    nth_rewrite 1 [hn n hl]
    exact h.readJson (hm n hl)
  · rw [List.mem_map]
    constructor
    · rintro ⟨n, hl, rfl⟩
      exact hm n hl
    · intro hp
      have hl := h.mem_playerFiles hp
      have he : name (p.1 ++ extension) = p.1 := by
        have he := congrArg String.toList (hn _ hl)
        rw [String.toList_append, String.toList_append] at he
        exact (String.toList_inj.mp (List.append_cancel_right he)).symm
      have hv := hm _ hl
      rw [he, hp] at hv
      exact ⟨_, hl, Prod.ext he (Option.some.inj hv).symm⟩
  · have he : (s.playerFiles.map fun n => (name n, player n)).map (·.1 ++ extension) = s.playerFiles := by
      rw [List.map_map]
      conv_rhs => rw [← List.map_id s.playerFiles]
      exact List.map_congr_left fun n hl => (hn n hl).symm
    rw [he]
    exact sorted_playerFiles

-- A store answers as the map would.
theorem exists_attend (h : s.Shelves m) (he : e.IsSound) (hr : e.HasRoom) :
    ∃ t a, s.attend e = .ok (t, a) ∧ Answers m e a := by
  cases e with
  | get r =>
    rw [attend, h.player? hr]
    exact ⟨_, _, rfl, .got r⟩
  | list  =>
    obtain ⟨ps, hp, hm, hs⟩ := h.players
    rw [attend, hp]
    exact ⟨_, _, rfl, .listed ps hm hs⟩
  | deed d =>
    cases d with
    | save r j =>
      have hk : (s.savePlayer r j).map (·.held r) = .ok (.file (FileText.encode j.render)) := by
        rw [held_savePlayer h.isTidy.setUp, h.held r hr, Found.save.eq_def, if_pos (Json.Sound.isWritable he)]
        cases m (Slug.ofText r) <;> rfl
      obtain ⟨t, ht, _⟩ := Chain.map_eq_ok.mp hk
      rw [attend, ht]
      exact ⟨_, _, rfl, .saved r j⟩
    | delete r =>
      have hk : (s.deletePlayer r).map (fun d => (d.1.held r, d.2)) = .ok (.nothing, (m (Slug.ofText r)).isSome) := by
        rw [held_deletePlayer, h.held r hr]
        cases m (Slug.ofText r) <;> rfl
      obtain ⟨d, hd, hf⟩ := Chain.map_eq_ok.mp hk
      have hf : d.2 = (m (Slug.ofText r)).isSome := congrArg Prod.snd hf
      rw [attend, hd]
      exact ⟨_, _, rfl, hf ▸ .deleted r⟩

-- What a deed leaves under the name that it is about.
theorem held_perform (h : s.Shelves m) (he : (Errand.deed d).IsSound) (hr : HasRoomFor d.recordId) :
    (s.perform d).held d.recordId = d.player?.elim .nothing fun j => .file (FileText.encode j.render) := by
  cases d with
  | save r j => exact (held_perform_save h.isTidy).trans (if_pos ⟨Json.Sound.isWritable he, hr⟩)
  | delete r =>
    rw [Deed.recordId, held_perform_delete, h.held r hr]
    cases m (Slug.ofText r) <;> rfl

-- One errand changes a store as it changes the map.
theorem after (h : s.Shelves m) (he : e.IsSound) : (s.after e).Shelves fun k => (e.leaves? k).getD (m k) := by
  by_cases hr : e.HasRoom
  case neg =>
    rw [after_of_noRoom h.isTidy.setUp he hr]
    simp only [Errand.leaves?_of_noRoom hr]
    exact h
  case pos =>
    cases e with
    | get r  => exact after_get ▸ h
    | list   => exact after_list ▸ h
    | deed d =>
      rw [after_deed]
      have hn {k : String} (hk : Slug.ofText d.recordId ≠ k) : (Errand.deed d).leaves? k = none :=
        Errand.leaves?_of_not_concerns hk
      constructor
      case isTidy => exact h.isTidy.perform d
      case held =>
        intro r hf
        by_cases hd : Slug.ofText d.recordId = Slug.ofText r
        case pos => rw [← held_congr hd, h.held_perform he hr, Errand.leaves?_of_concerns hd hr, Option.getD_some]
        case neg => rw [held_perform_of_ne h.isTidy.setUp hd, hn hd, Option.getD_none, h.held r hf]
      case named =>
        intro k j hj
        by_cases hd : Slug.ofText d.recordId = k
        case pos =>
          rw [Errand.leaves?_of_concerns hd hr, Option.getD_some] at hj
          cases d with
          | save r i =>
            cases hj
            exact ⟨he, r, hr, hd.symm⟩
          | delete r => cases hj
        case neg =>
          rw [hn hd] at hj
          exact h.named k j hj
      case listed =>
        intro n hl
        by_cases hd : n = Slug.ofText d.recordId ++ extension
        case pos => exact ⟨_, hr, hd⟩
        case neg => exact h.listed n ((perform_onlyAt.mem_playerFiles h.isTidy.setUp hd).mp hl)

theorem attendAll (hs : s.IsSetUp) (he : s.playerFiles = []) (h : ∀ e ∈ es, e.IsSound) :
    (s.attendAll es).Shelves (latest? es) := by
  induction es using List.reverseRecOn with
  | nil => exact .of_empty hs he
  | append_singleton es e hi =>
    rw [List.forall_mem_append] at h
    rw [attendAll_concat, latest?_concat]
    exact (hi h.left).after (h.right e List.mem_cons_self)

end Shelves

-- What is stored under other names stays as it is, even if an errand fails.
theorem held_after_of_not_concerns (hs : s.IsSetUp) (h : ¬e.Concerns (Slug.ofText r)) :
    (s.after e).held r = s.held r := by
  cases e with
  | get r  => rw [after_get]
  | list   => rw [after_list]
  | deed d =>
    rw [after_deed]
    exact held_perform_of_ne hs h

-- Stored players are a map from names to players, as long as their names have room in files.
theorem attends_iff (hs : s.IsSetUp) (he : s.playerFiles = []) (es : List Errand) (e : Errand)
    (h : ∀ e' ∈ es ++ [e], e'.IsSound) :
    ((∃ t a, (s.attendAll es).attend e = .ok (t, a) ∧ Answers (latest? es) e a) ↔ e.HasRoom) ∧
    (¬e.HasRoom → (s.attendAll es).attend e = .error (.file .nameTooLong)) ∧
    ∀ r, ¬e.Concerns (Slug.ofText r) → ((s.attendAll es).after e).held r = (s.attendAll es).held r := by
  rw [List.forall_mem_append] at h
  have hm : (s.attendAll es).Shelves (latest? es) := .attendAll hs he h.left
  have hd : e.IsSound := h.right e List.mem_cons_self
  have hf : ¬e.HasRoom → (s.attendAll es).attend e = .error (.file .nameTooLong) :=
    attend_of_noRoom hm.isTidy.setUp hd
  refine ⟨⟨fun ⟨_, _, ha, _⟩ => ?_, hm.exists_attend hd⟩, hf, fun r => held_after_of_not_concerns hm.isTidy.setUp⟩
  by_contra hr
  cases ha.symm.trans (hf hr)

-- A player with a fraction.
def lucky : Json :=
  .obj [("record_id", .str "alice"), ("luck", .float (.finite false (3 * 2 ^ 51) (-52)))]

theorem sound_lucky : lucky.Sound := by
  refine .obj (List.forall_mem_cons.mpr ⟨.str _, List.forall_mem_singleton.mpr (.float ?_)⟩) (by simp)
  exact ⟨by norm_num, by decide, by decide, .inl (by norm_num)⟩

theorem attends_lucky :
    ∃ t, (bare.attendAll [.deed (.save "alice" lucky), .deed (.save "bob" .null), .deed (.delete "bob")]).attend
      (.get "alice") = .ok (t, .player (some lucky)) := by
  obtain ⟨h, _, _⟩ := attends_iff isSetUp_bare playerFiles_bare
    [.deed (.save "alice" lucky), .deed (.save "bob" .null), .deed (.delete "bob")] (.get "alice") (by
      simp [Errand.IsSound, sound_lucky, Json.Sound.null])
  obtain ⟨t, _, ht, ⟨⟩⟩ := h.mpr hasRoomFor_alice
  refine ⟨t, ht.trans ?_⟩
  simp [latest?, Errand.leaves?, Deed.recordId, Deed.player?, Slug.ofText_alice, Slug.ofText_bob, hasRoomFor_alice]

-- Nobody is found under a name that is too long.
theorem longNamed_unfound :
    bare.IsSetUp ∧ bare.playerFiles = [] ∧ lucky.Sound ∧
    bare.attend (.deed (.save (.ofList (.replicate 251 'a')) lucky)) = .error (.file .nameTooLong) ∧
    (bare.attendAll [.deed (.save (.ofList (.replicate 251 'a')) lucky)]).attend
      (.get (.ofList (.replicate 251 'a'))) = .error (.file .nameTooLong) := by
  have hr : ¬HasRoomFor (.ofList (.replicate 251 'a')) := (not_hasRoomFor_replicate (by decide)).right
  have hm : (bare.attendAll [.deed (.save (.ofList (.replicate 251 'a')) lucky)]).Shelves _ :=
    .attendAll isSetUp_bare playerFiles_bare (List.forall_mem_singleton.mpr sound_lucky)
  exact ⟨isSetUp_bare, playerFiles_bare, sound_lucky, attend_of_noRoom isSetUp_bare sound_lucky hr,
    attend_of_noRoom hm.isTidy.setUp trivial hr⟩

end Store
end Gamebook
