import Mathlib
import Gamebook.Proofs.Service.Requests
import Gamebook.Proofs.Store.Configured

namespace Gamebook

-- A request for other settings.
def Call.patch (body : String) (now : Timestamp) : Call where
  now     := now
  request := ⟨"PATCH", "/api/settings", body⟩

-- The value that is sent to somebody whose request has been met.
def Http.Reply.value? (r : Reply) : Option Json :=
  if r.status = 200 then match r.content with
    | .json j => some j
    | .text _ => none
  else none

namespace Settings

-- New values for some of the settings: those of an object that the program has, or those that the
-- body of a request tells.
inductive Change
  | update (members : List (String × Json))
  | patch (body : String) (now : Timestamp)

-- Text is what a request may give, and null is as good as nothing.
def isOpen : Option Json → Bool
  | none | some .null | some (.str _) => true
  | some _                            => false

namespace Change

def IsFormed : Change → Prop
  | update ms => ∀ m ∈ ms, m.2.Formed
  | patch ..  => True

-- The members of the object that is told.
def members? : Change → Option (List (String × Json))
  | update ms    => some ms
  | patch body _ => match Json.read (Service.Body.unmarked body) with
    | .ok (.obj ms) => some ms
    | _             => none

-- Can a value be taken for that of a setting?
def admits : Change → Option Json → Bool
  | update _, j => j.all fun j => decide j.IsWritable
  | patch .., j => isOpen j

-- A change is made as a whole, or not at all.
def isMade (c : Change) : Bool :=
  c.members?.any fun ms => Setting.all.all fun k => c.admits (Json.get? ms k.name)

-- The value that a change tells for a setting.
def told? (c : Change) (k : Setting) : Option Json :=
  (c.members?.bind fun ms => Json.get? ms k.name).filter fun j =>
    match c with
    | update _ => true
    | patch .. => !j.isNull

def given? (c : Change) (k : Setting) : Option Json :=
  if c.isMade then c.told? k else none

end Change

-- The value that has been given last to a setting.
def latest? (cs : List Change) (k : Setting) : Option Json :=
  cs.reverse.findSome? (·.given? k)

-- The settings after some changes, if there have been those of an object before.
def afterwards (ms : List (String × Json)) (cs : List Change) : Settings :=
  fun k => (latest? cs k).getD ((Json.get? ms k.name).getD (default k))

end Settings

namespace Service

open Settings (Change)

def adjust (s : Service) : Change → Service
  | .update ms      => match s.store.updateSettings ms with
    | .ok (store, _) => { s with store }
    | .error _       => s
  | .patch body now => s.after (.patch body now)

def adjustAll (s : Service) (cs : List Change) : Service :=
  cs.foldl adjust s

-- The settings that come back for a change.
def returned? (s : Service) : Change → Option Json
  | .update ms      => (s.store.updateSettings ms).toOption.map (·.2.toJson)
  | .patch body now => (s.answer (.patch body now)).2.value?

-- What is in the file of the settings.
def config (s : Service) : Found :=
  s.store.files.look s.store.settingsPath

end Service

variable {s : Service} {settings : Settings} {ms vs : List (String × Json)} {cs : List Settings.Change}
  {c d : Settings.Change} {k : Setting} {ks : List Setting} {body : String} {now : Timestamp}

namespace Settings

theorem get?_filterMap {v : Setting → Option Json} :
    Json.get? (ks.filterMap fun k => (v k).map (k.name, ·)) k.name = if k ∈ ks then v k else none := by
  induction ks with
  | nil          => rfl
  | cons l ks hi =>
    have hn : l.name = k.name ↔ k = l := by cases l <;> cases k <;> decide
    rw [List.filterMap_cons]
    by_cases hk : k = l
    case pos =>
      subst hk
      cases hv : v k with
      | none   => simp [hi, hv]
      | some j => simp [Json.get?]
    case neg =>
      have hl : ¬l.name = k.name := mt hn.mp hk
      cases v l with
      | none   => simp [hi, hk]
      | some j => simpa [Json.get?, hl, hk] using hi

-- What is read of one member of a request.
theorem member_cases (j : Option Json) (name : String) (hj : Json.get? ms name = j) :
    isOpen j ∧ (∃ v : Option String, Form.memberOr ms name none (Form.nullable Form.text) = .good v ∧
      j.filter (!·.isNull) = v.map .str) ∨
    ¬isOpen j ∧ ∃ is, Form.memberOr ms name none (Form.nullable Form.text) = .bad is := by
  rw [Form.memberOr, hj]
  cases j with
  | none   => exact .inl ⟨rfl, none, rfl, rfl⟩
  | some j =>
    cases j with
    | null  => exact .inl ⟨rfl, none, rfl, rfl⟩
    | str s => exact .inl ⟨rfl, some s, rfl, rfl⟩
    | _     => exact .inr ⟨Bool.false_ne_true, _, rfl⟩

theorem go_cases (ms : List (String × Json)) (ks : List Setting) :
    (∀ k ∈ ks, isOpen (Json.get? ms k.name)) ∧ changesOfJson.go ms ks =
      .good (ks.filterMap fun k => ((Json.get? ms k.name).filter (!·.isNull)).map (k.name, ·)) ∨
    (∃ k ∈ ks, ¬isOpen (Json.get? ms k.name)) ∧ ∃ is, changesOfJson.go ms ks = .bad is := by
  induction ks with
  | nil          => exact .inl ⟨List.forall_mem_nil _, rfl⟩
  | cons k ks hi =>
    rw [changesOfJson.go]
    obtain ⟨hk, v, hv, hf⟩ | ⟨hk, is, hv⟩ := member_cases _ k.name rfl
    case inl =>
      rw [hv]
      obtain ⟨hks, hg⟩ | ⟨⟨l, hl, hn⟩, is, hg⟩ := hi
      case inl =>
        refine .inl ⟨List.forall_mem_cons.mpr ⟨hk, hks⟩, ?_⟩
        rw [hg, List.filterMap_cons, hf]
        cases v <;> rfl
      case inr =>
        rw [hg]
        exact .inr ⟨⟨l, List.mem_cons_of_mem k hl, hn⟩, is, rfl⟩
    case inr =>
      rw [hv]
      refine .inr ⟨⟨k, List.mem_cons_self, hk⟩, ?_⟩
      obtain ⟨_, hg⟩ | ⟨_, js, hg⟩ := hi
      · exact ⟨is, by rw [hg]; rfl⟩
      · exact ⟨is ++ js, by rw [hg]; rfl⟩

namespace Change

theorem members?_update : (update ms).members? = some ms :=
  rfl

theorem members?_patch :
    (patch body now).members? = some ms ↔ Json.read (Service.Body.unmarked body) = .ok (.obj ms) := by
  rw [members?.eq_def]
  dsimp only
  split
  case h_1 hr => simp [hr]
  case h_2 hr => exact iff_of_false (Option.some_ne_none _ ∘ Eq.symm) (hr ms)

theorem isMade_update : (update ms).isMade ↔ ∀ k : Setting, ∀ j, Json.get? ms k.name = some j → j.IsWritable := by
  simp only [isMade, members?_update, admits, Option.any_some, List.all_eq_true, Setting.mem_all, forall_const]
  refine forall_congr' fun k => ?_
  cases Json.get? ms k.name <;> simp

theorem isMade_patch :
    (patch body now).isMade ↔ ∃ ms, Json.read (Service.Body.unmarked body) = .ok (.obj ms) ∧
      ∀ k ∈ Setting.all, isOpen (Json.get? ms k.name) := by
  simp only [isMade, Option.any_eq_true, members?_patch, admits, List.all_eq_true]

theorem told?_update : (update ms).told? k = Json.get? ms k.name := by
  rw [told?, members?_update, Option.bind_some]
  cases Json.get? ms k.name <;> rfl

theorem told?_patch (hr : Json.read (Service.Body.unmarked body) = .ok (.obj ms)) :
    (patch body now).told? k = (Json.get? ms k.name).filter (!·.isNull) := by
  simp [told?, members?_patch.mpr hr]

-- What a request comes to depends on whether it is refused.
theorem read_patch_of_made (h : (patch body now).isMade) :
    ∃ vs, Service.Body.read changesOfJson body = .good vs ∧
      ∀ k : Setting, Json.get? vs k.name = (patch body now).told? k := by
  obtain ⟨ms, hr, ho⟩ := isMade_patch.mp h
  have hb : body ≠ "" := by
    rintro rfl
    have he : Json.read (Service.Body.unmarked "") = .error (.malformed .value 0) := by cbv
    cases he.symm.trans hr
  obtain ⟨_, hg⟩ | ⟨⟨k, hk, hn⟩, _⟩ := go_cases ms Setting.all
  case inr => exact absurd (ho k hk) hn
  refine ⟨Setting.all.filterMap fun k => ((Json.get? ms k.name).filter (!·.isNull)).map (k.name, ·), ?_, fun k => ?_⟩
  · rw [Service.Body.read, if_neg hb, hr]
    simp only [changesOfJson, Form.record, hg]
    rfl
  · rw [get?_filterMap, if_pos k.mem_all, told?_patch hr]

theorem read_patch_of_unmade (h : ¬(patch body now).isMade) (vs : List (String × Json)) :
    Service.Body.read changesOfJson body ≠ .good vs := by
  intro hg
  rw [Service.Body.read] at hg
  split at hg
  case isTrue  => cases hg
  case isFalse =>
    split at hg
    case h_1     => cases hg
    case h_2     => cases hg
    case h_3 j hr =>
      cases j with
      | obj ms =>
        obtain ⟨ho, _⟩ | ⟨_, is, hb⟩ := go_cases ms Setting.all
        · exact h (isMade_patch.mpr ⟨ms, hr, ho⟩)
        · simp only [changesOfJson, Form.record, hb] at hg
          cases hg
      | _      => cases hg

-- All that a change tells can be told in a file again.
theorem sound_of_told? (hf : c.IsFormed) (hm : c.isMade) {j : Json} (h : c.told? k = some j) : j.Sound := by
  cases c with
  | update ms      =>
    rw [told?_update] at h
    obtain ⟨m, hk, rfl⟩ := Option.map_eq_some_iff.mp h
    exact (hf m (List.mem_of_find?_eq_some hk)).sound (isMade_update.mp hm k _ h)
  | patch body now =>
    obtain ⟨ms, hr, ho⟩ := isMade_patch.mp hm
    rw [told?_patch hr, Option.filter_eq_some_iff] at h
    have ho := ho k k.mem_all
    rw [h.left] at ho
    cases j with
    | null  => exact .null
    | str s => exact .str s
    | _     => cases ho

end Change

-- The settings once a change has been made.
def changed (s : Settings) (c : Change) : Settings :=
  fun k => (c.told? k).getD (s k)

theorem IsSound.changed (h : settings.IsSound) (hf : c.IsFormed) (hm : c.isMade) : (settings.changed c).IsSound := by
  intro k
  rw [Settings.changed]
  cases hk : c.told? k with
  | none   => exact h k
  | some j => exact Change.sound_of_told? hf hm hk

theorem update_eq_changed (h : ∀ k : Setting, Json.get? vs k.name = c.told? k) :
    settings.update vs = settings.changed c := by
  funext k
  rw [update, h k, changed]

theorem latest?_concat : latest? (cs ++ [c]) k = (c.given? k).or (latest? cs k) := by
  rw [latest?, List.reverse_append, List.reverse_singleton, List.singleton_append, List.findSome?_cons]
  cases c.given? k <;> rfl

theorem afterwards_concat (hm : c.isMade) : afterwards ms (cs ++ [c]) = (afterwards ms cs).changed c := by
  funext k
  rw [afterwards, latest?_concat, changed, afterwards, Change.given?, if_pos hm]
  cases c.told? k <;> rfl

theorem afterwards_concat_of_unmade (hm : ¬c.isMade) : afterwards ms (cs ++ [c]) = afterwards ms cs := by
  funext k
  rw [afterwards, latest?_concat, Change.given?, if_neg hm]
  rfl

end Settings

namespace Service

theorem handle_of_patch :
    s.handle now (Call.patch body now).request = ((patchSettings s body).service, (patchSettings s body).notice,
      match (patchSettings s body).result with
      | .ok reply => reply
      | .error _  => .failure) := by
  have hc : "/api/settings".toList.all Http.isPlain := by cbv
  have hp : (Call.patch body now).request.place = "/api/settings" := Http.Request.place_eq_path hc
  have hr : Route.ofPlace? "/api/settings" = some .settings := by cbv
  rw [handle, hp, hr]
  rfl

theorem after_patch : s.after (.patch body now) = (patchSettings s body).service :=
  congrArg Prod.fst handle_of_patch

theorem reply_patch : (s.answer (.patch body now)).2 = match (patchSettings s body).result with
    | .ok reply => reply
    | .error _  => .failure :=
  congrArg (·.2.2) handle_of_patch

theorem patchSettings_of_unmade (h : ¬(Settings.Change.patch body now).isMade) :
    (patchSettings s body).service = s ∧
      ∃ r, (patchSettings s body).result = .ok r ∧ (r.status = 400 ∨ r.status = 422) := by
  have hn := Settings.Change.read_patch_of_unmade h
  rw [patchSettings]
  cases hr : Body.read Settings.changesOfJson body with
  | good vs    => exact absurd hr (hn vs)
  | unfit is   => exact ⟨rfl, _, rfl, .inr rfl⟩
  | unreadable => exact ⟨rfl, _, rfl, .inl rfl⟩

theorem patchSettings_of_read {store : Store} (hr : Body.read Settings.changesOfJson body = .good vs)
    (hu : s.store.updateSettings vs = .ok (store, settings)) :
    patchSettings s body = ⟨{ s with store }, none, reply settings.toJson⟩ := by
  rw [patchSettings, hr]
  simp only [hu]

theorem patchSettings_of_unread (body : String) {e : Store.Fault} (hs : s.store.settings = .error e) :
    (patchSettings s body).service = s ∧ ∀ r, (patchSettings s body).result = .ok r → r.value? = none := by
  rw [patchSettings]
  cases Body.read Settings.changesOfJson body with
  | good vs    =>
    simp only [Store.updateSettings_of_unread hs]
    exact ⟨trivial, by simp⟩
  | unfit is   => exact ⟨rfl, fun _ h => Except.ok.inj h ▸ rfl⟩
  | unreadable => exact ⟨rfl, fun _ h => Except.ok.inj h ▸ rfl⟩

-- A change that is made sets what it gives, and comes back as what is set. What a request sets may be
-- more than can be sent.
theorem adjust_of_made (h : s.store.IsConfigured settings) (hf : c.IsFormed) (hm : c.isMade) :
    (s.adjust c).store.IsConfigured (settings.changed c) ∧
      (s.adjust c).config = .file (FileText.encode (settings.changed c).toJson.render) ∧
      s.returned? c = match c with
        | .update _ => some (settings.changed c).toJson
        | .patch .. => if (settings.changed c).toJson.IsPortable then some (settings.changed c).toJson else none := by
  have hs : (settings.changed c).IsSound := h.sound.changed hf hm
  cases c with
  | update vs      =>
    have hv : settings.update vs = settings.changed (.update vs) :=
      Settings.update_eq_changed fun k => Settings.Change.told?_update.symm
    obtain ⟨store, hu, ht, hl⟩ := h.update (hv ▸ hs)
    rw [hv] at hu ht hl
    rw [adjust, returned?, hu]
    exact ⟨ht, hl, rfl⟩
  | patch body now =>
    obtain ⟨vs, hr, hk⟩ := Settings.Change.read_patch_of_made hm
    have hv : settings.update vs = settings.changed (.patch body now) := Settings.update_eq_changed hk
    obtain ⟨store, hu, ht, hl⟩ := h.update (hv ▸ hs)
    rw [hv] at hu ht hl
    rw [adjust, returned?, after_patch, reply_patch, patchSettings_of_read hr hu]
    refine ⟨ht, hl, ?_⟩
    by_cases hp : (settings.changed (.patch body now)).toJson.IsPortable <;>
      simp [reply, hp, Http.Reply.value?, Http.Reply.failure]

-- One that is not made leaves everything as it is.
theorem adjust_of_unmade (h : s.store.IsConfigured settings) (hm : ¬c.isMade) :
    s.adjust c = s ∧ s.returned? c = none := by
  cases c with
  | update vs      =>
    have hv : ¬(settings.update vs).toJson.IsWritable := by
      rw [Settings.Change.isMade_update] at hm
      push Not at hm
      obtain ⟨k, j, hk, hj⟩ := hm
      intro hw
      have hw := Json.anyMember_eq_false.mp hw (k.name, settings.update vs k) (List.mem_map_of_mem k.mem_all)
      rw [Settings.update, hk] at hw
      exact hj hw
    rw [adjust, returned?, h.update_of_unwritable hv]
    exact ⟨rfl, rfl⟩
  | patch body now =>
    obtain ⟨hs, r, hr, hc⟩ := patchSettings_of_unmade hm
    rw [adjust, returned?, after_patch, reply_patch, hr]
    exact ⟨hs, if_neg (by rcases hc with hc | hc <;> simp [hc])⟩

theorem adjustAll_concat : s.adjustAll (cs ++ [c]) = (s.adjustAll cs).adjust c := by
  rw [adjustAll, List.foldl_append]
  rfl

section

variable (hs : s.store.IsSetUp) (hb : s.store.Begins (some ms))
include hs hb

theorem isConfigured_adjustAll (hf : ∀ c ∈ cs, c.IsFormed) :
    (s.adjustAll cs).store.IsConfigured (Settings.afterwards ms cs) := by
  induction cs using List.reverseRecOn with
  | nil                    => exact hb.isConfigured hs
  | append_singleton cs c hi =>
    rw [List.forall_mem_append, List.forall_mem_singleton] at hf
    rw [adjustAll_concat]
    by_cases hm : c.isMade
    case pos => exact Settings.afterwards_concat hm ▸ (adjust_of_made (hi hf.left) hf.right hm).left
    case neg =>
      rw [(adjust_of_unmade (hi hf.left) hm).left, Settings.afterwards_concat_of_unmade hm]
      exact hi hf.left

-- The file holds what is set, as soon as there has been a change.
theorem config_adjustAll (hf : ∀ c ∈ cs, c.IsFormed) : (s.adjustAll cs).config =
    if cs.any (·.isMade) then .file (FileText.encode (Settings.afterwards ms cs).toJson.render) else s.config := by
  induction cs using List.reverseRecOn with
  | nil                    => rfl
  | append_singleton cs c hi =>
    rw [List.forall_mem_append, List.forall_mem_singleton] at hf
    have hc := isConfigured_adjustAll hs hb hf.left
    rw [adjustAll_concat, List.any_append, List.any_cons, List.any_nil, Bool.or_false]
    by_cases hm : c.isMade
    case pos => rw [(adjust_of_made hc hf.right hm).right.left, hm, Bool.or_true, if_pos rfl, Settings.afterwards_concat hm]
    case neg =>
      rw [(adjust_of_unmade hc hm).left, hi hf.left, Settings.afterwards_concat_of_unmade hm, Bool.eq_false_iff.mpr hm,
        Bool.or_false]

-- What changes have left is told by what they give and by whether any has been made.
theorem adjustAll_congr {ds : List Settings.Change} (hc : ∀ c ∈ cs, c.IsFormed) (hd : ∀ c ∈ ds, c.IsFormed)
    (ha : Settings.afterwards ms cs = Settings.afterwards ms ds) (hm : cs.any (·.isMade) = ds.any (·.isMade)) :
    (s.adjustAll cs).store.settings = (s.adjustAll ds).store.settings ∧
      (s.adjustAll cs).config = (s.adjustAll ds).config := by
  rw [(isConfigured_adjustAll hs hb hc).config, (isConfigured_adjustAll hs hb hd).config, config_adjustAll hs hb hc,
    config_adjustAll hs hb hd, ha, hm]
  exact ⟨rfl, rfl⟩

end

-- Settings that cannot be told can neither be changed.
theorem adjust_of_overlong (h : s.store.Begins none) : s.adjust c = s ∧ s.returned? c = none := by
  cases c with
  | update vs      =>
    rw [adjust, returned?, Store.updateSettings_of_unread h.unread]
    exact ⟨rfl, rfl⟩
  | patch body now =>
    obtain ⟨hs, hr⟩ := patchSettings_of_unread body h.unread
    rw [adjust, returned?, after_patch, reply_patch]
    refine ⟨hs, ?_⟩
    cases hp : (patchSettings s body).result with
    | ok r    => exact hr r hp
    | error _ => rfl

theorem adjustAll_of_overlong (h : s.store.Begins none) : s.adjustAll cs = s := by
  induction cs using List.reverseRecOn with
  | nil                    => rfl
  | append_singleton cs c hi => rw [adjustAll_concat, hi, (adjust_of_overlong h).left]

end Service

namespace Settings

-- Changes of different settings may come in any order.
theorem afterwards_comm (h : ∀ k, c.given? k = none ∨ d.given? k = none) :
    afterwards ms (cs ++ [c, d]) = afterwards ms (cs ++ [d, c]) := by
  funext k
  rw [afterwards, afterwards, List.append_cons cs c, List.append_cons cs d, latest?_concat, latest?_concat,
    latest?_concat, latest?_concat]
  rcases h k with hk | hk <;> simp [hk]

theorem afterwards_twice : afterwards ms (cs ++ [c, c]) = afterwards ms (cs ++ [c]) := by
  funext k
  rw [afterwards, afterwards, List.append_cons, latest?_concat, latest?_concat]
  cases c.given? k <;> rfl

end Settings

namespace Service

-- A service with a text in the file of its settings.
def configured (text : String) : Service where
  store := {
    files  := {
      entries := .ofList [
        (["data"], .folder),
        (["data", "players"], .folder),
        (["data", "config.json"], .file (FileText.encode text) (.given 0))
      ]
      writes  := 0
    }
    folder := .ofText "data"
  }
  cache       := .empty
  environment := ""
  delivery    := .status 200

theorem isSetUp_configured {text : String} : (configured text).store.IsSetUp :=
  ⟨rfl, rfl⟩

theorem config_configured {text : String} : (configured text).config = .file (FileText.encode text) :=
  rfl

theorem begins_configured (h : (Json.obj ms).Recoverable) : (configured (Json.obj ms).render).store.Begins (some ms) :=
  .object config_configured (FileText.decode_encode (Json.no_return _)) h.read_render

end Service

namespace Settings

-- Whether sounds are muted is no setting, neither in a file nor in an update.
def muted : List (String × Json) :=
  [("muted", .bool true), (Setting.soundFilesUrl.name, .str "https://sounds.local/")]

def unmuted : List (String × Json) :=
  [("muted", .bool false), (Setting.webhookUrl.name, .null)]

def keyed : List (String × Json) :=
  [(Setting.soundFilesUrl.name, .null), (Setting.webhookKey.name, .str "key")]

theorem recoverable_muted : (Json.obj muted).Recoverable :=
  .obj (by simp [muted, Json.Recoverable.bool, Json.Recoverable.str]) (by simp [muted, Setting.name])

theorem recoverable_keyed : (Json.obj keyed).Recoverable :=
  .obj (by simp [keyed, Json.Recoverable.null, Json.Recoverable.str]) (by simp [keyed, Setting.name])

theorem isFormed_unmuted : (Change.update unmuted).IsFormed := by
  simp [Change.IsFormed, unmuted, Json.Formed.null, Json.Formed.bool]

theorem members?_keyed : (Change.patch (Json.obj keyed).render now).members? = some keyed := by
  rw [Change.members?_patch, Service.Body.unmarked_render_obj, recoverable_keyed.read_render]

theorem afterwards_keyed :
    (afterwards muted [.update unmuted, .patch (Json.obj keyed).render now]).toJson = .obj [
      ("adventure_file", .str "adventures/sample.yaml"),
      ("sound_files_url", .str "https://sounds.local/"),
      ("finished_webhook_url", .null),
      ("finished_webhook_api_key", .str "key")] := by
  have hu : (Change.update unmuted).isMade := by decide
  have hp : (Change.patch (Json.obj keyed).render now).isMade := by
    rw [Change.isMade, members?_keyed]
    rfl
  rw [toJson, Setting.all]
  simp only [List.map_cons, List.map_nil, afterwards, latest?, List.reverse_cons, List.reverse_nil, List.nil_append,
    List.singleton_append, List.findSome?_cons, List.findSome?_nil, Change.given?, hu, hp, if_true, Change.told?,
    members?_keyed]
  rfl

end Settings

namespace Service

-- A number with more digits than can be read. Its name is that of no setting.
def overlong : List (String × Json) :=
  [("x", .int (10 ^ Numeral.digitLimit : Nat))]

end Service
end Gamebook
