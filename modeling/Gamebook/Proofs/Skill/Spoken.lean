import Mathlib
import Gamebook.Proofs.Story.Run
import Gamebook.Proofs.Story.Walked
import Gamebook.Service.Voice

namespace Gamebook

-- A pause that is not too long to be counted in milliseconds, or something else.
def Directive.IsMeasured (d : Directive) : Prop :=
  ∀ f, d = .delay f → ∃ ms, Speech.milliseconds f = .ok ms

def Response.IsMeasured (r : Response) : Prop :=
  ∀ d ∈ r.flatten, d.IsMeasured

-- No pause of an adventure is too long, if it can be made at all.
def PlaceGraph.IsMeasured (g : PlaceGraph) : Prop :=
  ∀ p ∈ g.places.values, ∀ as ∈ p.choices.values, ∀ a ∈ as, a.kind = .pause →
    ∀ f, delay a.argument = .ok f → (Directive.delay f).IsMeasured

variable {g : PlaceGraph} {c : Command} {d : Directive}

theorem PlaceGraph.Tells.isMeasured (h : g.Tells d) (hg : g.IsMeasured) : d.IsMeasured := by
  intro f hf
  have ⟨p, hp, as, has, a, ha, hk, hv⟩ := h.pauses f hf
  exact hg p hp as has a ha hk f hv f rfl

namespace Player

variable {now : Timestamp} {p : Player}

theorem tells_of_attempt (h : d ∈ (p.attempt g now c).2.flatten) : d = .finished ∨ g.Tells d :=
  PlaceGraph.tells_of_uttered (PlaceGraph.uttered_of_attempt h)

end Player

theorem Speech.ofResponse_eq_ok {address : String} {r : Response} :
    (∃ speech, Speech.ofResponse address r = .ok speech) ↔ r.IsMeasured := by
  rw [Speech.ofResponse]
  constructor
  · intro ⟨_, h⟩ d hd f hf
    obtain ⟨_, hm, _⟩ := Chain.bind_eq_ok.mp h
    obtain ⟨_, he⟩ := Chain.exists_of_mapM_eq_ok hm d hd
    obtain ⟨ms, he, _⟩ := Chain.bind_eq_ok.mp (hf ▸ he)
    exact ⟨ms, he⟩
  · intro hr
    have hd : ∀ d ∈ r.flatten, ∃ es, Speech.elements address d = .ok es := by
      intro d hd
      cases d
      case delay f =>
        have ⟨ms, hm⟩ := hr _ hd f rfl
        rw [Speech.elements, hm]
        exact ⟨_, rfl⟩
      all_goals exact ⟨_, rfl⟩
    have ⟨es, he⟩ := Chain.exists_mapM_eq_ok hd
    rw [he]
    exact ⟨_, rfl⟩

theorem Speech.ended_of_ofResponse {address : String} {r : Response} {speech : Speech}
    (h : Speech.ofResponse address r = .ok speech) : speech.ended = r.flatten.contains .bye := by
  obtain ⟨_, _, h⟩ := Chain.bind_eq_ok.mp h
  cases h
  rfl

namespace Settings

variable {settings : Settings} {r : Response} {speech : Speech}

-- Can sounds be told where they are?
def HasSounds (s : Settings) : Prop :=
  ∃ address, s .soundFilesUrl = .str address

-- Only pauses that are too long and sounds that cannot be found keep something from being spoken.
def CanSpeak (s : Settings) (ds : List Directive) : Prop :=
  (∀ d ∈ ds, d.IsMeasured) ∧ (s.HasSounds ∨ ¬ds.any Directive.isPlay)

theorem canSpeak_append {ds es : List Directive} :
    settings.CanSpeak (ds ++ es) ↔ settings.CanSpeak ds ∧ settings.CanSpeak es := by
  simp only [CanSpeak, List.forall_mem_append, List.any_append, Bool.or_eq_true, not_or, or_and_left]
  tauto

theorem speak_eq_ok : (∃ speech, settings.speak r = .ok speech) ↔ settings.CanSpeak r.flatten := by
  rw [speak, CanSpeak]
  split
  case h_1 address ha =>
    simp only [Chain.mapError_eq_ok, Speech.ofResponse_eq_ok]
    exact (and_iff_left (.inl ⟨address, ha⟩)).symm
  case h_2 ha =>
    have hn : ¬settings.HasSounds := fun ⟨address, h⟩ => ha address h
    rw [or_iff_right hn]
    split
    case isTrue hp  => simp [hp]
    case isFalse hp =>
      simp only [Chain.mapError_eq_ok, Speech.ofResponse_eq_ok]
      exact (and_iff_left hp).symm

theorem ended_of_speak (h : settings.speak r = .ok speech) : speech.ended = r.flatten.contains .bye := by
  rw [speak] at h
  split at h
  case h_1 => exact Speech.ended_of_ofResponse (Chain.mapError_eq_ok.mp h)
  case h_2 =>
    split at h
    case isTrue  => cases h
    case isFalse => exact Speech.ended_of_ofResponse (Chain.mapError_eq_ok.mp h)

end Settings

namespace Skill.Turn

variable {now : Timestamp} {p : Player} {plan : Plan} {t : Turn} {settings : Settings}

structure IsMeasured (t : Turn) : Prop where
  response : t.response.IsMeasured
  reprompt : ∀ r, t.reprompt = some r → r.IsMeasured

-- All that is said in a turn, if the player stays silent after it.
def said (t : Turn) : List Directive :=
  t.response.flatten ++
    (if t.response.flatten.contains .bye then [] else (t.reprompt.map Response.flatten).getD [])

-- Can the settings have a turn spoken? Sounds need an address.
def IsAudible (settings : Settings) (t : Turn) : Prop :=
  settings.HasSounds ∨ ¬t.said.any Directive.isPlay

theorem isAudible_congr {u : Turn} (h : t.response = u.response) (h' : t.reprompt = u.reprompt) :
    t.IsAudible settings ↔ u.IsAudible settings := by
  rw [IsAudible, IsAudible, said, said, h, h']

theorem said_of_silence (h : (if t.response.flatten.contains .bye then none else t.reprompt) = none) :
    t.said = t.response.flatten := by
  rw [said]
  split
  case isTrue     => exact List.append_nil _
  case isFalse hb =>
    rw [if_neg hb] at h
    rw [h]
    exact List.append_nil _

theorem said_of_reprompt {r : Response}
    (h : (if t.response.flatten.contains .bye then none else t.reprompt) = some r) :
    t.said = t.response.flatten ++ r.flatten ∧ t.reprompt = some r := by
  split at h
  case isTrue     => cases h
  case isFalse hb =>
    rw [said, if_neg hb, h]
    exact ⟨rfl, rfl⟩

theorem mem_said (h : d ∈ t.said) : d ∈ t.response.flatten ∨ ∃ r, t.reprompt = some r ∧ d ∈ r.flatten := by
  rcases List.mem_append.mp h with h | h
  · exact .inl h
  · split at h
    case isTrue  => cases h
    case isFalse =>
      cases hr : t.reprompt with
      | none   => simp [hr] at h
      | some r => exact .inr ⟨r, rfl, by simpa [hr] using h⟩

theorem IsMeasured.said (h : t.IsMeasured) : ∀ d ∈ t.said, d.IsMeasured :=
  fun d hd => (mem_said hd).elim (h.response d) fun ⟨r, hr, hd⟩ => h.reprompt r hr d hd

-- Nothing is said in a turn but what a command may come to.
theorem tells_take : (∀ d ∈ (take g now p plan).response.flatten, d = .finished ∨ g.Tells d) ∧
    ∀ r, (take g now p plan).reprompt = some r → ∀ d ∈ r.flatten, d = .finished ∨ g.Tells d := by
  rw [take]
  constructor
  · intro d hd
    cases hc : plan.command with
    | none =>
      rw [hc] at hd
      exact .inr (List.mem_singleton.mp hd ▸ .notUnderstood)
    | some c =>
      rw [hc] at hd
      exact Player.tells_of_attempt hd
  · intro r hr d hd
    simp only [] at hr
    split at hr
    case isTrue =>
      cases hr
      exact Player.tells_of_attempt hd
    case isFalse => cases hr

theorem isMeasured_take (hg : g.IsMeasured) : (take g now p plan).IsMeasured where
  response d hd      := (tells_take.left d hd).elim (fun hd => hd ▸ nofun) (·.isMeasured hg)
  reprompt r hr d hd := (tells_take.right r hr d hd).elim (fun hd => hd ▸ nofun) (·.isMeasured hg)

theorem tells_of_said (h : d ∈ (take g now p plan).said) : d = .finished ∨ g.Tells d :=
  (mem_said h).elim (tells_take.left d) fun ⟨r, hr, hd⟩ => tells_take.right r hr d hd

theorem speak_eq_ok : (∃ a, Service.Voice.speak settings t = .ok a) ↔ settings.CanSpeak t.said := by
  have ha : (∃ speech, settings.speak t.response = .ok speech) ↔ settings.CanSpeak t.response.flatten :=
    Settings.speak_eq_ok
  rw [Service.Voice.speak]
  cases hs : settings.speak t.response with
  | error e =>
    rw [hs] at ha
    refine iff_of_false (by rintro ⟨_, h⟩; cases h) fun h => ?_
    obtain ⟨_, h⟩ := ha.mpr (Settings.canSpeak_append.mp h).left
    cases h
  | ok speech =>
    have ha := ha.mp ⟨speech, hs⟩
    simp only [Chain.ok_bind, Settings.ended_of_speak hs]
    split
    case h_1 hr =>
      rw [said_of_silence hr]
      exact iff_of_true ⟨_, rfl⟩ ha
    case h_2 r hr =>
      rw [(said_of_reprompt hr).left, Settings.canSpeak_append, and_iff_right ha, ← Settings.speak_eq_ok]
      cases settings.speak r with
      | error e => exact iff_of_false (by rintro ⟨_, h⟩; cases h) (by rintro ⟨_, h⟩; cases h)
      | ok _    => exact iff_of_true ⟨_, rfl⟩ ⟨_, rfl⟩

theorem exists_of_speak {a : Answer} (h : Service.Voice.speak settings t = .ok a) :
    ∃ speech reprompt ends, a = .spoken speech reprompt ends (some t.player) := by
  obtain ⟨_, _, h⟩ := Chain.bind_eq_ok.mp h
  split at h
  case h_1 =>
    cases h
    exact ⟨_, _, _, rfl⟩
  case h_2 =>
    obtain ⟨_, _, h⟩ := Chain.bind_eq_ok.mp h
    cases h
    exact ⟨_, _, _, rfl⟩

end Skill.Turn
end Gamebook
