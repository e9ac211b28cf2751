import Mathlib
import Gamebook.Proofs.Store.Damaged
import Gamebook.Proofs.Store.Persisted

namespace Gamebook

-- A value that tells of a player who can go on in an adventure.
structure Player.GoesOn (p : Player) (g : PlaceGraph) (now : Timestamp) (j : Json) : Prop where
  record : ∃ ms, j = .obj ms
  valid  : Player.ofJson now j = .good p
  placed : g.contains p.placeId

-- The value that a session may take its player from. A new session looks for it in the store, unless
-- the player is anonymous, and a running one among its attributes.
inductive Store.Offers (s : Store) (r : String) (ms : List (String × Json)) : Bool → Json → Prop
  | stored (hr : r ≠ "") (hh : s.held r = .file content) (hj : FileText.json? content = some j) : Offers s r ms true j
  | carried (ha : Json.get? ms "player" = some j)                                              : Offers s r ms false j

-- What is stored for a player, if anything is, is a value.
def Store.IsLegible (s : Store) (r : String) : Prop :=
  ∀ content, s.held r = .file content → ∃ j, FileText.json? content = some j

variable {g : PlaceGraph} {now : Timestamp} {r : String} {j j' : Json} {p q : Player} {s : Store} {new : Bool}
  {ms : List (String × Json)} {source : String} {hint : Option String}

namespace Player

theorem record_of_ofJson (h : Player.ofJson now j = .good p) : ∃ ms, j = .obj ms := by
  cases j with
  | obj ms => exact ⟨ms, rfl⟩
  | _      => cases h

theorem GoesOn.unique (hp : p.GoesOn g now j) (hq : q.GoesOn g now j) : p = q := by
  have h := hp.valid.symm.trans hq.valid
  cases h
  rfl

theorem resume?_eq_some :
    resume? g now r j = some p ↔ ∃ q : Player, q.GoesOn g now j ∧ p = { q with recordId := r } := by
  rw [resume?]
  constructor
  · intro h
    cases ho : Player.ofJson now j with
    | bad _  =>
      rw [ho] at h
      cases h
    | good q =>
      simp only [ho, Checked.toOption, Option.bind_eq_bind, Option.bind_some] at h
      split at h
      case isTrue hp  => exact ⟨q, ⟨record_of_ofJson ho, ho, hp⟩, (Option.some.inj h).symm⟩
      case isFalse    => cases h
  · rintro ⟨q, hq, rfl⟩
    simp [hq.valid, Checked.toOption, hq.placed]

-- Whoever cannot go on begins anew.
theorem resumed_cases (o : Option Json) (f : Player → Player) :
    (∃ j, ∃ q : Player, o = some j ∧ q.GoesOn g now j ∧
      ((o.bind (resume? g now r)).map f).getD (fresh r now) = f { q with recordId := r }) ∨
    (∀ j (q : Player), o = some j → ¬q.GoesOn g now j) ∧
      ((o.bind (resume? g now r)).map f).getD (fresh r now) = fresh r now := by
  cases o with
  | none   => exact .inr ⟨fun _ _ h => (nomatch h), rfl⟩
  | some j =>
    rw [Option.bind_some]
    cases hr : resume? g now r j with
    | some p =>
      obtain ⟨q, hq, rfl⟩ := resume?_eq_some.mp hr
      exact .inl ⟨j, q, rfl, hq, rfl⟩
    | none   =>
      refine .inr ⟨?_, rfl⟩
      rintro _ q ⟨⟩ hq
      cases hr.symm.trans (resume?_eq_some.mpr ⟨q, hq, rfl⟩)

end Player

namespace Store

theorem Offers.unique (h : s.Offers r ms new j) (h' : s.Offers r ms new j') : j = j' := by
  cases h with
  | stored _ hh hj =>
    obtain ⟨_, hh', hj'⟩ := h'
    cases hh.symm.trans hh'
    exact Option.some.inj (hj.symm.trans hj')
  | carried ha =>
    obtain _ | ha' := h'
    exact Option.some.inj (ha.symm.trans ha')

theorem offers_running_iff : s.Offers r ms false j ↔ Json.get? ms "player" = some j :=
  ⟨fun | .carried ha => ha, .carried⟩

theorem offers_new_iff {stored : Option Json} (hr : r ≠ "") (h : s.player? r = .ok stored) :
    s.Offers r ms true j ↔ stored = some j := by
  rw [player?_eq] at h
  constructor
  · rintro ⟨_, hh, hj⟩
    rw [hh, Found.read?_file_eq_ok] at h
    obtain ⟨_, hj', rfl⟩ := h
    rw [← hj, ← hj']
  · rintro rfl
    cases hh : s.held r with
    | file content =>
      rw [hh, Found.read?_file_eq_ok] at h
      obtain ⟨_, hj, ⟨⟩⟩ := h
      exact .stored hr hh hj
    | _ =>
      rw [hh] at h
      cases h

theorem exists_player?_iff (hs : s.IsSetUp) (hl : s.IsLegible r) :
    (∃ stored, s.player? r = .ok stored) ↔ HasRoomFor r := by
  rw [← not_iff_not, ← held_eq_refused hs, player?_eq]
  cases hh : s.held r with
  | file content =>
    obtain ⟨j, hj⟩ := hl content hh
    simp [Found.read?_file_eq_ok.mpr ⟨j, hj, rfl⟩]
  | _ => simp [Found.read?]

theorem exists_restorePlayer_iff (hs : s.IsSetUp) (hl : s.IsLegible r) :
    (∃ p, s.restorePlayer g now r new ms = .ok p) ↔ (new → r ≠ "" → HasRoomFor r) := by
  rw [restorePlayer]
  cases new with
  | false => simp
  | true  =>
    by_cases hr : r = ""
    case pos => simp [hr]
    case neg =>
      rw [← exists_player?_iff hs hl, if_pos rfl, if_neg hr]
      cases s.player? r <;> simp [hr, Except.bind, bind, pure, Except.pure]

theorem keepPlayer_onlyAt {s' : Store} (h : s.keepPlayer p = .ok s') : OnlyAt p.recordId s s' := by
  rw [keepPlayer] at h
  split at h
  case isTrue  =>
    cases h
    exact .refl
  case isFalse => exact savePlayer_onlyAt h

-- What a session makes of a player who goes on.
def taken (r : String) (new : Bool) (q : Player) : Player :=
  { q with recordId := r, status := if new then .restored else q.status }

theorem restorePlayer_cases (h : s.restorePlayer g now r new ms = .ok p) :
    (∃ j, ∃ q : Player, s.Offers r ms new j ∧ q.GoesOn g now j ∧ p = taken r new q) ∨
    (∀ j (q : Player), s.Offers r ms new j → ¬q.GoesOn g now j) ∧ p = .fresh r now := by
  rw [restorePlayer] at h
  cases new with
  | false =>
    cases h
    rw [Player.ofAttributes, ← Option.map_id_apply (x := Option.bind ..)]
    simp only [offers_running_iff]
    exact Player.resumed_cases (Json.get? ms "player") id
  | true =>
    by_cases hr : r = ""
    case pos =>
      rw [if_pos rfl, if_pos hr] at h
      cases h
      exact .inr ⟨fun _ _ ho => absurd hr (by cases ho; assumption), rfl⟩
    case neg =>
      rw [if_pos rfl, if_neg hr] at h
      obtain ⟨stored, hp, h⟩ := Chain.bind_eq_ok.mp h
      cases h
      simp only [offers_new_iff hr hp]
      exact Player.resumed_cases stored Player.restored

-- A session always has a player to start with, unless it is a new one whose record has no room in
-- the store.
theorem playable_iff (hg : Definition.parse source hint = .ok g) (hs : s.IsSetUp) (hl : s.IsLegible r)
    (now : Timestamp) (new : Bool) (ms : List (String × Json)) :
    ((∃ p, s.restorePlayer g now r new ms = .ok p) ↔ (new → r ≠ "" → HasRoomFor r)) ∧
    ∀ p, s.restorePlayer g now r new ms = .ok p →
      p.recordId = r ∧ g.contains p.placeId ∧
      (∀ j (q : Player), s.Offers r ms new j → q.GoesOn g now j →
        p = { q with recordId := r, status := if new then .restored else q.status }) ∧
      ((∀ j (q : Player), s.Offers r ms new j → ¬q.GoesOn g now j) → p = ⟨r, "start", .new, 0, 0, now, none⟩) ∧
      (new → (p.status = .restored ↔ ∃ j, ∃ q : Player, s.Offers r ms new j ∧ q.GoesOn g now j)) := by
  refine ⟨exists_restorePlayer_iff hs hl, fun p hp => ?_⟩
  obtain ⟨j, q, hj, hq, rfl⟩ | ⟨hn, rfl⟩ := restorePlayer_cases hp
  case inl =>
    refine ⟨rfl, hq.placed, ?_, fun hn => absurd hq (hn j q hj), ?_⟩
    · intro j' q' hj' hq'
      obtain rfl := hj.unique hj'
      obtain rfl := hq.unique hq'
      rfl
    · rintro rfl
      exact iff_of_true rfl ⟨j, q, hj, hq⟩
  case inr =>
    have hg : g.contains PlaceGraph.start := (Definition.wellFormed_of_parse hg).start
    refine ⟨rfl, hg, fun j q hj hq => absurd hq (hn j q hj), fun _ => rfl, fun _ => ?_⟩
    exact iff_of_false (nomatch ·) fun ⟨j, q, hj, hq⟩ => hn j q hj hq

-- The player of a file goes on, but not one that is told in a list among the attributes.
theorem playable_wayfarer :
    Definition.parse (Definition.dump .crossing).render (some "json") = .ok .crossing ∧
    ∃ s, bare.keepPlayer wayfarer = .ok s ∧ s.IsSetUp ∧ s.IsLegible "alice" ∧ HasRoomFor "alice" ∧
      s.restorePlayer .crossing .morning "alice" true [] = .ok { wayfarer with status := .restored } ∧
      s.restorePlayer .crossing .morning "alice" false [("player", .arr [wayfarer.toJson])] =
        .ok ⟨"alice", "start", .new, 0, 0, .morning, none⟩ := by
  have hg := Definition.parse_render Definition.format_json PlaceGraph.wellFormed_crossing
  have hr : wayfarer.recordId ≠ "" := by decide
  have hn : bare.held wayfarer.recordId = .nothing := held_of_empty isSetUp_bare playerFiles_bare hasRoomFor_alice
  obtain ⟨s, hk, hh⟩ := keepPlayer_eq_ok (p := wayfarer) isSetUp_bare hr isCountable_wayfarer
    (by simp [hn]) (by simp [hn])
  have hh : s.held "alice" = .file (FileText.encode wayfarer.toJson.render) := hh
  have hs : s.IsSetUp := (keepPlayer_onlyAt hk).isSetUp isSetUp_bare
  have hj : FileText.json? (FileText.encode wayfarer.toJson.render) = some wayfarer.toJson := by
    obtain ⟨_, hj, ⟨⟩⟩ := Found.read?_file_eq_ok.mp (Found.read?_player isCountable_wayfarer)
    exact hj
  have hl : s.IsLegible "alice" := by
    intro content hc
    obtain rfl := Found.file.inj (hh.symm.trans hc)
    exact ⟨_, hj⟩
  obtain ⟨hi, hp⟩ := playable_iff hg hs hl .morning true []
  obtain ⟨p, ho⟩ := hi.mpr fun _ _ => hasRoomFor_alice
  obtain ⟨_, _, hw, _⟩ := hp p ho
  rw [hw wayfarer.toJson wayfarer (.stored (by decide) hh hj) ⟨⟨_, rfl⟩, wayfarer.ofJson_toJson _, by decide⟩] at ho
  obtain ⟨hi', hp'⟩ := playable_iff hg hs hl .morning false [("player", .arr [wayfarer.toJson])]
  obtain ⟨p', ho'⟩ := hi'.mpr (nomatch ·)
  obtain ⟨_, _, _, hn', _⟩ := hp' p' ho'
  rw [hn' ?_] at ho'
  · exact ⟨hg, s, hk, hs, hl, hasRoomFor_alice, ho, ho'⟩
  · rintro j q ha hq
    obtain ⟨_, rfl⟩ := hq.record
    simp [offers_running_iff, Json.get?] at ha

-- There has to be room for the file even where nothing is stored.
theorem unplayable_wordy :
    Definition.parse (Definition.dump .crossing).render (some "json") = .ok .crossing ∧
    bare.IsSetUp ∧ bare.playerFiles = [] ∧ bare.IsLegible wordy.recordId ∧
    ∃ e, bare.restorePlayer .crossing .morning wordy.recordId true [] = .error e := by
  have ⟨hn, hr⟩ : wordy.recordId ≠ "" ∧ ¬HasRoomFor wordy.recordId := not_hasRoomFor_replicate (by decide)
  have hl : bare.IsLegible wordy.recordId := fun content hc =>
    nomatch ((held_eq_refused isSetUp_bare).mpr hr).symm.trans hc
  refine ⟨Definition.parse_render Definition.format_json PlaceGraph.wellFormed_crossing, isSetUp_bare,
    playerFiles_bare, hl, ?_⟩
  cases ho : bare.restorePlayer .crossing .morning wordy.recordId true [] with
  | error e => exact ⟨e, rfl⟩
  | ok p    => exact absurd ((exists_restorePlayer_iff isSetUp_bare hl).mp ⟨p, ho⟩ rfl hn) hr

end Store
end Gamebook
