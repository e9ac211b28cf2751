import Mathlib
import Gamebook.Proofs.Json.Codec
import Gamebook.Proofs.Service.Calls
import Gamebook.Proofs.Web.Percent

namespace Gamebook

-- Can a character be part of a path as it is?
def Http.isPlain (c : Char) : Bool :=
  c ≠ '?' && c ≠ '#' && c ≠ '%' && c.utf8Size = 1

theorem Http.Request.place_eq_path {r : Http.Request} (h : r.path.toList.all isPlain) : r.place = r.path := by
  rw [List.all_eq_true] at h
  simp only [isPlain, Bool.and_eq_true, decide_eq_true_eq] at h
  have ht : (r.path.toList.takeWhile fun c => c ≠ '?' && c ≠ '#') = r.path.toList :=
    List.takeWhile_eq_self_iff.mpr fun c hc => by simp [h c hc]
  rw [place, ht, String.ofList_toList]
  exact Percent.decode_eq_self (List.all_eq_true.mpr fun c hc => by simp [h c hc])

namespace Skill

def Occasion.toJson : Occasion → Json
  | launch   => .obj [("type", .str "LaunchRequest")]
  | intent n => .obj [("type", .str "IntentRequest"), ("intent", .obj [("name", .str n)])]
  | other    => .obj [("type", .str "SessionEndedRequest")]

-- A request as a voice assistant may send it.
def Request.toJson (q : Request) : Json :=
  .obj [
    ("session", .obj [
      ("new", .bool q.isNew),
      ("user", .obj [("userId", .str q.recordId)]),
      ("attributes", .obj q.attributes)
    ]),
    ("request", q.occasion.toJson)
  ]

theorem Request.ofJson_toJson (q : Request) : Request.ofJson q.toJson = .good q := by
  have hr : (if q.recordId = "" then "" else q.recordId) = q.recordId := by
    split <;> simp_all
  have hq : Request.ofJson q.toJson = .good (.of ⟨q.isNew, "", q.recordId, q.attributes⟩ q.occasion) := by
    obtain ⟨_, _, _, occasion⟩ := q
    cases occasion <;> rfl
  rw [hq, Request.of, hr]

theorem Occasion.recoverable_toJson (o : Occasion) : o.toJson.Recoverable := by
  cases o with
  | launch   => exact .obj (by simp [Json.Recoverable.str]) (by decide)
  | intent n => exact .obj (by simpa [Json.Recoverable.str] using .obj (by simp [Json.Recoverable.str]) (by simp)) (by simp)
  | other    => exact .obj (by simp [Json.Recoverable.str]) (by decide)

theorem Request.recoverable_toJson {q : Request} (h : (Json.obj q.attributes).Recoverable) : q.toJson.Recoverable := by
  have hu : (Json.obj [("userId", .str q.recordId)]).Recoverable := .obj (by simp [Json.Recoverable.str]) (by simp)
  refine .obj (fun m hm => ?_) (by simp)
  simp only [List.mem_cons, List.not_mem_nil, or_false] at hm
  rcases hm with rfl | rfl
  · refine .obj (fun m hm => ?_) (by simp)
    simp only [List.mem_cons, List.not_mem_nil, or_false] at hm
    rcases hm with rfl | rfl | rfl
    · exact .bool _
    · exact hu
    · exact h
  · exact q.occasion.recoverable_toJson

end Skill

namespace Service.Body

theorem toList_render_obj (ms : List (String × Json)) : ∃ cs, (Json.obj ms).render.toList = '{' :: cs := by
  rw [Json.render, String.toList_ofList]
  cases ms with
  | nil      => exact ⟨_, rfl⟩
  | cons m _ => exact ⟨_, rfl⟩

theorem unmarked_render_obj (ms : List (String × Json)) : unmarked (Json.obj ms).render = (Json.obj ms).render := by
  obtain ⟨_, hc⟩ := toList_render_obj ms
  rw [unmarked, hc]
  rfl

theorem read_render_obj {α : Type} {form : Json → Checked α} {ms : List (String × Json)} {a : α} (h : (Json.obj ms).Recoverable)
    (ha : form (.obj ms) = .good a) : read form (Json.obj ms).render = .good a := by
  have hn : (Json.obj ms).render ≠ "" := by
    intro he
    obtain ⟨_, hc⟩ := toList_render_obj ms
    rw [he] at hc
    cases hc
  rw [read, if_neg hn, unmarked_render_obj, h.read_render]
  simp only [ha, Checked.under]

end Service.Body

namespace Call

-- What a voice assistant asks for.
def skill? (c : Call) : Option Skill.Request :=
  if c.request.method = "POST" ∧ Service.Route.ofPlace? c.request.place = some .skill then
    match Service.Body.read Skill.Request.ofJson c.request.body with
    | .good q => some q
    | _       => none
  else none

variable {c : Call} {q : Skill.Request} {r : String}

theorem skill?_eq_some :
    c.skill? = some q ↔ c.request.method = "POST" ∧ Service.Route.ofPlace? c.request.place = some .skill ∧
      Service.Body.read Skill.Request.ofJson c.request.body = .good q := by
  rw [skill?]
  split
  case isTrue h =>
    cases Service.Body.read Skill.Request.ofJson c.request.body <;> simp [h]
  case isFalse h => exact iff_of_false nofun fun h' => h ⟨h'.left, h'.right.left⟩

theorem concern_of_skill (h : c.skill? = some q) : c.concern = .ofSkill q := by
  have ⟨hm, hr, hb⟩ := skill?_eq_some.mp h
  rw [concern, hr]
  simp [Concern.ofRoute, hm, hb]

theorem concern_of_player (hm : c.request.method = "GET" ∨ c.request.method = "DELETE")
    (hr : Service.Route.ofPlace? c.request.place = some (.player r)) : c.concern = .player r := by
  rw [concern, hr]
  cases hm
  case inl hm => simp [Concern.ofRoute, hm]
  case inr hm => simp [Concern.ofRoute, hm]

end Call

-- A request as it comes in from a voice assistant.
def Skill.Request.call (q : Skill.Request) (now : Timestamp) : Call where
  now     := now
  request := ⟨"POST", "/api/skill", q.toJson.render⟩

theorem Skill.Request.skill?_call {q : Skill.Request} (h : (Json.obj q.attributes).Recoverable) (now : Timestamp) :
    (q.call now).skill? = some q := by
  have hc : "/api/skill".toList.all Http.isPlain := by cbv
  have hp : (q.call now).request.place = "/api/skill" := Http.Request.place_eq_path hc
  have hr : Service.Route.ofPlace? "/api/skill" = some .skill := by cbv
  rw [Call.skill?_eq_some, hp]
  exact ⟨rfl, hr, Service.Body.read_render_obj (recoverable_toJson h) q.ofJson_toJson⟩

namespace Service

variable {s : Service} {c : Call} {r : String}

theorem after_of_delete (hm : c.request.method = "DELETE")
    (hr : Route.ofPlace? c.request.place = some (.player r)) : s.after c = (deletePlayer s r).service := by
  have hf : s.follow c.now c.request (.player r) = deletePlayer s r := by
    unfold follow
    split <;> simp_all
  rw [after, handle, hr]
  simp only [hf]

theorem after_of_patch (hm : c.request.method = "PATCH") (hr : Route.ofPlace? c.request.place = some .settings) :
    s.after c = (patchSettings s c.request.body).service := by
  have hf : s.follow c.now c.request .settings = patchSettings s c.request.body := by
    unfold follow
    split <;> simp_all
  rw [after, handle, hr]
  simp only [hf]

end Service
end Gamebook
