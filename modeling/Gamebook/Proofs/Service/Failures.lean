import Mathlib
import Gamebook.Launcher.Run
import Gamebook.Proofs.Definition.Told
import Gamebook.Proofs.Service.Shown
import Gamebook.Proofs.Yaml.Resolved

namespace Gamebook

open Definition

variable {fs : Files} {p : PathName} {content : ByteArray} {stamp : Stamp} {e : LoadError}

namespace Launcher

variable {typing : Bool} {clock : Nat → Timestamp} {lines : List String}

-- What is printed about a file of which it can be told why it does not load.
def warning (e : LoadError) : Report :=
  .print ("ERROR: unable to load file\n" ++ message e ++ "\n") (.ok 1)

theorem isTold_of_load (hs : fs.status p = .ok (.file content stamp)) (hl : load fs p = .error e) :
    e.IsTold ↔ isExpected e := by
  cases e with
  | file e    => exact absurd (load_of_status hs ▸ hl) (ofBytes_ne_file _ _ e)
  | notText   => exact iff_of_false id Bool.false_ne_true
  | problem p => rfl

theorem play_eq_warning_iff (hs : fs.status p = .ok (.file content stamp)) (hl : load fs p = .error e) :
    play fs p typing clock lines = warning e ↔ e.IsTold := by
  have hf : fs.isFile p = .ok true := by rw [Files.isFile, hs]
  rw [isTold_of_load hs hl, play, hf, hl]
  dsimp only
  by_cases he : isExpected e
  case pos =>
    rw [if_pos he]
    exact iff_of_true rfl he
  case neg =>
    rw [if_neg he]
    refine iff_of_false (fun h => ?_) he
    cases congrArg Report.ending h

end Launcher

namespace Service

variable {s : Service} {c : Call} {q : Skill.Request} {plan : Skill.Plan} {settings : Settings} {f : Fault}

theorem isExcused_of_file {e : FileError} (h : e ≠ .unfitName) : Voice.isExcused (.load (.file e)) := by
  cases e <;> first | rfl | exact absurd rfl h

theorem isExcused_ofBytes {hint : String} (h : ofBytes content hint = .error e) :
    Voice.isExcused (.load e) ↔ e.IsTold := by
  cases e with
  | file e    => exact absurd h (ofBytes_ne_file _ _ e)
  | notText   => exact iff_of_false Bool.false_ne_true id
  | problem p => rfl

-- A player for whom the adventure cannot be loaded is told so, unless there is a file of which it
-- cannot be told what is wrong with it.
theorem isApology_of_unloaded_iff (hc : c.skill? = some q) (hp : q.occasion.plan? = some plan)
    (hs : s.store.settings = .ok settings) (ha : s.adventurePath = .ok p) (hf : Files.isFit p)
    (he : s.adventure.2 = .error f) :
    (s.answer c).2.IsApology ↔
      ∀ content stamp, s.store.files.status (Spot.ofPath p).toPath = .ok (.file content stamp) →
        TellsOf (ofBytes content (Spot.ofPath p).toPath.suffix) := by
  have hx : (s.answer c).2.IsApology ↔ Voice.isExcused f := by
    rw [isApology_iff hc hp, and_iff_right ⟨_, hs⟩, he]
    exact ⟨fun ⟨_, h, h'⟩ => Except.error.inj h ▸ h', fun h => ⟨f, rfl, h⟩⟩
  rw [adventure_eq, ha, Chain.ok_bind, Cache.load_of_isFit hf] at he
  rw [hx]
  match hst : s.store.files.status (Spot.ofPath p).toPath with
  | .error e                  =>
    rw [Cache.loadAt_of_error hst] at he
    have hn : e ≠ .unfitName := by
      rcases Files.error_of_status (Files.isFit_toPath_ofPath hf) hst with rfl | rfl | rfl <;> nofun
    exact iff_of_true (Except.error.inj he ▸ isExcused_of_file hn) nofun
  | .ok .folder               =>
    rw [Cache.loadAt_of_folder hst] at he
    exact iff_of_true (Except.error.inj he ▸ rfl) nofun
  | .ok (.file content stamp) =>
    rw [Cache.loadAt_of_file hst] at he
    have ht : Voice.isExcused f ↔ TellsOf (ofBytes content (Spot.ofPath p).toPath.suffix) := by
      split at he
      case h_1 => cases he
      case h_2 =>
        cases hb : ofBytes content (Spot.ofPath p).toPath.suffix with
        | ok g    => rw [hb] at he; cases he
        | error e =>
          rw [hb] at he
          rw [← Except.error.inj he, isExcused_ofBytes hb]
          exact ⟨.error, (·.of_error)⟩
    exact ht.trans ⟨fun h _ _ he => by cases he; exact h, fun h => h content stamp rfl⟩

-- Whatever is wrong with a definition can be told to its author unless a number is too long, a tag
-- is given to what it does not ask for, or an escape is for no character. Then so can be whatever is
-- wrong with a file that is a text, and both who start it and who play it are told.
theorem failures_told (source : String) (hint : Option String) (hs : fs.status p = .ok (.file content stamp)) :
    (IsPlain source hint → Tells (parse source hint)) ∧
    (Format.ofHint? hint = some .json → (Tells (parse source hint) ↔ Json.read source ≠ .error .numberTooLong)) ∧
    load fs p = ofBytes content p.suffix ∧
    (TellsOf (load fs p) ↔
      ∃ source, FileText.decode content = some source ∧ Tells (parse source (some p.suffix))) ∧
    (∀ e typing clock lines, load fs p = .error e →
      (Launcher.play fs p typing clock lines = Launcher.warning e ↔ TellsOf (load fs p))) ∧
    ∀ (s : Service) c q plan settings p f, c.skill? = some q → q.occasion.plan? = some plan →
      s.store.settings = .ok settings → s.adventurePath = .ok p → Files.isFit p → s.adventure.2 = .error f →
        ((s.answer c).2.IsApology ↔
          ∀ content stamp, s.store.files.status (Spot.ofPath p).toPath = .ok (.file content stamp) →
            TellsOf (ofBytes content (Spot.ofPath p).toPath.suffix)) := by
  have hl : load fs p = ofBytes content p.suffix := load_of_status hs
  refine ⟨tells_parse, tells_parse_json, hl, hl ▸ tellsOf_ofBytes, fun e typing clock lines he => ?_, ?_⟩
  · rw [Launcher.play_eq_warning_iff hs he, he]
    exact ⟨.error, (·.of_error)⟩
  · intro s c q plan settings p f hc hp hs ha hf he
    exact isApology_of_unloaded_iff hc hp hs ha hf he

end Service

namespace Yaml

open Node

-- A definition in which the description of the start is tagged as a number.
def numbered (text : String) : String :=
  "places:\n  start:\n    description: !!int " ++ text

def numberedTokens (text : String) : List Token := [
  .blockMappingStart, .key, .scalar "places" true, .value,
  .blockMappingStart, .key, .scalar "start" true, .value,
  .blockMappingStart, .key, .scalar "description" true, .value,
  .tag (some "!!") "int", .scalar text true, .blockEnd, .blockEnd, .blockEnd
]

def numberedNode (text : String) : Node :=
  .map none none [(.scalar none none true "places",
    .map none none [(.scalar none none true "start",
      .map none none [(.scalar none none true "description", .scalar none (some .int) false text)])])]

theorem ofTokens_numbered (text : String) : Node.ofTokens (numberedTokens text) = .ok (some (numberedNode text)) := by
  have hn (rest : List Token) : ∃ h, readPairs defaultHandles (.blockEnd :: rest) = .ok ([], ⟨rest, h⟩) := by
    refine ⟨Nat.lt_succ_self _, ?_⟩
    rw [readPairs]
  have hk (text : String) {rest : List Token} :
      ∃ h, readPart defaultHandles (.scalar text true :: rest) = .ok (.scalar none none true text, ⟨rest, h⟩) :=
    readPart_of_read rfl read_scalar
  have hr : resolve defaultHandles (some "!!") "int" = .ok (some .int, false) := rfl
  have hd := read_mapping (readPairs_cons (hk "description") (readPart_tagged text true hr) (hn [.blockEnd, .blockEnd]))
  have hs := read_mapping (readPairs_cons (hk "start") (readPart_of_read rfl hd) (hn [.blockEnd]))
  obtain ⟨_, h⟩ := read_mapping (readPairs_cons (hk "places") (readPart_of_read rfl hs) (hn []))
  rw [numberedTokens, Node.ofTokens, h]
  · rfl
  all_goals
    intros
    rename_i he
    cases he

theorem fits_numbered_seven : Fits (numbered "7") := by
  have hs : Token.scan (numbered "7").toList = .ok (numberedTokens "7") := by decide +kernel
  have hb : Text.backslash ∉ (numbered "7").toList := by decide +kernel
  have hl : (numbered "7").toList.length ≤ Numeral.digitLimit := by decide +kernel
  have hi : Tag.Suits (some .int) false "7" := .ok (by decide +kernel)
  have ht (s : String) (plain : Bool) : Tag.Suits none plain s := by
    rw [Tag.Suits, Typed.read]
    rcases Typed.typeOf_none plain s with h | h <;> rw [h] <;> exact .ok Bool.false_ne_true
  have hm {k x : Node} (hk : k.Fits) (hx : x.Fits) : (Node.map none none [(k, x)]).Fits :=
    .map (ht · false) (List.forall_mem_singleton.mpr hk) (List.forall_mem_singleton.mpr hx)
  refine ⟨⟨fun tail n rest h _ => ?_, ?_⟩, fun ts x h hx => ?_⟩
  · exact absurd (h.subset List.mem_cons_self) hb
  · rintro ⟨ds, hd, _, hn⟩
    exact absurd hn (Nat.not_lt.mpr (Nat.le_trans hd.length_le hl))
  · cases hs.symm.trans h
    cases (ofTokens_numbered "7").symm.trans hx
    exact hm (.scalar (ht _ _)) (hm (.scalar (ht _ _)) (hm (.scalar (ht _ _)) (.scalar hi)))

end Yaml

namespace Service

-- A service whose adventure is an empty file.
def blank : Service where
  store       := ⟨⟨.ofList [(["data"], .folder), (["data", "players"], .folder),
    (["d.json"], .file .empty (.written 0))], 1⟩, .ofText "data"⟩
  cache       := .empty
  environment := "d.json"
  delivery    := .status 200

theorem failures_told_blank :
    IsPlain (Yaml.numbered "7") (some "yaml") ∧ Tells (parse (Yaml.numbered "7") (some "yaml")) ∧
    Format.ofHint? (some "json") = some .json ∧ Tells (parse "" (some "json")) ∧
    blank.store.files.status (.ofText "d.json") = .ok (.file .empty (.written 0)) ∧
    load blank.store.files (.ofText "d.json") = .error (.problem (.invalidJson .value 1 1 0)) ∧
    Launcher.play blank.store.files (.ofText "d.json") false (fun _ => .morning) [] =
      Launcher.warning (.problem (.invalidJson .value 1 1 0)) ∧
    (Call.launch "alice" .morning).skill? = some ⟨true, "alice", [], .launch⟩ ∧
    Skill.Occasion.launch.plan? = some ⟨some .restart, true⟩ ∧ blank.store.settings = .ok .default ∧
    blank.adventurePath = .ok (.ofText "d.json") ∧ Files.isFit (.ofText "d.json") ∧
    blank.adventure.2 = .error (.load (.problem (.invalidJson .value 1 1 0))) ∧
    (blank.answer (.launch "alice" .morning)).2.IsApology := by
  have hy : Format.ofHint? (some "yaml") = some .yaml := by decide +kernel
  have hj : Format.ofHint? (some "json") = some .json := by decide +kernel
  have hs : blank.store.files.status (.ofText "d.json") = .ok (.file .empty (.written 0)) := by decide +kernel
  have hf : Files.isFit (.ofText "d.json") := by decide +kernel
  have hr : Json.read "" = .error (.malformed .value 0) := by cbv
  have hd : FileText.decode .empty = some "" := by decide +kernel
  have hb : ofBytes .empty ".json" = .error (.problem (.invalidJson .value 1 1 0)) := by
    have hj : Format.ofHint? (some ".json") = some .json := by decide +kernel
    simp only [ofBytes, hd, parse, hj, readAs, readJson, hr]
    rfl
  have hx : (PathName.ofText "d.json").suffix = ".json" := by decide +kernel
  have hsp : (Spot.ofPath (.ofText "d.json")).toPath = .ofText "d.json" := by decide +kernel
  have hp : IsPlain (Yaml.numbered "7") (some "yaml") := fun _ h => by
    cases hy.symm.trans h
    exact Yaml.fits_numbered_seven
  have hg : blank.adventurePath = .ok (.ofText "d.json") := rfl
  have ha : blank.adventure.2 = .error (.load (.problem (.invalidJson .value 1 1 0))) := by
    rw [adventure_eq, hg, Chain.ok_bind, Cache.load_of_isFit hf, Cache.loadAt_of_file (hsp ▸ hs), hsp, hx, hb]
    rfl
  have hn : Json.read "" ≠ .error .numberTooLong := by
    intro h
    cases hr.symm.trans h
  obtain ⟨ht, _⟩ := failures_told (Yaml.numbered "7") (some "yaml") hs
  obtain ⟨_, htj, hlb, _, hw, hi⟩ := failures_told "" (some "json") hs
  have hle := hlb.trans (hx ▸ hb)
  have htold : TellsOf (load blank.store.files (.ofText "d.json")) := hle ▸ .error rfl
  refine ⟨hp, ht hp, hj, (htj hj).mpr hn, hs, hle, (hw _ _ _ _ hle).mpr htold,
    Call.skill?_launch, rfl, rfl, hg, hf, ha, ?_⟩
  refine (hi blank _ _ _ _ _ _ Call.skill?_launch rfl rfl hg hf ha).mpr fun content stamp h => ?_
  rw [hsp] at h ⊢
  cases hs.symm.trans h
  exact hlb ▸ htold

-- A text that is tagged as a number, and is none.
theorem untold_numbered :
    parse (Yaml.numbered "abc") (some "yaml") = .error (.unfit .number) ∧
    ¬Tells (parse (Yaml.numbered "abc") (some "yaml")) := by
  have hy : Format.ofHint? (some "yaml") = some .yaml := by decide +kernel
  have hs : Yaml.Token.scan (Yaml.numbered "abc").toList = .ok (Yaml.numberedTokens "abc") := by decide +kernel
  have hr : Yaml.read (Yaml.numbered "abc") = .error (.unfit .number) := by
    rw [Yaml.read, hs, Chain.ok_bind, Yaml.ofTokens_numbered]
    cbv
  have hp : parse (Yaml.numbered "abc") (some "yaml") = .error (.unfit .number) := by
    simp only [parse, hy, readAs, readYaml, hr]
    rfl
  refine ⟨hp, fun h => ?_⟩
  rw [hp] at h
  cases h.of_error

end Service
end Gamebook
