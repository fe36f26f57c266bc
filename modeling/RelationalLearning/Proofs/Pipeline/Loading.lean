import RelationalLearning.Pipeline.Importance
import RelationalLearning.Proofs.Column.KnownLength

/-!
What the engine reports about the targets of a pipeline, one after the other. The lists in a report
need not be of one length: a figure belongs to the entry that stands at the same place, and what is
not told is missing.
-/

namespace RelationalLearning

variable {ε α β : Type}

namespace Client

/-- Steps that follow one another, with what each of them brings. -/
inductive Brings (step : α → World → β → World → Prop) : List α → World → List β → World → Prop
  | nothing (world : World) : Brings step [] world [] world
  | item (item : α) (items : List α) (before middle after : World) (result : β) (results : List β)
    (first : step item before result middle) (rest : Brings step items middle results after) :
    Brings step (item :: items) before (result :: results) after

theorem brings_of_mapM (step : α → World → β → World → Prop) (action : α → Client ε β)
    (each : ∀ item before result after,
      action item before = (.ok result, after) → step item before result after)
    (items : List α) (world last : World) (results : List β)
    (done : items.mapM action world = (.ok results, last)) :
    Brings step items world results last := by
  induction items generalizing world results with
  | nil =>
      obtain ⟨rfl, rfl⟩ := (pure_eq_ok [] results world last).mp done
      exact .nothing world
  | cons item items ih =>
      simp only [List.mapM_cons, bind_eq_ok, pure_eq_ok] at done
      obtain ⟨result, middle, first, others, later, rest, rfl, rfl⟩ := done
      exact .item item items world middle later result others (each _ _ _ _ first) (ih _ _ rest)

theorem flattened_cases (step : α → World → List β → World → Prop) (action : α → Client ε (List β))
    (each : ∀ item before part after,
      action item before = (.ok part, after) → step item before part after)
    (items : List α) (world : World) :
    (∃ cause last, (do return (← items.mapM action).flatten : Client ε (List β)) world =
      (.error cause, last)) ∨
    ∃ parts last, (do return (← items.mapM action).flatten : Client ε (List β)) world =
      (.ok parts.flatten, last) ∧ Brings step items world parts last := by
  rw [Outcome.run_bind]
  rcases run : items.mapM action world with ⟨cause | parts, last⟩
  · exact .inl ⟨cause, last, rfl⟩
  · exact .inr ⟨parts, last, rfl, brings_of_mapM step action each items world last parts run⟩

theorem converses_flattened (port : Nat) (engine : Engine) (good : String × Nat → List β → Prop)
    (commands : String × Nat → List Json) (action : String × Nat → Client ε (List β))
    (targets : List String)
    (each : ∀ target index, index < targets.length → ∃ part,
      Converses port engine (commands (target, index)) (.ok part) (action (target, index)) ∧
        good (target, index) part) :
    ∃ parts, Converses port engine (targets.zipIdx.flatMap commands) (.ok parts.flatten)
        (do return (← targets.zipIdx.mapM action).flatten) ∧
      List.Forall₂ good targets.zipIdx parts := by
  have all : ∀ item ∈ targets.zipIdx, ∃ part,
      Converses port engine (commands item) (.ok part) (action item) ∧ good item part := by
    intro item member
    obtain ⟨-, inside, -⟩ := List.mem_zipIdx member
    exact each item.1 item.2 (by simpa using inside)
  obtain ⟨parts, asked, fits⟩ := converses_mapM port engine good commands action targets.zipIdx all
  exact ⟨parts, converses_map _ List.flatten _ _ asked, fits⟩

end Client

namespace TargetReport

def question (kind pipeline : String) (target : Nat) : Json :=
  Session.command kind pipeline [("target_num_", .nat target)]

def told (report : Json) (name : String) (index : Nat) : Figure :=
  match ((report.field name).asArray?.bind fun items => items[index]?).bind Json.asFloat? with
  | some value => .ofFloat value
  | none => .missing false

def Told (session : Session) (kind pipeline : String) (target : Nat) (report : Json)
    (before after : World) : Prop :=
  ∃ text, session.Exchange (question kind pipeline target) [success, text] before after ∧
    Json.parse? text = some report

def Tells (engine : Engine) (kind pipeline : String) (target : Nat) (report : Json) : Prop :=
  ∃ text more, engine (question kind pipeline target) = success :: text :: more ∧
    Json.parse? text = some report

/-- One entry for each item of a list in the report, which depends on the item and its place. -/
def Lists (report : Json) (name : String) (entry : Nat → Json → α) (entries : List α) : Prop :=
  ∃ items, (report.field name).asArray? = some items ∧ entries.length = items.length ∧
    ∀ index item, items[index]? = some item → entries[index]? = some (entry index item)

theorem told_eq (report : Json) (name : String) (index : Nat) :
    told report name index = (figures report name)[index]?.getD (.missing false) := by
  unfold told figures
  cases (report.field name).asArray? with
  | none => rfl
  | some items =>
      rw [Option.bind_some, Option.getD_some, List.getElem?_map]
      cases items[index]? with
      | none => rfl
      | some item => cases number : item.asFloat? <;> simp [number]

theorem figure_figuresFor (report : Json) (name : String) (count index : Nat)
    (inside : index < count) :
    (figuresFor report name count).figure index inside = told report name index := by
  rw [told_eq]
  change (figures report name ++ List.replicate _ _).get ⟨index, _⟩ = _
  rw [List.get_eq_getElem, List.getElem_append]
  by_cases there : index < (figures report name).length
  · simp [there]
  · simp [there]

theorem lists_iff (report : Json) (name : String) (entry : Nat → Json → α) (entries : List α) :
    (list report name).map (·.mapIdx entry) = .ok entries ↔ Lists report name entry entries := by
  unfold list Lists
  cases (report.field name).asArray? with
  | none => simp [Except.map]
  | some items =>
      simp only [Except.map, Except.ok.injEq, Option.some.injEq, exists_eq_left']
      constructor
      · rintro rfl
        simp +contextual
      · rintro ⟨counted, placed⟩
        refine List.ext_getElem (by simpa using counted.symm) fun index inside _ => ?_
        have here := placed index _ (List.getElem?_eq_getElem (by simpa using inside))
        obtain ⟨_, same⟩ := List.getElem?_eq_some_iff.mp here
        rw [same, List.getElem_mapIdx]

theorem exists_lists (report : Json) (name : String) (entry : Nat → Json → α)
    (there : (report.field name).asArray?.isSome) :
    ∃ entries, (list report name).map (·.mapIdx entry) = .ok entries ∧
      Lists report name entry entries := by
  obtain ⟨items, found⟩ := Option.isSome_iff_exists.mp there
  have made : (list report name).map (·.mapIdx entry) = .ok (items.mapIdx entry) := by
    rw [list, found]
    rfl
  exact ⟨_, made, (lists_iff report name entry _).mp made⟩

theorem ask_eq_ok (session : Session) (kind pipeline : String) (target : Nat) (report : Json)
    (world last : World) (done : ask session kind pipeline target world = (.ok report, last)) :
    Told session kind pipeline target report world last := by
  simp only [ask, Client.bind_eq_ok] at done
  obtain ⟨link, middle, asked, text, later, received, done⟩ := done
  obtain ⟨rfl, exchange⟩ := session.askExpecting_eq_ok _ success world middle link asked
  have heard := exchange.heard (Link.receive_eq_ok _ _ _ _ received)
  cases read : Json.parse? text with
  | none =>
      rw [read] at done
      exact absurd done (Client.throw_ne_ok _ _ _ _)
  | some document =>
      rw [read] at done
      obtain ⟨rfl, rfl⟩ := (Client.pure_eq_ok _ _ _ _).mp done
      exact ⟨text, heard, read⟩

theorem converses_ask (session : Session) (engine : Engine) (kind pipeline : String) (target : Nat)
    (report : Json) (tells : Tells engine kind pipeline target report) :
    Client.Converses session.port engine [question kind pipeline target] (.ok report)
      (ask session kind pipeline target) := by
  obtain ⟨text, more, replies, read⟩ := tells
  rw [ask, ← Client.adapt_id (session.askExpecting _ success)]
  refine session.converses_askExpecting engine _ success id _ (text :: more) more (.ok report)
    replies fun link => ?_
  refine Link.hears_bind _ _ text _ (Link.hears_receive text) ?_
  rw [read]
  exact Link.hears_pure report

end TargetReport

open TargetReport

namespace Features

/-- The feature that has a name in a report, with the figures that stand at its place. -/
def reported (target : String) (correlated important : Json) (index : Nat) (name : Json) : Feature :=
  ⟨index, asText name, target, told correlated "feature_correlations_" index,
    told important "feature_importances_" index⟩

theorem ofReports_eq (target : String) (correlated important : Json) :
    ofReports target correlated important =
      (list correlated "feature_names_").map (·.mapIdx (reported target correlated important)) := by
  unfold ofReports
  cases list correlated "feature_names_" with
  | error cause => rfl
  | ok names =>
      refine congrArg Except.ok (List.mapFinIdx_eq_mapIdx fun index inside => ?_)
      simp only [figure_figuresFor, reported]

/-- Both reports about a target were asked for and told, and its features are those in them. -/
def Reported (session : Session) (pipeline : String) (target : String × Nat) (before : World)
    (features : Features) (after : World) : Prop :=
  ∃ correlated important middle,
    Told session "Pipeline.feature_correlations" pipeline target.2 correlated before middle ∧
    Told session "Pipeline.feature_importances" pipeline target.2 important middle after ∧
    Lists correlated "feature_names_" (reported target.1 correlated important) features

theorem load_cases (session : Session) (pipeline : String) (targets : List String) (world : World) :
    (∃ cause last, load session pipeline targets world = (.error cause, last)) ∨
    ∃ parts last, load session pipeline targets world = (.ok parts.flatten, last) ∧
      Client.Brings (Reported session pipeline) targets.zipIdx world parts last := by
  refine Client.flattened_cases (Reported session pipeline) _ ?_ targets.zipIdx world
  rintro ⟨target, index⟩ before features after done
  simp only [Client.bind_eq_ok, Client.ofExcept_eq_ok] at done
  obtain ⟨correlated, middle, first, important, later, second, made, rfl⟩ := done
  rw [ofReports_eq, lists_iff] at made
  exact ⟨correlated, important, middle, ask_eq_ok _ _ _ _ _ _ _ first,
    ask_eq_ok _ _ _ _ _ _ _ second, made⟩

def questions (pipeline : String) (target : String × Nat) : List Json :=
  [question "Pipeline.feature_correlations" pipeline target.2,
    question "Pipeline.feature_importances" pipeline target.2]

structure Answerable (engine : Engine) (pipeline : String) (index : Nat)
    (correlated important : Json) : Prop where
  correlations : Tells engine "Pipeline.feature_correlations" pipeline index correlated
  importances : Tells engine "Pipeline.feature_importances" pipeline index important
  named : (correlated.field "feature_names_").asArray?.isSome

theorem converses_load (session : Session) (engine : Engine) (pipeline : String)
    (targets : List String) (correlated important : Nat → Json)
    (answerable : ∀ index < targets.length,
      Answerable engine pipeline index (correlated index) (important index)) :
    ∃ parts, Client.Converses session.port engine (targets.zipIdx.flatMap (questions pipeline))
        (.ok parts.flatten) (load session pipeline targets) ∧
      List.Forall₂ (fun target features => Lists (correlated target.2) "feature_names_"
        (reported target.1 (correlated target.2) (important target.2)) features)
        targets.zipIdx parts := by
  refine Client.converses_flattened session.port engine _ (questions pipeline) _ targets
    fun target index inside => ?_
  obtain ⟨correlations, importances, named⟩ := answerable index inside
  obtain ⟨features, made, fits⟩ := exists_lists (correlated index) "feature_names_"
    (reported target (correlated index) (important index)) named
  refine ⟨features, ?_, fits⟩
  refine Client.converses_bind _ _ [_] [_] _ _
    (converses_ask session engine _ pipeline index _ correlations) ?_
  refine Client.converses_bind _ _ [_] [] _ _
    (converses_ask session engine _ pipeline index _ importances) ?_
  rw [ofReports_eq, made]
  exact Client.converses_ofExcept _

end Features

namespace ImportantColumns

def reported (target : String) (report : Json) (index : Nat) (description : Json) :
    ImportantColumn Figure :=
  let text (name : String) : String := (description.field name).asString?.getD ""
  ⟨index, text "name_", text "marker_", text "table_", target,
    told report "column_importances_" index⟩

theorem ofReport_eq (target : String) (report : Json) :
    ofReport target report =
      (list report "column_descriptions_").map (·.mapIdx (reported target report)) := by
  unfold ofReport
  cases list report "column_descriptions_" with
  | error cause => rfl
  | ok descriptions =>
      refine congrArg Except.ok (List.mapFinIdx_eq_mapIdx fun index inside => ?_)
      simp only [figure_figuresFor, reported]

def Reported (session : Session) (pipeline : String) (target : String × Nat) (before : World)
    (columns : ImportantColumns) (after : World) : Prop :=
  ∃ report, Told session "Pipeline.column_importances" pipeline target.2 report before after ∧
    Lists report "column_descriptions_" (reported target.1 report) columns

theorem load_cases (session : Session) (pipeline : String) (targets : List String) (world : World) :
    (∃ cause last, load session pipeline targets world = (.error cause, last)) ∨
    ∃ parts last, load session pipeline targets world = (.ok parts.flatten, last) ∧
      Client.Brings (Reported session pipeline) targets.zipIdx world parts last := by
  refine Client.flattened_cases (Reported session pipeline) _ ?_ targets.zipIdx world
  rintro ⟨target, index⟩ before columns after done
  simp only [Client.bind_eq_ok, Client.ofExcept_eq_ok] at done
  obtain ⟨report, middle, first, made, rfl⟩ := done
  rw [ofReport_eq, lists_iff] at made
  exact ⟨report, ask_eq_ok _ _ _ _ _ _ _ first, made⟩

def questions (pipeline : String) (target : String × Nat) : List Json :=
  [question "Pipeline.column_importances" pipeline target.2]

structure Answerable (engine : Engine) (pipeline : String) (index : Nat) (report : Json) : Prop where
  importances : Tells engine "Pipeline.column_importances" pipeline index report
  described : (report.field "column_descriptions_").asArray?.isSome

theorem converses_load (session : Session) (engine : Engine) (pipeline : String)
    (targets : List String) (report : Nat → Json)
    (answerable : ∀ index < targets.length, Answerable engine pipeline index (report index)) :
    ∃ parts, Client.Converses session.port engine (targets.zipIdx.flatMap (questions pipeline))
        (.ok parts.flatten) (load session pipeline targets) ∧
      List.Forall₂ (fun target columns => Lists (report target.2) "column_descriptions_"
        (reported target.1 (report target.2)) columns) targets.zipIdx parts := by
  refine Client.converses_flattened session.port engine _ (questions pipeline) _ targets
    fun target index inside => ?_
  obtain ⟨importances, described⟩ := answerable index inside
  obtain ⟨columns, made, fits⟩ := exists_lists (report index) "column_descriptions_"
    (reported target (report index)) described
  refine ⟨columns, ?_, fits⟩
  refine Client.converses_bind _ _ [_] [] _ _
    (converses_ask session engine _ pipeline index _ importances) ?_
  rw [ofReport_eq, made]
  exact Client.converses_ofExcept _

end ImportantColumns

namespace TargetReport

/--
What is loaded about the targets is one part after the other, with an entry for each item that was
reported and at its place the figures that stand there in their own lists. The engine need only
send the list that is counted by; how long the other lists are, and whether they are there, does
not make the loading fail.
-/
theorem loads_stay_aligned (session : Session) (pipeline : String) (targets : List String) :
    (∀ world,
      ((∃ cause last, Features.load session pipeline targets world = (.error cause, last)) ∨
        ∃ parts last, Features.load session pipeline targets world = (.ok parts.flatten, last) ∧
          Client.Brings (Features.Reported session pipeline) targets.zipIdx world parts last) ∧
      ((∃ cause last,
          ImportantColumns.load session pipeline targets world = (.error cause, last)) ∨
        ∃ parts last,
          ImportantColumns.load session pipeline targets world = (.ok parts.flatten, last) ∧
          Client.Brings (ImportantColumns.Reported session pipeline) targets.zipIdx
            world parts last)) ∧
    (∀ (engine : Engine) (correlated important : Nat → Json),
      (∀ index < targets.length,
        Features.Answerable engine pipeline index (correlated index) (important index)) →
      ∃ parts,
        Client.Converses session.port engine
          (targets.zipIdx.flatMap (Features.questions pipeline)) (.ok parts.flatten)
          (Features.load session pipeline targets) ∧
        List.Forall₂ (fun target features => Lists (correlated target.2) "feature_names_"
            (Features.reported target.1 (correlated target.2) (important target.2)) features)
          targets.zipIdx parts) ∧
    ∀ (engine : Engine) (report : Nat → Json),
      (∀ index < targets.length,
        ImportantColumns.Answerable engine pipeline index (report index)) →
      ∃ parts,
        Client.Converses session.port engine
          (targets.zipIdx.flatMap (ImportantColumns.questions pipeline)) (.ok parts.flatten)
          (ImportantColumns.load session pipeline targets) ∧
        List.Forall₂ (fun target columns => Lists (report target.2) "column_descriptions_"
            (ImportantColumns.reported target.1 (report target.2)) columns)
          targets.zipIdx parts :=
  ⟨fun world => ⟨Features.load_cases session pipeline targets world,
      ImportantColumns.load_cases session pipeline targets world⟩,
    fun engine => Features.converses_load session engine pipeline targets,
    fun engine => ImportantColumns.converses_load session engine pipeline targets⟩

def spoken (kind : String) : String :=
  if kind = "Pipeline.feature_correlations" then
    "\x7b\"feature_names_\": [\"feature_1\", 2], \"feature_correlations_\": [\"n/a\"]\x7d"
  else if kind = "Pipeline.feature_importances" then
    "\x7b\"feature_importances_\": [null, null, null]\x7d"
  else "\x7b\"column_descriptions_\": [\x7b\"name_\": \"amount\"\x7d]\x7d"

def spokenReport (kind : String) : Json := (Json.parse? (spoken kind)).getD .null

def speaker : Engine := fun command =>
  match (command.field? "type_").bind Json.asString? with
  | some kind => [success, spoken kind]
  | none => []

theorem tells_speaker (kind : String) (target : Nat)
    (readable : (Json.parse? (spoken kind)).isSome = true) :
    Tells speaker kind "loans" target (spokenReport kind) := by
  refine ⟨spoken kind, [], rfl, ?_⟩
  obtain ⟨report, read⟩ := Option.isSome_iff_exists.mp readable
  rw [spokenReport, read]
  rfl

theorem only_part {good : String × Nat → List α → Prop} {target : String} {parts : List (List α)}
    (all : List.Forall₂ good [target].zipIdx parts) : good (target, 0) parts.flatten := by
  obtain _ | ⟨fits, ⟨⟩⟩ := all
  simpa using fits

theorem map_of_lists {report : Json} {name : String} {entry : Nat → Json → α} {entries : List α}
    (fits : Lists report name entry entries) (view : α → β) (seen : List β)
    (computed : (list report name).toOption.map (·.mapIdx fun index item => view (entry index item)) =
      some seen) : entries.map view = seen := by
  rw [← lists_iff] at fits
  cases there : list report name with
  | error cause =>
      rw [there] at fits
      cases fits
  | ok items =>
      rw [there] at fits computed
      obtain rfl := Except.ok.inj fits
      rw [← Option.some.inj computed]
      simp [List.mapIdx_eq_zipIdx_map]

theorem loads_stay_aligned_unknown :
    (∃ features last, Features.load {} "loans" ["default"]
        (Pipeline.answering [[success, spoken "Pipeline.feature_correlations"],
          [success, spoken "Pipeline.feature_importances"]]) = (.ok features, last) ∧
      features.map (fun feature => (feature.index, feature.name,
        feature.correlation == .missing false && feature.importance == .missing false)) =
        [(0, "feature_1", true), (1, "2", true)]) ∧
    ∃ columns last, ImportantColumns.load {} "loans" ["default"]
        (Pipeline.answering [[success, spoken "Pipeline.column_importances"]]) =
          (.ok columns, last) ∧
      columns.map (fun column => (column.index, column.name, column.importance == .missing false)) =
        [(0, "amount", true)] := by
  obtain ⟨-, features, columns⟩ := loads_stay_aligned {} "loans" ["default"]
  constructor
  · obtain ⟨parts, converses, aligned⟩ := features speaker
      (fun _ => spokenReport "Pipeline.feature_correlations")
      (fun _ => spokenReport "Pipeline.feature_importances") fun index _ =>
        ⟨tells_speaker _ index (by decide +kernel), tells_speaker _ index (by decide +kernel),
          by decide +kernel⟩
    obtain ⟨last, -, done, -⟩ := converses _
      (Pipeline.answers_answering speaker _ (by decide +kernel) (by decide +kernel))
    have asked : (["default"].zipIdx.flatMap (Features.questions "loans")).map speaker =
      [[success, spoken "Pipeline.feature_correlations"],
        [success, spoken "Pipeline.feature_importances"]] := by decide +kernel
    have told : (parts.flatten.map fun feature => (feature.index, feature.name,
        feature.correlation == .missing false && feature.importance == .missing false)) =
        [(0, "feature_1", true), (1, "2", true)] :=
      map_of_lists (only_part aligned) _ _ (by decide +kernel)
    rw [asked] at done
    exact ⟨parts.flatten, last, done, told⟩
  · obtain ⟨parts, converses, aligned⟩ := columns speaker
      (fun _ => spokenReport "Pipeline.column_importances") fun index _ =>
        ⟨tells_speaker _ index (by decide +kernel), by decide +kernel⟩
    obtain ⟨last, -, done, -⟩ := converses _
      (Pipeline.answers_answering speaker _ (by decide +kernel) (by decide +kernel))
    have asked : (["default"].zipIdx.flatMap (ImportantColumns.questions "loans")).map speaker =
      [[success, spoken "Pipeline.column_importances"]] := by decide +kernel
    have told : (parts.flatten.map fun column =>
        (column.index, column.name, column.importance == .missing false)) = [(0, "amount", true)] :=
      map_of_lists (only_part aligned) _ _ (by decide +kernel)
    rw [asked] at done
    exact ⟨parts.flatten, last, done, told⟩

end TargetReport

end RelationalLearning
