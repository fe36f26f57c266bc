import RelationalLearning.Proofs.DataModel.Peripheral
import RelationalLearning.Proofs.Pipeline.Operations
import RelationalLearning.Proofs.Upfront

/-!
The order of peripheral tables. Placeholders and tables go to the engine in different commands, and
belong together by their places alone.
-/

namespace RelationalLearning

theorem exists_last (good : Event → Prop) (events : List Event)
    (some : ∃ event ∈ events, good event) : ∃ before event after,
      events = before ++ event :: after ∧ good event ∧ ∀ later ∈ after, ¬ good later := by
  induction events with
  | nil =>
      obtain ⟨_, member, -⟩ := some
      cases member
  | cons first events ih =>
      by_cases behind : ∃ event ∈ events, good event
      · obtain ⟨before, event, after, rfl, fine, last⟩ := ih behind
        exact ⟨first :: before, event, after, rfl, fine, last⟩
      · obtain ⟨event, member, fine⟩ := some
        have none : ∀ later ∈ events, ¬ good later := fun later member fine =>
          behind ⟨later, member, fine⟩
        rcases List.mem_cons.mp member with rfl | later
        · exact ⟨[], event, events, rfl, fine, none⟩
        · exact absurd fine (none event later)

namespace Blueprint

def Describe (names : List String) (configured : List Json) : Prop :=
  List.Forall₂ (fun name entry => entry.field? "name_" = some (.string name)) names configured

theorem name_placeholderCommand (placeholder : Placeholder) (command : Json)
    (done : placeholderCommand placeholder = .ok command) :
    command.field? "name_" = some (.string placeholder.name) := by
  have alone : placeholderCommand placeholder =
      .ok (PlaceholderGraph.nodeCommand (.alone placeholder) []) := rfl
  rw [alone] at done
  obtain rfl := Except.ok.inj done
  rw [PlaceholderGraph.nodeCommand, Json.field?_record]
  rfl

theorem describe_toCommand (blueprint : Blueprint) (id : String) (command : Json)
    (names : List String) (needed : blueprint.peripheralNames = .ok names)
    (described : blueprint.toCommand id = .ok command) :
    ∃ configured, command.field? "peripheral_" = some (.array configured) ∧
      Describe names configured := by
  simp only [toCommand, Outcome.bind_eq_ok] at described
  obtain ⟨placeholders, found, configured, written, _, -, _, -, _, -, _, -, _, -, same⟩ := described
  obtain rfl := Except.ok.inj same
  obtain ⟨_, again, rfl⟩ := (Outcome.map_eq_ok _ _ _).mp needed
  obtain rfl := Except.ok.inj (found.symm.trans again)
  refine ⟨configured, by rw [Json.field?_record]; rfl, ?_⟩
  rw [Describe, List.forall₂_map_left_iff]
  exact ((Outcome.mapM_eq_ok _ _ _).mp written).imp name_placeholderCommand

end Blueprint

namespace Pipeline

def dataKinds : List String := ["Pipeline.check", "Pipeline.fit"]

/-- What may be said while a pipeline is fitted on some peripheral tables. -/
def InOrder (names : List String) (tables : List Table) : Message → Prop
  | .command command =>
    (command.field? "type_" = some (.string "Pipeline") →
      ∃ configured, command.field? "peripheral_" = some (.array configured) ∧
        Blueprint.Describe names configured) ∧
    ∀ kind ∈ dataKinds, command.field? "type_" = some (.string kind) →
      command.field? "peripheral_dfs_" = some (.array (tables.map Table.toCommand))
  | _ => False

variable {base : Nat} {names : List String} {tables : List Table}

theorem inOrder_other (kind name : String) (fields : List (String × Json))
    (free : ∀ field ∈ fields, field.1 ≠ "type_")
    (other : kind ∉ "Pipeline" :: dataKinds) :
    InOrder names tables (.command (Session.command kind name fields)) := by
  simp only [InOrder, Session.kind_command kind name fields free]
  constructor
  · rintro ⟨⟩
    exact absurd (by decide) other
  · rintro _ member ⟨⟩
    exact absurd (List.mem_cons_of_mem _ member) other

theorem inOrder_ask (frame : DataFrame) :
    InOrder names tables (.command (frame.command "DataFrame.last_change" [])) :=
  inOrder_other _ _ _ (by simp) (by decide)

theorem inOrder_describe (blueprint : Blueprint) (needed : blueprint.peripheralNames = .ok names)
    (id : String) (command : Json) (described : blueprint.toCommand id = .ok command) :
    InOrder names tables (.command command) := by
  refine ⟨fun _ => blueprint.describe_toCommand id command names needed described, ?_⟩
  rw [(concerns_toCommand blueprint id command described).1]
  rintro kind member ⟨⟩
  exact absurd member (by decide)

theorem inOrder_data (kind name : String) (population : Table) (validation : Option Table)
    (other : kind ≠ "Pipeline") :
    InOrder names tables (.command
      (Session.command kind name (dataOf population tables ++ heldOut validation))) := by
  constructor
  · rw [Session.kind_command _ _ _ (by simp [dataOf, heldOut])]
    rintro ⟨⟩
    exact absurd rfl other
  · intro _ _ _
    rw [Session.command, Json.field?_record]
    cases validation <;> rfl

def checkUnder (session : Session) (population : Table) (peripheral : List Table) (id : String) :
    Step Issues := do
  let checked ← Client.attempt (checkAnnounced session id population peripheral)
  let deleted ← Client.attempt (deleteById session id true)
  let issues ← Client.ofExcept checked
  Client.ofExcept deleted
  if issues.isEmpty then Client.log .info "Data model check: OK."
  else Client.log .warn s!"The pipeline check generated {issues.length} issues."
  return issues

def warnOf (issues : Issues) : Step Unit := do
  for issue in issues do
    Client.log .warn issue.display

theorem emits_checkUnder (session : Session) (population : Table) (id : String) :
    Client.Emits base (InOrder names tables) (fun _ => True)
      (checkUnder session population tables id) := by
  have checking : Client.Emits base (InOrder names tables) (fun _ => True)
      (checkAnnounced session id population tables) := by
    rw [checkAnnounced_eq]
    refine Client.emits_bind _ _ _ _ (emits_dataFields session population tables inOrder_ask) ?_
    rintro data rfl
    have fits : InOrder names tables (.command (Session.command "Pipeline.check" id
        (dataOf population tables ++ heldOut none))) :=
      inOrder_data "Pipeline.check" id population none (by decide)
    exact emits_checkOn session id _ (by simpa [heldOut] using fits)
  have deleting : Client.Emits base (InOrder names tables) (fun _ => True)
      (deleteById session id true : Step Unit) :=
    Client.emits_adapt _ _ _ (session.emits_send _ (inOrder_other _ _ _ (by simp) (by decide)))
  refine Client.emits_bind _ _ _ _ (Client.emits_attempt _ _ checking) fun checked _ => ?_
  refine Client.emits_bind _ _ _ _ (Client.emits_attempt _ _ deleting) fun deleted _ => ?_
  refine Client.emits_bind (fun _ => True) _ _ _ (Client.emits_ofExcept _ _ fun _ _ => trivial)
    fun issues _ => ?_
  refine Client.emits_bind (fun _ => True) _ _ _ (Client.emits_ofExcept _ _ fun _ _ => trivial)
    fun _ _ => ?_
  split
  all_goals exact Client.emits_bind _ _ _ _ (Client.emits_log _ _) fun _ _ =>
    Client.emits_pure _ _ trivial

theorem emits_warnOf (issues : Issues) :
    Client.Emits base (InOrder names tables) (fun _ => True) (warnOf issues) := by
  refine Client.emits_bind _ _ _ _ (Client.emits_forIn issues _ fun issue _ => ?_) fun _ _ =>
    Client.emits_pure _ _ trivial
  exact Client.emits_bind _ _ _ _ (Client.emits_log _ _) fun _ _ => Client.emits_pure _ _ trivial

theorem emits_refresh (session : Session) :
    Updating.Emits base (InOrder names tables) (fun _ => True) (refresh session) := by
  refine Updating.emits_bind _ _ _ _ Updating.emits_handle fun pipeline _ => ?_
  refine Updating.emits_bind (fun _ => True) _ _ _
    (Updating.emits_ofExcept _ _ fun _ _ => trivial) fun id _ => ?_
  refine Updating.emits_bind _ _ _ _ (Updating.emits_ofClient _ _
    (emits_askState session id (inOrder_other _ _ _ (by simp) (by decide)))) fun _ _ => ?_
  exact Updating.emits_replace _

/-- Which blueprint is described depends on the handle, so this is about one handle. -/
theorem emits_fitUnchecked (session : Session) (pipeline : Pipeline) (population : Table)
    (validation : Option Table) (needed : pipeline.blueprint.peripheralNames = .ok names) :
    Client.Emits base (InOrder names tables) (fun _ => True)
      ((fitUnchecked session population tables validation).finish pipeline) := by
  rw [fitUnchecked, Updating.finish_handle_bind, Updating.finish_ofClient_bind, train_eq]
  refine Client.emits_bind (fun _ => True) _ _ _ ?_ fun id _ => ?_
  · refine Client.emits_bind _ _ _ _ (emits_dataFields session population tables inOrder_ask) ?_
    rintro data rfl
    refine Client.emits_bind _ _ _ _ (emits_checkAll session _ inOrder_ask) fun _ _ => ?_
    refine emits_trainOn session _ _ ?_ fun id => inOrder_data _ id _ _ (by decide)
    exact inOrder_describe pipeline.blueprint needed
  · rw [Updating.finish_replace_bind]
    refine Updating.emits_finish (fun _ => True) _ _ ?_
    refine Updating.emits_bind _ _ _ _ (Updating.emits_ofClient _ _
      (emits_saveById session id (inOrder_other _ _ _ (by simp) (by decide)))) fun _ _ => ?_
    exact emits_refresh session

theorem finish_fit (session : Session) (pipeline : Pipeline) (population : Table)
    (peripheral : List Table) (validation : Option Table) :
    (fit session population peripheral validation).finish pipeline =
      announce session pipeline.blueprint >>= fun id =>
        checkUnder session population peripheral id >>= fun issues =>
          warnOf issues >>= fun _ =>
            (fitUnchecked session population peripheral validation).finish pipeline := by
  rw [fit, Updating.finish_handle_bind, Updating.finish_ofClient_bind]
  change ((announce session pipeline.blueprint >>= checkUnder session population peripheral) >>=
    warnOf) >>= _ = _
  rw [bind_assoc, bind_assoc]

def Announces (event : Event) : Prop :=
  ∃ link command, event = .sent link (.command command) ∧
    command.field? "type_" = some (.string "Pipeline")

theorem announce_recorded (session : Session) (blueprint : Blueprint) (world : World) :
    ∃ start, (announce session blueprint world).2.trace = world.trace ++ start ∧
      (∀ link command kind, .sent link (.command command) ∈ start → kind ∈ dataKinds →
        command.field? "type_" ≠ some (.string kind)) ∧
      ∀ id middle, announce session blueprint world = (.ok id, middle) →
        ∃ event ∈ start, Announces event := by
  have announcing : Client.Emits 0 (fun message => ∃ command, message = .command command ∧
      command.field? "type_" = some (.string "Pipeline")) (fun _ => True)
      (announce session blueprint) :=
    emits_announce session blueprint fun id command described =>
      ⟨command, rfl, (concerns_toCommand blueprint id command described).1⟩
  obtain ⟨start, recorded, fits⟩ := (announcing world (Nat.zero_le _)).1.recorded
  refine ⟨start, recorded, ?_, ?_⟩
  · intro link command kind member data of_kind
    obtain ⟨_, ⟨⟩, announces⟩ := (fits _ member).2
    rw [announces] at of_kind
    obtain rfl : "Pipeline" = kind := by simpa using of_kind
    exact absurd data (by decide)
  · intro id middle done
    rw [done] at recorded
    obtain ⟨-, -, link, command, described, exchange⟩ :=
      announce_eq_ok session blueprint world middle id done
    obtain rfl := List.append_cancel_left (recorded.symm.trans exchange)
    refine ⟨.sent link (.command command), by simp [Session.exchanged], link, command, rfl, ?_⟩
    exact (concerns_toCommand blueprint id command described).1

theorem announced_first {α : Type} (session : Session) (blueprint : Blueprint)
    (next : String → Step α) (grows : ∀ id, Client.Emits 0 (fun _ => True) (fun _ => True) (next id))
    (world : World) : ∃ events,
      ((announce session blueprint >>= next) world).2.trace = world.trace ++ events ∧
      ∀ earlier link command kind later, events = earlier ++ .sent link (.command command) :: later →
        kind ∈ dataKinds → command.field? "type_" = some (.string kind) →
        ∃ event ∈ earlier, Announces event := by
  obtain ⟨start, recorded, other, described⟩ := announce_recorded session blueprint world
  rw [Outcome.run_bind]
  split
  next id middle done =>
    rw [done] at recorded
    obtain ⟨more, later, -⟩ := (grows id middle (Nat.zero_le _)).1.recorded
    refine ⟨start ++ more, by rw [later, recorded, List.append_assoc], ?_⟩
    intro earlier place sent kind behind same data of_kind
    rcases split_append start more earlier behind _ same with ⟨rest, early, -⟩ | ⟨before, rfl, -⟩
    · exact absurd of_kind (other place sent kind (by rw [early]; simp) data)
    · obtain ⟨event, member, announces⟩ := described id middle done
      exact ⟨event, List.mem_append_left _ member, announces⟩
  next cause middle failed =>
    rw [failed] at recorded
    refine ⟨start, recorded, ?_⟩
    rintro earlier link command kind later rfl data of_kind
    exact absurd of_kind (other link command kind (by simp) data)

/--
Wherever data is sent, its tables are those that are stored under the names of the placeholders that
were described last, one by one.
-/
def TablesFollow (stored : Index Table) (events : List Event) : Prop :=
  ∀ earlier link command kind later, events = earlier ++ .sent link (.command command) :: later →
    kind ∈ dataKinds → command.field? "type_" = some (.string kind) →
    ∃ before other announcement between configured data,
      earlier = before ++ .sent other (.command announcement) :: between ∧
      announcement.field? "type_" = some (.string "Pipeline") ∧
      (∀ event ∈ between, ¬ Announces event) ∧
      announcement.field? "peripheral_" = some (.array configured) ∧
      command.field? "peripheral_dfs_" = some (.array data) ∧
      List.Forall₂ (fun entry description => ∃ name table,
        entry.field? "name_" = some (.string name) ∧ stored.lookup name = some table ∧
          description = table.toCommand) configured data

theorem forall₂_of_names (stored : Index Table) (configured : List Json)
    (described : Blueprint.Describe names configured)
    (found : List.Forall₂ (fun name table => stored.lookup name = some table) names tables) :
    List.Forall₂ (fun entry description => ∃ name table,
      entry.field? "name_" = some (.string name) ∧ stored.lookup name = some table ∧
        description = table.toCommand) configured (tables.map Table.toCommand) := by
  rw [Blueprint.Describe] at described
  induction described generalizing tables with
  | nil =>
      cases found
      exact .nil
  | @cons name entry _ _ named _ ih =>
      cases found with
      | cons here behind => exact .cons ⟨name, _, named, here, rfl⟩ (ih behind)

theorem tablesFollow_fit (session : Session) (pipeline : Pipeline) (population : Table)
    (validation : Option Table) (stored : Index Table) (world : World)
    (needed : pipeline.blueprint.peripheralNames = .ok names)
    (found : List.Forall₂ (fun name table => stored.lookup name = some table) names tables) :
    ∃ events, ((fit session population tables validation).finish pipeline world).2.trace =
      world.trace ++ events ∧ TablesFollow stored events := by
  have rest : ∀ id, Client.Emits 0 (InOrder names tables) (fun _ => True)
      (checkUnder session population tables id >>= fun issues => warnOf issues >>= fun _ =>
        (fitUnchecked session population tables validation).finish pipeline) := by
    intro id
    refine Client.emits_bind _ _ _ _ (emits_checkUnder session population id) fun issues _ => ?_
    refine Client.emits_bind _ _ _ _ (emits_warnOf issues) fun _ _ => ?_
    exact emits_fitUnchecked session pipeline population validation needed
  have whole := Client.emits_bind (fun _ => True) _ _ _ (emits_announce session pipeline.blueprint
    (inOrder_describe pipeline.blueprint needed)) fun id _ => rest id
  rw [finish_fit]
  obtain ⟨events, recorded, led⟩ := announced_first session pipeline.blueprint _
    (fun id => (rest id).mono fun _ _ => trivial) world
  obtain ⟨again, same, fits⟩ := (whole world (Nat.zero_le _)).1.recorded
  obtain rfl := List.append_cancel_left (recorded.symm.trans same)
  refine ⟨events, recorded, ?_⟩
  intro earlier link command kind later split data of_kind
  obtain ⟨before, event, between, rfl, ⟨other, announcement, rfl, of_type⟩, last⟩ :=
    exists_last Announces earlier (led earlier link command kind later split data of_kind)
  have announced := (fits (.sent other (.command announcement)) (by simp [split])).2
  have sent := (fits (.sent link (.command command)) (by simp [split])).2
  obtain ⟨configured, written, described⟩ := announced.1 of_type
  exact ⟨before, other, announcement, between, configured, _, rfl, of_type, last, written,
    sent.2 kind data of_kind, forall₂_of_names stored configured described found⟩

theorem finish_fitSubset (session : Session) (pipeline : Pipeline) (subset : Subset)
    (validation : Option Subset) : (fitSubset session subset validation).finish pipeline =
      Client.ofExcept (pipeline.blueprint.orderPeripheral subset.peripheral) >>= fun peripheral =>
        (fit session subset.population peripheral (validation.map (·.population))).finish pipeline := by
  rw [fitSubset, Updating.finish_handle_bind, Updating.finish_ofExcept_bind]

/--
The names of the peripheral tables are those that are given, or else those of all placeholders that
are joined into the population, in their order. While the pipeline is fitted on a subset, the tables
that are sent follow the placeholders that were described last. Without a table for one of the names
nothing is sent.
-/
theorem tables_follow_placeholders (session : Session) (pipeline : Pipeline)
    (population : Placeholder) (operations : List DataModel.Operation)
    (reached : pipeline.blueprint.dataModel = .made population operations) (subset : Subset)
    (validation : Option Subset) (world : World) :
    ∃ names, pipeline.blueprint.peripheralNames = .ok names ∧
      (∀ placeholders, pipeline.blueprint.peripheral = some placeholders →
        names = placeholders.map (·.name)) ∧
      (pipeline.blueprint.peripheral = none → names.Pairwise (· < ·) ∧
        ∀ name, name ∈ names ↔ pipeline.blueprint.dataModel.JoinedIn name) ∧
      (∃ events, ((fitSubset session subset validation).runOn pipeline world).2.trace =
        world.trace ++ events ∧ TablesFollow subset.peripheral events) ∧
      ∀ name ∈ names, subset.peripheral.lookup name = none →
        (∃ reason, ((fitSubset session subset validation).runOn pipeline world).1.1 =
          .error (.invalidArgument reason)) ∧
        World.Silent world ((fitSubset session subset validation).runOn pipeline world).2 := by
  have sound : pipeline.blueprint.dataModel.Sound := reached ▸ DataModel.sound_made population operations
  obtain ⟨names, needed, given, inferred⟩ := pipeline.blueprint.peripheralNames_eq sound
  have same : ((fitSubset session subset validation).runOn pipeline world).2 =
      ((fitSubset session subset validation).finish pipeline world).2 := rfl
  rw [same, finish_fitSubset]
  refine ⟨names, needed, given, inferred, ?_, ?_⟩
  · cases ordered : pipeline.blueprint.orderPeripheral subset.peripheral with
    | ok tables =>
        have found := pipeline.blueprint.orderPeripheral_eq_ok _ tables names needed ordered
        exact tablesFollow_fit session pipeline subset.population _ subset.peripheral world needed found
    | error cause =>
        refine ⟨[], (List.append_nil _).symm, ?_⟩
        intro earlier link command kind later nothing
        simp at nothing
  · intro name member missing
    obtain ⟨reason, refused⟩ :=
      pipeline.blueprint.orderPeripheral_missing subset.peripheral names needed name member missing
    have failed : ((fitSubset session subset validation).finish pipeline world).1 =
        .error (.invalidArgument reason) := by
      rw [finish_fitSubset, refused]
      rfl
    refine ⟨⟨reason, (Updating.finish_eq_error _ _ _ _).mp failed⟩, ?_⟩
    rw [refused]
    exact ⟨[], (List.append_nil _).symm, by simp⟩

def loansPopulation : Placeholder := ⟨"loans", {}⟩

def loansModel : List DataModel.Operation :=
  [.addAll [⟨"trans", { joinKey := ["id"] }⟩, ⟨"accounts", {}⟩, ⟨"unused", {}⟩], .join 0 1 {},
    .join 1 2 {}]

def inferred : Pipeline := { blueprint := { dataModel := .made loansPopulation loansModel } }

def listed : Pipeline where
  blueprint :=
    { dataModel := .made loansPopulation [], peripheral := some [⟨"trans", {}⟩, ⟨"accounts", {}⟩] }

def subsetOf (names : List String) : Subset where
  container := "c"
  name := "train"
  population := .frame { name := "loans", roles := {} }
  peripheral := .ofList (names.map fun name => (name, .frame { name := name ++ "_train", roles := {} }))

def fitting : World := answering [["Success!"], ["Found!", "Success!", "\x7b\x7d"], ["Success!"],
  ["Success!"], ["Found!", "Trained pipeline."], ["Success!"], ["\x7b\x7d"]]

theorem tables_follow_placeholders_loans :
    (∃ last, ((fitSubset {} (subsetOf ["accounts", "trans"]) none).runOn listed fitting).2 = last ∧
      last.trace.filterMap sentKind? = ["Pipeline", "Pipeline.check", "Pipeline.delete", "Pipeline",
        "Pipeline.fit", "Pipeline.save", "Pipeline.refresh"] ∧
      TablesFollow (subsetOf ["accounts", "trans"]).peripheral last.trace) ∧
    inferred.blueprint.peripheralNames = .ok ["accounts", "trans"] ∧
    ∃ reason, ((fitSubset {} (subsetOf ["trans"]) none).runOn inferred fitting).1.1 =
      .error (.invalidArgument reason) := by
  have named : inferred.blueprint.peripheralNames = .ok ["accounts", "trans"] := by
    decide +kernel
  refine ⟨⟨_, rfl, by decide +kernel, ?_⟩, named, ?_⟩
  · obtain ⟨-, -, -, -, ⟨events, recorded, follow⟩, -⟩ := tables_follow_placeholders {} listed
      loansPopulation [] rfl (subsetOf ["accounts", "trans"]) none fitting
    rw [recorded]
    exact follow
  · obtain ⟨names, needed, -, -, -, missing⟩ := tables_follow_placeholders {} inferred
      loansPopulation loansModel rfl (subsetOf ["trans"]) none fitting
    obtain rfl := Except.ok.inj (named.symm.trans needed)
    exact (missing "accounts" (by decide) (by decide +kernel)).1

end Pipeline
end RelationalLearning
