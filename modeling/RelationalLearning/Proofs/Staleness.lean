import RelationalLearning.Proofs.Operations
import RelationalLearning.Proofs.Project.Plain

namespace RelationalLearning

open Client

variable {ε σ α : Type} (session : Session)

/-- Of every view that is described on the way the last change was asked for on the way. -/
def Reporting (change : World → World) : Prop := ∀ world, World.Reports [] [] world (change world)

theorem Client.Careful.reporting {action : Client ε α} (careful : Careful [] action) :
    Reporting action.after := fun world => (careful world).1

theorem Client.Plain.reporting {action : Client ε α} (plain : Plain action) :
    Reporting action.after := plain.careful.reporting

theorem Updating.Careful.reporting {action : Updating σ ε α} (careful : Careful [] action)
    (handle : σ) : Reporting (action.after handle) := fun world => (careful handle world).1

theorem Updating.Plain.reporting {action : Updating σ ε α} (plain : Plain action) (handle : σ) :
    Reporting (action.after handle) := plain.careful.reporting handle

theorem Session.Operation.reporting (operation : Session.Operation) :
    Reporting (operation.after session) := by
  cases operation <;> exact Plain.reporting (by simp)

theorem Column.Operation.reporting (column : Column) (operation : Column.Operation) :
    Reporting (operation.after session column) := by
  cases operation <;> exact Plain.reporting (by simp)

theorem StoredColumn.Operation.reporting (column : StoredColumn)
    (operation : StoredColumn.Operation) : Reporting (operation.after session column) := by
  cases operation <;> exact Plain.reporting (by simp)

theorem DataFrame.Operation.reporting (frame : DataFrame) (operation : DataFrame.Operation) :
    Reporting (operation.after session frame) := by
  cases operation with
  | readView view append => exact (careful_readView session view append).reporting frame
  | _ => first
    | exact Plain.reporting (by simp)
    | exact Updating.Plain.reporting (by simp) frame

theorem DataFrame.Source.reporting (name : String) (source : DataFrame.Source) :
    Reporting (source.after session name) := by
  cases source with
  | view view => exact (careful_ofView session name view).reporting
  | concat tables => exact (plain_concat session name tables).reporting
  | _ => exact Plain.reporting (by simp)

theorem Table.Operation.reporting (table : Table) (operation : Table.Operation) :
    Reporting (operation.after session table) := by
  cases operation with
  | check => exact (table.reports_check session).careful.reporting
  | toCsv path options => exact (table.careful_toCsv session path options).reporting
  | refresh => exact (plain_refresh session).reporting table
  | _ => exact Plain.reporting (by simp)

theorem Container.plain_randomSplit (fractions : List (String × Float)) (seed : Nat) :
    Updating.Plain (randomSplit fractions seed) := by
  refine Updating.plain_unless _ _ _ (Updating.plain_bind _ _ (by simp) fun container => ?_)
  exact Updating.plain_bind _ _ (by simp) fun _ => by simp

namespace StarSchema

theorem plain_create (population : Table) (name : Option String) :
    Plain (create population name : Client ε StarSchema) :=
  plain_bind _ _ (plain_bind _ _ (by simp) fun _ => by simp) fun _ => by simp

@[simp]
theorem plain_joinKept (table : Table) (name : Option String) (options : JoinOptions) :
    Updating.Plain (joinKept table name options) := by
  refine Updating.plain_bind _ _ (by simp) fun star => ?_
  refine Updating.plain_bind _ _ (by simp) ?_
  rintro ⟨id, joined⟩
  refine Updating.plain_bind _ _ (by simp) fun _ => ?_
  exact Updating.plain_bind _ _ (by simp) fun _ => by simp

theorem plain_onContainer (action : Updating Container DataError α)
    (plain : Updating.Plain action) : Updating.Plain (onContainer action) :=
  Updating.plain_onPart _ _ _ plain

theorem plain_action (operation : Operation) : Updating.Plain operation.action := by
  cases operation with
  | join table name options => exact Updating.plain_bind _ _ (by simp) fun _ => by simp
  | split masks =>
      exact plain_onContainer (Updating.ofState (Container.split masks)) (Updating.plain_ofState _)
  | randomSplit fractions seed =>
      exact plain_onContainer _ (Container.plain_randomSplit fractions seed)
  | addSubset name table =>
      refine plain_onContainer _ (Updating.plain_bind _ _ (by simp) fun container => ?_)
      exact Updating.plain_bind _ _ (by simp) fun _ => by simp
  | freeze =>
      exact plain_onContainer _ (Updating.plain_bind _ _ (by simp) fun _ => by simp)

end StarSchema

theorem TimeSeries.plain_create (population : Table) (name : Option String)
    (options : JoinOptions) : Plain (create population name options) := by
  refine plain_unless _ _ _ (plain_bind _ _ (StarSchema.plain_create _ _) fun star => ?_)
  exact ⟨(StarSchema.plain_joinKept population name options).grows star⟩

theorem Pipeline.Report.reporting (id : String) (report : Pipeline.Report) :
    Reporting (report.after session id) := by
  cases report with
  | features targets =>
      exact (emits_loadFeatures session id targets fun kind target =>
        covered_report id kind target).plain.reporting
  | columns targets =>
      exact (emits_loadColumns session id targets fun kind target =>
        covered_report id kind target).plain.reporting
  | sql options =>
      exact (emits_loadSql session id options (covered_toSql id options)).plain.reporting

theorem Project.Operation.reporting (operation : Project.Operation) :
    Reporting (operation.after session) := by
  cases operation <;> exact Plain.reporting (by simp)

theorem Operation.reporting (operation : Operation) : Reporting (operation.after session) := by
  cases operation with
  | session operation => exact operation.reporting session
  | column handle operation => exact operation.reporting session handle
  | storedColumn handle operation => exact operation.reporting session handle
  | inheritMetadata new => exact (new.plain_inheritMetadata session).reporting
  | frame handle operation => exact operation.reporting session handle
  | make name source => exact source.reporting session name
  | table handle operation => exact operation.reporting session handle
  | viewRows view force => exact (view.plain_rows session force).reporting
  | container population => exact (plain_bind _ _ (by simp) fun _ => by simp).reporting
  | randomSplit handle fractions seed =>
      exact (Container.plain_randomSplit fractions seed).reporting handle
  | starSchema population name => exact (StarSchema.plain_create population name).reporting
  | onStarSchema star operation => exact (StarSchema.plain_action operation).reporting star
  | timeSeries population name options =>
      exact (TimeSeries.plain_create population name options).reporting
  | pipeline handle operation => exact (Pipeline.careful_action session operation).reporting handle
  | pipelineReport id report => exact report.reporting session id
  | project operation => exact operation.reporting session
  | program words content =>
      intro world
      have grows := CommandLine.grows_perform words content world
      exact World.reports_of_grows grows

/--
Whatever the engine answers, an operation describes a view only after the engine told it when the
data frame under the view was last changed. Tables that are laid end to end are the exception.
-/
theorem described_views_are_checked (operation : Operation) (world : World) :
    ∃ events, (operation.after session world).trace = world.trace ++ events ∧
      ∀ earlier link command later, events = earlier ++ .sent link (.command command) :: later →
        command.field? "type_" ≠ some (.string "DataFrame.concat") →
        ∀ description, Json.Within description command →
          description.field? "type_" = some (.string "View") →
          ∃ frame, Json.RootOf description frame ∧
            Answered "DataFrame.last_change" frame Succeeded earlier := by
  obtain ⟨events, recorded, checked, -⟩ := operation.reporting session world
  refine ⟨events, recorded, ?_⟩
  intro earlier link command later same apart description within of_kind
  obtain ⟨frame, root, known | asked⟩ :=
    checked earlier link command later same apart description within of_kind
  · cases known
  · exact ⟨frame, root, asked⟩

def loansShown : View :=
  .ofTable (.frame { Pipeline.labelled with lastChange := "monday" })

def exported : World :=
  Operation.after {} (.table loansShown.table (.toCsv "loans.csv" {}))
    (Pipeline.answering [["Success!", "monday"], ["Success!"]])

theorem described_views_are_checked_exported :
    exported.trace.filterMap Pipeline.sentKind? = ["DataFrame.last_change", "View.to_csv"] ∧
      ∀ earlier link command later,
        exported.trace = earlier ++ .sent link (.command command) :: later →
        command.field? "type_" = some (.string "View.to_csv") →
        ∀ description, Json.Within description command →
          description.field? "type_" = some (.string "View") →
          ∃ frame, Json.RootOf description frame ∧
            Answered "DataFrame.last_change" frame Succeeded earlier := by
  refine ⟨by decide +kernel, ?_⟩
  intro earlier link command later same of_kind
  obtain ⟨events, recorded, checked⟩ := described_views_are_checked {}
    (.table loansShown.table (.toCsv "loans.csv" {}))
    (Pipeline.answering [["Success!", "monday"], ["Success!"]])
  exact checked earlier link command later (recorded.symm.trans same) (by simp [of_kind])

theorem DataFrame.concat_describes_first (name : String) (tables : List Table) (frame : DataFrame)
    (world last : World) (done : concat session name tables world = (.ok frame, last)) :
    ∃ later, last.trace = world.trace ++ .opened world.links.length session.port ::
      .sent world.links.length (.command (Session.command "DataFrame.concat" name
        [("data_frames_", .array (tables.map Table.toCommand))])) :: later := by
  unfold concat at done
  dsimp only at done
  -- the name and the number of tables are checked before anything is said
  generalize Validation.name name "name" = valid at done
  rcases valid with reason | ⟨⟩
  · obtain ⟨_, _, thrown, -⟩ := (bind_eq_ok _ _ _ _ _).mp done
    exact absurd thrown (throw_ne_ok _ _ _ _)
  dsimp only at done
  split at done
  · obtain ⟨_, _, thrown, -⟩ := (bind_eq_ok _ _ _ _ _).mp done
    exact absurd thrown (throw_ne_ok _ _ _ _)
  obtain ⟨⟨⟩, middle, sent, done⟩ := (bind_eq_ok _ _ _ _ _).mp done
  have exchange :=
    session.send_eq_ok _ _ _ _ ((adapt_eq_ok DataError.engine _ _ _ _).mp sent)
  have rest : Plain (Client.ofExcept (create name .empty) >>= (refresh session).finish) :=
    plain_bind _ _ (by simp) fun frame => by simp
  obtain ⟨later, recorded, -⟩ := (rest.grows middle).recorded
  refine ⟨.received world.links.length success :: later, ?_⟩
  have ended : last.trace = middle.trace ++ later := by rw [← recorded, done]
  rw [ended, exchange.recorded]
  simp [Session.exchanged]

/-- A view is laid out under a new name, and the engine answers everything. -/
theorem concat_describes_unchecked :
    ¬ ∀ (session : Session) (operation : Operation) (world : World),
      ∃ events, (operation.after session world).trace = world.trace ++ events ∧
        ∀ earlier link command later, events = earlier ++ .sent link (.command command) :: later →
          ∀ description, Json.Within description command →
            description.field? "type_" = some (.string "View") →
            ∃ frame, Json.RootOf description frame ∧
              Answered "DataFrame.last_change" frame Succeeded earlier := by
  intro checked
  let tables := [loansShown.table]
  let world := Pipeline.answering
    [["Success!"], ["\x7b\"target\": [\"default\"]\x7d"], ["Success!", "monday"]]
  have succeeds : (DataFrame.concat {} "all" tables world).1.isOk = true := by decide +kernel
  obtain ⟨frame, done⟩ : ∃ frame, (DataFrame.concat {} "all" tables world).1 = .ok frame := by
    cases outcome : (DataFrame.concat {} "all" tables world).1 with
    | ok frame => exact ⟨frame, rfl⟩
    | error cause =>
        rw [outcome] at succeeds
        cases succeeds
  obtain ⟨later, described⟩ :=
    DataFrame.concat_describes_first {} "all" tables frame world _ (Prod.ext done rfl)
  obtain ⟨events, recorded, checked⟩ := checked {} (.make "all" (.concat tables)) world
  obtain rfl := List.append_cancel_left (recorded.symm.trans described)
  have held : (Session.command "DataFrame.concat" "all"
      [("data_frames_", .array (tables.map Table.toCommand))]).field? "data_frames_" =
        some (.array [loansShown.table.toCommand]) := by
    rw [Session.command, Json.field?_record]
    rfl
  have shown : Json.Within loansShown.table.toCommand (Session.command "DataFrame.concat" "all"
      [("data_frames_", .array (tables.map Table.toCommand))]) :=
    Json.within_field _ _ _ _ held (.item _ _ _ (List.mem_singleton_self _) (.here _))
  -- nothing but a connection comes before the description
  obtain ⟨frame, -, before, link, command, behind, same, -⟩ :=
    checked [.opened 0 1708] 0 _ later rfl _ shown (Table.kind_toCommand _ _)
  have member : .sent link (.command command) ∈ [Event.opened 0 1708] := by simp [same]
  simp at member

end RelationalLearning
