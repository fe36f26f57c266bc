import RelationalLearning.Proofs.Operations
import RelationalLearning.Proofs.Table.Upfront

/-!
Local errors of all that is done to columns, tables and their groups. They come before anything is
sent, but for the checks that are named for an operation: these can fail after a reply.
-/

namespace RelationalLearning

open Client

variable {ε σ α : Type} {checks : List LateCheck} (session : Session)

def Client.error? (action : Client ε α) (world : World) : Option ε :=
  match (action world).1 with
  | .ok _ => none
  | .error cause => some cause

def Updating.error? (action : Updating σ ε α) (handle : σ) (world : World) : Option ε :=
  match (action.runOn handle world).1.1 with
  | .ok _ => none
  | .error cause => some cause

/-- Local errors come before anything is sent, or from one of the late checks. -/
def Orderly (checks : List LateCheck) (error? : World → Option DataError) (after : World → World) :
    Prop :=
  ∀ world cause, error? world = some cause → cause.isLocal = true →
    World.Silent world (after world) ∨
      ∃ events, (after world).trace = world.trace ++ events ∧
        ∃ check ∈ checks, check.Fails events cause

theorem Client.error?_eq_some {action : Client ε α} {world : World} {cause : ε} :
    action.error? world = some cause ↔ (action world).1 = .error cause := by
  unfold Client.error?
  split
  next value done => simp [done]
  next reason failed => simp [failed]

theorem Client.Runs.orderly {good : List Event → α → Prop} {action : Client DataError α}
    (runs : Runs good (Timely checks []) action) :
    Orderly checks action.error? action.after := by
  intro world cause failed isLocal
  obtain ⟨events, recorded, -, wrong⟩ := runs world
  rcases wrong cause (Client.error?_eq_some.mp failed) isLocal with silent | late
  · exact .inl ⟨events, recorded, silent⟩
  · exact .inr ⟨events, recorded, late⟩

theorem Updating.error?_eq (action : Updating σ ε α) (handle : σ) :
    action.error? handle = (action.on handle).error? := by
  funext world
  unfold Updating.error? Client.error? Updating.on
  rcases action.runOn handle world with ⟨⟨_ | _, _⟩, _⟩ <;> rfl

theorem Updating.orderly {good : List Event → α × σ → Prop} {action : Updating σ DataError α}
    (handle : σ) (runs : Client.Runs good (Timely checks []) (action.on handle)) :
    Orderly checks (action.error? handle) (action.after handle) := by
  rw [action.error?_eq]
  exact runs.orderly

namespace Column

def Operation.error? (session : Session) (column : Column) :
    Operation → World → Option DataError
  | .rows => (column.rows session).error?
  | .content start length => (column.content session start length).error?
  | .entry index => (column.entry session index).error?
  | .batches => (column.batches session).error?
  | .floatEntries => (column.floatEntries session).error?
  | .textEntries => (column.textEntries session).error?
  | .truthEntries => (column.truthEntries session).error?
  | .uniqueFloats => (column.uniqueFloats session).error?
  | .uniqueTexts => (column.uniqueTexts session).error?
  | .subroles => (column.subroles session).error?
  | .unit => (column.unit session).error?
  | .withAppendedSubroles added => (column.withAppendedSubroles session added).error?
  | .aggregate function label => (column.aggregate session function label).error?
  | .select selection => (column.select session selection).error?

def Operation.lateChecks : Operation → List LateCheck
  | .entry _ => [.bounds]
  | .select selection => selection.lateChecks
  | .floatEntries | .textEntries | .truthEntries | .uniqueFloats | .uniqueTexts => [.entries]
  | .withAppendedSubroles _ => [.subroles]
  | .rows | .content _ _ | .batches | .subroles | .unit | .aggregate _ _ => []

theorem Operation.orderly (column : Column) (operation : Operation) :
    Orderly operation.lateChecks (operation.error? session column)
      (operation.after session column) := by
  cases operation with
  | rows => exact (column.remote_rows session).timely.orderly
  | content start length => exact (column.remote_content session start length).timely.orderly
  | entry index => exact (column.upfront_entry session (by simp [lateChecks]) index).orderly
  | batches => exact (column.remote_batches session).timely.orderly
  | floatEntries => exact (column.upfront_floatEntries session (by simp [lateChecks])).orderly
  | textEntries => exact (column.upfront_textEntries session (by simp [lateChecks])).orderly
  | truthEntries => exact (column.upfront_truthEntries session (by simp [lateChecks])).orderly
  | uniqueFloats => exact (column.upfront_uniqueFloats session (by simp [lateChecks])).orderly
  | uniqueTexts => exact (column.upfront_uniqueTexts session (by simp [lateChecks])).orderly
  | subroles => exact (column.remote_subroles session).timely.orderly
  | unit => exact (column.remote_unit session).timely.orderly
  | withAppendedSubroles added =>
      exact (column.upfront_withAppendedSubroles session (by simp [lateChecks]) added
        mute_nil).orderly
  | aggregate function label => exact (column.remote_aggregate session function label).timely.orderly
  | select selection => exact (column.upfront_select session selection mute_nil).orderly

end Column

def StoredColumn.Operation.error? (session : Session) (column : StoredColumn) :
    Operation → World → Option DataError
  | .setSubroles subroles => (column.setSubroles session subroles).error?
  | .setUnit unit => (column.setUnit session unit).error?

theorem StoredColumn.Operation.orderly (column : StoredColumn) (operation : Operation) :
    Orderly [] (operation.error? session column) (operation.after session column) := by
  cases operation with
  | setSubroles subroles =>
      exact (column.upfront_setSubroles session subroles fun cause _ =>
        timely_of_mute cause mute_nil).orderly
  | setUnit unit => exact (column.remote_setUnit session unit).timely.orderly

namespace DataFrame

def Operation.error? (session : Session) (frame : DataFrame) :
    Operation → World → Option DataError
  | .rows => (frame.rows session).error?
  | .bytes => (frame.bytes session).error?
  | .askLastChange => (frame.askLastChange session).error?
  | .refresh => (DataFrame.refresh session).error? frame
  | .add new => (DataFrame.add session new).error? frame
  | .setRole names role timeFormats =>
    (DataFrame.setRole session names role timeFormats).error? frame
  | .setSubroles names subroles append => (frame.setSubroles session names subroles append).error?
  | .setUnit names unit forComparison => (frame.setUnit session names unit forComparison).error?
  | .removeColumn name => (DataFrame.removeColumn session name).error? frame
  | .delete onlyMemory => (frame.delete session onlyMemory).error?
  | .save => (frame.save session).error?
  | .load => (DataFrame.load session).error? frame
  | .freeze => (frame.freeze session).error?
  | .copy name => (frame.copy session name).error?
  | .readCsv paths append options => (DataFrame.readCsv session paths append options).error? frame
  | .readJson document append timeFormats =>
    (DataFrame.readJson session document append timeFormats).error? frame
  | .readParquet path append => (DataFrame.readParquet session path append).error? frame
  | .readArrow table append => (DataFrame.readArrow session table append).error? frame
  | .readView view append => (DataFrame.readView session view append).error? frame
  | .toCsv path options => (frame.toCsv session path options).error?

/-- New columns that leave something open are asked about before they are looked at. -/
def Operation.lateChecks (frame : DataFrame) : Operation → List LateCheck
  | .add new => if new.asks then [.added new, .subroles, .roles] else [.roles]
  | .setRole names _ _ => [.columns frame names, .named names, .subroles, .roles]
  | .setSubroles _ _ append => if append then [.subroles] else []
  | .rows | .bytes | .askLastChange | .setUnit _ _ _ => []
  | .delete _ | .save | .freeze | .toCsv _ _ => []
  | .refresh | .removeColumn _ | .load | .copy _ => [.roles]
  | .readCsv _ _ _ | .readJson _ _ _ | .readParquet _ _ | .readArrow _ _ | .readView _ _ => [.roles]

theorem Operation.orderly (frame : DataFrame) (operation : Operation) :
    Orderly (operation.lateChecks frame) (operation.error? session frame)
      (operation.after session frame) := by
  have roles : LateCheck.roles ∈ [LateCheck.roles] := by simp
  cases operation with
  | rows | bytes => exact (frame.remote_askNumber session _ _).timely.orderly
  | askLastChange => exact (frame.remote_askLastChange session).timely.orderly
  | refresh => exact Updating.orderly frame (frame.upfront_refresh session roles)
  | add new =>
      cases asks : new.asks with
      | false =>
          exact Updating.orderly frame
            (frame.upfront_addClosed session new asks mute_nil (by simp [lateChecks, asks]))
      | true =>
          exact Updating.orderly frame (frame.upfront_add session new asks
            (by simp [lateChecks, asks]) (by simp [lateChecks, asks]) (by simp [lateChecks, asks]))
  | setRole names role formats =>
      exact Updating.orderly frame (frame.upfront_setRole session names role formats
        (by simp [lateChecks]) (by simp [lateChecks]) (by simp [lateChecks])
        (by simp [lateChecks]))
  | setSubroles names subroles append =>
      exact (frame.upfront_setSubroles session names subroles append mute_nil
        fun appended => by simp [lateChecks, appended]).orderly
  | setUnit names unit forComparison =>
      exact (frame.upfront_setUnit session names unit forComparison mute_nil).orderly
  | removeColumn name => exact Updating.orderly frame (frame.upfront_removeColumn session name roles)
  | load => exact Updating.orderly frame (frame.upfront_load session roles)
  | copy name => exact (upfront_concat session name _ mute_nil roles).orderly
  | readCsv paths append options =>
      exact Updating.orderly frame
        (frame.upfront_readCsv session paths append options mute_nil roles)
  | readJson document append formats =>
      exact Updating.orderly frame
        (frame.upfront_readJson session document append formats mute_nil roles)
  | readParquet path append =>
      exact Updating.orderly frame (frame.upfront_readParquet session path append mute_nil roles)
  | readArrow table append =>
      exact Updating.orderly frame (frame.upfront_readArrow session table append mute_nil roles)
  | readView view append =>
      exact Updating.orderly frame (frame.upfront_readView session view append roles)
  | delete | save | freeze | toCsv => exact (session.emits_send _ trivial).remote.timely.orderly

def Source.error? (session : Session) (name : String) : Source → World → Option DataError
  | .concat tables => (DataFrame.concat session name tables).error?
  | .view shown => (DataFrame.ofView session name shown).error?
  | .localTable source table roles only =>
    (DataFrame.ofLocalTable session name source table roles only).error?
  | .csvFile path options roles => (DataFrame.ofCsvFile session name path options roles).error?
  | .records entries roles only => (DataFrame.ofRecords session name entries roles only).error?
  | .arrow table roles only => (DataFrame.ofArrow session name table roles only).error?

theorem Source.orderly (name : String) (source : Source) :
    Orderly [.roles] (source.error? session name) (source.after session name) := by
  have roles : LateCheck.roles ∈ [LateCheck.roles] := by simp
  cases source with
  | concat tables => exact (upfront_concat session name tables mute_nil roles).orderly
  | view shown => exact (upfront_ofView session name shown mute_nil roles).orderly
  | localTable source table given only =>
      exact (upfront_ofLocalTable session name source table given only mute_nil roles).orderly
  | csvFile path options given =>
      exact (upfront_ofCsvFile session name path options given mute_nil roles).orderly
  | records entries given only =>
      exact (upfront_ofRecords session name entries given only mute_nil roles).orderly
  | arrow table given only =>
      exact (upfront_ofArrow session name table given only mute_nil roles).orderly

end DataFrame

namespace Table

def Operation.error? (session : Session) (table : Table) : Operation → World → Option DataError
  | .check => (table.check session).error?
  | .rows => (table.rows session).error?
  | .refresh => (Table.refresh session).error? table
  | .toCsv path options => (table.toCsv session path options).error?
  | .select selection => (table.select session selection).error?
  | .withRole names role timeFormats => (table.withRole session names role timeFormats).error?
  | .withSubroles names subroles append => (table.withSubroles session names subroles append).error?
  | .withUnit names unit forComparison => (table.withUnit session names unit forComparison).error?
  | .makeTargetColumns name => (table.makeTargetColumns session name).error?

def Operation.lateChecks : Operation → List LateCheck
  | .check | .rows | .toCsv _ _ => []
  | .refresh => [.roles]
  | .select selection => selection.lateChecks
  | .withRole names _ _ | .withUnit names _ _ => [.named names, .subroles]
  | .withSubroles names _ append => if append then [.named names, .subroles] else [.named names]
  | .makeTargetColumns name => [.targets name, .entries]

theorem Operation.orderly (table : Table) (proper : table.Proper) (operation : Operation) :
    Orderly operation.lateChecks (operation.error? session table)
      (operation.after session table) := by
  cases operation with
  | check => exact (table.remote_check session).timely.orderly
  | rows => exact (table.remote_rows session proper).timely.orderly
  | refresh =>
      have refreshed : Client.Runs (fun _ _ => True) (Timely [.roles] [])
          ((Table.refresh session).on table) := by
        rw [Table.refresh, Updating.on_onPart]
        exact runs_map _ _ (table.root.upfront_refresh session (by simp)).upfront
      exact Updating.orderly table refreshed
  | toCsv path options => exact (table.remote_toCsv session path options).timely.orderly
  | select selection => exact (table.upfront_select session selection proper mute_nil).orderly
  | withRole names role formats =>
      exact (table.upfront_withRole session names role formats proper mute_nil
        (by simp [lateChecks]) (by simp [lateChecks])).orderly
  | withSubroles names subroles append =>
      exact (table.upfront_withSubroles session names subroles append proper mute_nil
        (by cases append <;> simp [lateChecks]) fun appended => by simp [lateChecks, appended]).orderly
  | withUnit names unit forComparison =>
      exact (table.upfront_withUnit session names unit forComparison proper mute_nil
        (by simp [lateChecks]) (by simp [lateChecks])).orderly
  | makeTargetColumns name =>
      exact (table.upfront_makeTargetColumns session name proper mute_nil (by simp [lateChecks])
        (by simp [lateChecks])).orderly

end Table

theorem Container.quiet_create (population : Option Table) :
    Quiet (create population : Client DataError Container) :=
  emits_bind _ _ _ _ emits_freshName fun _ _ => emits_pure _ _ trivial

theorem Container.quiet_randomSplit (fractions : List (String × Float)) (seed : Nat) :
    Updating.Emits 0 (fun _ => False) (fun _ => True) (randomSplit fractions seed) := by
  unfold randomSplit
  dsimp only
  split
  · exact Updating.emits_bind _ _ _ _ (Updating.quiet_throw _) fun _ => False.elim
  · apply Updating.emits_bind _ _ _ _ Updating.emits_handle
    intro container _
    apply Updating.emits_bind _ _ _ _ (Updating.emits_ofClient _ _ (emits_log _ _))
    exact fun _ _ => Updating.quiet_ofState _

namespace StarSchema

theorem quiet_create (population : Table) (name : Option String) :
    Quiet (create population name : Client DataError StarSchema) :=
  emits_bind _ _ _ _ (Container.quiet_create (some population)) fun _ _ => emits_pure _ _ trivial

theorem quiet_joinKept (table : Table) (name : Option String) (options : JoinOptions) :
    Updating.Emits 0 (fun _ => False) (fun _ => True) (joinKept table name options) := by
  apply Updating.emits_bind _ _ _ _ Updating.emits_handle
  intro star _
  apply Updating.emits_bind (fun _ => True) _ _ _ (Updating.emits_ofExcept _ _ fun _ _ => trivial)
  intro joined _
  apply Updating.emits_bind _ _ _ _ (Updating.emits_replace _)
  intro _ _
  apply Updating.emits_bind _ _ _ _ (Updating.emits_ofClient _ _ (emits_log _ _))
  exact fun _ _ => Updating.emits_ofExcept _ (.ok joined.1) fun _ _ => trivial

theorem quiet_onContainer (action : Updating Container DataError α)
    (quiet : Updating.Emits 0 (fun _ => False) (fun _ => True) action) :
    Updating.Emits 0 (fun _ => False) (fun _ => True) (onContainer action) :=
  fun star world low => ⟨(quiet star.container world low).1, fun _ _ => trivial⟩

theorem quiet_action (operation : Operation) :
    Updating.Emits 0 (fun _ => False) (fun _ => True) operation.action := by
  cases operation with
  | join table name options =>
      apply Updating.emits_bind _ _ _ _ (quiet_joinKept table name options)
      exact fun _ _ => Updating.emits_ofExcept _ (.ok ()) fun _ _ => trivial
  | split masks => exact quiet_onContainer _ (Updating.quiet_ofState (Container.split masks))
  | randomSplit fractions seed =>
      exact quiet_onContainer _ (Container.quiet_randomSplit fractions seed)
  | addSubset name table =>
      apply quiet_onContainer
      apply Updating.emits_bind _ _ _ _ Updating.emits_handle
      intro container _
      apply Updating.emits_bind (fun _ => True) _ _ _
        (Updating.emits_ofExcept _ _ fun _ _ => trivial)
      exact fun changed _ => Updating.emits_replace changed
  | freeze =>
      apply quiet_onContainer
      apply Updating.emits_bind _ _ _ _ Updating.emits_handle
      exact fun container _ => Updating.emits_replace container.freeze

end StarSchema

theorem TimeSeries.quiet_create (population : Table) (name : Option String)
    (options : JoinOptions) : Quiet (create population name options) := by
  unfold create
  split
  · apply emits_bind (fun _ => False) _ _ _ (emits_throw _ _)
    exact fun _ => False.elim
  · apply emits_bind _ _ _ _ (StarSchema.quiet_create population _)
    intro star _ world low
    exact ⟨(StarSchema.quiet_joinKept population name options star world low).1, fun _ _ => trivial⟩

def Operation.dataError? (session : Session) : Operation → World → Option DataError
  | .column handle operation => operation.error? session handle
  | .storedColumn handle operation => operation.error? session handle
  | .inheritMetadata new => (new.inheritMetadata session).error?
  | .frame handle operation => operation.error? session handle
  | .make name source => source.error? session name
  | .table handle operation => operation.error? session handle
  | .viewRows view force => (view.rows session force).error?
  | .container population => (Container.create population : Client DataError Container).error?
  | .randomSplit handle fractions seed => (Container.randomSplit fractions seed).error? handle
  | .starSchema population name =>
    (StarSchema.create population name : Client DataError StarSchema).error?
  | .onStarSchema star operation => operation.action.error? star
  | .timeSeries population name options => (TimeSeries.create population name options).error?
  | .session _ | .pipeline _ _ | .pipelineReport _ _ | .project _ | .program _ _ => fun _ => none

/-- The checks of an operation that can fail after something was sent. -/
def Operation.lateChecks : Operation → List LateCheck
  | .column _ operation => operation.lateChecks
  | .frame handle operation => operation.lateChecks handle
  | .make _ _ => [.roles]
  | .table _ operation => operation.lateChecks
  | _ => []

def Operation.OnProper : Operation → Prop
  | .table handle _ => handle.Proper
  | .viewRows view _ => view.table.Proper
  | _ => True

theorem Operation.orderly (operation : Operation) (proper : operation.OnProper) :
    Orderly operation.lateChecks (operation.dataError? session) (operation.after session) := by
  cases operation with
  | column handle operation => exact operation.orderly session handle
  | storedColumn handle operation => exact operation.orderly session handle
  | inheritMetadata new =>
      by_cases family : new.column.family = .boolean
      · have kept : new.inheritMetadata session = pure new := if_pos family
        have upfront : Upfront [] [] (new.inheritMetadata session) := by
          rw [kept]
          exact runs_pure new trivial
        exact upfront.orderly
      · exact (new.remote_inheritMetadata session family).timely.orderly
  | frame handle operation => exact operation.orderly session handle
  | make name source => exact source.orderly session name
  | table handle operation => exact operation.orderly session handle proper
  | viewRows view force => exact (view.remote_rows session force proper).timely.orderly
  | container population => exact ((Container.quiet_create population).timely mute_nil).orderly
  | randomSplit handle fractions seed =>
      exact Updating.orderly handle
        ((Container.quiet_randomSplit fractions seed).timely handle mute_nil)
  | starSchema population name =>
      exact ((StarSchema.quiet_create population name).timely mute_nil).orderly
  | onStarSchema star operation =>
      exact Updating.orderly star ((StarSchema.quiet_action operation).timely star mute_nil)
  | timeSeries population name options =>
      exact ((TimeSeries.quiet_create population name options).timely mute_nil).orderly
  | session | pipeline | pipelineReport | project | program =>
      intro world cause failed
      cases failed

/--
Local errors come before anything is sent, whatever the engine answers. The exceptions are named:
an operation can look again at what it was told in the same run, at a number of rows, at roles,
subroles or entries, or at the name of a column that it had to ask about first.
-/
theorem local_errors_come_first (operation : Operation) (proper : operation.OnProper)
    (world : World) (cause : DataError) (failed : operation.dataError? session world = some cause)
    (isLocal : cause.isLocal = true) :
    World.Silent world (operation.after session world) ∨
      ∃ events, (operation.after session world).trace = world.trace ++ events ∧
        ∃ check ∈ operation.lateChecks, check.Fails events cause :=
  operation.orderly session proper world cause failed isLocal

def borrowed : DataFrame where
  name := "loans"
  roles := { joinKey := ["id"], numerical := ["amount"] }

def nameless : NewColumn where
  column := .floatColumn "amount" .numerical "loans"
  name := " "
  subroles := ["exclude mapping"]

def namelessAdded : Operation := .frame borrowed (.add nameless)

def misplaced : Operation := .frame borrowed (.setUnit ["rate"] "EUR" false)

def knowing : World := Pipeline.answering [["Success!", "EUR"]]

theorem sent_nameless : (namelessAdded.after {} knowing).trace.filterMap Pipeline.sentKind? =
    ["FloatColumn.get_unit"] := by
  decide +kernel

theorem nameless_not_silent : ¬ World.Silent knowing (namelessAdded.after {} knowing) := by
  intro silent
  obtain ⟨events, recorded, quiet⟩ := silent
  obtain ⟨event, member, sent⟩ : ∃ event ∈ (namelessAdded.after {} knowing).trace,
      Pipeline.sentKind? event = some "FloatColumn.get_unit" := by
    rw [← List.mem_filterMap, sent_nameless]
    exact List.mem_singleton_self _
  rw [recorded] at member
  cases event with
  | sent link message => exact quiet link message member
  | _ => cases sent

/-- The first operation says nothing; the second fails late. -/
theorem local_errors_come_first_borrowed :
    World.Silent knowing (misplaced.after {} knowing) ∧
      ∃ events, (namelessAdded.after {} knowing).trace = events ∧
        ∃ check ∈ namelessAdded.lateChecks, check.Fails events (.type "'name' cannot be empty") := by
  constructor
  · rcases local_errors_come_first {} misplaced trivial knowing
      (.value "No column called 'rate' found.") (by decide +kernel) rfl with
      silent | ⟨_, _, _, member, _⟩
    · exact silent
    · cases member
  · rcases local_errors_come_first {} namelessAdded trivial knowing
      (.type "'name' cannot be empty") (by decide +kernel) rfl with silent | ⟨events, told, late⟩
    · exact absurd silent nameless_not_silent
    · exact ⟨events, told, late⟩

/-- An operation can be refused for the name of a column after it sent a question. -/
theorem name_is_checked_late : ¬ ∀ session operation world cause,
    Operation.OnProper operation → operation.dataError? session world = some cause →
      cause.isLocal = true →
        World.Silent world (operation.after session world) ∨ ∃ reason, cause = .index reason := by
  intro first
  rcases first {} namelessAdded knowing (.type "'name' cannot be empty") trivial
    (by decide +kernel) rfl with silent | ⟨reason, same⟩
  · exact nameless_not_silent silent
  · cases same

end RelationalLearning
