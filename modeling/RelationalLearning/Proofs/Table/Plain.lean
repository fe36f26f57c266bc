import RelationalLearning.Proofs.Column.Plain

namespace RelationalLearning

open Client

variable (session : Session)

@[simp]
theorem NewColumn.plain_inheritMetadata (new : NewColumn) :
    Plain (new.inheritMetadata session) := by
  have unit (subroles : List String) : Plain (do
      let unit ← if new.unit.isEmpty then new.column.unit session else pure new.unit
      return { new with subroles, unit } : Client DataError NewColumn) :=
    plain_ite _ _ _ (plain_bind _ _ (by simp) fun _ => by simp) (by simp)
  refine plain_ite _ _ _ (plain_pure _) (plain_ite _ _ _ ?_ ?_)
  · exact plain_bind _ _ (by simp) unit
  · exact plain_bind _ _ (plain_pure _) unit

@[simp]
theorem Column.plain_movedTo (column : Column) (name : String) (role : Role)
    (timeFormats : List String) : Plain (column.movedTo session name role timeFormats) := by
  unfold Column.movedTo
  dsimp only
  split
  · exact plain_bind _ _ (by simp) fun _ => plain_bind _ _ (by simp) fun _ => by simp
  · exact plain_bind _ _ (by simp) fun _ => plain_bind _ _ (by simp) fun _ => by simp

namespace DataFrame

variable (frame : DataFrame)

@[simp]
theorem plain_ask (kind : String) (fields : List (String × Json)) (other : kind ≠ "View")
    (each : ∀ field ∈ fields, Json.CoveredField [] field) :
    Plain (session.ask (frame.command kind fields)) :=
  session.plain_ask _ _ _ other each

@[simp]
theorem plain_send (kind : String) (fields : List (String × Json)) (other : kind ≠ "View")
    (each : ∀ field ∈ fields, Json.CoveredField [] field) :
    Plain (session.send (frame.command kind fields)) :=
  session.plain_send _ _ _ other each

theorem plain_askNumber (kind what : String) (other : kind ≠ "View") :
    Plain (frame.askNumber session kind what) := by
  refine plain_bind _ _ ?_ fun link => plain_bind _ _ (by simp) fun reply => ?_
  · simp [command, other]
  · split
    · simp
    · simp

@[simp]
theorem plain_rows : Plain (frame.rows session) := frame.plain_askNumber session _ _ (by decide)

@[simp]
theorem plain_bytes : Plain (frame.bytes session) := frame.plain_askNumber session _ _ (by decide)

@[simp]
theorem plain_askLastChange : Plain (frame.askLastChange session) :=
  plain_bind _ _ (by simp) fun _ => plain_bind _ _ (by simp) fun _ => by simp

@[simp]
theorem plain_refresh : Updating.Plain (refresh session) := by
  refine Updating.plain_bind _ _ (by simp) fun frame => ?_
  refine Updating.plain_bind _ _ (Updating.plain_liftClient _ ?_) fun reply => ?_
  · exact plain_bind _ _ (by simp) fun _ => by simp
  refine Updating.plain_bind _ _ (by simp) fun roles => ?_
  refine Updating.plain_bind _ _ (by simp) fun _ => ?_
  refine Updating.plain_bind _ _ (by simp) fun change => ?_
  exact Updating.plain_bind _ _ (by simp) fun _ => by simp

@[simp]
theorem plain_addResolved (added : AddedColumn) : Updating.Plain (addResolved session added) := by
  refine Updating.plain_bind _ _ (by simp) fun frame => ?_
  refine Updating.plain_bind _ _ (Updating.plain_liftClient _ ?_) fun issues => ?_
  · refine plain_bind _ _ ?_ fun link => plain_bind _ _ (by simp) fun issues => ?_
    · have other : (if added.column.family = .string then "DataFrame.add_categorical_column"
          else "DataFrame.add_column") ≠ "View" := by split <;> decide
      simp [other, Column.covered_toCommand]
    refine plain_bind _ _ (by simp) fun _ => plain_bind _ _ (plain_forIn _ _ fun issue => ?_) ?_
    · exact plain_bind _ _ (by simp) fun _ => by simp
    · simp
  · exact Updating.plain_bind _ _ (by simp) fun _ => by simp

@[simp]
theorem plain_add (new : NewColumn) : Updating.Plain (add session new) :=
  Updating.plain_bind _ _
    (Updating.plain_liftClient _ (plain_bind _ _ (by simp) fun _ => by simp)) fun _ => by simp

@[simp]
theorem plain_setRoleOf (role : Role) (timeFormats names : List String) :
    Updating.Plain (setRoleOf session role timeFormats names) := by
  induction names with
  | nil => exact Updating.plain_pure _
  | cons name names ih =>
      refine Updating.plain_bind _ _ (by simp) fun frame => ?_
      refine Updating.plain_bind _ _ (Updating.plain_liftClient _ ?_) fun added => ?_
      · exact plain_bind _ _ (by simp) fun _ => by simp
      refine Updating.plain_bind _ _ (by simp) fun issues => ?_
      exact Updating.plain_bind _ _ ih fun _ => by simp

@[simp]
theorem plain_setRole (names : List String) (role : Role) (timeFormats : List String) :
    Updating.Plain (setRole session names role timeFormats) :=
  Updating.plain_bind _ _ (by simp) fun _ => Updating.plain_bind _ _ (by simp) fun _ => by simp

@[simp]
theorem plain_setSubroles (names subroles : List String) (append : Bool) :
    Plain (frame.setSubroles session names subroles append) := by
  refine plain_bind _ _ (by simp) fun _ => plain_bind _ _ (by simp) fun _ => ?_
  refine plain_bind _ _ (plain_forIn _ _ fun name => ?_) fun _ => by simp
  have sets (column : StoredColumn) (subroles : List String) : Plain (do
      column.setSubroles session subroles
      return .yield PUnit.unit : Client DataError (ForInStep PUnit)) :=
    plain_bind _ _ (by simp) fun _ => by simp
  refine plain_bind _ _ (by simp) fun column => plain_ite _ _ _ ?_ ?_
  · exact plain_bind _ _ (by simp) fun _ => plain_bind _ _ (plain_pure _) (sets column)
  · exact plain_bind _ _ (plain_pure _) (sets column)

@[simp]
theorem plain_setUnit (names : List String) (unit : String) (forComparison : Bool) :
    Plain (frame.setUnit session names unit forComparison) := by
  refine plain_bind _ _ (by simp) fun _ => ?_
  refine plain_bind _ _ (plain_forIn _ _ fun name => ?_) fun _ => by simp
  exact plain_bind _ _ (by simp) fun column => plain_bind _ _ (by simp) fun _ => by simp

theorem plain_change (kind name : String) (fields : List (String × Json)) (other : kind ≠ "View")
    (each : ∀ field ∈ fields, Json.CoveredField [] field) :
    Updating.Plain (change session (Session.command kind name fields)) :=
  Updating.plain_bind _ _
    (Updating.plain_ofClient _ ((plain_liftData _).mpr (session.plain_send _ _ _ other each)))
    fun _ => by simp

@[simp]
theorem plain_removeColumn (name : String) : Updating.Plain (removeColumn session name) := by
  refine Updating.plain_bind _ _ (by simp) fun frame => Updating.plain_unless _ _ _ ?_
  exact plain_change session _ _ _ (by decide) (by simp)

@[simp]
theorem plain_delete (onlyMemory : Bool) : Plain (frame.delete session onlyMemory) := by
  simp [delete]

@[simp]
theorem plain_save : Plain (frame.save session) := by
  simp [save]

@[simp]
theorem plain_load : Updating.Plain (load session) :=
  Updating.plain_bind _ _ (by simp) fun frame =>
    plain_change session _ frame.name _ (by decide) (by simp)

@[simp]
theorem plain_freeze : Plain (frame.freeze session) := by
  simp [freeze]

/-- Tables are laid end to end unseen, so what is sent for that is left out of account. -/
@[simp]
theorem plain_concat (name : String) (tables : List Table) :
    Plain (concat session name tables) := by
  have sends : Plain (session.send (Session.command "DataFrame.concat" name
      [("data_frames_", .array (tables.map Table.toCommand))])) :=
    (session.emits_send _ (.inl (Session.kind_command _ _ _ (by simp)))).plain
  have last : Plain (do
      liftM (session.send (Session.command "DataFrame.concat" name
        [("data_frames_", .array (tables.map Table.toCommand))]))
      let frame ← Client.ofExcept (create name .empty)
      (refresh session).finish frame : Client DataError DataFrame) :=
    plain_bind _ _ (by simpa using sends) fun _ => plain_bind _ _ (by simp) fun _ => by simp
  unfold concat
  dsimp only
  split
  · exact plain_bind _ _ (plain_throw _) fun _ => plain_unless _ _ _ last
  · exact plain_bind _ _ (plain_pure _) fun _ => plain_unless _ _ _ last

@[simp]
theorem plain_copy (name : String) : Plain (frame.copy session name) := plain_concat session name _

theorem covered_ingestion (kind : String) (append : Bool) (fields : List (String × Json))
    (document : Json) (other : kind ≠ "View") (each : ∀ field ∈ fields, Json.CoveredField [] field)
    (made : frame.ingestion kind append fields = .ok document) :
    Message.Covered [] (.command document) := by
  unfold ingestion at made
  split at made
  next => cases made
  next =>
    obtain rfl := Except.ok.inj made
    apply Message.covered_command _ _ _ other
    simp only [List.forall_mem_append]
    exact ⟨by simp, each⟩

theorem emits_ingest (kind : String) (append : Bool) (fields : List (String × Json))
    (other : kind ≠ "View") (each : ∀ field ∈ fields, Json.CoveredField [] field) :
    Updating.Emits 0 (Message.Covered []) (fun document => Message.Covered [] (.command document))
      (ingest kind append fields) := by
  refine Updating.emits_bind _ _ _ _ Updating.emits_handle fun frame _ => ?_
  exact Updating.emits_ofExcept _ _ fun document =>
    frame.covered_ingestion kind append fields document other each

theorem plain_bring (kind : String) (append : Bool) (fields : List (String × Json))
    (next : Json → Updating DataFrame DataError Unit) (other : kind ≠ "View")
    (each : ∀ field ∈ fields, Json.CoveredField [] field)
    (sends : ∀ document, Message.Covered [] (.command document) → Updating.Plain (next document)) :
    Updating.Plain (ingest kind append fields >>= next) :=
  (Updating.emits_bind _ _ _ _ (emits_ingest kind append fields other each)
    fun document covered => (sends document covered).emits).plain

theorem plain_changeBy (document : Json) (covered : Message.Covered [] (.command document)) :
    Updating.Plain (change session document) :=
  Updating.plain_bind _ _ (Updating.plain_ofClient _
    ((plain_liftData _).mpr (session.emits_send document covered).plain)) fun _ => by simp

@[simp]
theorem plain_readCsv (paths : List String) (append : Bool) (options : CsvOptions) :
    Updating.Plain (readCsv session paths append options) := by
  refine plain_bring _ _ _ _ (by decide) ?_ (plain_changeBy session)
  cases options.names <;> simp

@[simp]
theorem plain_readParquet (path : String) (append : Bool) :
    Updating.Plain (readParquet session path append) :=
  plain_bring _ _ _ _ (by decide) (by simp) (plain_changeBy session)

@[simp]
theorem plain_readJson (document : String) (append : Bool) (timeFormats : List String) :
    Updating.Plain (readJson session document append timeFormats) := by
  refine plain_bring _ _ _ _ (by decide) (by simp) fun command covered => ?_
  refine Updating.plain_bind _ _ (Updating.plain_ofClient _ ?_) fun _ => by simp
  have asks := (session.emits_ask command covered).plain
  exact plain_bind _ _ (by simpa using asks) fun _ => plain_bind _ _ (by simp) fun _ => by simp

@[simp]
theorem plain_readArrow (table : Arrow.Table) (append : Bool) :
    Updating.Plain (readArrow session table append) := by
  refine plain_bring _ _ _ _ (by decide) (by simp) fun command covered => ?_
  refine Updating.plain_bind _ _ (Updating.plain_ofClient _ ?_) fun _ => by simp
  have asks := (session.emits_ask command covered).plain
  exact plain_bind _ _ (by simpa using asks) fun _ => plain_bind _ _ (by simp) fun _ => by simp

@[simp]
theorem plain_ofLocalTable (name source : String) (table : LocalTable) (roles : Option Roles)
    (only : Bool) : Plain (ofLocalTable session name source table roles only) :=
  plain_bind _ _ (by simp) fun _ => plain_bind _ _ (by simp) fun _ => by simp

@[simp]
theorem plain_ofCsvFile (name path : String) (options : CsvOptions) (roles : Option Roles) :
    Plain (ofCsvFile session name path options roles) :=
  plain_bind _ _ (by simp) fun _ => plain_bind _ _ (by simp) fun _ => by simp

@[simp]
theorem plain_ofRecords (name : String) (records : List Records.Record) (roles : Option Roles)
    (only : Bool) : Plain (ofRecords session name records roles only) :=
  plain_bind _ _ (by simp) fun _ => by simp

@[simp]
theorem plain_ofArrow (name : String) (table : Arrow.Table) (roles : Option Roles) (only : Bool) :
    Plain (ofArrow session name table roles only) :=
  plain_bind _ _ (by simp) fun _ => by simp

@[simp]
theorem plain_toCsv (path : String) (options : CsvOptions) :
    Plain (frame.toCsv session path options) := by
  simp [toCsv]

end DataFrame

namespace View

variable (view : View)

@[simp]
theorem plain_check : Plain (view.check session) :=
  plain_bind _ _ (by simp) fun _ =>
    plain_ite _ _ _ (by simp) (plain_bind _ _ (by simp) fun _ => by simp)

@[simp]
theorem plain_rows (force : Bool) : Plain (view.rows session force) := by
  refine plain_bind _ _ (by simp) fun _ => plain_bind _ _ (by simp) fun columns => ?_
  refine plain_bind _ _ ?_ fun _ => plain_bind _ _ (by simp) fun _ => by simp
  simp [Column.covered_toCommand]

end View

namespace Table

variable (table : Table)

@[simp]
theorem plain_rows : Plain (table.rows session) := by
  cases table with
  | frame data => exact plain_bind _ _ (by simp) fun _ => by simp
  | view base layer => exact View.plain_rows session ⟨base, layer⟩ true

@[simp]
theorem plain_refresh : Updating.Plain (refresh session) := by
  simp [refresh]

@[simp]
theorem plain_select (selection : Selection) : Plain (table.select session selection) := by
  refine plain_bind _ _ (selection.plain_resolve _ (by simp)) fun rows => ?_
  dsimp only
  split
  · exact plain_bind _ _ (by simp) fun _ => plain_ite _ _ _ (by simp) (by simp)
  · simp

theorem plain_addEach (make : Table → String → Client DataError AddedColumn)
    (each : ∀ table name, Plain (make table name)) (names : List String) (below : View) :
    Plain (addEach make below names) := by
  induction names generalizing below with
  | nil => exact plain_pure _
  | cons name names ih => exact plain_bind _ _ (each _ _) fun _ => ih _

theorem plain_foldColumns (names : List String)
    (make : Table → String → Client DataError AddedColumn)
    (each : ∀ table name, Plain (make table name)) : Plain (table.foldColumns names make) := by
  cases names with
  | nil => exact plain_throw _
  | cons name names =>
      exact plain_bind _ _ (each _ _) fun _ => plain_addEach make each names _

@[simp]
theorem plain_withRole (names : List String) (role : Role) (timeFormats : List String) :
    Plain (table.withRole session names role timeFormats) :=
  plain_bind _ _ (by simp) fun _ => plain_foldColumns table names _ fun table name =>
    plain_bind _ _ (by simp) fun _ => by simp

@[simp]
theorem plain_withSubroles (names subroles : List String) (append : Bool) :
    Plain (table.withSubroles session names subroles append) := by
  refine plain_bind _ _ (by simp) fun _ => plain_bind _ _ (by simp) fun _ => ?_
  refine plain_foldColumns table names _ fun table name => ?_
  refine plain_bind _ _ (by simp) fun column => plain_bind _ _ (by simp) fun unit => ?_
  refine plain_ite _ _ _ (plain_bind _ _ (by simp) fun _ => ?_) ?_
  · exact plain_bind _ _ (plain_pure _) fun _ => by simp
  · exact plain_bind _ _ (plain_pure _) fun _ => by simp

@[simp]
theorem plain_withUnit (names : List String) (unit : String) (forComparison : Bool) :
    Plain (table.withUnit session names unit forComparison) :=
  plain_bind _ _ (by simp) fun _ => plain_foldColumns table names _ fun table name =>
    plain_bind _ _ (by simp) fun _ => plain_bind _ _ (by simp) fun _ => by simp

@[simp]
theorem plain_makeTargetColumns (name : String) :
    Plain (table.makeTargetColumns session name) := by
  refine plain_bind _ _ (by simp) fun column => plain_bind _ _ ?_ fun labels => ?_
  · unfold labels
    split
    · exact plain_map _ _ (by simp)
    · exact plain_map _ _ (by simp)
    · exact plain_throw _
  · exact plain_ite _ _ _ (plain_bind _ _ (by simp) fun _ => by simp) (by simp)

end Table

end RelationalLearning
