import RelationalLearning.Proofs.Table.Plain

namespace RelationalLearning

open Client

variable {frames : List String}

namespace DataFrame

theorem askLastChange_eq_ok (session : Session) (frame : DataFrame) (world last : World)
    (change : String) (done : frame.askLastChange session world = (.ok change, last)) :
    last.trace = world.trace ++ Session.exchanged world.links.length session.port
      (frame.command "DataFrame.last_change" []) [success, change] := by
  rw [askLastChange, bind_eq_ok] at done
  obtain ⟨link, first, asked, done⟩ := done
  obtain ⟨⟨⟩, second, expected, received⟩ := (bind_eq_ok _ _ _ _ _).mp done
  obtain ⟨rfl, exchange⟩ :=
    session.ask_eq_ok _ _ _ _ ((adapt_eq_ok DataError.engine _ _ _ _).mp asked)
  have succeeded :=
    Link.expect_eq_ok _ _ _ _ ((adapt_eq_ok DataError.engine _ _ _ _).mp expected)
  have replied :=
    Link.receive_eq_ok _ _ _ _ ((adapt_eq_ok DataError.engine _ _ _ _).mp received)
  exact ((exchange.heard succeeded).heard replied).recorded

theorem reports_askLastChange (session : Session) (frame : DataFrame) :
    Client.Reports frames (frame.name :: frames) (fun _ => True) (frame.askLastChange session) := by
  intro world
  obtain ⟨failing, done⟩ := (frame.plain_askLastChange session).reports world
  refine ⟨failing, fun change same => ⟨?_, trivial⟩⟩
  obtain ⟨events, recorded, checked, -⟩ := (done change same).1
  have asking := frame.askLastChange_eq_ok session world _ change (Prod.ext same rfl)
  obtain rfl := List.append_cancel_left (recorded.symm.trans asking)
  refine ⟨_, recorded, checked, ?_⟩
  rintro name (_ | ⟨_, known⟩)
  · right
    exact Session.answered_command _ _ _ _ _ _ _ (by simp) rfl
  · exact .inl known

end DataFrame

theorem View.reports_check (session : Session) (view : View) :
    Client.Reports frames (view.base.root.name :: frames) (fun _ => True) (view.check session) := by
  refine reports_bind _ _ _ _ (DataFrame.reports_askLastChange session _) fun _ _ => ?_
  apply Plain.reports
  exact plain_ite _ _ _ (by simp) (plain_bind _ _ (by simp) fun _ => by simp)

namespace Table

/-- The data frame whose last change must be known before the table is described. -/
def watched : Table → List String
  | .frame _ => []
  | .view base _ => [base.root.name]

theorem covered_of_watched (table : Table) (known : table.watched ⊆ frames) :
    Json.Covered frames table.toCommand := by
  apply table.covered_toCommand
  rintro base layer rfl
  exact known (List.mem_singleton_self _)

theorem reports_check (session : Session) (table : Table) :
    Client.Reports frames (table.watched ++ frames) (fun _ => True) (table.check session) := by
  cases table with
  | frame data => exact (plain_pure _).reports
  | view base layer => exact View.reports_check session ⟨base, layer⟩

end Table

namespace View

theorem covered_toCommand (view : View) :
    Json.Covered (view.base.root.name :: frames) view.table.toCommand :=
  view.table.covered_of_watched (by simp [table, Table.watched])

theorem careful_toCsv (session : Session) (view : View) (path : String) (options : CsvOptions) :
    Careful frames (view.toCsv session path options) := by
  refine reports_bind _ _ _ _ (reports_check session view) fun _ _ => ?_
  refine Emits.careful (emits_adapt _ _ _ (session.emits_send _ ?_))
  exact Message.covered_command _ _ _ (by decide) (by simp [view.covered_toCommand])

end View

namespace DataFrame

theorem careful_readView (session : Session) (view : View) (append : Bool) :
    Updating.Careful frames (readView session view append) := by
  refine Updating.reports_bind _ _ _ _
    (Updating.reports_ofClient _ _ (View.reports_check session view)) fun _ _ => ?_
  refine Updating.Emits.careful ?_
  refine Updating.emits_bind _ _ _ _ Updating.emits_handle fun frame _ => ?_
  refine Updating.emits_bind _ _ _ _ (Updating.emits_ofClient (fun _ => True) _ ?_) fun _ _ => ?_
  · refine emits_adapt _ _ _ (session.emits_send _ ?_)
    exact Message.covered_command _ _ _ (by decide) (by simp [view.covered_toCommand])
  · exact (plain_refresh session).emits

theorem careful_ofView (session : Session) (name : String) (view : View) :
    Careful frames (ofView session name view) :=
  reports_bind _ _ _ _ (plain_ofExcept _).reports fun frame _ =>
    Updating.careful_finish _ frame (careful_readView session view false)

end DataFrame

theorem Table.careful_toCsv (session : Session) (table : Table) (path : String)
    (options : CsvOptions) : Careful frames (table.toCsv session path options) := by
  cases table with
  | frame data => exact (data.plain_toCsv session path options).careful
  | view base layer => exact View.careful_toCsv session ⟨base, layer⟩ path options

end RelationalLearning
