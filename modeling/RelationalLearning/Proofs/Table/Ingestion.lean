import RelationalLearning.Proofs.Engine.Commands
import RelationalLearning.Proofs.Json.Covered
import RelationalLearning.Proofs.Pipeline.Operations
import RelationalLearning.Proofs.Roles.Map
import RelationalLearning.Proofs.Upfront
import RelationalLearning.Table.DataFrame

namespace RelationalLearning

variable {base : Nat} {allowed : Message → Prop}

def Role.listedIn : Role → String
  | .categorical => "categorical_"
  | .joinKey => "join_keys_"
  | .numerical => "numerical_"
  | .target => "targets_"
  | .text => "text_"
  | .timeStamp => "time_stamps_"
  | .unusedFloat => "unused_floats_"
  | .unusedString => "unused_strings_"

namespace Roles

theorem nodup_of_update (roles other : Roles) (distinct : (roles.update other).columns.Nodup) :
    other.columns.Nodup := by
  obtain ⟨each, single⟩ := (roles.update other).nodup_columns.mp distinct
  have taken : ∀ role, (other.names role).Sublist ((roles.update other).names role) := by
    intro role
    rw [update, names_ofBuckets]
    exact List.sublist_append_right _ _
  rw [nodup_columns]
  constructor
  · exact fun role => (each role).sublist (taken role)
  · intro name first second inFirst inSecond
    exact single name first second ((taken first).subset inFirst) ((taken second).subset inSecond)

theorem foldl_assign (entries : List (String × Role)) (roleOf : String → Option Role)
    (column : String) :
    (entries.map fun entry => Edit.assign entry.1 entry.2).foldl Edit.onMap roleOf column =
      (entries.reverse.lookup column).or (roleOf column) := by
  induction entries generalizing roleOf with
  | nil => rfl
  | cons entry entries ih =>
      obtain ⟨name, role⟩ := entry
      rw [List.map_cons, List.foldl_cons, ih, List.reverse_cons, List.lookup_append,
        Index.lookup_cons, Option.or_assoc, Edit.onMap]
      by_cases same : column = name <;> simp [same]

end Roles

namespace LocalTable

def roleOf (given : Option Roles) (entry : String × LocalColumn) : Role :=
  (given.bind fun roles => roles.role? entry.1).getD entry.2.standardRole

/-- The command lists every column of the table once, and every column that the user names. -/
def ListedBy (table : LocalTable) (given : Option Roles) (command : Json) : Prop :=
  ∃ listed : Roles, (∀ role, command.field? role.listedIn = some (.texts (listed.names role))) ∧
    listed.columns.Nodup ∧
    (∀ entry ∈ table.columns, ∀ role, entry.1 ∈ listed.names role ↔ role = roleOf given entry) ∧
    ∀ roles ∈ given, ∀ role, roles.names role ⊆ listed.names role

/-- What may be said while the table is read: its cells, and one command that lists its columns. -/
def Allows (table : LocalTable) (given : Option Roles) : Message → Prop
  | .command command =>
    command.field? "type_" = some (.string "DataFrame.from_json") → table.ListedBy given command
  | .text content => content = table.toJson.write
  | .table _ => False

variable (table : LocalTable) (distinct : (table.columns.map (·.1)).Nodup)

theorem sniffedRoles_eq : table.sniffedRoles = Roles.empty.edited
    ((table.columns.map fun entry => (entry.1, entry.2.standardRole)).map
      fun entry => Roles.Edit.assign entry.1 entry.2) := by
  rw [sniffedRoles, Roles.edited, List.foldl_map, List.foldl_map]
  rfl

include distinct in
theorem role?_sniffedRoles : table.sniffedRoles.validate = .ok () ∧
    ∀ entry ∈ table.columns, table.sniffedRoles.role? entry.1 = some entry.2.standardRole := by
  have accepted : ∀ edit ∈ (table.columns.map fun entry => (entry.1, entry.2.standardRole)).map
      fun entry => Roles.Edit.assign entry.1 entry.2, edit.Valid := by
    intro edit member
    obtain ⟨entry, -, rfl⟩ := List.mem_map.mp member
    trivial
  obtain ⟨valid, acts⟩ := Roles.edited_acts .empty (by decide) _ accepted
  rw [sniffedRoles_eq]
  refine ⟨valid, ?_⟩
  intro entry member
  rw [acts, Roles.foldl_assign, Index.lookup_of_mem entry.1 entry.2.standardRole]
  · rfl
  · rw [Index.names, List.map_reverse, List.nodup_reverse, List.map_map]
    exact distinct
  · exact List.mem_reverse.mpr (List.mem_map.mpr ⟨entry, member, rfl⟩)

include distinct in
theorem mem_mergeRoles (given : Option Roles)
    (single : (DataFrame.mergeRoles table.sniffedRoles given false).columns.Nodup) :
    (∀ entry ∈ table.columns, ∀ role,
      entry.1 ∈ (DataFrame.mergeRoles table.sniffedRoles given false).names role ↔
        role = roleOf given entry) ∧
    ∀ roles ∈ given, ∀ role,
      roles.names role ⊆ (DataFrame.mergeRoles table.sniffedRoles given false).names role := by
  obtain ⟨valid, sniffed⟩ := table.role?_sniffedRoles distinct
  cases given with
  | none =>
      refine ⟨?_, by simp⟩
      intro entry member role
      rw [DataFrame.mergeRoles, ← Roles.role?_eq_some _ valid, sniffed entry member, roleOf]
      simp [eq_comm]
  | some roles =>
      have proper : roles.validate = .ok () :=
        roles.validate_eq_ok.mpr (Roles.nodup_of_update _ roles single)
      constructor
      · intro entry member role
        obtain ⟨still, acts⟩ := table.sniffedRoles.apply_acts valid (.takeOver roles) proper
        have found : (table.sniffedRoles.update roles).role? entry.1 = some (roleOf roles entry) := by
          rw [show table.sniffedRoles.update roles =
            Roles.Edit.apply table.sniffedRoles (.takeOver roles) from rfl, acts, Roles.Edit.onMap,
            sniffed entry member, roleOf, Option.bind_some]
          cases roles.role? entry.1 <;> rfl
        have listed := Roles.role?_eq_some _ still entry.1 role
        rw [DataFrame.mergeRoles]
        rw [Roles.Edit.apply, found] at listed
        simpa [eq_comm] using listed.symm
      · rintro _ ⟨⟩ role name named
        exact (Roles.mem_update _ roles name role).mpr (.inr named)

end LocalTable

namespace DataFrame

theorem field?_ingestion (frame : DataFrame) (kind : String) (append : Bool)
    (fields : List (String × Json)) (command : Json)
    (done : frame.ingestion kind append fields = .ok command) (role : Role)
    (free : ∀ field ∈ fields, field.1 ≠ role.listedIn) :
    command.field? role.listedIn = some (.texts (frame.roles.names role)) := by
  rw [ingestion] at done
  split at done
  next => cases done
  next =>
    obtain rfl := Except.ok.inj done
    have later := Json.lookup_free role.listedIn fields.reverse (by simpa using free)
    rw [DataFrame.command, Session.command, Json.field?_record]
    simp only [List.reverse_cons, List.reverse_append, List.append_assoc, List.lookup_append, later]
    cases role <;> simp [Role.listedIn, Roles.names, Index.lookup_cons]

theorem create_eq_ok (name : String) (roles : Roles) (frame : DataFrame)
    (done : create name roles = .ok frame) : frame.roles = roles ∧ roles.columns.Nodup := by
  rw [create] at done
  split at done
  next => cases done
  next =>
    dsimp only at done
    split at done
    next => cases done
    next valid =>
      obtain rfl := Except.ok.inj done
      exact ⟨rfl, roles.validate_eq_ok.mp valid⟩

theorem create_eq_error (name : String) (roles : Roles) (cause : DataError)
    (failed : create name roles = .error cause) : ∃ reason, cause = .value reason := by
  rw [create] at failed
  split at failed
  next reason _ => exact ⟨reason, (Except.error.inj failed).symm⟩
  next =>
    dsimp only at failed
    split at failed
    next reason invalid =>
      obtain rfl := Except.error.inj failed
      rw [Roles.validate] at invalid
      split at invalid
      next => cases invalid
      next => exact ⟨_, (Except.error.inj invalid).symm⟩
    next => cases failed

theorem finish_ingest (frame : DataFrame) (kind : String) (append : Bool)
    (fields : List (String × Json)) (next : Json → Updating DataFrame DataError Unit) :
    (ingest kind append fields >>= next).finish frame =
      Client.ofExcept (frame.ingestion kind append fields) >>= fun command =>
        (next command).finish frame := by
  rw [ingest, bind_assoc, Updating.finish_handle_bind, Updating.finish_ofExcept_bind]

theorem emits_ofLocalTable (session : Session) (name source : String) (table : LocalTable)
    (given : Option Roles)
    (fits : ∀ frame command,
      create name (mergeRoles table.sniffedRoles given false) = .ok frame →
      frame.ingestion "DataFrame.from_json" false
        [("time_formats_", .texts (formatsOr []))] = .ok command → allowed (.command command))
    (cells : allowed (.text table.toJson.write))
    (refreshes : ∀ frame : DataFrame, allowed (.command (frame.command "DataFrame.refresh" [])))
    (asks : ∀ frame : DataFrame, allowed (.command (frame.command "DataFrame.last_change" []))) :
    Client.Emits base allowed (fun _ => True)
      (ofLocalTable session name source table given false) := by
  refine Client.emits_bind _ _ _ _ (Client.emits_log _ _) fun _ _ => ?_
  refine Client.emits_bind
    (fun frame => create name (mergeRoles table.sniffedRoles given false) = .ok frame) _ _ _
    (Client.emits_ofExcept _ _ fun _ done => done) fun frame created => ?_
  rw [readJson, finish_ingest]
  refine Client.emits_bind (fun command => allowed (.command command)) _ _ _
    (Client.emits_ofExcept _ _ fun command done => fits frame command created done)
    fun command allows => ?_
  refine Updating.emits_finish (fun _ => True) _ frame ?_
  refine Updating.emits_bind (fun _ => True) _ _ _ (Updating.emits_ofClient _ _ ?_)
    fun _ _ => emits_refresh session refreshes asks
  refine Client.emits_bind _ _ _ _ (Client.emits_adapt _ _ _ (session.emits_ask command allows))
    fun link fresh => ?_
  refine Client.emits_bind _ _ _ _
    (Client.emits_adapt _ _ _ (Link.emits_sendText link _ fresh cells)) fun _ _ => ?_
  exact Client.emits_adapt _ _ _ (Link.emits_expect link success fresh)

theorem listedBy_ingestion (table : LocalTable) (distinct : (table.columns.map (·.1)).Nodup)
    (given : Option Roles) (name kind : String) (append : Bool) (formats : List String)
    (frame : DataFrame) (command : Json)
    (created : create name (mergeRoles table.sniffedRoles given false) = .ok frame)
    (done : frame.ingestion kind append [("time_formats_", .texts formats)] = .ok command) :
    table.ListedBy given command := by
  obtain ⟨same, single⟩ := create_eq_ok name _ frame created
  refine ⟨frame.roles, ?_, same ▸ single, same ▸ table.mem_mergeRoles distinct given single⟩
  intro role
  apply frame.field?_ingestion kind append _ command done role
  cases role <;> simp [Role.listedIn]

theorem ofLocalTable_error (session : Session) (name source : String) (table : LocalTable)
    (given : Option Roles) (only : Bool) (world : World) (cause : DataError)
    (failed : create name (mergeRoles table.sniffedRoles given only) = .error cause) :
    ofLocalTable session name source table given only world = (.error cause,
      world.record (.logged ⟨.debug, false, s!"Read {table.rows} rows from '{source}'"⟩)) := by
  rw [ofLocalTable, failed]
  rfl

/--
Whatever comes of reading a table in memory, the command that announces its cells lists every column
once, in the bucket that the user names it in or in that of its cells. Roles in which the user names
a column twice are refused, and nothing is sent.
-/
theorem columns_are_listed_once (session : Session) (name source : String) (table : LocalTable)
    (given : Option Roles) (world : World) (distinct : (table.columns.map (·.1)).Nodup) :
    (∃ events, (ofLocalTable session name source table given false world).2.trace =
        world.trace ++ events ∧
      (∀ link command, .sent link (.command command) ∈ events →
        command.field? "type_" = some (.string "DataFrame.from_json") →
        table.ListedBy given command) ∧
      ∀ link content, .sent link (.text content) ∈ events → content = table.toJson.write) ∧
    (∀ entry ∈ table.columns, table.toJson.field? entry.1 = some entry.2.toJson) ∧
    ∀ roles ∈ given, ¬ roles.columns.Nodup →
      (∃ reason, (ofLocalTable session name source table given false world).1 =
        .error (.value reason)) ∧
      World.Silent world (ofLocalTable session name source table given false world).2 := by
  refine ⟨?_, ?_, ?_⟩
  · have said : Client.Emits 0 (table.Allows given) (fun _ => True)
        (ofLocalTable session name source table given false) := by
      apply emits_ofLocalTable
      · exact fun frame command created done _ =>
          listedBy_ingestion table distinct given name _ _ _ frame command created done
      · rfl
      · intro frame kind
        rw [DataFrame.command, Session.kind_command _ _ _ (by simp)] at kind
        simp at kind
      · intro frame kind
        rw [DataFrame.command, Session.kind_command _ _ _ (by simp)] at kind
        simp at kind
    obtain ⟨events, recorded, fits⟩ := (said world (Nat.zero_le _)).1.recorded
    exact ⟨events, recorded, fun link command member => (fits _ member).2,
      fun link content member => (fits _ member).2⟩
  · intro entry member
    apply Json.field?_record_of_mem
    · rw [List.map_map]
      exact distinct
    · exact List.mem_map.mpr ⟨entry, member, rfl⟩
  · rintro roles ⟨⟩ repeated
    cases outcome : create name (mergeRoles table.sniffedRoles roles false) with
    | ok frame =>
        obtain ⟨-, single⟩ := create_eq_ok name _ frame outcome
        exact absurd (Roles.nodup_of_update _ roles single) repeated
    | error cause =>
        obtain ⟨reason, rfl⟩ := create_eq_error name _ cause outcome
        rw [ofLocalTable_error _ _ _ _ _ _ _ _ outcome]
        exact ⟨⟨reason, rfl⟩, _, rfl, by simp⟩

def loansAtHand : LocalTable where
  columns := [("id", .string [some "a"]), ("status", .string [none]), ("amount", .float [none])]

def keyed : Roles := { joinKey := ["id"] }

def loansRead (given : Roles) : Except DataError DataFrame × World :=
  ofLocalTable {} "loans" "loans.csv" loansAtHand given false (Pipeline.answering [["Success!"]])

theorem columns_are_listed_once_loans :
    (loansAtHand.columns.map (·.1)).Nodup ∧
    (∃ link command, .sent link (.command command) ∈ (loansRead keyed).2.trace ∧
      command.field? "type_" = some (.string "DataFrame.from_json") ∧
      loansAtHand.ListedBy keyed command) ∧
    ∃ reason, (loansRead { joinKey := ["id"], text := ["id"] }).1 = .error (.value reason) := by
  have distinct : (loansAtHand.columns.map (·.1)).Nodup := by decide
  refine ⟨distinct, ?_, ?_⟩
  · have announced : "DataFrame.from_json" ∈
        (loansRead keyed).2.trace.filterMap Pipeline.sentKind? := by decide +kernel
    obtain ⟨link, command, sent, kind⟩ := Pipeline.exists_sent _ _ announced
    obtain ⟨⟨events, recorded, listed, -⟩, -⟩ := columns_are_listed_once {} "loans" "loans.csv"
      loansAtHand (some keyed) (Pipeline.answering [["Success!"]]) distinct
    refine ⟨link, command, sent, kind, listed link command ?_ kind⟩
    rw [loansRead, recorded] at sent
    exact sent
  · obtain ⟨-, -, refused⟩ := columns_are_listed_once {} "loans" "loans.csv" loansAtHand
      (some { joinKey := ["id"], text := ["id"] }) (Pipeline.answering [["Success!"]]) distinct
    exact (refused _ rfl (by decide)).1

end DataFrame
end RelationalLearning
