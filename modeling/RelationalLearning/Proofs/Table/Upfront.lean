import RelationalLearning.Proofs.Column.Upfront
import RelationalLearning.Proofs.Table.Changes

/-!
What is done to data frames and asked about tables, and the local errors that come after a reply.
Columns of a proper table are found whenever they are looked up, so that nothing can be wrong with
them later that was not wrong at first.
-/

namespace RelationalLearning

open Client

variable {checks : List LateCheck} {heard : List Event} (session : Session)

theorem find?_eq_none_of_ok {names : List String} {present : String → Bool}
    {cause : String → DataError}
    (checked : (match names.find? fun name => !present name with
      | none => .ok ()
      | some name => .error (cause name) : Except DataError Unit) = .ok ()) :
    ∀ name ∈ names, present name = true := by
  split at checked
  next none => simpa using none
  next => cases checked

/-- If something was sent, a unit or subroles came back. -/
def Settled (events : List Event) : Prop := Mute events ∨ ColumnTold events

theorem ColumnTold.mono {events more : List Event} (told : ColumnTold events)
    (within : events ⊆ more) : ColumnTold more := by
  rcases told with ⟨reply, came⟩ | ⟨subroles, brought⟩
  · exact .inl ⟨reply, came.mono within⟩
  · exact .inr ⟨subroles, brought.mono within⟩

theorem Settled.append {first later : List Event} (one : Settled first) (two : Settled later) :
    Settled (first ++ later) := by
  rcases one with quiet | told
  · rcases two with silent | told
    · exact .inl ((mute_append first later).mpr ⟨quiet, silent⟩)
    · exact .inr (told.mono (by simp))
  · exact .inr (told.mono (by simp))

theorem Column.SubrolesTold.settled {column : Column} {reported : List String}
    {events : List Event} (told : column.SubrolesTold reported events) : Settled events := by
  rcases told with ⟨-, silent, -⟩ | brought
  · exact .inl silent
  · exact .inr (.inr ⟨reported, brought⟩)

theorem Column.UnitTold.settled {column : Column} {unit : String} {events : List Event}
    (told : column.UnitTold unit events) : Settled events := by
  rcases told with ⟨-, silent⟩ | came
  · exact .inl silent
  · exact .inr (.inl ⟨unit, came⟩)

namespace NewColumn

variable (new : NewColumn)

def asks : Bool :=
  decide (new.column.family ≠ .boolean) && (new.subroles.isEmpty || new.unit.isEmpty)

theorem resolve_eq_error (cause : DataError) (failed : new.resolve = .error cause) :
    Unnameable new.name cause ∨ Subrole.validate new.subroles = .error cause := by
  unfold resolve at failed
  split at failed
  next reason refused =>
    obtain rfl := Except.error.inj failed
    exact .inl ⟨reason, refused, rfl⟩
  next =>
    cases valid : Subrole.validate new.subroles with
    | ok => rw [valid] at failed; cases failed
    | error reason =>
        rw [valid] at failed
        obtain rfl := Except.error.inj failed
        exact .inr rfl

theorem timely_resolve (names : List String) (member : new.name ∈ names)
    (named : .named names ∈ checks) (settled : Settled heard)
    (invalid : ∀ cause, Subrole.validate new.subroles = .error cause → Timely checks heard [] cause)
    (cause : DataError) (failed : new.resolve = .error cause) : Timely checks heard [] cause := by
  rcases new.resolve_eq_error cause failed with unnameable | wrong
  · rcases settled with mute | told
    · exact timely_of_mute cause mute
    · exact timely_of_late (.named names) cause named ⟨told, new.name, member, unnameable⟩
  · exact invalid cause wrong

structure Inherits (made : NewColumn) (events : List Event) : Prop where
  name : made.name = new.name
  reported : new.subroles.isEmpty = true → Brought events (.column made.subroles)
  given : new.subroles.isEmpty = false → made.subroles = new.subroles
  unit : new.unit.isEmpty = true → ∃ unit, Came events unit

theorem remote_inheritUnit (subroles : List String) (before : List Event)
    (reported : new.subroles.isEmpty = true → Brought before (.column subroles))
    (given : new.subroles.isEmpty = false → subroles = new.subroles)
    (family : new.column.family ≠ .boolean) :
    Remote (fun events made => new.Inherits made (before ++ events)) (do
      let unit ← if new.unit.isEmpty then new.column.unit session else pure new.unit
      return { new with subroles, unit } : Client DataError NewColumn) := by
  split
  next =>
    apply runs_bind _ _ (new.column.remote_unit session)
    intro unit events told
    refine runs_pure _ ⟨rfl, fun left => (reported left).mono (by simp), given, fun _ => ⟨unit, ?_⟩⟩
    rcases told with ⟨truth, -⟩ | came
    · exact absurd truth family
    · exact came.mono fun _ member => by simp [member]
  next stated =>
    exact runs_pure _
      ⟨rfl, fun left => (reported left).mono (by simp), given, fun left => absurd left stated⟩

theorem remote_inheritMetadata (family : new.column.family ≠ .boolean) :
    Remote (fun events made => new.Inherits made events) (new.inheritMetadata session) := by
  unfold inheritMetadata
  rw [if_neg family]
  apply runs_ite
  · intro left
    apply runs_bind _ _ (new.column.remote_subroles session)
    intro subroles events told
    have brought : Brought events (.column subroles) :=
      told.resolve_left fun truth => family truth.1
    apply new.remote_inheritUnit session subroles events (fun _ => brought) _ family
    intro stated
    rw [left] at stated
    cases stated
  · exact fun stated =>
      new.remote_inheritUnit session new.subroles [] (fun left => absurd left stated) (fun _ => rfl)
        family

/-- What was left open of a new column was told, so a check of what was made of it is late. -/
theorem Inherits.timely {made : NewColumn} {events : List Event} (inherits : new.Inherits made events)
    (added : .added new ∈ checks) (subroles : .subroles ∈ checks) (cause : DataError)
    (failed : made.resolve = .error cause) : Timely checks (heard ++ events) [] cause := by
  have within : events ⊆ heard ++ events := by simp
  have late (wrong : Unnameable new.name cause ∨ Subrole.validate new.subroles = .error cause) :
      Timely checks (heard ++ events) [] cause := by
    refine timely_of_late (.added new) cause added ⟨fun left => ?_, fun left => ?_, wrong⟩
    · exact ⟨made.subroles, (inherits.reported left).mono within⟩
    · obtain ⟨unit, came⟩ := inherits.unit left
      exact ⟨unit, came.mono within⟩
  rcases made.resolve_eq_error cause failed with unnameable | invalid
  · exact late (.inl (inherits.name ▸ unnameable))
  · cases left : new.subroles.isEmpty with
    | true =>
        have told : made.column.SubrolesTold made.subroles events := .inr (inherits.reported left)
        exact told.timely subroles within cause invalid
    | false => exact late (.inr (inherits.given left ▸ invalid))

theorem inheritMetadata_of_not_asks (quiet : new.asks = false) :
    new.inheritMetadata session = pure new := by
  unfold inheritMetadata
  split
  next => rfl
  next family =>
    obtain ⟨subroles, unit⟩ : new.subroles.isEmpty = false ∧ new.unit.isEmpty = false := by
      simpa [asks, family] using quiet
    simp only [subroles, unit, Bool.false_eq_true, if_false, pure_bind]

end NewColumn

theorem Column.upfront_movedTo (column : Column) (name : String) (role : Role)
    (formats names : List String) (member : name ∈ names) (named : .named names ∈ checks)
    (subroles : .subroles ∈ checks) (settled : Settled heard) :
    Runs (fun events _ => Settled events) (Timely checks heard)
      (column.movedTo session name role formats) := by
  have rest {heard : List Event} (settled : Settled heard) (unit : String) :
      Runs (fun events _ => Settled events) (Timely checks heard) (do
        let subroles ← column.subroles session
        Client.ofExcept (NewColumn.resolve ⟨column, name, role, subroles, unit, formats⟩)) := by
    apply upfront_bind _ _ (column.remote_subroles session).timely
    intro reported events told
    have further := told.settled
    apply runs_ofExcept
    · exact fun _ _ => further.append (.inl mute_nil)
    · apply NewColumn.timely_resolve _ names member named (settled.append further)
      exact told.timely subroles (by simp)
  unfold movedTo
  split
  · exact rest settled _
  · apply upfront_bind _ _ (column.remote_unit session).timely
    intro unit events told
    have further := told.settled
    exact (rest (settled.append further) unit).imp (fun _ _ later => further.append later)
      fun _ _ => id

namespace DataFrame

variable (frame : DataFrame)

theorem remote_askNumber (kind what : String) :
    Remote (fun events _ => RowsTold events) (frame.askNumber session kind what) := by
  apply runs_bind _ _ (session.emits_askExpecting _ _ trivial).remote
  intro link asked _
  apply runs_bind _ _ (Link.runs_receive link).remote
  intro reply events came
  split
  next rows read =>
    refine runs_pure _ ⟨reply, came.mono fun _ member => by simp [member], .inl ?_⟩
    unfold Length.parse
    split
    · exact ⟨_, rfl⟩
    split
    · exact ⟨_, rfl⟩
    · exact ⟨.finite rows, by rw [read]⟩
  next => exact runs_throw _ rfl

theorem remote_askLastChange : Remote (fun _ _ => True) (frame.askLastChange session) := by
  apply runs_bind _ _ (session.emits_ask _ trivial).remote
  intro link _ _
  apply runs_bind _ _ (Link.emits_expect link success (Nat.zero_le _)).remote
  intro _ _ _
  exact (Link.runs_receive link).remote.imp (fun _ _ _ => trivial) fun _ _ => id

def Refreshes (frame changed : DataFrame) (events : List Event) : Prop :=
  changed.name = frame.name ∧ ∃ reply, Came events reply ∧ Roles.ofReply reply = .ok changed.roles

theorem Refreshes.mono {frame changed : DataFrame} {events more : List Event}
    (refreshes : frame.Refreshes changed events) (within : events ⊆ more) :
    frame.Refreshes changed more := by
  obtain ⟨named, reply, came, read⟩ := refreshes
  exact ⟨named, reply, came.mono within, read⟩

theorem remote_askRoles :
    Remote (fun events document => ∃ reply, Came events reply ∧ Link.objectOf reply = .ok document)
      (do Link.receiveJson (← session.ask (frame.command "DataFrame.refresh" [])) :
        Client DataError Json) := by
  apply runs_bind _ _ (session.emits_ask _ trivial).remote
  intro link asked _
  apply (Link.runs_receiveJson link).remote.imp
  · exact fun events document ⟨reply, came, read⟩ => ⟨reply, came.mono (by simp), read⟩
  · exact fun _ _ => id

theorem upfront_refresh (roles : .roles ∈ checks) :
    Runs (fun events ran => frame.Refreshes ran.2 events) (Timely checks heard)
      ((refresh session).on frame) := by
  rw [refresh, Updating.on_handle_bind]
  apply Updating.upfront_ofClient_bind _ _ _ (frame.remote_askRoles session).timely
  intro document events told
  obtain ⟨reply, came, object⟩ := told
  have read : Roles.ofReply reply = Roles.ofJson document := by
    rw [Roles.ofReply, object]
    rfl
  apply Updating.upfront_ofExcept_bind
  · intro cause failed
    have wrong := (withReply_eq_error frame document cause).mp failed
    exact timely_of_late .roles cause roles ⟨reply, came.mono (by simp), read.trans wrong⟩
  · intro changed done
    obtain ⟨found, valid, told, rfl⟩ := (withReply_eq_ok frame document changed).mp done
    apply Updating.upfront_ofClient_bind _ _ _ (remote_askLastChange session _).timely
    intro lastChange asked _
    rw [Updating.on_replace_bind]
    apply Updating.upfront_ofClient
    apply (remote_log _ _).timely.imp
    · exact fun later _ _ => ⟨rfl, reply, came.mono fun _ member => by simp [member], read.trans told⟩
    · exact fun _ _ => id

theorem remote_askIssues (command : Json) :
    Remote (fun _ _ => True) (do
      let link ← session.ask command
      let issues ← Link.receiveIssues link
      Link.expectSuccess link
      for issue in issues do
        Client.log .warn issue.display
      return issues : Client DataError Issues) := by
  apply runs_bind _ _ (session.emits_ask _ trivial).remote
  intro link _ _
  apply runs_bind _ _ (Link.emits_receiveIssues link (Nat.zero_le _)).remote
  intro issues _ _
  apply runs_bind _ _ (Link.emits_expect link success (Nat.zero_le _)).remote
  intro _ _ _
  apply runs_bind _ _ (runs_forIn _ _ fun issue _ _ => ?_) fun _ _ _ => runs_pure _ trivial
  exact runs_bind _ _ (remote_log _ _) fun _ _ _ => runs_pure _ trivial

theorem upfront_addResolved (roles : .roles ∈ checks) (added : AddedColumn) :
    Runs (fun events ran => frame.Refreshes ran.2 events) (Timely checks heard)
      ((addResolved session added).on frame) := by
  rw [addResolved, Updating.on_handle_bind]
  apply Updating.upfront_ofClient_bind _ _ _ (remote_askIssues session _).timely
  intro issues events _
  apply Updating.upfront_bind _ _ _ (frame.upfront_refresh session roles)
  intro _ changed later refreshes
  exact runs_pure _ (refreshes.mono fun _ member => by simp [member])

theorem upfront_add (new : NewColumn) (asks : new.asks = true) (added : .added new ∈ checks)
    (subroles : .subroles ∈ checks) (roles : .roles ∈ checks) :
    Upfront checks heard ((add session new).on frame) := by
  have family : new.column.family ≠ .boolean := by
    intro truth
    simp [NewColumn.asks, truth] at asks
  have told : Upfront checks heard (do
      let new ← new.inheritMetadata session
      Client.ofExcept new.resolve) := by
    apply upfront_bind _ _ (new.remote_inheritMetadata session family).timely
    intro made events inherits
    exact runs_ofExcept _ (fun _ _ => trivial) (inherits.timely new added subroles)
  apply Updating.upfront_ofClient_bind _ _ _ told
  intro resolved events _
  exact (frame.upfront_addResolved session roles resolved).upfront

theorem upfront_addClosed (new : NewColumn) (closed : new.asks = false) (mute : Mute heard)
    (roles : .roles ∈ checks) : Upfront checks heard ((add session new).on frame) := by
  have unfolded : add session new = Updating.ofClient (new.inheritMetadata session >>= fun new =>
      Client.ofExcept new.resolve) >>= addResolved session := rfl
  rw [unfolded, new.inheritMetadata_of_not_asks session closed, pure_bind]
  apply Updating.upfront_ofExcept_bind
  · exact fun cause _ => timely_of_mute cause mute
  · exact fun resolved _ => (frame.upfront_addResolved session roles resolved).upfront

theorem contains_of_checkNames (names : List String) (checked : frame.checkNames names = .ok ()) :
    ∀ name ∈ names, frame.roles.contains name = true := by
  cases names with
  | nil => cases checked
  | cons first names => exact find?_eq_none_of_ok checked

theorem storedColumn_isOk (name : String) (present : frame.roles.contains name = true) :
    ∃ column, frame.storedColumn name = .ok column := by
  obtain ⟨role, found⟩ := Option.isSome_iff_exists.mp present
  simp [storedColumn, found]

/-- The roles are as they were, or as a reply told. -/
def Known (frame current : DataFrame) (events : List Event) : Prop :=
  current.name = frame.name ∧ (current.roles = frame.roles ∨
    ∃ reply, Came events reply ∧ Roles.ofReply reply = .ok current.roles)

theorem timely_column (current : DataFrame) (known : frame.Known current heard)
    (names : List String) (columns : .columns frame names ∈ checks) (name : String)
    (member : name ∈ names) (present : frame.roles.contains name = true) (cause : DataError)
    (failed : current.column name = .error cause) : Timely checks heard [] cause := by
  obtain ⟨named, roles⟩ := known
  unfold DataFrame.column at failed
  split at failed
  next missing =>
    have absent : current.roles.contains name = false := by
      rw [Roles.contains, missing]
      rfl
    have same : frame.noColumn name = cause := by
      rw [← Except.error.inj failed, noColumn, noColumn, named]
    rcases roles with same | ⟨reply, came, read⟩
    · rw [same, present] at absent
      cases absent
    · exact timely_of_late (.columns frame names) cause columns
        ⟨name, member, present, same.symm, reply, _, came, read, absent⟩
  next => cases failed

theorem upfront_setRoleOf (role : Role) (formats all : List String)
    (present : ∀ name ∈ all, frame.roles.contains name = true)
    (columns : .columns frame all ∈ checks) (named : .named all ∈ checks)
    (subroles : .subroles ∈ checks) (roles : .roles ∈ checks) (names : List String)
    (within : ∀ name ∈ names, name ∈ all) (current : DataFrame)
    (known : frame.Known current heard) (settled : Settled heard) :
    Upfront checks heard ((setRoleOf session role formats names).on current) := by
  -- every round may leave other roles behind, of which is known only that a reply told them
  induction names generalizing heard current with
  | nil => exact runs_pure _ trivial
  | cons name names ih =>
      obtain ⟨member, rest⟩ := List.forall_mem_cons.mp within
      have moved : Runs (fun events _ => Settled events) (Timely checks heard) (do
          let column ← Client.ofExcept (current.column name)
          column.movedTo session name role formats) := by
        apply upfront_ofExcept_bind
        · exact frame.timely_column current known all columns name member (present name member)
        · exact fun column _ =>
            column.upfront_movedTo session name role formats all member named subroles settled
      rw [setRoleOf, Updating.on_handle_bind]
      apply Updating.upfront_ofClient_bind _ _ _ moved
      intro added asked further
      apply Updating.upfront_bind _ _ _ (current.upfront_addResolved session roles added)
      intro issues changed events refreshes
      obtain ⟨kept, reply, came, read⟩ := refreshes
      have told : Came (heard ++ asked ++ events) reply := came.mono (by simp)
      apply Updating.upfront_bind
      · exact ih rest changed ⟨kept.trans known.1, .inr ⟨reply, told, read⟩⟩
          (.inr (.inl ⟨reply, told⟩))
      · exact fun _ _ _ _ => runs_pure _ trivial

theorem upfront_setRole (names : List String) (role : Role) (formats : List String)
    (columns : .columns frame names ∈ checks) (named : .named names ∈ checks)
    (subroles : .subroles ∈ checks) (roles : .roles ∈ checks) :
    Upfront checks [] ((setRole session names role formats).on frame) := by
  rw [setRole, Updating.on_handle_bind]
  apply Updating.upfront_ofExcept_bind
  · exact fun cause _ => timely_of_mute cause mute_nil
  · intro _ checked
    exact frame.upfront_setRoleOf session role formats names
      (frame.contains_of_checkNames names checked) columns named subroles roles names
      (fun _ => id) frame ⟨rfl, .inl rfl⟩ (.inl mute_nil)

theorem upfront_setSubroles (names subroles : List String) (append : Bool) (mute : Mute heard)
    (late : append = true → .subroles ∈ checks) :
    Upfront checks heard (frame.setSubroles session names subroles append) := by
  apply upfront_check_bind _ _ mute
  intro _ valid
  apply upfront_check_bind _ _ mute
  intro _ checked
  have present := frame.contains_of_checkNames names checked
  have sets {heard : List Event} (column : StoredColumn) (subroles : List String)
      (fits : ∀ cause, Subrole.validate subroles = .error cause → Timely checks heard [] cause) :
      Upfront checks heard (do
        column.setSubroles session subroles
        return .yield PUnit.unit : Client DataError (ForInStep PUnit)) :=
    upfront_bind _ _ (column.upfront_setSubroles session subroles fits) fun _ _ _ =>
      runs_pure _ trivial
  apply upfront_bind _ _ (upfront_forIn _ _ fun name member heard => ?_) fun _ _ _ =>
    runs_pure _ trivial
  apply upfront_isOk_bind _ _ (frame.storedColumn_isOk name (present name member))
  intro column _
  split
  next appended =>
    apply upfront_bind _ _ (Column.remote_subroles session _).timely
    intro reported events told
    apply sets column
    intro cause failed
    rw [Subrole.validate_includeNew reported subroles valid] at failed
    exact told.timely (late appended) (by simp) cause failed
  next =>
    apply sets column subroles
    intro cause failed
    rw [valid] at failed
    cases failed

theorem upfront_setUnit (names : List String) (unit : String) (forComparison : Bool)
    (mute : Mute heard) :
    Upfront checks heard (frame.setUnit session names unit forComparison) := by
  apply upfront_check_bind _ _ mute
  intro _ checked
  have present := frame.contains_of_checkNames names checked
  apply upfront_bind _ _ (upfront_forIn _ _ fun name member heard => ?_) fun _ _ _ =>
    runs_pure _ trivial
  apply upfront_isOk_bind _ _ (frame.storedColumn_isOk name (present name member))
  exact fun column _ =>
    upfront_bind _ _ (column.remote_setUnit session _).timely fun _ _ _ => runs_pure _ trivial

theorem upfront_change (command : Json) (roles : .roles ∈ checks) :
    Upfront checks heard ((change session command).on frame) := by
  apply Updating.upfront_ofClient_bind _ _ _ (session.emits_send command trivial).remote.timely
  exact fun _ _ _ => (frame.upfront_refresh session roles).upfront

theorem upfront_removeColumn (name : String) (roles : .roles ∈ checks) :
    Upfront checks [] ((removeColumn session name).on frame) := by
  rw [removeColumn, Updating.on_handle_bind]
  split
  · exact runs_throw _ (timely_of_mute _ mute_nil)
  · exact frame.upfront_change session _ roles

theorem upfront_load (roles : .roles ∈ checks) :
    Upfront checks heard ((load session).on frame) := by
  rw [load, Updating.on_handle_bind]
  exact frame.upfront_change session _ roles

theorem create_isOk (name : String) (accepted : Validation.name name "name" = .ok ()) :
    ∃ frame, create name .empty = .ok frame := by
  refine ⟨{ name, roles := .empty }, ?_⟩
  rw [create, accepted]
  rfl

theorem upfront_concat (name : String) (tables : List Table) (mute : Mute heard)
    (roles : .roles ∈ checks) : Upfront checks heard (concat session name tables) := by
  unfold concat
  dsimp only
  split
  next => exact runs_throw _ (timely_of_mute _ mute)
  next accepted =>
    apply upfront_unless _ _ _ fun _ => timely_of_mute _ mute
    intro _
    apply upfront_bind _ _ (session.emits_send _ trivial).remote.timely
    intro _ _ _
    apply upfront_isOk_bind _ _ (create_isOk name accepted)
    exact fun frame _ => Updating.upfront_finish _ frame (frame.upfront_refresh session roles).upfront

theorem upfront_ingest_bind (kind : String) (append : Bool) (fields : List (String × Json))
    (next : Json → Updating DataFrame DataError Unit) (mute : Mute heard)
    (rest : ∀ command, Upfront checks heard ((next command).on frame)) :
    Upfront checks heard ((ingest kind append fields >>= next).on frame) := by
  rw [ingest, bind_assoc, Updating.on_handle_bind]
  apply Updating.upfront_ofExcept_bind
  · exact fun cause _ => timely_of_mute cause mute
  · exact fun command _ => rest command

theorem upfront_readCsv (paths : List String) (append : Bool) (options : CsvOptions)
    (mute : Mute heard) (roles : .roles ∈ checks) :
    Upfront checks heard ((readCsv session paths append options).on frame) :=
  frame.upfront_ingest_bind _ _ _ _ mute fun command => frame.upfront_change session command roles

theorem upfront_readParquet (path : String) (append : Bool) (mute : Mute heard)
    (roles : .roles ∈ checks) :
    Upfront checks heard ((readParquet session path append).on frame) :=
  frame.upfront_ingest_bind _ _ _ _ mute fun command => frame.upfront_change session command roles

theorem upfront_readJson (document : String) (append : Bool) (formats : List String)
    (mute : Mute heard) (roles : .roles ∈ checks) :
    Upfront checks heard ((readJson session document append formats).on frame) := by
  apply frame.upfront_ingest_bind _ _ _ _ mute
  intro command
  have sends : Remote (fun _ _ => True) (do
      let link ← session.ask command
      Link.sendText link document
      Link.expectSuccess link : Client DataError Unit) := by
    apply runs_bind _ _ (session.emits_ask _ trivial).remote
    intro link _ _
    apply runs_bind _ _ (Link.emits_sendText link document (Nat.zero_le _) trivial).remote
    exact fun _ _ _ => (Link.emits_expect link success (Nat.zero_le _)).remote
  apply Updating.upfront_ofClient_bind _ _ _ sends.timely
  exact fun _ _ _ => (frame.upfront_refresh session roles).upfront

theorem upfront_readArrow (table : Arrow.Table) (append : Bool) (mute : Mute heard)
    (roles : .roles ∈ checks) :
    Upfront checks heard ((readArrow session table append).on frame) := by
  apply frame.upfront_ingest_bind _ _ _ _ mute
  intro command
  have sends : Remote (fun _ _ => True) (do
      let link ← session.ask command
      Link.sendTable link table
      Link.expectSuccess link : Client DataError Unit) := by
    apply runs_bind _ _ (session.emits_ask _ trivial).remote
    intro link _ _
    apply runs_bind _ _ (Link.emits_sendTable link table (Nat.zero_le _) trivial).remote
    exact fun _ _ _ => (Link.emits_expect link success (Nat.zero_le _)).remote
  apply Updating.upfront_ofClient_bind _ _ _ sends.timely
  exact fun _ _ _ => (frame.upfront_refresh session roles).upfront

theorem upfront_ofLocalTable (name source : String) (table : LocalTable) (given : Option Roles)
    (only : Bool) (mute : Mute heard) (roles : .roles ∈ checks) :
    Upfront checks heard (ofLocalTable session name source table given only) := by
  apply upfront_bind _ _ ((emits_log _ _).timely mute)
  intro _ events silent
  have still : Mute (heard ++ events) := (mute_append heard events).mpr ⟨mute, silent.1⟩
  apply upfront_check_bind _ _ still
  intro frame _
  exact Updating.upfront_finish _ frame (frame.upfront_readJson session _ _ _ still roles)

theorem quiet_fileBytes (path : String) : Quiet (Client.fileBytes path) := by
  apply emits_bind (fun _ => True) _ _ _ (fun world _ => ⟨.refl world, fun _ _ => trivial⟩)
  intro world _
  split
  · exact emits_pure _ _ trivial
  · exact emits_throw _ _

theorem upfront_ofCsvFile (name path : String) (options : CsvOptions) (given : Option Roles)
    (mute : Mute heard) (roles : .roles ∈ checks) :
    Upfront checks heard (ofCsvFile session name path options given) := by
  apply upfront_bind _ _ ((emits_attempt _ _ (quiet_fileBytes path)).timely mute)
  intro content events silent
  have still : Mute (heard ++ events) := (mute_append heard events).mpr ⟨mute, silent.1⟩
  apply upfront_check_bind _ _ still
  exact fun table _ => upfront_ofLocalTable session name path table given false still roles

theorem upfront_ofRecords (name : String) (records : List Records.Record) (given : Option Roles)
    (only : Bool) (mute : Mute heard) (roles : .roles ∈ checks) :
    Upfront checks heard (ofRecords session name records given only) := by
  apply upfront_check_bind _ _ mute
  exact fun table _ => upfront_ofLocalTable session name _ table given only mute roles

theorem upfront_ofArrow (name : String) (table : Arrow.Table) (given : Option Roles) (only : Bool)
    (mute : Mute heard) (roles : .roles ∈ checks) :
    Upfront checks heard (ofArrow session name table given only) := by
  apply upfront_check_bind _ _ mute
  intro frame _
  exact Updating.upfront_finish _ frame (frame.upfront_readArrow session table false mute roles)

end DataFrame

namespace View

variable (view : View)

theorem remote_check : Remote (fun _ _ => True) (view.check session) := by
  apply runs_bind _ _ (DataFrame.remote_askLastChange session _)
  intro lastChange _ _
  apply runs_ite
  · exact fun _ => runs_pure _ trivial
  · exact fun _ => runs_bind _ _ (remote_log _ _) fun _ _ _ => runs_pure _ trivial

theorem columns_isOk (proper : view.table.Proper) :
    ∃ columns, view.table.columnNames.mapM view.table.column = .ok columns := by
  have each : ∀ name ∈ view.table.columnNames,
      ∃ column, view.table.column name = .ok column ∧ True :=
    fun name member => ((view.table.column_isOk proper name).mpr member).imp fun _ made =>
      ⟨made, trivial⟩
  obtain ⟨columns, made, -⟩ := Outcome.exists_mapM_eq_ok _ _ _ each
  exact ⟨columns, made⟩

theorem remote_rows (force : Bool) (proper : view.table.Proper) :
    Remote (fun events _ => RowsTold events) (view.rows session force) := by
  apply runs_bind _ _ (view.remote_check session)
  intro _ checked _
  obtain ⟨columns, made⟩ := view.columns_isOk proper
  rw [made]
  apply runs_bind _ _ (session.emits_ask _ trivial).remote
  intro link asked _
  apply runs_bind _ _ (Link.runs_receiveJson link).remote
  intro document events told
  obtain ⟨reply, came, object⟩ := told
  exact runs_pure _
    ⟨reply, came.mono fun _ member => by simp [member], .inr (.inr ⟨document, object⟩)⟩

theorem remote_toCsv (path : String) (options : CsvOptions) :
    Remote (fun _ _ => True) (view.toCsv session path options) :=
  runs_bind _ _ (view.remote_check session) fun _ _ _ =>
    (session.emits_send _ trivial).remote

end View

theorem DataFrame.upfront_readView (frame : DataFrame) (view : View) (append : Bool)
    (roles : .roles ∈ checks) :
    Upfront checks heard ((readView session view append).on frame) := by
  apply Updating.upfront_ofClient_bind _ _ _ (view.remote_check session).timely
  intro _ _ _
  rw [Updating.on_handle_bind]
  exact frame.upfront_change session _ roles

theorem DataFrame.upfront_ofView (name : String) (view : View) (mute : Mute heard)
    (roles : .roles ∈ checks) : Upfront checks heard (ofView session name view) := by
  apply upfront_check_bind _ _ mute
  intro frame _
  exact Updating.upfront_finish _ frame (frame.upfront_readView session view false roles)

namespace Table

variable (table : Table)

theorem remote_check : Remote (fun _ _ => True) (table.check session) := by
  cases table with
  | frame data => exact runs_pure _ trivial
  | view base layer => exact View.remote_check session ⟨base, layer⟩

theorem remote_rows (proper : table.Proper) :
    Remote (fun events _ => RowsTold events) (table.rows session) := by
  cases table with
  | frame data =>
      apply runs_bind _ _ (data.remote_askNumber session _ _)
      exact fun rows events told => runs_pure _ (told.mono (by simp))
  | view base layer => exact View.remote_rows session ⟨base, layer⟩ true proper

theorem remote_toCsv (path : String) (options : CsvOptions) :
    Remote (fun _ _ => True) (table.toCsv session path options) := by
  cases table with
  | frame data => exact (session.emits_send _ trivial).remote
  | view base layer => exact View.remote_toCsv session ⟨base, layer⟩ path options

theorem upfront_select (selection : Selection) (proper : table.Proper) (mute : Mute heard) :
    Upfront selection.lateChecks heard (table.select session selection) := by
  apply upfront_bind _ _ (selection.upfront_resolve _ mute (table.remote_rows session proper))
  intro rows resolved _
  dsimp only
  have counts := View.remote_rows session ((View.ofTable table).subselected rows.column) true
    (proper_subselected table rows.column proper)
  split
  · apply upfront_bind _ _ counts.timely
    intro length events told
    apply runs_ite
    · exact fun _ =>
        runs_throw _ (timely_bounds (by simp [Selection.lateChecks]) (told.mono (by simp)) _)
    · exact fun _ => runs_pure _ trivial
  · exact runs_pure _ trivial

/-- A step that adds a column to a proper table asks about the column before it looks at it. -/
structure Adds (checks : List LateCheck) (names : List String)
    (make : Table → String → Client DataError AddedColumn) : Prop where
  timely : ∀ table name heard, table.Proper → name ∈ names → name ∈ table.columnNames →
    Settled heard → Runs (fun events _ => Settled events) (Timely checks heard) (make table name)
  proper : ∀ table name world added last, make table name world = (.ok added, last) → added.Proper

theorem upfront_addEach (make : Table → String → Client DataError AddedColumn) (all : List String)
    (adds : Adds checks all make) (names : List String) (within : ∀ name ∈ names, name ∈ all)
    (below : View) (proper : below.table.Proper)
    (shown : ∀ name ∈ names, name ∈ below.table.columnNames) (settled : Settled heard) :
    Upfront checks heard (addEach make below names) := by
  induction names generalizing below heard with
  | nil => exact runs_pure _ trivial
  | cons name names ih =>
      rw [List.forall_mem_cons] at shown within
      apply upfront_bind _ _ ((adds.timely below.table name heard proper within.1 shown.1
        settled).and_holds (adds.proper _ _))
      intro added events further
      apply ih within.2 _ (proper_adding below.table added proper further.2)
      · intro other member
        exact mem_columnNames_adding below.table added other (shown.2 other member)
      · exact settled.append further.1

theorem upfront_foldColumns (make : Table → String → Client DataError AddedColumn)
    (names : List String) (adds : Adds checks names make) (proper : table.Proper)
    (shown : ∀ name ∈ names, name ∈ table.columnNames) (mute : Mute heard) :
    Upfront checks heard (table.foldColumns names make) := by
  cases names with
  | nil => exact runs_throw _ (timely_of_mute _ mute)
  | cons name names =>
      apply upfront_bind _ _ ((adds.timely table name heard proper (by simp) (shown name (by simp))
        (.inl mute)).and_holds (adds.proper _ _))
      intro added events further
      apply upfront_addEach make (name :: names) adds names
        (fun other member => List.mem_cons_of_mem _ member)
      · exact proper_adding table added proper further.2
      · intro other member
        exact mem_columnNames_adding table added other (shown other (List.mem_cons_of_mem _ member))
      · exact Settled.append (.inl mute) further.1

theorem adds_movedColumn (role : Role) (formats names : List String)
    (named : .named names ∈ checks) (subroles : .subroles ∈ checks) :
    Adds checks names (movedColumn session role formats) where
  timely table name heard proper member shown settled := by
    apply upfront_isOk_bind _ _ ((table.column_isOk proper name).mpr shown)
    exact fun column _ =>
      column.upfront_movedTo session name role formats names member named subroles settled
  proper := proper_movedColumn session role formats

theorem adds_markedColumn (marks : List String) (append : Bool) (names : List String)
    (valid : Subrole.validate marks = .ok ()) (named : .named names ∈ checks)
    (subroles : append = true → .subroles ∈ checks) :
    Adds checks names (markedColumn session marks append) where
  timely table name heard proper member shown settled := by
    apply upfront_isOk_bind _ _ ((table.column_isOk proper name).mpr shown)
    intro column _
    apply upfront_bind _ _ (column.remote_unit session).timely
    intro unit events told
    have further := told.settled
    apply runs_ite
    · intro appended
      apply upfront_bind _ _ (column.remote_subroles session).timely
      intro present later reported
      have still := reported.settled
      apply runs_ofExcept
      · exact fun _ _ => further.append (still.append (.inl mute_nil))
      · apply NewColumn.timely_resolve _ names member named
          ((settled.append further).append still)
        intro cause failed
        rw [Subrole.validate_includeNew present marks valid] at failed
        exact reported.timely (subroles appended) (by simp) cause failed
    · intro _
      apply runs_ofExcept
      · exact fun _ _ => further.append (.inl mute_nil)
      · apply NewColumn.timely_resolve _ names member named (settled.append further)
        intro cause failed
        rw [valid] at failed
        cases failed
  proper := proper_markedColumn session marks append

theorem adds_measuredColumn (unit : String) (forComparison : Bool) (names : List String)
    (named : .named names ∈ checks) (subroles : .subroles ∈ checks) :
    Adds checks names (measuredColumn session unit forComparison) where
  timely table name heard proper member shown settled := by
    apply upfront_isOk_bind _ _ ((table.column_isOk proper name).mpr shown)
    intro column _
    apply upfront_bind _ _ (column.remote_subroles session).timely
    intro present events reported
    have further := reported.settled
    apply runs_ofExcept
    · exact fun _ _ => further.append (.inl mute_nil)
    · apply NewColumn.timely_resolve _ names member named (settled.append further)
      exact reported.timely subroles (by simp)
  proper := proper_measuredColumn session unit forComparison

theorem upfront_withRole (names : List String) (role : Role) (formats : List String)
    (proper : table.Proper) (mute : Mute heard) (named : .named names ∈ checks)
    (subroles : .subroles ∈ checks) :
    Upfront checks heard (table.withRole session names role formats) := by
  apply upfront_check_bind _ _ mute
  intro _ checked
  exact table.upfront_foldColumns _ names (adds_movedColumn session role formats names named subroles)
    proper ((table.checkNames_eq_ok names).mp checked) mute

theorem upfront_withSubroles (names marks : List String) (append : Bool)
    (proper : table.Proper) (mute : Mute heard) (named : .named names ∈ checks)
    (subroles : append = true → .subroles ∈ checks) :
    Upfront checks heard (table.withSubroles session names marks append) := by
  apply upfront_check_bind _ _ mute
  intro _ valid
  apply upfront_check_bind _ _ mute
  intro _ checked
  exact table.upfront_foldColumns _ names
    (adds_markedColumn session marks append names valid named subroles) proper
    ((table.checkNames_eq_ok names).mp checked) mute

theorem upfront_withUnit (names : List String) (unit : String) (forComparison : Bool)
    (proper : table.Proper) (mute : Mute heard) (named : .named names ∈ checks)
    (subroles : .subroles ∈ checks) :
    Upfront checks heard (table.withUnit session names unit forComparison) := by
  apply upfront_check_bind _ _ mute
  intro _ checked
  exact table.upfront_foldColumns _ names
    (adds_measuredColumn session unit forComparison names named subroles) proper
    ((table.checkNames_eq_ok names).mp checked) mute

def LabelsOf (column : Column) (labels : List Literal) (events : List Event) : Prop :=
  ∀ label ∈ labels, column.family = label.family ∧
    ∃ table, Brought events (.table table) ∧ table.Holds label

theorem upfront_labels (name : String) (column : Column) (mute : Mute heard)
    (entries : .entries ∈ checks) :
    Runs (fun events labels => LabelsOf column labels events) (Timely checks heard)
      (Table.labels session name column) := by
  unfold Table.labels
  split
  next family =>
    apply runs_map
    apply (column.upfront_uniqueFloats session entries).imp ?_ fun _ _ => id
    rintro events values ⟨table, brought, read⟩ label member
    obtain ⟨value, among, rfl⟩ := List.mem_map.mp member
    exact ⟨family, table, brought, .inl ⟨values, read, value, among, rfl⟩⟩
  next family =>
    apply runs_map
    apply (column.upfront_uniqueTexts session entries).imp ?_ fun _ _ => id
    rintro events values ⟨table, texts, brought, read, rfl⟩ label member
    obtain ⟨text, among, rfl⟩ := List.mem_map.mp member
    exact ⟨family, table, brought, .inr ⟨texts, read, text, by simpa using among, rfl⟩⟩
  next => exact runs_throw _ (timely_of_mute _ mute)

theorem equalTo_isOk (column : Column) (label : Literal) (fits : column.family = label.family) :
    ∃ target, column.equalTo (.literal label) = .ok target := by
  have same : column.family = (Operand.literal label).family := by
    rw [fits]
    cases label <;> rfl
  simp [Column.equalTo, Column.compare, same]

/-- A target can only be wrong about its name, which has a label in it. -/
theorem timely_addTargets (name : String) (column : Column) (labels : List Literal) (table : Table)
    (cause : DataError) (targets : .targets name ∈ checks) (told : LabelsOf column labels heard)
    (failed : addTargets name column table labels = .error cause) :
    Timely checks heard [] cause := by
  induction labels generalizing table with
  | nil => cases failed
  | cons label labels ih =>
      -- a label is of the family of its column, so that the two can be compared
      obtain ⟨⟨family, sent, brought, holds⟩, others⟩ := List.forall_mem_cons.mp told
      obtain ⟨target, made⟩ := equalTo_isOk column label family
      simp only [addTargets, made, Outcome.ok_bind, Outcome.bind_eq_error, withColumn,
        Outcome.map_eq_error] at failed
      rcases failed with refused | ⟨view, -, later⟩
      · rcases NewColumn.resolve_eq_error _ cause refused with unnameable | invalid
        · exact timely_of_late (.targets name) cause targets ⟨sent, label, brought, holds, unnameable⟩
        · cases invalid
      · exact ih view.table others later

theorem mem_addTargets (name shown : String) (column : Column) (labels : List Literal)
    (table laid : Table) (present : shown ∈ table.columnNames)
    (made : addTargets name column table labels = .ok laid) : shown ∈ laid.columnNames := by
  induction labels generalizing table with
  | nil =>
      obtain rfl := Except.ok.inj made
      exact present
  | cons label labels ih =>
      simp only [addTargets, Outcome.bind_eq_ok, withColumn, Outcome.map_eq_ok] at made
      obtain ⟨target, -, _, ⟨added, -, rfl⟩, later⟩ := made
      exact ih _ (mem_columnNames_adding table added shown present) later

theorem upfront_makeTargetColumns (name : String) (proper : table.Proper) (mute : Mute heard)
    (targets : .targets name ∈ checks) (entries : .entries ∈ checks) :
    Upfront checks heard (table.makeTargetColumns session name) := by
  apply upfront_check_bind _ _ mute
  intro column made
  have present := (table.column_isOk proper name).mp ⟨column, made⟩
  apply upfront_bind _ _ (upfront_labels session name column mute entries)
  intro labels events told
  have rest {heard : List Event} (told : LabelsOf column labels heard) :
      Upfront checks heard (Client.ofExcept (do
        (← addTargets name column table labels).drop [name])) := by
    apply runs_ofExcept _ fun _ _ => trivial
    intro cause failed
    rcases (Outcome.bind_eq_error _ _ _).mp failed with refused | ⟨laid, done, missing⟩
    · exact timely_addTargets name column labels table cause targets told refused
    · have shown := mem_addTargets name name column labels table laid present done
      simp [drop, checkNames, shown] at missing
  have known (more : List Event) (within : events ⊆ more) : LabelsOf column labels more := by
    intro label member
    obtain ⟨family, table, brought, holds⟩ := told label member
    exact ⟨family, table, brought.mono within, holds⟩
  apply runs_ite
  · intro _
    apply upfront_bind _ _ (remote_log _ _).timely
    exact fun _ _ _ => rest (known _ fun _ member => by simp [member])
  · exact fun _ => rest (known _ (by simp))

end Table
end RelationalLearning
