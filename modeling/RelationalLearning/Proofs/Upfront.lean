import RelationalLearning.Proofs.Engine.Hearing
import RelationalLearning.Table.View

/-!
Local errors and the messages before them. An operation is upfront if it fails locally only before
it sends anything. Where a check comes later than that, it is named, and what it failed on is
something that the engine told in the same run, or something that was asked about first.
-/

namespace RelationalLearning

variable {α β : Type}

/-- A check that can fail after something was sent. -/
inductive LateCheck where
  /-- Of a row number, against a number of rows that was asked for. -/
  | bounds
  /-- Of the roles in a reply. -/
  | roles
  /-- Of the subroles that the engine reports. -/
  | subroles
  /-- Of the type of the entries that the engine sends. -/
  | entries
  /-- Of the names of targets, which have the entries of a column in them. -/
  | targets (name : String)
  /-- Of columns by their names, once the roles were asked for again. -/
  | columns (frame : DataFrame) (names : List String)
  /-- Of a new column, once what it leaves open was asked for. -/
  | added (new : NewColumn)
  /-- Of the names of columns whose units or subroles were asked for. -/
  | named (names : List String)

def RowsTold (events : List Event) : Prop :=
  ∃ reply, Came events reply ∧ ((∃ length, Length.parse reply = .ok length) ∨
    (∃ content, ColumnContent.parse reply = .ok content) ∨
      ∃ document, Link.objectOf reply = .ok document)

def ColumnTold (events : List Event) : Prop :=
  (∃ reply, Came events reply) ∨ ∃ subroles, Brought events (.column subroles)

def Arrow.Table.Holds (table : Arrow.Table) (label : Literal) : Prop :=
  (∃ values, Column.gather Column.floatCells table = .ok values ∧
      ∃ value ∈ values, label = .number value) ∨
    ∃ texts, Column.gather Column.textCells table = .ok texts ∧
      ∃ text, some text ∈ texts ∧ label = .text text

def Unnameable (name : String) (cause : DataError) : Prop :=
  ∃ reason, Validation.name name "name" = .error reason ∧ cause = .type reason

/-- A check fails for something that the events brought. -/
def LateCheck.Fails (events : List Event) : LateCheck → DataError → Prop
  | .bounds, cause => RowsTold events ∧ ∃ reason, cause = .index reason
  | .roles, cause => ∃ reply, Came events reply ∧ Roles.ofReply reply = .error cause
  | .subroles, cause =>
    ∃ subroles, Brought events (.column subroles) ∧ Subrole.validate subroles = .error cause
  | .entries, cause => ∃ table, Brought events (.table table) ∧
      (Column.gather Column.floatCells table = .error cause ∨
        Column.gather Column.textCells table = .error cause ∨
          Column.gather Column.truthCells table = .error cause)
  | .targets name, cause => ∃ table label, Brought events (.table table) ∧ table.Holds label ∧
      Unnameable s!"{name}={Table.labelText label}" cause
  | .columns frame names, cause => ∃ name ∈ names, frame.roles.contains name = true ∧
      cause = frame.noColumn name ∧ ∃ reply roles, Came events reply ∧
        Roles.ofReply reply = .ok roles ∧ roles.contains name = false
  | .added new, cause =>
    (new.subroles.isEmpty = true → ∃ subroles, Brought events (.column subroles)) ∧
      (new.unit.isEmpty = true → ∃ unit, Came events unit) ∧
        (Unnameable new.name cause ∨ Subrole.validate new.subroles = .error cause)
  | .named names, cause => ColumnTold events ∧ ∃ name ∈ names, Unnameable name cause

def Mute (events : List Event) : Prop := ∀ link message, .sent link message ∉ events

@[simp]
theorem mute_nil : Mute [] := by simp [Mute]

@[simp]
theorem mute_append (first later : List Event) : Mute (first ++ later) ↔ Mute first ∧ Mute later := by
  simp [Mute, forall_and]

namespace World

def Silent (before after : World) : Prop :=
  ∃ events, after.trace = before.trace ++ events ∧ ∀ link message, .sent link message ∉ events

theorem Grows.silent {base : Nat} {before after : World}
    (grows : Grows base (fun _ => False) before after) : Silent before after := by
  obtain ⟨events, recorded, fits⟩ := grows.recorded
  refine ⟨events, recorded, ?_⟩
  intro link message member
  exact (fits _ member).2

end World

variable {checks : List LateCheck} {heard : List Event}

/-- A local error after what was heard and further events: nothing was sent, or a check was late. -/
def Timely (checks : List LateCheck) (heard events : List Event) (cause : DataError) : Prop :=
  cause.isLocal = true →
    Mute (heard ++ events) ∨ ∃ check ∈ checks, check.Fails (heard ++ events) cause

theorem timely_append (first later : List Event) :
    Timely checks heard (first ++ later) = Timely checks (heard ++ first) later := by
  funext cause
  simp only [Timely, List.append_assoc]

theorem timely_of_mute (cause : DataError) (mute : Mute heard) : Timely checks heard [] cause :=
  fun _ => .inl (by simpa using mute)

theorem timely_of_late (check : LateCheck) (cause : DataError) (member : check ∈ checks)
    (fails : check.Fails heard cause) : Timely checks heard [] cause :=
  fun _ => .inr ⟨check, member, by simpa using fails⟩

namespace Client

abbrev Quiet {ε : Type} (action : Client ε α) : Prop := Emits 0 (fun _ => False) (fun _ => True) action

/-- After what was heard, the operation fails locally before anything is sent or in late checks. -/
abbrev Upfront (checks : List LateCheck) (heard : List Event) (action : Client DataError α) : Prop :=
  Runs (fun _ _ => True) (Timely checks heard) action

theorem Runs.upfront {good : List Event → α → Prop} {action : Client DataError α}
    (runs : Runs good (Timely checks heard) action) : Upfront checks heard action :=
  runs.imp (fun _ _ _ => trivial) fun _ _ => id

theorem Remote.timely {good : List Event → α → Prop} {action : Client DataError α}
    (remote : Remote good action) : Runs good (Timely checks heard) action := by
  refine remote.imp (fun _ _ => id) ?_
  intro events cause distant isLocal
  rw [distant] at isLocal
  cases isLocal

theorem Emits.timely {holds : α → Prop} {action : Client DataError α}
    (quiet : Emits 0 (fun _ => False) holds action) (mute : Mute heard) :
    Runs (fun events value => Mute events ∧ holds value) (Timely checks heard) action := by
  intro world
  obtain ⟨grows, fine⟩ := quiet world (Nat.zero_le _)
  obtain ⟨events, recorded, silent⟩ := grows.silent
  refine ⟨events, recorded, fun value done => ⟨silent, fine value done⟩, ?_⟩
  intro cause _ _
  exact .inl ((mute_append heard events).mpr ⟨mute, silent⟩)

theorem upfront_bind {middle : List Event → α → Prop} {last : List Event → β → Prop}
    (action : Client DataError α) (next : α → Client DataError β)
    (one : Runs middle (Timely checks heard) action)
    (two : ∀ value events, middle events value →
      Runs (fun later => last (events ++ later)) (Timely checks (heard ++ events)) (next value)) :
    Runs last (Timely checks heard) (action >>= next) := by
  apply runs_bind action next one
  intro value events told
  simp only [timely_append]
  exact two value events told

theorem upfront_ofExcept_bind {last : List Event → β → Prop} (outcome : Except DataError α)
    (next : α → Client DataError β)
    (one : ∀ cause, outcome = .error cause → Timely checks heard [] cause)
    (two : ∀ value, outcome = .ok value → Runs last (Timely checks heard) (next value)) :
    Runs last (Timely checks heard) (ofExcept outcome >>= next) := by
  cases outcome with
  | ok value => exact two value rfl
  | error cause => exact runs_throw cause (one cause rfl)

theorem upfront_check_bind {last : List Event → β → Prop} (outcome : Except DataError α)
    (next : α → Client DataError β) (mute : Mute heard)
    (two : ∀ value, outcome = .ok value → Runs last (Timely checks heard) (next value)) :
    Runs last (Timely checks heard) (ofExcept outcome >>= next) :=
  upfront_ofExcept_bind outcome next (fun cause _ => timely_of_mute cause mute) two

theorem upfront_isOk_bind {last : List Event → β → Prop} (outcome : Except DataError α)
    (next : α → Client DataError β) (isOk : ∃ value, outcome = .ok value)
    (two : ∀ value, outcome = .ok value → Runs last (Timely checks heard) (next value)) :
    Runs last (Timely checks heard) (ofExcept outcome >>= next) := by
  obtain ⟨value, rfl⟩ := isOk
  exact two value rfl

theorem upfront_unless (condition : Prop) [Decidable condition] (cause : DataError)
    (rest : Client DataError α) (refused : condition → Timely checks heard [] cause)
    (upfront : ¬ condition → Upfront checks heard rest) :
    Upfront checks heard (if condition then (throw cause : Client DataError PUnit) >>= fun _ => rest
      else rest) := by
  split
  next holds => exact runs_throw cause (refused holds)
  next fails => exact upfront fails

theorem upfront_forIn (items : List α) (step : α → Unit → Client DataError (ForInStep Unit))
    (each : ∀ item ∈ items, ∀ heard, Upfront checks heard (step item ())) :
    Upfront checks heard (forIn items () step) := by
  apply runs_forIn
  intro item member before
  simp only [timely_append]
  exact each item member (heard ++ before)

end Client

namespace Updating

variable {σ : Type} {middle : List Event → α × σ → Prop} {last : List Event → β × σ → Prop}

theorem quiet_throw {good : α → Prop} (cause : DataError) :
    Emits 0 (fun _ => False) good (throw cause : Updating σ DataError α) := by
  intro handle world _
  refine ⟨.refl world, ?_⟩
  rintro _ ⟨⟩

theorem quiet_ofState (action : ExceptT DataError (StateM σ) α) :
    Emits 0 (fun _ => False) (fun _ => True) (ofState action) :=
  fun _ world _ => ⟨.refl world, fun _ _ => trivial⟩

theorem Emits.timely {holds : α → Prop} {action : Updating σ DataError α}
    (quiet : Emits 0 (fun _ => False) holds action) (handle : σ) (mute : Mute heard) :
    Client.Runs (fun events _ => Mute events) (Timely checks heard) (action.on handle) := by
  intro world
  obtain ⟨events, recorded, silent⟩ := (quiet handle world (Nat.zero_le _)).1.silent
  refine ⟨events, recorded, fun _ _ => silent, ?_⟩
  intro cause _ _
  exact .inl ((mute_append heard events).mpr ⟨mute, silent⟩)

theorem upfront_bind (action : Updating σ DataError α) (next : α → Updating σ DataError β)
    (handle : σ) (one : Client.Runs middle (Timely checks heard) (action.on handle))
    (two : ∀ value changed events, middle events (value, changed) →
      Client.Runs (fun later => last (events ++ later)) (Timely checks (heard ++ events))
        ((next value).on changed)) :
    Client.Runs last (Timely checks heard) ((action >>= next).on handle) := by
  rw [on_bind]
  exact Client.upfront_bind _ _ one fun ran events told => two ran.1 ran.2 events told

theorem upfront_ofClient_bind {told : List Event → α → Prop} (action : Client DataError α)
    (next : α → Updating σ DataError β) (handle : σ)
    (one : Client.Runs told (Timely checks heard) action)
    (two : ∀ value events, told events value →
      Client.Runs (fun later => last (events ++ later)) (Timely checks (heard ++ events))
        ((next value).on handle)) :
    Client.Runs last (Timely checks heard) ((ofClient action >>= next).on handle) := by
  rw [on_ofClient_bind]
  exact Client.upfront_bind _ _ one two

theorem upfront_ofExcept_bind (outcome : Except DataError α) (next : α → Updating σ DataError β)
    (handle : σ) (one : ∀ cause, outcome = .error cause → Timely checks heard [] cause)
    (two : ∀ value, outcome = .ok value →
      Client.Runs last (Timely checks heard) ((next value).on handle)) :
    Client.Runs last (Timely checks heard) ((ofExcept outcome >>= next).on handle) := by
  rw [on_ofExcept_bind]
  exact Client.upfront_ofExcept_bind _ _ one two

theorem upfront_ofClient {told : List Event → α × σ → Prop} (action : Client DataError α)
    (handle : σ)
    (runs : Client.Runs (fun events value => told events (value, handle)) (Timely checks heard)
      action) :
    Client.Runs told (Timely checks heard) ((ofClient action : Updating σ DataError α).on handle) := by
  rw [on_ofClient]
  exact Client.runs_map _ _ runs

theorem upfront_finish (action : Updating σ DataError Unit) (handle : σ)
    (upfront : Client.Upfront checks heard (action.on handle)) :
    Client.Upfront checks heard (action.finish handle) := by
  rw [finish_eq]
  exact Client.runs_map _ _ upfront

end Updating
end RelationalLearning
