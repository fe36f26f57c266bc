import RelationalLearning.Proofs.Upfront

namespace RelationalLearning

open Client

variable {checks : List LateCheck} {heard : List Event} (session : Session)

namespace Subrole

theorem validate_eq (subroles others : List String)
    (same : subroles.filter (fun subrole => !all.contains subrole) =
      others.filter fun subrole => !all.contains subrole) : validate subroles = validate others := by
  rw [validate, same, validate]

theorem known_of_validate (subroles : List String) (valid : validate subroles = .ok ()) :
    ∀ subrole ∈ subroles, subrole ∈ all := by
  unfold validate at valid
  split at valid
  next none => simpa using none
  next => cases valid

theorem validate_append (present added : List String) (valid : validate added = .ok ()) :
    validate (present ++ added) = validate present := by
  apply validate_eq
  have known := known_of_validate added valid
  simpa using known

theorem validate_includeNew (present added : List String) (valid : validate added = .ok ()) :
    validate (View.includeNew present added) = validate present := by
  apply validate_eq
  have known := known_of_validate added valid
  unfold View.includeNew
  clear valid
  induction added generalizing present with
  | nil => rfl
  | cons name added ih =>
      rw [List.forall_mem_cons] at known
      rw [List.foldl_cons, ih _ known.2]
      split
      · rfl
      · simp [known.1]

end Subrole

theorem RowsTold.mono {events more : List Event} (told : RowsTold events)
    (within : events ⊆ more) : RowsTold more := by
  obtain ⟨reply, came, counts⟩ := told
  exact ⟨reply, came.mono within, counts⟩

theorem Length.runs_receive (link : Nat) :
    Runs (fun events _ => RowsTold events) (fun _ _ => True) (Length.receive link) := by
  apply runs_bind _ _ (Link.runs_receive link)
  intro reply events came
  apply runs_ofExcept
  · exact fun length read => ⟨reply, came.mono (by simp), .inl ⟨length, read⟩⟩
  · exact fun _ _ => trivial

theorem ColumnContent.runs_receive (link : Nat) :
    Runs (fun events _ => RowsTold events) (fun _ _ => True) (ColumnContent.receive link) := by
  apply runs_bind _ _ (Link.runs_receive link)
  intro reply events came
  apply runs_ofExcept
  · exact fun content read => ⟨reply, came.mono (by simp), .inr (.inl ⟨content, read⟩)⟩
  · exact fun _ _ => trivial

theorem timely_bounds (bounds : .bounds ∈ checks) (told : RowsTold heard) (reason : String) :
    Timely checks heard [] (.index reason) :=
  timely_of_late .bounds _ bounds ⟨told, reason, rfl⟩

namespace Column

/-- The subroles of a column were told; one of truth values has none, and nothing is asked. -/
def SubrolesTold (column : Column) (reported : List String) (events : List Event) : Prop :=
  (column.family = .boolean ∧ Mute events ∧ reported = []) ∨ Brought events (.column reported)

def UnitTold (column : Column) (unit : String) (events : List Event) : Prop :=
  (column.family = .boolean ∧ Mute events) ∨ Came events unit

theorem SubrolesTold.timely {column : Column} {reported : List String} {events : List Event}
    (told : column.SubrolesTold reported events) (subroles : .subroles ∈ checks)
    (within : events ⊆ heard) (cause : DataError)
    (failed : Subrole.validate reported = .error cause) : Timely checks heard [] cause := by
  rcases told with ⟨-, -, rfl⟩ | brought
  · cases failed
  · exact timely_of_late .subroles cause subroles ⟨reported, brought.mono within, failed⟩

variable (column : Column)

theorem remote_rows : Remote (fun events _ => RowsTold events) (column.rows session) := by
  apply runs_bind _ _ (session.emits_askExpecting _ _ trivial).remote
  intro link asked _
  apply (Length.runs_receive link).remote.imp
  · exact fun events _ told => told.mono (by simp)
  · exact fun _ _ => id

theorem remote_content (start length : Nat) :
    Remote (fun events _ => RowsTold events) (column.content session start length) := by
  apply runs_bind _ _ (session.emits_ask _ trivial).remote
  intro link asked _
  apply (ColumnContent.runs_receive link).remote.imp
  · exact fun events _ told => told.mono (by simp)
  · exact fun _ _ => id

theorem upfront_entryAt (bounds : .bounds ∈ checks) (index : Int)
    (told : index < 0 → RowsTold heard) : Upfront checks heard (do
    if index < 0 then throw outOfBounds
    let content ← column.content session index.toNat 1
    if content.total ≤ index.toNat && content.total > 0 then throw outOfBounds
    match content.entries with
    | entry :: _ => return entry
    | [] => throw outOfBounds : Client DataError String) := by
  apply upfront_unless _ _ _ fun negative => timely_bounds bounds (told negative) _
  intro _
  apply upfront_bind _ _ (column.remote_content session _ _).timely
  intro content events counted
  have outside : Timely checks (heard ++ events) [] outOfBounds :=
    timely_bounds bounds (counted.mono (by simp)) _
  split
  · exact upfront_unless _ _ _ (fun _ => outside) fun _ => runs_pure _ trivial
  · exact upfront_unless _ _ _ (fun _ => outside) fun _ => runs_throw _ outside

theorem upfront_entry (bounds : .bounds ∈ checks) (index : Int) :
    Upfront checks heard (column.entry session index) := by
  unfold entry
  dsimp only
  split
  · apply upfront_bind _ _ (column.remote_rows session).timely
    intro rows events counted
    have told : RowsTold (heard ++ events) := counted.mono (by simp)
    split
    · exact column.upfront_entryAt session bounds _ fun _ => told
    · exact runs_throw _ (timely_bounds bounds told _)
  next positive =>
    exact column.upfront_entryAt session bounds index fun negative => absurd negative positive

theorem remote_batches :
    Remote (fun events table => Brought events (.table table)) (column.batches session) := by
  apply runs_bind _ _ (session.emits_ask _ trivial).remote
  intro link asked _
  apply runs_bind _ _ (Link.emits_expect link success (Nat.zero_le _)).remote
  intro _ expected _
  apply runs_bind _ _ (Link.runs_receiveTable link).remote
  intro table events brought
  split
  · apply runs_bind _ _ (Link.emits_expect link success (Nat.zero_le _)).remote
    exact fun _ _ _ => runs_pure _ (brought.mono fun _ member => by simp [member])
  · exact runs_pure _ (brought.mono (by simp))

theorem upfront_gather {γ : Type}
    (read : Arrow.DataType → List Arrow.Cell → Except DataError (List γ))
    (entries : .entries ∈ checks) (table : Arrow.Table) (brought : Brought heard (.table table))
    (fails : ∀ cause, gather read table = .error cause → gather floatCells table = .error cause ∨
      gather textCells table = .error cause ∨ gather truthCells table = .error cause) :
    Runs (fun _ values => gather read table = .ok values) (Timely checks heard)
      (Client.ofExcept (gather read table)) := by
  apply runs_ofExcept _ fun _ => id
  intro cause failed
  exact timely_of_late .entries cause entries ⟨table, brought, fails cause failed⟩

theorem upfront_floatEntries (entries : .entries ∈ checks) :
    Upfront checks heard (column.floatEntries session) := by
  apply upfront_bind _ _ (column.remote_batches session).timely
  intro table events brought
  exact (upfront_gather floatCells entries table (brought.mono (by simp)) fun _ => .inl).upfront

theorem upfront_textEntries (entries : .entries ∈ checks) :
    Upfront checks heard (column.textEntries session) := by
  apply upfront_bind _ _ (column.remote_batches session).timely
  intro table events brought
  exact (upfront_gather textCells entries table (brought.mono (by simp)) fun _ failed =>
    .inr (.inl failed)).upfront

theorem upfront_truthEntries (entries : .entries ∈ checks) :
    Upfront checks heard (column.truthEntries session) := by
  apply upfront_bind _ _ (column.remote_batches session).timely
  intro table events brought
  exact (upfront_gather truthCells entries table (brought.mono (by simp)) fun _ failed =>
    .inr (.inr failed)).upfront

theorem upfront_uniqueFloats (entries : .entries ∈ checks) :
    Runs (fun events values => ∃ table, Brought events (.table table) ∧
        gather floatCells table = .ok values)
      (Timely checks heard) (column.uniqueFloats session) := by
  apply upfront_bind _ _ (session.emits_ask _ trivial).remote.timely
  intro link asked _
  apply upfront_bind _ _ (Link.emits_expect link success (Nat.zero_le _)).remote.timely
  intro _ expected _
  apply upfront_bind _ _ (Link.runs_receiveTable link).remote.timely
  intro table events brought
  apply upfront_bind _ _ (Link.emits_expect link success (Nat.zero_le _)).remote.timely
  intro _ ended _
  apply (upfront_gather floatCells entries table ?_ fun _ => .inl).imp ?_ fun _ _ => id
  · exact brought.mono fun _ member => by simp [member]
  · exact fun _ values read => ⟨table, brought.mono fun _ member => by simp [member], read⟩

theorem upfront_uniqueTexts (entries : .entries ∈ checks) :
    Runs (fun events values => ∃ table texts, Brought events (.table table) ∧
        gather textCells table = .ok texts ∧ values = texts.filterMap id)
      (Timely checks heard) (column.uniqueTexts session) := by
  apply upfront_bind _ _ (session.emits_ask _ trivial).remote.timely
  intro link asked _
  apply upfront_bind _ _ (Link.emits_expect link success (Nat.zero_le _)).remote.timely
  intro _ expected _
  apply upfront_bind _ _ (Link.runs_receiveTable link).remote.timely
  intro table events brought
  apply upfront_bind _ _ (upfront_gather textCells entries table ?_ fun _ failed => .inr (.inl failed))
  · intro texts nothing read
    exact runs_pure _ ⟨table, texts, brought.mono fun _ member => by simp [member], read, rfl⟩
  · exact brought.mono fun _ member => by simp [member]

theorem remote_subroles :
    Remote (fun events reported => column.SubrolesTold reported events)
      (column.subroles session) := by
  unfold subroles
  split
  next family => exact runs_pure _ (.inl ⟨family, mute_nil, rfl⟩)
  next =>
    apply runs_bind _ _ (session.emits_ask _ trivial).remote
    intro link asked _
    apply runs_bind _ _ (Link.emits_expect link success (Nat.zero_le _)).remote
    intro _ expected _
    apply (Link.runs_collect link Frame.textColumn .column).remote.imp
    · exact fun events reported brought => .inr (brought.mono fun _ member => by simp [member])
    · exact fun _ _ => id

theorem remote_unit :
    Remote (fun events unit => column.UnitTold unit events) (column.unit session) := by
  unfold unit
  split
  next family => exact runs_pure _ (.inl ⟨family, mute_nil⟩)
  next =>
    apply runs_bind _ _ (session.emits_ask _ trivial).remote
    intro link asked _
    apply runs_bind _ _ (Link.emits_expect link success (Nat.zero_le _)).remote
    intro _ expected _
    apply (Link.runs_receive link).remote.imp
    · exact fun events reply came => .inr (came.mono fun _ member => by simp [member])
    · exact fun _ _ => id

theorem withSubroles_eq_error (subroles : List String) (cause : DataError)
    (failed : column.withSubroles subroles = .error cause) :
    Subrole.validate subroles = .error cause := by
  unfold withSubroles at failed
  cases valid : Subrole.validate subroles with
  | ok =>
      rw [valid] at failed
      split at failed <;> cases failed
  | error reason =>
      rw [valid] at failed
      split at failed
      · simpa using failed
      · simpa using failed
      · cases failed

/-- The subroles to add are checked first, and then only those that the engine reports can be wrong. -/
theorem upfront_withAppendedSubroles (subroles : .subroles ∈ checks) (added : List String)
    (mute : Mute heard) : Upfront checks heard (column.withAppendedSubroles session added) := by
  apply upfront_check_bind _ _ mute
  intro _ valid
  apply upfront_bind _ _ (column.remote_subroles session).timely
  intro present events told
  apply runs_ofExcept _ fun _ _ => trivial
  intro cause failed
  have wrong := column.withSubroles_eq_error _ cause failed
  rw [Subrole.validate_append present added valid] at wrong
  exact told.timely subroles (by simp) cause wrong

theorem remote_aggregate (aggregate : Aggregate) (label : String) :
    Remote (fun _ _ => True) (column.aggregate session aggregate label) := by
  apply runs_bind _ _ (session.emits_ask _ trivial).remote
  intro link _ _
  apply runs_bind _ _ (Link.emits_expect link success (Nat.zero_le _)).remote
  intro _ _ _
  apply runs_bind _ _ (Link.runs_collect link Frame.matrix .matrix).remote
  intro matrix _ _
  split
  · exact runs_pure _ trivial
  · exact runs_throw _ rfl

end Column

section

variable (rows : Client DataError Length)

theorem liftExcept_eq {ε α : Type} (outcome : Except ε α) :
    (liftM outcome : Client ε α) = Client.ofExcept outcome := rfl

theorem Slice.indices_isOk (slice : Slice) (step : Int) (length : Nat)
    (nonzero : slice.nonzeroStep = .ok step) : ∃ bounds, slice.indices length = .ok bounds := by
  simp [indices, nonzero]

theorem Slice.upfront_resolve (slice : Slice)
    (bounds : slice.needsLength = true → .bounds ∈ checks) (mute : Mute heard)
    (asks : Remote (fun events _ => RowsTold events) rows) :
    Upfront checks heard (slice.resolve rows) := by
  rw [resolve, liftExcept_eq]
  apply upfront_check_bind _ _ mute
  intro step nonzero
  split
  next => exact runs_pure _ trivial
  next needs =>
    apply upfront_bind _ _ asks.timely
    intro length events told
    split
    next _ count =>
      rw [liftExcept_eq]
      apply upfront_isOk_bind _ _ (slice.indices_isOk step count nonzero)
      exact fun _ _ => runs_pure _ trivial
    next =>
      split
      · exact runs_pure _ trivial
      · exact runs_throw _ (timely_bounds (bounds (by simpa using needs)) (told.mono (by simp)) _)

theorem upfront_resolveRow (index : Int) (bounds : .bounds ∈ checks)
    (asks : Remote (fun events _ => RowsTold events) rows) :
    Upfront checks heard (resolveRow index rows) := by
  have rest {heard : List Event} (index : Int) (told : index < 0 → RowsTold heard) :
      Upfront checks heard (if index < 0 then throw outOfBounds
        else return .single index : Client DataError Subselection) := by
    split
    next negative => exact runs_throw _ (timely_bounds bounds (told negative) _)
    next => exact runs_pure _ trivial
  unfold resolveRow
  dsimp only
  split
  · apply upfront_bind _ _ asks.timely
    intro length events counted
    have told : RowsTold (heard ++ events) := counted.mono (by simp)
    split
    · exact rest _ fun _ => told
    · exact runs_throw _ (timely_bounds bounds told _)
  next positive => exact rest index fun negative => absurd negative positive

end

/-- The checks of a selection once the number of rows was asked for. -/
def Selection.lateChecks : Selection → List LateCheck
  | .row _ => [.bounds]
  | .slice bounds => if bounds.needsLength then [.bounds] else []
  | .mask _ | .numbers _ => []

theorem Selection.upfront_resolve (selection : Selection) (rows : Client DataError Length)
    (mute : Mute heard) (asks : Remote (fun events _ => RowsTold events) rows) :
    Upfront selection.lateChecks heard (selection.resolve rows) := by
  cases selection with
  | row index => exact upfront_resolveRow rows index (by simp [lateChecks]) asks
  | slice slice =>
      exact slice.upfront_resolve rows (fun needs => by simp [lateChecks, needs]) mute asks
  | mask column => exact runs_pure _ trivial
  | numbers column =>
      rw [resolve]
      split
      · exact runs_pure _ trivial
      · exact runs_throw _ (timely_of_mute _ mute)

theorem Column.remote_rowsForSelection (column : Column) :
    Remote (fun events _ => RowsTold events) (column.rowsForSelection session) := by
  apply runs_bind _ _ (remote_log _ _)
  intro _ logged _
  apply (column.remote_rows session).imp
  · exact fun events _ told => told.mono (by simp)
  · exact fun _ _ => id

theorem Column.upfront_select (column : Column) (selection : Selection) (mute : Mute heard) :
    Upfront selection.lateChecks heard (column.select session selection) := by
  apply upfront_bind _ _ (selection.upfront_resolve _ mute (column.remote_rowsForSelection session))
  intro rows resolved _
  split
  · apply upfront_bind _ _ (Column.remote_rows session _).timely
    intro length events told
    split
    · exact runs_throw _ (timely_bounds (by simp [Selection.lateChecks]) (told.mono (by simp)) _)
    · exact runs_pure _ trivial
  · exact runs_pure _ trivial

namespace StoredColumn

variable (column : StoredColumn)

theorem remote_setField (suffix field : String) (value : Json) :
    Remote (fun _ _ => True) (column.setField session suffix field value) :=
  (session.emits_send _ trivial).remote

theorem upfront_setSubroles (subroles : List String)
    (late : ∀ cause, Subrole.validate subroles = .error cause → Timely checks heard [] cause) :
    Upfront checks heard (column.setSubroles session subroles) :=
  upfront_ofExcept_bind _ _ late fun _ _ => (column.remote_setField session _ _ _).timely

theorem remote_setUnit (unit : String) :
    Remote (fun _ _ => True) (column.setUnit session unit) :=
  column.remote_setField session _ _ _

end StoredColumn
end RelationalLearning
