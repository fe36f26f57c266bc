import RelationalLearning.Proofs.Engine.Answering
import RelationalLearning.Proofs.Engine.Emission

/-!
What an operation is told. Its run adds events to the record; what holds of them when it succeeds,
and what when it fails, is put together from its steps.
-/

namespace RelationalLearning

variable {ε ε' σ α β : Type}

def Came (events : List Event) (reply : String) : Prop := ∃ link, .received link reply ∈ events

def Brought (events : List Event) (delivery : Delivery) : Prop :=
  ∃ link, .delivered link delivery ∈ events

theorem Came.mono {events more : List Event} {reply : String} (came : Came events reply)
    (within : events ⊆ more) : Came more reply := by
  obtain ⟨link, member⟩ := came
  exact ⟨link, within member⟩

theorem Brought.mono {events more : List Event} {delivery : Delivery}
    (brought : Brought events delivery) (within : events ⊆ more) : Brought more delivery := by
  obtain ⟨link, member⟩ := brought
  exact ⟨link, within member⟩

namespace Client

/-- `good` holds of the new events and the value of the operation, or `bad` of them and its error. -/
def Runs (good : List Event → α → Prop) (bad : List Event → ε → Prop) (action : Client ε α) :
    Prop :=
  ∀ world, ∃ events, (action world).2.trace = world.trace ++ events ∧
    (∀ value, (action world).1 = .ok value → good events value) ∧
      ∀ cause, (action world).1 = .error cause → bad events cause

variable {good : List Event → α → Prop} {bad : List Event → ε → Prop}

theorem Runs.imp {better : List Event → α → Prop} {worse : List Event → ε → Prop}
    {action : Client ε α} (runs : Runs good bad action)
    (fine : ∀ events value, good events value → better events value)
    (wrong : ∀ events cause, bad events cause → worse events cause) :
    Runs better worse action := by
  intro world
  obtain ⟨events, recorded, succeeds, fails⟩ := runs world
  exact ⟨events, recorded, fun value done => fine events value (succeeds value done),
    fun cause failed => wrong events cause (fails cause failed)⟩

theorem Runs.and_holds {holds : α → Prop} {action : Client ε α} (runs : Runs good bad action)
    (each : ∀ world value last, action world = (.ok value, last) → holds value) :
    Runs (fun events value => good events value ∧ holds value) bad action := by
  intro world
  obtain ⟨events, recorded, succeeds, fails⟩ := runs world
  refine ⟨events, recorded, ?_, fails⟩
  intro value done
  exact ⟨succeeds value done, each world value _ (Prod.ext done rfl)⟩

theorem runs_ofExcept (outcome : Except ε α) (fine : ∀ value, outcome = .ok value → good [] value)
    (wrong : ∀ cause, outcome = .error cause → bad [] cause) : Runs good bad (ofExcept outcome) :=
  fun _ => ⟨[], (List.append_nil _).symm, fine, wrong⟩

theorem runs_pure (value : α) (fine : good [] value) :
    Runs good bad (pure value : Client ε α) := by
  apply runs_ofExcept (.ok value)
  · rintro _ ⟨⟩
    exact fine
  · rintro _ ⟨⟩

theorem runs_throw (cause : ε) (wrong : bad [] cause) :
    Runs good bad (throw cause : Client ε α) := by
  apply runs_ofExcept (.error cause)
  · rintro _ ⟨⟩
  · rintro _ ⟨⟩
    exact wrong

theorem runs_ite (condition : Prop) [Decidable condition] (first second : Client ε α)
    (one : condition → Runs good bad first) (two : ¬ condition → Runs good bad second) :
    Runs good bad (if condition then first else second) := by
  split
  next holds => exact one holds
  next fails => exact two fails

/-- The events of a step stand before those of the steps that follow it. -/
theorem runs_bind {middle : List Event → α → Prop} {last : List Event → β → Prop}
    (action : Client ε α) (next : α → Client ε β) (one : Runs middle bad action)
    (two : ∀ value first, middle first value →
      Runs (fun later => last (first ++ later)) (fun later => bad (first ++ later)) (next value)) :
    Runs last bad (action >>= next) := by
  intro world
  obtain ⟨first, recorded, succeeds, fails⟩ := one world
  rw [Outcome.run_bind]
  generalize action world = reached at recorded succeeds fails
  obtain ⟨outcome, between⟩ := reached
  cases outcome with
  | error cause =>
      refine ⟨first, recorded, ?_, fun reason same => ?_⟩
      · rintro _ ⟨⟩
      · exact Except.error.inj same ▸ fails cause rfl
  | ok value =>
      obtain ⟨later, further, fine, wrong⟩ := two value first (succeeds value rfl) between
      refine ⟨first ++ later, ?_, fine, wrong⟩
      rw [further, recorded, List.append_assoc]

theorem runs_forIn (items : List α) (step : α → Unit → Client ε (ForInStep Unit))
    (each : ∀ item ∈ items, ∀ before,
      Runs (fun _ _ => True) (fun events => bad (before ++ events)) (step item ())) :
    Runs (fun _ _ => True) bad (forIn items () step) := by
  -- what the rounds before brought is moved into what is said of a failure
  induction items generalizing bad with
  | nil => exact runs_pure () trivial
  | cons item items ih =>
      rw [List.forIn_cons]
      apply runs_bind _ _ (each item (by simp) [])
      intro next first _
      cases next with
      | done _ => exact runs_pure () trivial
      | yield _ =>
          apply ih
          intro other member before
          have later := each other (List.mem_cons_of_mem _ member) (first ++ before)
          simpa only [List.nil_append, List.append_assoc] using later

theorem runs_map (action : Client ε α) (change : α → β) {last : List Event → β → Prop}
    (runs : Runs (fun events value => last events (change value)) bad action) :
    Runs last bad (change <$> action) := by
  intro world
  obtain ⟨events, recorded, succeeds, fails⟩ := runs world
  have unfolded : (change <$> action) world = ((action world).1.map change, (action world).2) := by
    rw [map_eq_pure_bind, Outcome.run_bind]
    rcases action world with ⟨_ | _, _⟩ <;> rfl
  rw [unfolded]
  refine ⟨events, recorded, fun result done => ?_, fun cause failed => ?_⟩
  · obtain ⟨value, told, rfl⟩ := (Outcome.map_eq_ok _ _ _).mp done
    exact succeeds value told
  · exact fails cause ((Outcome.map_eq_error _ _ _).mp failed)

theorem Emits.runs {holds : α → Prop} {action : Client ε α}
    (emits : Emits 0 (fun _ => True) holds action) :
    Runs (fun _ value => holds value) (fun _ _ => True) action := by
  intro world
  obtain ⟨grows, fine⟩ := emits world (Nat.zero_le _)
  obtain ⟨events, recorded, -⟩ := grows.recorded
  exact ⟨events, recorded, fine, fun _ _ => trivial⟩

abbrev Remote (good : List Event → α → Prop) (action : Client DataError α) : Prop :=
  Runs good (fun _ cause => cause.isLocal = false) action

theorem Runs.remote {wrong : List Event → EngineError → Prop} {action : Client EngineError α}
    (runs : Runs good wrong action) : Remote good (liftM action : Client DataError α) := by
  intro world
  obtain ⟨events, recorded, succeeds, -⟩ := runs world
  have unfolded : (liftM action : Client DataError α) world =
      ((action world).1.mapError DataError.engine, (action world).2) := rfl
  rw [unfolded]
  refine ⟨events, recorded, fun value done => ?_, fun cause failed => ?_⟩
  · exact succeeds value ((Outcome.mapError_eq_ok _ _ _).mp done)
  · cases result : (action world).1 with
    | ok value => rw [result] at failed; cases failed
    | error reason =>
        rw [result] at failed
        obtain rfl := Except.error.inj failed
        rfl

@[simp]
theorem remote_log (level : Level) (text : String) :
    Remote (fun _ _ => True) (log level text : Client DataError Unit) := by
  intro world
  refine ⟨[.logged ⟨level, false, text⟩], rfl, fun _ _ => trivial, ?_⟩
  rintro _ ⟨⟩

theorem Emits.remote {holds : α → Prop} {action : Client EngineError α}
    (emits : Emits 0 (fun _ => True) holds action) :
    Remote (fun _ _ => True) (liftM action : Client DataError α) :=
  (emits.runs.imp (fun _ _ _ => trivial) fun _ _ => id).remote

end Client

namespace Link

open Client

theorem runs_receive (link : Nat) : Runs Came (fun _ _ => True) (receive link) := by
  intro world
  rcases receive_cases link world with ⟨cause, last, failed, heard⟩ | ⟨reply, last, done, heard⟩
  · rw [failed]
    refine ⟨_, heard.recorded, ?_, fun _ _ => trivial⟩
    rintro _ ⟨⟩
  · rw [done]
    refine ⟨_, heard.recorded, ?_, fun _ _ => trivial⟩
    rintro _ ⟨⟩
    exact ⟨link, by simp⟩

theorem runs_deliver (link : Nat) (delivery : Delivery) :
    Runs (fun events _ => Brought events delivery) (fun _ _ => True)
      (modify (World.record (.delivered link delivery)) : Client EngineError Unit) :=
  fun _ => ⟨[.delivered link delivery], rfl, fun _ _ => ⟨link, by simp⟩, fun _ _ => trivial⟩

theorem runs_collect (link : Nat) (reader : Reader α) (delivery : α → Delivery) :
    Runs (fun events content => Brought events (delivery content)) (fun _ _ => True)
      (collect link reader delivery) := by
  apply runs_bind _ _ (emits_read reader link).runs
  intro content read _
  apply runs_bind _ _ (runs_deliver link (delivery content))
  intro _ events brought
  apply runs_pure
  exact brought.mono (by simp)

theorem runs_receiveTable (link : Nat) :
    Runs (fun events table => Brought events (.table table)) (fun _ _ => True)
      (receiveTable link) := by
  apply runs_bind _ _ (emits_read Arrow.readStream link).runs
  intro stream read _
  apply runs_bind _ _ (emits_ofExcept (fun _ => True) _ fun _ _ => trivial).runs
  intro table nothing _
  apply runs_bind _ _ (runs_deliver link (.table table))
  intro _ events brought
  apply runs_pure
  exact brought.mono (by simp)

theorem runs_receiveJson (link : Nat) :
    Runs (fun events document => ∃ reply, Came events reply ∧ objectOf reply = .ok document)
      (fun _ _ => True) (receiveJson link) := by
  rw [receiveJson_eq]
  apply runs_bind _ _ (runs_receive link)
  intro reply events came
  apply runs_ofExcept
  · exact fun document read => ⟨reply, came.mono (by simp), read⟩
  · exact fun _ _ => trivial

end Link

namespace Updating

/-- The operation on a handle, which comes back changed when it succeeds. -/
def on (action : Updating σ ε α) (handle : σ) : Client ε (α × σ) := fun world =>
  let ((outcome, changed), last) := action.runOn handle world
  (outcome.map fun value => (value, changed), last)

theorem on_bind (action : Updating σ ε α) (next : α → Updating σ ε β) (handle : σ) :
    (action >>= next).on handle = action.on handle >>= fun ran => (next ran.1).on ran.2 := by
  funext world
  rw [Outcome.run_bind, on, runOn_bind, on]
  rcases action.runOn handle world with ⟨⟨_ | _, _⟩, _⟩ <;> rfl

theorem on_ofClient_bind (action : Client ε α) (next : α → Updating σ ε β) (handle : σ) :
    (ofClient action >>= next).on handle = action >>= fun value => (next value).on handle := by
  funext world
  rw [Outcome.run_bind, on, runOn_ofClient_bind]
  rcases action world with ⟨_ | _, _⟩ <;> rfl

theorem on_ofExcept_bind (outcome : Except ε α) (next : α → Updating σ ε β) (handle : σ) :
    (ofExcept outcome >>= next).on handle =
      Client.ofExcept outcome >>= fun value => (next value).on handle :=
  on_ofClient_bind (Client.ofExcept outcome) next handle

theorem on_handle_bind (next : σ → Updating σ ε β) (handle : σ) :
    (Updating.handle >>= next).on handle = (next handle).on handle := rfl

theorem on_replace_bind (changed : σ) (next : Unit → Updating σ ε β) (handle : σ) :
    (replace changed >>= next).on handle = (next ()).on changed := rfl

theorem on_ofClient (action : Client ε α) (handle : σ) :
    (ofClient action : Updating σ ε α).on handle = (fun value => (value, handle)) <$> action := by
  funext world
  rw [map_eq_pure_bind, Outcome.run_bind]
  have unfolded : (ofClient action : Updating σ ε α).on handle world =
      ((action world).1.map fun value => (value, handle), (action world).2) := rfl
  rw [unfolded]
  rcases action world with ⟨_ | _, _⟩ <;> rfl

theorem on_onPart {τ : Type} (part : τ → σ) (replace : σ → τ → τ) (action : Updating σ ε α)
    (whole : τ) :
    (onPart part replace action).on whole =
      (fun ran => (ran.1, replace ran.2 whole)) <$> action.on (part whole) := by
  funext world
  rw [map_eq_pure_bind, Outcome.run_bind]
  have unfolded : (onPart part replace action).on whole world =
      ((action (part whole) world).1.1.map fun value =>
        (value, replace (action (part whole) world).1.2 whole), (action (part whole) world).2) := rfl
  rw [unfolded, on, runOn]
  rcases action (part whole) world with ⟨⟨_ | _, _⟩, _⟩ <;> rfl

theorem finish_eq (action : Updating σ ε Unit) (handle : σ) :
    action.finish handle = Prod.snd <$> action.on handle := by
  funext world
  rw [map_eq_pure_bind, Outcome.run_bind, finish, on, runOn]
  rcases action handle world with ⟨⟨_ | _, _⟩, _⟩ <;> rfl

end Updating
end RelationalLearning
