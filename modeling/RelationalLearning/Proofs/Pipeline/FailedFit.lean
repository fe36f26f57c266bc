import RelationalLearning.Proofs.Pipeline.Checks

namespace RelationalLearning

namespace Updating

variable {σ ε α β : Type}

def Untouched (action : Updating σ ε α) : Prop :=
  ∀ handle world cause, (action.runOn handle world).1.1 = .error cause →
    (action.runOn handle world).1.2 = handle

theorem untouched_ofClient_bind (action : Client ε α) (next : α → Updating σ ε β)
    (second : ∀ value, Untouched (next value)) : Untouched (ofClient action >>= next) := by
  intro handle world cause failed
  rw [runOn_ofClient_bind] at failed ⊢
  split at failed
  next value later done => exact second value handle later cause failed
  next => rfl

theorem untouched_ofExcept_bind (outcome : Except ε α) (next : α → Updating σ ε β)
    (second : ∀ value, Untouched (next value)) : Untouched (ofExcept outcome >>= next) := by
  intro handle world cause failed
  cases outcome with
  | ok value => exact second value handle world cause failed
  | error refusal => rfl

theorem untouched_handle_bind (next : σ → Updating σ ε β) (second : ∀ handle, Untouched (next handle)) :
    Untouched (Updating.handle >>= next) :=
  fun handle world cause failed => second handle handle world cause failed

theorem untouched_replace (changed : σ) : Untouched (replace changed : Updating σ ε Unit) := by
  intro handle world cause failed
  cases failed

end Updating

namespace Pipeline

open Updating (Untouched)

variable (session : Session)

def TrainedBetween (name : String) (before after : World) : Prop :=
  ∃ events, after.trace = before.trace ++ events ∧ Fitted name events

theorem TrainedBetween.around {name : String} {first second third last : World}
    (trained : TrainedBetween name second third) (earlier : first.trace <+: second.trace)
    (later : third.trace <+: last.trace) : TrainedBetween name first last := by
  obtain ⟨events, recorded, fitted⟩ := trained
  obtain ⟨before, start⟩ := earlier
  obtain ⟨after, finish⟩ := later
  refine ⟨before ++ (events ++ after), ?_, fitted.append before after⟩
  rw [← finish, recorded, ← start]
  simp only [List.append_assoc]

/-- The handle is as it was, or it has the id of a pipeline that was trained in the meantime. -/
def Spared (pipeline changed : Pipeline) (world last : World) : Prop :=
  changed = pipeline ∨
    ∃ name, changed = { pipeline with id := some name } ∧ TrainedBetween name world last

def Spares (action : Updating Pipeline PipelineError Unit) (pipeline : Pipeline) (world : World) :
    Prop :=
  ∀ cause, (action.runOn pipeline world).1.1 = .error cause →
    Spared pipeline (action.runOn pipeline world).1.2 world (action.runOn pipeline world).2

theorem spares_handle_bind (next : Pipeline → Updating Pipeline PipelineError Unit)
    (pipeline : Pipeline) (world : World) (second : Spares (next pipeline) pipeline world) :
    Spares (Updating.handle >>= next) pipeline world := second

theorem spares_ofExcept_bind {α : Type} (outcome : Except PipelineError α)
    (next : α → Updating Pipeline PipelineError Unit) (pipeline : Pipeline) (world : World)
    (second : ∀ value, Spares (next value) pipeline world) :
    Spares (Updating.ofExcept outcome >>= next) pipeline world := by
  cases outcome with
  | ok value => exact second value
  | error refusal => exact fun _ _ => .inl rfl

theorem spares_ofClient_bind {α : Type} (action : Step α)
    (next : α → Updating Pipeline PipelineError Unit) (pipeline : Pipeline) (world : World)
    (grows : world.trace <+: (action world).2.trace)
    (second : ∀ value later, Spares (next value) pipeline later) :
    Spares (Updating.ofClient action >>= next) pipeline world := by
  intro cause failed
  rw [Updating.runOn_ofClient_bind] at failed ⊢
  generalize action world = reached at failed grows
  obtain ⟨outcome, later⟩ := reached
  cases outcome with
  | error refusal => exact .inl rfl
  | ok value =>
      rcases second value later cause failed with same | ⟨name, renamed, trained⟩
      · exact .inl same
      · exact .inr ⟨name, renamed, trained.around grows (List.prefix_refl _)⟩

theorem untouched_refresh : Untouched (refresh session) := by
  apply Updating.untouched_handle_bind
  intro pipeline
  apply Updating.untouched_ofExcept_bind
  intro id
  apply Updating.untouched_ofClient_bind
  intro (targets, report)
  exact Updating.untouched_replace _

theorem spares_fitUnchecked (population : Table) (peripheral : List Table)
    (validation : Option Table) (pipeline : Pipeline) (world : World) :
    Spares (fitUnchecked session population peripheral validation) pipeline world := by
  have untouched (id : String) :
      Untouched (Updating.ofClient (saveById session id) >>= fun _ => refresh session) :=
    Updating.untouched_ofClient_bind _ _ fun _ => untouched_refresh session
  have plain (id : String) :
      Updating.Plain (Updating.ofClient (saveById session id) >>= fun _ => refresh session) :=
    Updating.plain_bind _ _ (by simp) fun _ => plain_refresh session
  apply spares_handle_bind
  intro cause failed
  simp only [Updating.runOn_ofClient_bind] at failed ⊢
  split at failed
  next id later done =>
    have same := untouched id { pipeline with id := some id } later cause failed
    obtain ⟨more, recorded, -⟩ := ((plain id).grows { pipeline with id := some id } later).recorded
    obtain ⟨number, events, -, -, -, training, fitted⟩ :=
      train_eq_ok session _ population peripheral validation world later id done
    have trained : TrainedBetween id world later := ⟨events, training, fitted⟩
    exact .inr ⟨id, same, trained.around (List.prefix_refl _) ⟨more, recorded.symm⟩⟩
  next refusal later refused => exact .inl rfl

theorem spares_fit (population : Table) (peripheral : List Table) (validation : Option Table)
    (pipeline : Pipeline) (world : World) :
    Spares (fit session population peripheral validation) pipeline world := by
  apply spares_handle_bind
  apply spares_ofClient_bind
  · have careful : Client.Careful [] _ :=
      careful_warn session pipeline.blueprint population peripheral
    obtain ⟨⟨events, recorded, -⟩, -⟩ := careful world
    exact ⟨events, recorded.symm⟩
  · intro _ later
    exact spares_fitUnchecked session population peripheral validation pipeline later

def Operation.fits : Operation → Bool
  | .fit .. | .fitSubset .. | .fitUnchecked .. => true
  | _ => false

/--
A fit that fails leaves the handle as it was, but for the id of a pipeline that the engine trained
before something else failed; the targets and scores are those from before in any case.
-/
theorem failed_fit_spares (operation : Operation) (fits : operation.fits = true)
    (pipeline : Pipeline) (world : World) (cause : PipelineError)
    (failed : ((operation.action session).runOn pipeline world).1.1 = .error cause) :
    Spared pipeline ((operation.action session).runOn pipeline world).1.2 world
      ((operation.action session).runOn pipeline world).2 := by
  cases operation with
  | fit population peripheral validation =>
      exact spares_fit session population peripheral validation pipeline world cause failed
  | fitUnchecked population peripheral validation =>
      exact spares_fitUnchecked session population peripheral validation pipeline world cause failed
  | fitSubset subset validation =>
      refine spares_handle_bind _ pipeline world ?_ cause failed
      apply spares_ofExcept_bind
      intro peripheral
      exact spares_fit session subset.population peripheral _ pipeline world
  | _ => cases fits

def draft : Pipeline := { blueprint := { dataModel := .create ⟨"loans", { target := ["default"] }⟩ } }

def fitLoans : Operation := .fitUnchecked (.frame labelled) [] none

def attempt (answers : List (List String)) : (Except PipelineError Unit × Pipeline) × World :=
  (fitLoans.action {}).runOn draft (answering answers)

/-- The engine finds the data unfit before it trains anything. -/
theorem failed_fit_spares_refused :
    let answers := [["Success!"], ["Found!", "Column 'id' has no join key role."]]
    fitLoans.fits = true ∧
      (∃ cause, (attempt answers).1.1 = .error cause) ∧ (attempt answers).1.2.id = none ∧
      Spared draft (attempt answers).1.2 (answering answers) (attempt answers).2 := by
  intro answers
  have ran : (attempt answers).1.1.isOk = false ∧ (attempt answers).1.2.id = none := by
    decide +kernel
  obtain ⟨cause, failed⟩ := Outcome.exists_error (attempt answers).1.1 ran.1
  exact ⟨rfl, ⟨cause, failed⟩, ran.2,
    failed_fit_spares {} _ rfl draft (answering answers) cause failed⟩

/-- The engine trains the pipeline, but cannot save it: an unfitted handle has an id then. -/
theorem failed_fit_renames :
    ¬ ∀ (session : Session) (operation : Operation) (pipeline : Pipeline) (world : World)
      (cause : PipelineError), operation.fits = true →
      ((operation.action session).runOn pipeline world).1.1 = .error cause →
      ((operation.action session).runOn pipeline world).1.2.id = pipeline.id := by
  intro claim
  let answers := [["Success!"], ["Found!", "Trained pipeline."], ["No space left."]]
  have ran : (attempt answers).1.1.isOk = false ∧ (attempt answers).1.2.id = some "id0000" := by
    decide +kernel
  obtain ⟨cause, failed⟩ := Outcome.exists_error (attempt answers).1.1 ran.1
  have kept : (attempt answers).1.2.id = none := claim {} _ draft _ cause rfl failed
  exact absurd (kept.symm.trans ran.2) (by simp)

end Pipeline
end RelationalLearning
