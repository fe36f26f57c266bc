import RelationalLearning.Engine.World

namespace RelationalLearning

/-- An operation of the client on a handle. -/
abbrev Updating (σ ε : Type) := ExceptT ε (StateT σ (StateM World))

namespace Updating

variable {σ ε α : Type}

def ofClient (action : Client ε α) : Updating σ ε α :=
  fun handle world => let (result, world) := action world; ((result, handle), world)

def ofExcept (result : Except ε α) : Updating σ ε α := fun handle world => ((result, handle), world)

def ofState (action : ExceptT ε (StateM σ) α) : Updating σ ε α := fun handle world => (action handle, world)

def handle : Updating σ ε σ := fun handle world => ((.ok handle, handle), world)

def replace (handle : σ) : Updating σ ε Unit := fun _ world => ((.ok (), handle), world)

/-- Runs an operation on a handle; the changed handle comes back whether it fails or not. -/
def runOn (action : Updating σ ε α) (handle : σ) (world : World) : (Except ε α × σ) × World :=
  action handle world

/-- Runs an operation on a handle that nobody else holds. -/
def finish (action : Updating σ ε Unit) (handle : σ) : Client ε σ :=
  fun world =>
    let ((result, handle), world) := action handle world
    (result.map fun _ => handle, world)

def onPart {τ : Type} (part : τ → σ) (replace : σ → τ → τ) (action : Updating σ ε α) : Updating τ ε α :=
  fun whole world =>
    let ((result, changed), world) := action (part whole) world
    ((result, replace changed whole), world)

end Updating

instance {σ ε : Type} : MonadLift (Client ε) (Updating σ ε) := ⟨Updating.ofClient⟩

end RelationalLearning
