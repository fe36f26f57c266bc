import RelationalLearning.Engine.Updating
import RelationalLearning.Proofs.Outcome

namespace RelationalLearning

variable {ε ε' σ α β : Type}

namespace Client

theorem bind_eq_ok (action : Client ε α) (next : α → Client ε β) (world last : World) (result : β) :
    (action >>= next) world = (.ok result, last) ↔
      ∃ value middle, action world = (.ok value, middle) ∧
        next value middle = (.ok result, last) :=
  Outcome.run_bind_eq_ok action next world last result

theorem pure_eq_ok (value result : α) (world last : World) :
    (pure value : Client ε α) world = (.ok result, last) ↔ value = result ∧ world = last := by
  constructor
  · rintro ⟨⟩
    exact ⟨rfl, rfl⟩
  · rintro ⟨rfl, rfl⟩
    rfl

theorem throw_ne_ok (cause : ε) (result : α) (world last : World) :
    (throw cause : Client ε α) world ≠ (.ok result, last) := by
  rintro ⟨⟩

theorem ofExcept_eq_ok (outcome : Except ε α) (world last : World) (result : α) :
    ofExcept outcome world = (.ok result, last) ↔ outcome = .ok result ∧ world = last := by
  constructor
  · rintro ⟨⟩
    exact ⟨rfl, rfl⟩
  · rintro ⟨rfl, rfl⟩
    rfl

theorem run_adapt (change : ε → ε') (action : Client ε α) (world : World) :
    (ExceptT.adapt change action : Client ε' α) world =
      ((action world).1.mapError change, (action world).2) := rfl

theorem adapt_eq_ok (change : ε → ε') (action : Client ε α) (world last : World) (result : α) :
    (ExceptT.adapt change action : Client ε' α) world = (.ok result, last) ↔
      action world = (.ok result, last) := by
  rw [run_adapt, Prod.ext_iff, Prod.ext_iff, Outcome.mapError_eq_ok]

theorem adapt_id (action : Client ε α) : (ExceptT.adapt id action : Client ε α) = action := by
  funext world
  rw [run_adapt]
  rcases action world with ⟨_ | _, last⟩ <;> rfl

def madeUpName (number : Nat) : String :=
  "id" ++ String.ofList (List.replicate (4 - (toString number).length) '0') ++ toString number

theorem freshName_eq (world : World) : (freshName : Client ε String) world =
    (.ok (madeUpName world.names), { world with names := world.names + 1 }) := rfl

theorem madeUpName_injective (first second : Nat)
    (same : madeUpName first = madeUpName second) : first = second := by
  have zeros (count : Nat) : Nat.ofDigitChars 10 (List.replicate count '0') 0 = 0 := by simp
  have number (value : Nat) :
      Nat.ofDigitChars 10 ((madeUpName value).toList.drop 2) 0 = value := by
    have spelled : (madeUpName value).toList.drop 2 =
        List.replicate (4 - (toString value).length) '0' ++ Nat.toDigits 10 value := by
      have digits : (toString value).toList = Nat.toDigits 10 value := by
        rw [Nat.toString_eq_repr, Nat.repr_eq_ofList_toDigits, String.toList_ofList]
      rw [madeUpName, String.toList_append, String.toList_append, digits, String.toList_ofList,
        String.toList_ofList, List.append_assoc]
      exact List.drop_left' rfl
    rw [spelled, Nat.ofDigitChars_append, zeros, Nat.ofDigitChars_toDigits (by decide) (by decide)]
  rw [← number first, same, number second]

end Client

namespace Updating

/-- A step that fails is the last one, and the handle stays as the step left it. -/
theorem runOn_bind (action : Updating σ ε α) (next : α → Updating σ ε β) (handle : σ)
    (world : World) :
    (action >>= next).runOn handle world =
      match action.runOn handle world with
      | ((.ok value, changed), later) => (next value).runOn changed later
      | ((.error cause, changed), later) => ((.error cause, changed), later) := by
  have unfolded : (action >>= next).runOn handle world =
      ExceptT.bindCont next (action handle world).1.1 (action handle world).1.2
        (action handle world).2 := rfl
  rw [unfolded, runOn]
  obtain ⟨⟨outcome, changed⟩, later⟩ := action handle world
  cases outcome with
  | ok value => rfl
  | error cause => rfl

theorem runOn_ofClient_bind (action : Client ε α) (next : α → Updating σ ε β) (handle : σ)
    (world : World) :
    (ofClient action >>= next).runOn handle world =
      match action world with
      | (.ok value, later) => (next value).runOn handle later
      | (.error cause, later) => ((.error cause, handle), later) := by
  have unfolded : (ofClient action : Updating σ ε α).runOn handle world =
      (((action world).1, handle), (action world).2) := rfl
  rw [runOn_bind, unfolded]
  generalize action world = reached
  obtain ⟨outcome, later⟩ := reached
  cases outcome <;> rfl

theorem finish_handle_bind (next : σ → Updating σ ε Unit) (handle : σ) :
    (Updating.handle >>= next).finish handle = (next handle).finish handle := rfl

theorem finish_replace_bind (changed : σ) (next : Unit → Updating σ ε Unit) (handle : σ) :
    (replace changed >>= next).finish handle = (next ()).finish changed := rfl

theorem finish_ofClient_bind (action : Client ε α) (next : α → Updating σ ε Unit) (handle : σ) :
    (ofClient action >>= next).finish handle = action >>= fun value => (next value).finish handle := by
  funext world
  have ran := runOn_ofClient_bind action next handle world
  rw [runOn] at ran
  rw [finish, Outcome.run_bind, ran]
  obtain ⟨outcome, later⟩ := action world
  cases outcome <;> rfl

theorem finish_ofExcept_bind (outcome : Except ε α) (next : α → Updating σ ε Unit) (handle : σ) :
    (ofExcept outcome >>= next).finish handle =
      Client.ofExcept outcome >>= fun value => (next value).finish handle :=
  finish_ofClient_bind (Client.ofExcept outcome) next handle

theorem finish_eq_error (action : Updating σ ε Unit) (handle : σ) (world : World) (cause : ε) :
    (action.finish handle world).1 = .error cause ↔
      (action.runOn handle world).1.1 = .error cause := by
  have unfolded : (action.finish handle world).1 =
      (action.runOn handle world).1.1.map fun _ => (action.runOn handle world).1.2 := rfl
  rw [unfolded, Outcome.map_eq_error]

/-- If the handle had the property before the operation, it has it after, also after a failure. -/
def Keeps (kept : σ → Prop) (action : Updating σ ε α) : Prop :=
  ∀ handle world, kept handle → kept (action.runOn handle world).1.2

theorem keeps_bind (kept : σ → Prop) (action : Updating σ ε α) (next : α → Updating σ ε β)
    (first : Keeps kept action) (second : ∀ value, Keeps kept (next value)) :
    Keeps kept (action >>= next) := by
  intro handle world before
  have between := first handle world before
  rw [runOn_bind]
  split
  next value changed later ran =>
    rw [ran] at between
    exact second value changed later between
  next cause changed later ran =>
    rw [ran] at between
    exact between

theorem keeps_handle_bind (kept : σ → Prop) (next : σ → Updating σ ε β)
    (second : ∀ handle, kept handle → Keeps kept (next handle)) :
    Keeps kept (Updating.handle >>= next) :=
  fun handle world before => second handle before handle world before

theorem keeps_lift (kept : σ → Prop) (action : Client ε α) :
    Keeps kept (liftM action : Updating σ ε α) :=
  fun _ _ before => before

theorem keeps_ofClient (kept : σ → Prop) (action : Client ε α) :
    Keeps kept (ofClient action : Updating σ ε α) :=
  fun _ _ before => before

theorem keeps_ofExcept_bind (kept : σ → Prop) (outcome : Except ε α) (next : α → Updating σ ε β)
    (second : ∀ value, outcome = .ok value → Keeps kept (next value)) :
    Keeps kept (ofExcept outcome >>= next) := by
  intro handle world before
  cases outcome with
  | ok value => exact second value rfl handle world before
  | error cause => exact before

theorem keeps_replace (kept : σ → Prop) (handle : σ) (fits : kept handle) :
    Keeps kept (replace handle : Updating σ ε Unit) := fun _ _ _ => fits

end Updating
end RelationalLearning
