import Mathlib.Data.List.Forall2

namespace RelationalLearning.Outcome

variable {ε α β : Type}

@[simp]
theorem ok_bind (value : α) (next : α → Except ε β) :
    (Except.ok value : Except ε α) >>= next = next value := rfl

@[simp]
theorem error_bind (cause : ε) (next : α → Except ε β) :
    (Except.error cause : Except ε α) >>= next = .error cause := rfl

@[simp]
theorem pure_eq_ok (value : α) : (pure value : Except ε α) = .ok value := rfl

@[simp]
theorem throw_eq_error (cause : ε) : (throw cause : Except ε α) = .error cause := rfl

theorem exists_error (outcome : Except ε α) (failed : outcome.isOk = false) :
    ∃ cause, outcome = .error cause := by
  cases outcome with
  | ok value => cases failed
  | error cause => exact ⟨cause, rfl⟩

theorem bind_eq_ok (action : Except ε α) (next : α → Except ε β) (result : β) :
    action >>= next = .ok result ↔ ∃ value, action = .ok value ∧ next value = .ok result := by
  cases action with
  | ok value => simp
  | error cause => simp

theorem bind_eq_error (action : Except ε α) (next : α → Except ε β) (cause : ε) :
    action >>= next = .error cause ↔
      action = .error cause ∨ ∃ value, action = .ok value ∧ next value = .error cause := by
  cases action with
  | ok value => simp
  | error reason => simp

theorem map_eq_ok (action : Except ε α) (change : α → β) (result : β) :
    action.map change = .ok result ↔ ∃ value, action = .ok value ∧ change value = result := by
  cases action with
  | ok value => simp [Except.map]
  | error cause => simp [Except.map]

theorem map_eq_error (action : Except ε α) (change : α → β) (cause : ε) :
    action.map change = .error cause ↔ action = .error cause := by
  cases action with
  | ok value => simp [Except.map]
  | error reason => simp [Except.map]

theorem mapError_eq_ok {ε' : Type} (action : Except ε α) (change : ε → ε') (result : α) :
    action.mapError change = .ok result ↔ action = .ok result := by
  cases action with
  | ok value => simp [Except.mapError]
  | error cause => simp [Except.mapError]

theorem refused_eq_ok (refused : Prop) [Decidable refused] (cause : ε) (next : Except ε α)
    (result : α) :
    (if refused then .error cause else next) = .ok result ↔ ¬ refused ∧ next = .ok result := by
  split
  next bad => simp [bad]
  next fine => simp [fine]

theorem exists_mapM_forall₂ (related : α → β → Prop) (step : α → Except ε β) (items : List α)
    (each : ∀ item ∈ items, ∃ result, step item = .ok result ∧ related item result) :
    ∃ results, items.mapM step = .ok results ∧ List.Forall₂ related items results := by
  induction items with
  | nil => exact ⟨[], rfl, .nil⟩
  | cons item items ih =>
      obtain ⟨first, found, fits⟩ := each item (by simp)
      obtain ⟨rest, others, all⟩ := ih fun other member => each other (by simp [member])
      exact ⟨first :: rest, by simp [List.mapM_cons, found, others], .cons fits all⟩

theorem exists_mapM_eq_ok (good : β → Prop) (step : α → Except ε β) (items : List α)
    (each : ∀ item ∈ items, ∃ result, step item = .ok result ∧ good result) :
    ∃ results, items.mapM step = .ok results ∧ ∀ result ∈ results, good result := by
  obtain ⟨results, done, pairs⟩ := exists_mapM_forall₂ (fun _ result => good result) step items each
  refine ⟨results, done, ?_⟩
  clear done each
  induction pairs with
  | nil => simp
  | cons fits _ ih => exact List.forall_mem_cons.mpr ⟨fits, ih⟩

theorem forall_mem_of_mapM (good : β → Prop) (step : α → Except ε β)
    (each : ∀ item result, step item = .ok result → good result) (items : List α)
    (results : List β) (done : items.mapM step = .ok results) :
    ∀ result ∈ results, good result := by
  induction items generalizing results with
  | nil =>
      obtain rfl : [] = results := by simpa using done
      simp
  | cons item items ih =>
      rw [List.mapM_cons, bind_eq_ok] at done
      obtain ⟨first, found, done⟩ := done
      obtain ⟨rest, others, done⟩ := (bind_eq_ok _ _ _).mp done
      obtain rfl : first :: rest = results := by simpa using done
      simpa using ⟨each item first found, ih rest others⟩

theorem forM_eq_ok (check : α → Except ε Unit) (items : List α) :
    items.forM check = .ok () ↔ ∀ item ∈ items, check item = .ok () := by
  induction items with
  | nil => simp [List.forM]
  | cons item items ih =>
      have unfolded : (item :: items).forM check = check item >>= fun _ => items.forM check := rfl
      rw [unfolded, bind_eq_ok, List.forall_mem_cons, ih]
      constructor
      · rintro ⟨⟨⟩, first, rest⟩
        exact ⟨first, rest⟩
      · rintro ⟨first, rest⟩
        exact ⟨(), first, rest⟩

theorem mapM_eq_ok (step : α → Except ε β) (items : List α) (results : List β) :
    items.mapM step = .ok results ↔
      List.Forall₂ (fun item result => step item = .ok result) items results := by
  induction items generalizing results with
  | nil => cases results <;> simp
  | cons item items ih =>
      rw [List.mapM_cons, bind_eq_ok]
      constructor
      · rintro ⟨first, found, done⟩
        obtain ⟨rest, others, done⟩ := (bind_eq_ok _ _ _).mp done
        obtain rfl : first :: rest = results := by simpa using done
        exact .cons found ((ih rest).mp others)
      · rintro (_ | ⟨found, others⟩)
        exact ⟨_, found, by rw [(ih _).mpr others]; rfl⟩

theorem mapM_eq_filterMap (step : α → Except ε β) (items : List α)
    (each : ∀ item ∈ items, ∃ result, step item = .ok result) :
    items.mapM step = .ok (items.filterMap fun item => (step item).toOption) := by
  induction items with
  | nil => rfl
  | cons item items ih =>
      obtain ⟨⟨result, done⟩, rest⟩ := List.forall_mem_cons.mp each
      have kept : (step item).toOption = some result := congrArg Except.toOption done
      rw [List.mapM_cons, done, ih rest]
      simp only [List.filterMap_cons, kept]
      rfl

theorem mem_of_mapM (step : α → Except ε β) (items : List α) (results : List β)
    (done : items.mapM step = .ok results) (result : β) :
    result ∈ results ↔ ∃ item ∈ items, step item = .ok result := by
  have pairs := (mapM_eq_ok step items results).mp done
  clear done
  induction pairs with
  | nil => simp
  | cons found _ ih => simp [found, ih, eq_comm]

theorem exists_of_mapM_eq_ok (step : α → Except ε β) (items : List α) (results : List β)
    (done : items.mapM step = .ok results) :
    ∀ item ∈ items, ∃ result, step item = .ok result := by
  have pairs := (mapM_eq_ok step items results).mp done
  clear done
  induction pairs with
  | nil => simp
  | cons found _ ih => exact List.forall_mem_cons.mpr ⟨⟨_, found⟩, ih⟩

theorem exists_of_mapM_eq_error (step : α → Except ε β) (items : List α) (cause : ε)
    (failed : items.mapM step = .error cause) : ∃ item ∈ items, step item = .error cause := by
  induction items with
  | nil => cases failed
  | cons item items ih =>
      rw [List.mapM_cons, bind_eq_error] at failed
      rcases failed with first | ⟨result, -, failed⟩
      · exact ⟨item, by simp, first⟩
      · rcases (bind_eq_error _ _ _).mp failed with later | ⟨_, _, failed⟩
        · obtain ⟨other, member, same⟩ := ih later
          exact ⟨other, by simp [member], same⟩
        · cases failed

theorem run_bind {σ : Type} (action : ExceptT ε (StateM σ) α) (next : α → ExceptT ε (StateM σ) β)
    (state : σ) :
    (action >>= next) state =
      match action state with
      | (.ok value, later) => next value later
      | (.error cause, later) => (.error cause, later) := by
  have unfolded : (action >>= next) state =
      ExceptT.bindCont next (action state).1 (action state).2 := rfl
  rw [unfolded]
  obtain ⟨outcome, later⟩ := action state
  cases outcome with
  | ok value => rfl
  | error cause => rfl

theorem run_bind_eq_ok {σ : Type} (action : ExceptT ε (StateM σ) α)
    (next : α → ExceptT ε (StateM σ) β) (state last : σ) (result : β) :
    (action >>= next) state = (.ok result, last) ↔
      ∃ value middle, action state = (.ok value, middle) ∧
        next value middle = (.ok result, last) := by
  rw [run_bind]
  generalize action state = before
  obtain ⟨outcome, middle⟩ := before
  constructor
  · intro done
    cases outcome with
    | ok value => exact ⟨value, middle, rfl, done⟩
    | error cause => cases done
  · rintro ⟨value, later, ⟨⟩, second⟩
    exact second

theorem foldlM_keeps_of_mem {σ : Type} (kept : σ → Prop) (step : σ → α → Except ε σ)
    (items : List α) (state last : σ)
    (keeps : ∀ state, ∀ item ∈ items, ∀ next, kept state → step state item = .ok next → kept next)
    (start : kept state) (done : items.foldlM step state = .ok last) :
    kept last := by
  induction items generalizing state with
  | nil =>
      obtain rfl : state = last := by simpa using done
      exact start
  | cons item items ih =>
      rw [List.foldlM_cons, bind_eq_ok] at done
      obtain ⟨next, first, rest⟩ := done
      refine ih next ?_ (keeps state item List.mem_cons_self next start first) rest
      exact fun state item later => keeps state item (List.mem_cons_of_mem _ later)

theorem foldlM_keeps {σ : Type} (kept : σ → Prop) (step : σ → α → Except ε σ)
    (keeps : ∀ state item next, kept state → step state item = .ok next → kept next)
    (items : List α) (state last : σ) (start : kept state)
    (done : items.foldlM step state = .ok last) :
    kept last :=
  foldlM_keeps_of_mem kept step items state last (fun state item _ => keeps state item) start done

end RelationalLearning.Outcome
