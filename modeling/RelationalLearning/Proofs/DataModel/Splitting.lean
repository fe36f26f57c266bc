import RelationalLearning.Proofs.DataModel.Growth

/-!
Splits that fail at any of their masks. A split puts its subsets into the container one after
another, so one that fails keeps what it has cut out before, and cannot be repeated.
-/

namespace RelationalLearning.Container

variable (container : Container)

def cuts (population : Table) (masks : List (String × Column)) : List (String × Table) :=
  masks.map fun (name, mask) => (name, cut population name mask)

def holding (container : Container) : List (String × Table) → Container
  | [] => container
  | (name, table) :: rest =>
    holding { container with subsets := .insert name table container.subsets } rest

structure Admits (names : List String) : Prop where
  free : ∀ name ∈ names, container.Free name
  distinct : names.Nodup

theorem names_cuts (population : Table) (masks : List (String × Column)) :
    (cuts population masks).map (·.1) = masks.map (·.1) := by
  simp [cuts]

theorem holding_eq (subsets : List (String × Table)) :
    ∃ held, container.holding subsets = { container with subsets := held } := by
  induction subsets generalizing container with
  | nil => exact ⟨container.subsets, rfl⟩
  | cons subset subsets ih => exact ih _

theorem free_insert (name other : String) (table : Table) :
    Free { container with subsets := .insert other table container.subsets } name ↔
      container.Free name ∧ name ≠ other := by
  constructor
  · rintro ⟨unlocked, valid, new⟩
    rw [Index.lookup_insert] at new
    split at new
    next => cases new
    next apart => exact ⟨⟨unlocked, valid, new⟩, apart⟩
  · rintro ⟨⟨unlocked, valid, new⟩, apart⟩
    refine ⟨unlocked, valid, ?_⟩
    rw [Index.lookup_insert, if_neg apart]
    exact new

theorem free_holding (subsets : List (String × Table)) (name : String) :
    (container.holding subsets).Free name ↔
      container.Free name ∧ name ∉ subsets.map (·.1) := by
  induction subsets generalizing container with
  | nil => simp [holding]
  | cons subset subsets ih =>
      obtain ⟨other, table⟩ := subset
      rw [holding, ih, free_insert, List.map_cons, List.mem_cons, not_or, and_assoc]

theorem lookup_holding (subsets : List (String × Table)) (distinct : (subsets.map (·.1)).Nodup)
    (name : String) :
    (container.holding subsets).subsets.lookup name =
      (subsets.lookup name).or (container.subsets.lookup name) := by
  induction subsets generalizing container with
  | nil => rfl
  | cons subset subsets ih =>
      obtain ⟨other, table⟩ := subset
      obtain ⟨apart, distinct⟩ := List.nodup_cons.mp distinct
      rw [holding, ih _ distinct, Index.lookup_insert, Index.lookup_cons]
      split
      next same =>
        subst same
        have absent : subsets.lookup name = none := by
          rw [← Option.not_isSome_iff_eq_none, Index.lookup_isSome]
          exact apart
        rw [absent, Option.none_or, Option.some_or]
      next => rfl

theorem admits_cons (name : String) (table : Table) (names : List String) :
    container.Admits (name :: names) ↔
      container.Free name ∧
        Admits { container with subsets := .insert name table container.subsets } names := by
  constructor
  · rintro ⟨free, distinct⟩
    obtain ⟨apart, distinct⟩ := List.nodup_cons.mp distinct
    refine ⟨free name (by simp), fun other member => ?_, distinct⟩
    refine (container.free_insert other name table).mpr ⟨free other (by simp [member]), ?_⟩
    rintro rfl
    exact apart member
  · rintro ⟨free, others⟩
    have beside : ∀ other ∈ names, container.Free other ∧ other ≠ name := fun other member =>
      (container.free_insert other name table).mp (others.free other member)
    refine ⟨?_, List.nodup_cons.mpr ⟨fun member => (beside name member).2 rfl, others.distinct⟩⟩
    intro other member
    rcases List.mem_cons.mp member with rfl | member
    · exact free
    · exact (beside other member).1

theorem addSubset_fails (name : String) (table : Table) :
    (∃ cause, container.addSubset name table = .error cause) ↔ ¬ container.Free name := by
  constructor
  · rintro ⟨cause, refused⟩ free
    have added := (container.addSubset_eq_ok _ name table).mpr ⟨free, rfl⟩
    rw [refused] at added
    cases added
  · intro taken
    cases attempt : container.addSubset name table with
    | ok changed => exact (taken ((container.addSubset_eq_ok changed name table).mp attempt).1).elim
    | error cause => exact ⟨cause, rfl⟩

/-- Cutting out a list of subsets succeeds as far as their names are admitted. -/
theorem addCuts_eq_ok (population : Table) (masks : List (String × Column)) (after : Container) :
    addCuts population masks container = (.ok (), after) ↔
      container.Admits (masks.map (·.1)) ∧ after = container.holding (cuts population masks) := by
  induction masks generalizing container with
  | nil =>
      constructor
      · rintro ⟨⟩
        exact ⟨⟨by simp, .nil⟩, rfl⟩
      · rintro ⟨-, rfl⟩
        rfl
  | cons mask masks ih =>
      obtain ⟨name, mask⟩ := mask
      rw [addCuts_cons, List.map_cons, container.admits_cons name (cut population name mask)]
      split
      next changed added =>
        obtain ⟨free, rfl⟩ := (container.addSubset_eq_ok changed name _).mp added
        rw [ih, and_iff_right free]
        rfl
      next cause refused =>
        have taken := (container.addSubset_fails name (cut population name mask)).mp ⟨cause, refused⟩
        refine ⟨fun succeeded => ?_, fun ⟨⟨free, _⟩, _⟩ => (taken free).elim⟩
        cases succeeded

/-- A list of subsets is cut out up to the first that is refused. -/
theorem addCuts_eq_error (population : Table) (masks : List (String × Column)) (after : Container)
    (cause : DataError) (failed : addCuts population masks container = (.error cause, after)) :
    ∃ taken name mask rest, masks = taken ++ (name, mask) :: rest ∧
      addCuts population taken container = (.ok (), after) ∧
      after.addSubset name (cut population name mask) = .error cause := by
  induction masks generalizing container with
  | nil => cases failed
  | cons mask masks ih =>
      obtain ⟨name, mask⟩ := mask
      rw [addCuts_cons] at failed
      split at failed
      next changed added =>
        obtain ⟨taken, next, nextMask, rest, rfl, cutOut, refused⟩ := ih changed failed
        refine ⟨(name, mask) :: taken, next, nextMask, rest, rfl, ?_, refused⟩
        rw [addCuts_cons, added]
        exact cutOut
      next reason refused =>
        obtain ⟨same, rfl⟩ := Prod.mk.inj failed
        obtain rfl := Except.error.inj same
        exact ⟨[], name, mask, masks, rfl, rfl, refused⟩

def Operation.masks : Operation → Option (List (String × Column))
  | .split masks => some masks
  | .randomSplit fractions seed => some (fractionMasks (.random seed) fractions)
  | _ => none

def Operation.Stopped (container : Container) : Operation → Prop
  | .randomSplit fractions _ => ¬ Fit fractions ∨ container.population = none
  | _ => container.population = none

theorem stopped_split (masks : List (String × Column)) (stopped : container.population = none) :
    ∃ cause, split masks container = (.error cause, container) := by
  rcases split_eq masks container with ⟨-, reason, refused⟩ | ⟨population, found, -⟩
  · exact ⟨.value reason, refused⟩
  · rw [stopped] at found
    cases found

theorem split_of_population (masks : List (String × Column)) (population : Table)
    (present : container.population = some population) :
    split masks container = addCuts population masks container := by
  rcases split_eq masks container with ⟨none, -⟩ | ⟨other, found, same⟩
  · rw [present] at none
    cases none
  · rw [same, Option.some.inj (found.symm.trans present)]

theorem run_of_stopped (operation : Operation) (masks : List (String × Column))
    (splits : operation.masks = some masks) (stopped : operation.Stopped container)
    (world : World) : ∃ cause, operation.run container world = (.error cause, container) := by
  cases operation with
  | split given => exact container.stopped_split given stopped
  | randomSplit fractions seed =>
      rw [Operation.run, Operation.action]
      rcases randomSplit_eq fractions seed container world with ⟨-, reason, refused⟩ | ⟨fit, same⟩
      · exact ⟨.value reason, refused⟩
      · rw [same]
        exact container.stopped_split _ (stopped.resolve_left (not_not_intro fit))
  | _ => cases splits

theorem run_of_not_stopped (operation : Operation) (masks : List (String × Column))
    (splits : operation.masks = some masks) (started : ¬ operation.Stopped container) :
    ∃ population, container.population = some population ∧
      ∀ world, operation.run container world = addCuts population masks container := by
  have present : ∃ population, container.population = some population := by
    refine Option.ne_none_iff_exists'.mp fun none => started ?_
    cases operation with
    | randomSplit fractions seed => exact .inr none
    | _ => exact none
  obtain ⟨population, present⟩ := present
  refine ⟨population, present, fun world => ?_⟩
  cases operation with
  | split given =>
      obtain rfl := Option.some.inj splits
      exact container.split_of_population given population present
  | randomSplit fractions seed =>
      obtain rfl := Option.some.inj splits
      rw [Operation.run, Operation.action]
      rcases randomSplit_eq fractions seed container world with ⟨misfit, -⟩ | ⟨-, same⟩
      · exact (started (.inl misfit)).elim
      · rw [same]
        exact container.split_of_population _ population present
  | _ => cases splits

theorem addCuts_of_not_free (population : Table) (name : String) (mask : Column)
    (masks : List (String × Column)) (taken : ¬ container.Free name) :
    ∃ cause, addCuts population ((name, mask) :: masks) container = (.error cause, container) := by
  obtain ⟨cause, refused⟩ := (container.addSubset_fails name (cut population name mask)).mpr taken
  exact ⟨cause, by rw [addCuts_cons, refused]⟩

/-- A split whose first subset was cut out already fails, and changes nothing any more. -/
theorem fails_again (operation : Operation) (masks : List (String × Column))
    (splits : operation.masks = some masks) (started : ¬ operation.Stopped container)
    (population : Table) (taken rest : List (String × Column)) (parts : masks = taken ++ rest)
    (some : taken ≠ []) (world : World) :
    ∃ cause, operation.run (container.holding (cuts population taken)) world =
      (.error cause, container.holding (cuts population taken)) := by
  obtain ⟨⟨name, mask⟩, taken, rfl⟩ := List.exists_cons_of_ne_nil some
  subst parts
  -- the population is still there, so the split gets as far as its first mask
  have still : ¬ operation.Stopped (container.holding (cuts population ((name, mask) :: taken))) := by
    obtain ⟨held, same⟩ := container.holding_eq (cuts population ((name, mask) :: taken))
    rw [same]
    cases operation <;> exact started
  have lost : ¬ (container.holding (cuts population ((name, mask) :: taken))).Free name := by
    rw [free_holding, names_cuts]
    simp
  obtain ⟨found, -, same⟩ := run_of_not_stopped _ operation _ splits still
  rw [same]
  exact addCuts_of_not_free _ found name mask _ lost

theorem holding_eq_self (subsets : List (String × Table))
    (admitted : container.Admits (subsets.map (·.1))) :
    container.holding subsets = container ↔ subsets = [] := by
  constructor
  · intro same
    match subsets with
    | [] => rfl
    | (name, table) :: rest =>
        -- the first name was free before, and is taken after
        have free := admitted.free name (by simp)
        rw [← same, free_holding] at free
        exact absurd (by simp) free.2
  · rintro rfl
    rfl

/--
A split that fails was stopped before its first mask, or it keeps the subsets for the masks before
the one that is refused, and then fails whenever it is tried again on the container that it left. So
nothing is changed only if not even the first subset could be put into the container.
-/
theorem failed_splits_stop_midway (operation : Operation) (masks : List (String × Column))
    (splits : operation.masks = some masks) (container after : Container) (world : World)
    (cause : DataError) (failed : operation.run container world = (.error cause, after)) :
    (∃ held, after = { container with subsets := held }) ∧
      (after = container ↔
        operation.Stopped container ∨ ∃ mask ∈ masks.head?, ¬ container.Free mask.1) ∧
      (operation.Stopped container ∨
        ∃ population taken name mask rest, container.population = some population ∧
          masks = taken ++ (name, mask) :: rest ∧ container.Admits (taken.map (·.1)) ∧
          after = container.holding (cuts population taken) ∧
          after.addSubset name (cut population name mask) = .error cause ∧
          (¬ container.Free name ∨ name ∈ taken.map (·.1)) ∧
          (taken ≠ [] → ∀ later, ∃ reason, operation.run after later = (.error reason, after))) := by
  by_cases stopped : operation.Stopped container
  · obtain ⟨reason, same⟩ := container.run_of_stopped operation masks splits stopped world
    obtain ⟨-, rfl⟩ := Prod.mk.inj (same.symm.trans failed)
    exact ⟨⟨_, rfl⟩, by simp [stopped], .inl stopped⟩
  · obtain ⟨population, present, same⟩ := container.run_of_not_stopped operation masks splits stopped
    rw [same] at failed
    obtain ⟨taken, name, mask, rest, rfl, cutOut, refused⟩ :=
      container.addCuts_eq_error population masks after cause failed
    obtain ⟨admitted, rfl⟩ := (container.addCuts_eq_ok population taken after).mp cutOut
    have clash : ¬ container.Free name ∨ name ∈ taken.map (·.1) := by
      have lost := (addSubset_fails _ name _).mp ⟨cause, refused⟩
      rw [free_holding, names_cuts] at lost
      tauto
    refine ⟨container.holding_eq _, ?_, .inr ⟨population, taken, name, mask, rest, present, rfl,
      admitted, rfl, refused, clash, ?_⟩⟩
    · rw [container.holding_eq_self _ (by rwa [names_cuts]), or_iff_right stopped]
      cases taken with
      | nil => simpa [cuts] using clash
      | cons first taken => simpa [cuts] using admitted.free first.1 (by simp)
    · exact fun some => container.fails_again operation _ splits stopped population taken _ rfl some

def tested : Container :=
  { id := "id0000", population := some orders, subsets := [("test", items)] }

def halving : Operation := .randomSplit [("train", 0.5), ("test", 0.5)] 1

def halved : Container :=
  tested.holding (cuts orders (fractionMasks (.random 1) [("train", 0.5)]))

theorem run_halving : halving.run tested {} =
    (.error (.value "Subset 'test' already exists."), halved) := by
  rfl

theorem failed_splits_stop_midway_halving :
    halving.run tested {} = (.error (.value "Subset 'test' already exists."), halved) ∧
      halved ≠ tested ∧ ∃ reason, halving.run halved {} = (.error reason, halved) := by
  obtain ⟨-, unchanged, stopped⟩ :=
    failed_splits_stop_midway halving _ rfl tested halved {} _ run_halving
  have more : halved ≠ tested := fun same => by
    have names := congrArg (·.subsets.length) same
    cases names
  obtain ⟨population, taken, name, mask, rest, -, -, -, same, -, -, again⟩ :=
    stopped.resolve_left fun early => more (unchanged.mpr (.inl early))
  refine ⟨run_halving, more, again ?_ {}⟩
  rintro rfl
  exact more same

/-- The first half stays although the split fails. -/
theorem halving_keeps_first_half :
    (halving.run tested {}).1 = .error (.value "Subset 'test' already exists.") ∧
      tested.subsets.names = ["test"] ∧ (halving.run tested {}).2.subsets.names = ["test", "train"] := by
  rw [run_halving]
  exact ⟨rfl, rfl, by decide +kernel⟩

end RelationalLearning.Container
