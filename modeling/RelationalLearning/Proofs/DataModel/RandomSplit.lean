import RelationalLearning.Proofs.Binary64.Addition
import RelationalLearning.Proofs.Column.Reading
import RelationalLearning.Proofs.DataModel.Splitting
import RelationalLearning.Proofs.Json.Covered

/-!
Random splits as partitions of the draws. The parts are laid end to end, so every draw below the sum
of the fractions is in exactly one of them, and rounding moves a bound for both its neighbours.
-/

namespace RelationalLearning

def Column.atDraw (seed : Nat) (draw : ℚ) : Column → Option ℚ
  | .view .float .random .none (.seed other) => if other = seed then some draw else none
  | _ => none

namespace Container

open Binary64 (number?)

theorem truth?_between (seed : Nat) (draw : ℚ) (lower upper : Float) (low high : ℚ)
    (isLower : number? lower = some low) (isUpper : number? upper = some high) :
    (between (.random seed) lower upper).truth? (Column.atDraw seed draw) =
      some (decide (low ≤ draw ∧ draw < high)) := by
  have drawn : (Column.random seed).number? (Column.atDraw seed draw) = some draw := by
    simp [Column.random, Column.number?, Column.atDraw]
  have written (value : Float) :
      (Operand.literal (.number value)).number? (Column.atDraw seed draw) = number? value := rfl
  have late := truth?_compare (Column.atDraw seed draw) .boolean .greaterEqual _ _ _ _ rfl drawn
    ((written lower).trans isLower)
  have early := truth?_compare (Column.atDraw seed draw) .boolean .less _ _ _ _ rfl drawn
    ((written upper).trans isUpper)
  simp only [Operator.compare] at late early
  refine (truth?_connect (Column.atDraw seed draw) .boolean .and _ _ _ _ _ rfl late early).trans ?_
  simp

section

variable {α : Type} [Add α]

/-- What the first of some parts reach to from a lower end, added one after another. -/
def reach (lower : α) (parts : List (String × α)) (index : Nat) : α :=
  ((parts.take index).map (·.2)).foldl (· + ·) lower

theorem consecutive_getElem? (lower : α) (parts : List (String × α)) (index : Nat) :
    (consecutive lower parts)[index]? =
      parts[index]?.map fun part =>
        (part.1, reach lower parts index, reach lower parts (index + 1)) := by
  induction parts generalizing lower index with
  | nil => rfl
  | cons part parts ih =>
      obtain ⟨name, size⟩ := part
      cases index with
      | zero => rfl
      | succ index => exact ih (lower + size) index

theorem reach_succ (lower : α) (parts : List (String × α)) (index : Nat) (name : String) (size : α)
    (found : parts[index]? = some (name, size)) :
    reach lower parts (index + 1) = reach lower parts index + size := by
  simp [reach, List.take_add_one, found]

theorem reach_length (lower : α) (parts : List (String × α)) :
    reach lower parts parts.length = (parts.map (·.2)).foldl (· + ·) lower := by
  rw [reach, List.take_length]

end

structure Rising (count : Nat) (bounds : Nat → ℚ) : Prop where
  start : bounds 0 = 0
  grows : ∀ index < count, bounds index ≤ bounds (index + 1)

namespace Rising

variable {count : Nat} {bounds : Nat → ℚ} (rising : Rising count bounds)

include rising

theorem le (first last : Nat) (before : first ≤ last) (inside : last ≤ count) :
    bounds first ≤ bounds last := by
  induction last, before using Nat.le_induction with
  | base => exact le_rfl
  | succ last before ih => exact (ih (by omega)).trans (rising.grows last inside)

theorem disjoint (draw : ℚ) (first second : Nat) (inside : first < count) (inside' : second < count)
    (here : bounds first ≤ draw ∧ draw < bounds (first + 1))
    (there : bounds second ≤ draw ∧ draw < bounds (second + 1)) : first = second := by
  rcases lt_trichotomy first second with before | same | behind
  · have reached := rising.le (first + 1) second before inside'.le
    exact absurd (here.2.trans_le reached) (not_lt.mpr there.1)
  · exact same
  · have reached := rising.le (second + 1) first behind inside.le
    exact absurd (there.2.trans_le reached) (not_lt.mpr here.1)

theorem exists_between (draw : ℚ) (some : 0 ≤ draw) (last : Nat) (below : draw < bounds last) :
    ∃ index < last, bounds index ≤ draw ∧ draw < bounds (index + 1) := by
  induction last with
  | zero =>
      rw [rising.start] at below
      exact absurd some (not_le.mpr below)
  | succ last ih =>
      rcases lt_or_ge draw (bounds last) with earlier | here
      · obtain ⟨index, before, inside⟩ := ih earlier
        exact ⟨index, by omega, inside⟩
      · exact ⟨last, by omega, here, below⟩

theorem existsUnique_iff (draw : ℚ) (some : 0 ≤ draw) :
    (∃! index, index < count ∧ bounds index ≤ draw ∧ draw < bounds (index + 1)) ↔
      draw < bounds count := by
  constructor
  · rintro ⟨index, ⟨inside, -, high⟩, -⟩
    exact high.trans_le (rising.le (index + 1) _ inside le_rfl)
  · intro below
    obtain ⟨index, inside, here⟩ := rising.exists_between draw some _ below
    refine ⟨index, ⟨inside, here⟩, ?_⟩
    rintro other ⟨inside', there⟩
    exact rising.disjoint draw other index inside' inside there here

end Rising

section

variable (parts : List (String × ℚ))

def Contains (draw : ℚ) (index : Nat) : Prop :=
  ∃ name lower upper, (consecutive 0 parts)[index]? = some (name, lower, upper) ∧
    lower ≤ draw ∧ draw < upper

theorem reach_zero_eq_sum (index : Nat) :
    reach 0 parts index = ((parts.take index).map (·.2)).sum := by
  rw [reach, List.sum_eq_foldl]

theorem contains_iff (draw : ℚ) (index : Nat) :
    Contains parts draw index ↔ index < parts.length ∧
      reach 0 parts index ≤ draw ∧ draw < reach 0 parts (index + 1) := by
  rw [Contains, consecutive_getElem?]
  constructor
  · rintro ⟨name, lower, upper, found, low, high⟩
    obtain ⟨part, present, same⟩ := Option.map_eq_some_iff.mp found
    cases same
    exact ⟨(List.getElem?_eq_some_iff.mp present).1, low, high⟩
  · rintro ⟨inside, low, high⟩
    exact ⟨_, _, _, by rw [List.getElem?_eq_getElem inside]; rfl, low, high⟩

theorem rising_reach (positive : ∀ part ∈ parts, 0 < part.2) :
    Rising parts.length (reach 0 parts) := by
  refine ⟨rfl, fun index inside => ?_⟩
  rw [reach_succ 0 parts index parts[index].1 parts[index].2 (List.getElem?_eq_getElem inside)]
  exact le_add_of_nonneg_right (positive _ (List.getElem_mem inside)).le

theorem exact_parts (positive : ∀ part ∈ parts, 0 < part.2) :
    (∀ draw index, Contains parts draw index ↔ index < parts.length ∧
      ((parts.take index).map (·.2)).sum ≤ draw ∧
      draw < ((parts.take (index + 1)).map (·.2)).sum) ∧
    ∀ draw, 0 ≤ draw → draw < 1 →
      ((∃! index, Contains parts draw index) ↔ draw < (parts.map (·.2)).sum) ∧
      ((parts.map (·.2)).sum = 1 → ∃! index, Contains parts draw index) := by
  have total : reach 0 parts parts.length = (parts.map (·.2)).sum := by
    rw [reach_zero_eq_sum, List.take_length]
  refine ⟨fun draw index => ?_, fun draw some below => ?_⟩
  · rw [contains_iff, reach_zero_eq_sum, reach_zero_eq_sum]
  · have unique := (rising_reach parts positive).existsUnique_iff draw some
    simp only [← contains_iff, total] at unique
    exact ⟨unique, fun whole => unique.mpr (below.trans_eq whole.symm)⟩

end

variable (fractions : List (String × Float))

def partMask (seed index : Nat) : Column :=
  between (.random seed) (reach 0.0 fractions index) (reach 0.0 fractions (index + 1))

def Takes (seed : Nat) (draw : ℚ) (index : Nat) : Prop :=
  index < fractions.length ∧
    (partMask fractions seed index).truth? (Column.atDraw seed draw) = some true

structure Bounds (bounds : Nat → ℚ) : Prop extends Rising fractions.length bounds where
  number : ∀ index ≤ fractions.length, number? (reach 0.0 fractions index) = some (bounds index)

/-- The parts take the numbers between their bounds, none twice, and all below the last bound. -/
structure Partitions (seed : Nat) (bounds : Nat → ℚ) : Prop where
  truth : ∀ index < fractions.length, ∀ draw,
    (partMask fractions seed index).truth? (Column.atDraw seed draw) =
      some (decide (bounds index ≤ draw ∧ draw < bounds (index + 1)))
  disjoint : ∀ draw first second, Takes fractions seed draw first →
    Takes fractions seed draw second → first = second
  covers : ∀ draw, 0 ≤ draw →
    ((∃! index, Takes fractions seed draw index) ↔ draw < bounds fractions.length)

structure Exact (parts : List (String × ℚ)) : Prop where
  size : fractions.map (fun part => (part.1, number? part.2)) =
    parts.map fun part => (part.1, some part.2)
  sum : ∀ index ≤ fractions.length,
    number? (reach 0.0 fractions index) = some (reach 0 parts index)

theorem takes_iff (seed : Nat) (bounds : Nat → ℚ)
    (number : ∀ index ≤ fractions.length, number? (reach 0.0 fractions index) = some (bounds index))
    (draw : ℚ) (index : Nat) :
    Takes fractions seed draw index ↔
      index < fractions.length ∧ bounds index ≤ draw ∧ draw < bounds (index + 1) := by
  refine and_congr_right fun inside => ?_
  rw [partMask, truth?_between seed draw _ _ _ _ (number index inside.le)
    (number (index + 1) inside)]
  simp

theorem partitions_of_bounds (seed : Nat) (bounds : Nat → ℚ) (laid : Bounds fractions bounds) :
    Partitions fractions seed bounds := by
  have takes := takes_iff fractions seed bounds laid.number
  refine ⟨fun index inside draw => ?_, fun draw first second one two => ?_, fun draw some => ?_⟩
  · exact truth?_between seed draw _ _ _ _ (laid.number index inside.le)
      (laid.number (index + 1) inside)
  · obtain ⟨inside, here⟩ := (takes draw first).mp one
    obtain ⟨inside', there⟩ := (takes draw second).mp two
    exact laid.disjoint draw first second inside inside' here there
  · simp only [takes draw]
    exact laid.existsUnique_iff draw some

theorem takes_of_exact (parts : List (String × ℚ)) (exact : Exact fractions parts) (seed : Nat)
    (draw : ℚ) (index : Nat) :
    Takes fractions seed draw index ↔ Contains parts draw index := by
  have same : fractions.length = parts.length := by simpa using congrArg List.length exact.size
  rw [takes_iff fractions seed _ exact.sum, contains_iff, same]

theorem not_endless_of_fit (fit : Fit fractions) :
    (reach 0.0 fractions fractions.length).toModel.unpack ≠ .infinity .positive := by
  intro endless
  have bounded := fit.2
  rw [← reach_length, gt_iff_lt, Binary64.lt_iff_unpacked, endless] at bounded
  exact bounded (by decide)

section

variable (positive : ∀ part ∈ fractions, 0.0 < part.2)

include positive

theorem endless_reach (index last : Nat) (before : index ≤ last) (inside : last ≤ fractions.length)
    (endless : (reach 0.0 fractions index).toModel.unpack = .infinity .positive) :
    (reach 0.0 fractions last).toModel.unpack = .infinity .positive := by
  induction last, before using Nat.le_induction with
  | base => exact endless
  | succ last before ih =>
      obtain ⟨⟨name, size⟩, found⟩ : ∃ part, fractions[last]? = some part :=
        ⟨fractions[last], List.getElem?_eq_getElem inside⟩
      have above : 0.0 < size := positive (name, size) (List.mem_of_getElem? found)
      rw [reach_succ 0.0 fractions last name size found]
      exact Binary64.unpack_add_endless _ size (ih (by omega)) above

theorem reach_step (fit : Fit fractions) (index : Nat) (inside : index < fractions.length)
    (number : ℚ) (held : number? (reach 0.0 fractions index) = some number)
    (nonnegative : 0 ≤ number) :
    ∃ next, number? (reach 0.0 fractions (index + 1)) = some next ∧ number ≤ next := by
  obtain ⟨⟨name, size⟩, found⟩ : ∃ part, fractions[index]? = some part :=
    ⟨fractions[index], List.getElem?_eq_getElem inside⟩
  have above : 0.0 < size := positive (name, size) (List.mem_of_getElem? found)
  have step := Binary64.le_number?_add (reach 0.0 fractions index) size number held nonnegative above
  rw [← reach_succ 0.0 fractions index name size found] at step
  -- an endless sum would stay endless up to the last one
  refine step.resolve_left fun endless => not_endless_of_fit fractions fit ?_
  exact endless_reach fractions positive (index + 1) fractions.length inside le_rfl endless

theorem reach_number (fit : Fit fractions) (index : Nat) (inside : index ≤ fractions.length) :
    ∃ number, number? (reach 0.0 fractions index) = some number ∧ 0 ≤ number := by
  induction index with
  | zero => exact ⟨0, Binary64.number?_zero, le_rfl⟩
  | succ index ih =>
      obtain ⟨number, held, nonnegative⟩ := ih (by omega)
      obtain ⟨next, reached, above⟩ :=
        reach_step fractions positive fit index inside number held nonnegative
      exact ⟨next, reached, nonnegative.trans above⟩

theorem exists_bounds (fit : Fit fractions) : ∃ bounds, Bounds fractions bounds := by
  let bounds (index : Nat) : ℚ := (number? (reach 0.0 fractions index)).getD 0
  have number : ∀ index ≤ fractions.length,
      number? (reach 0.0 fractions index) = some (bounds index) ∧ 0 ≤ bounds index := by
    intro index inside
    obtain ⟨value, held, nonnegative⟩ := reach_number fractions positive fit index inside
    have same : bounds index = value := by simp [bounds, held]
    exact ⟨by rw [held, same], by rw [same]; exact nonnegative⟩
  refine ⟨bounds, ⟨?_, fun index inside => ?_⟩, fun index inside => (number index inside).1⟩
  · exact Option.some.inj ((number 0 (Nat.zero_le _)).1.symm.trans Binary64.number?_zero)
  · obtain ⟨held, nonnegative⟩ := number index inside.le
    obtain ⟨next, reached, above⟩ :=
      reach_step fractions positive fit index inside _ held nonnegative
    have same := (number (index + 1) inside).1.symm.trans reached
    rw [Option.some.inj same]
    exact above

end

theorem fractionMasks_getElem? (seed index : Nat) :
    (fractionMasks (.random seed) fractions)[index]? =
      fractions[index]?.map fun part => (part.1, partMask fractions seed index) := by
  rw [fractionMasks, List.getElem?_map, consecutive_getElem?, Option.map_map]
  rfl

theorem names_fractionMasks (draw : Column) :
    (fractionMasks draw fractions).map (·.1) = fractions.map (·.1) := by
  refine List.ext_getElem? fun index => ?_
  simp only [fractionMasks, List.getElem?_map, consecutive_getElem?, Option.map_map]
  rfl

theorem randomSplit_eq_ok (seed : Nat) (container after : Container) (world : World) :
    (Operation.randomSplit fractions seed).run container world = (.ok (), after) ↔
      Fit fractions ∧ container.Admits (fractions.map (·.1)) ∧
      ∃ population, container.population = some population ∧
        after = container.holding (cuts population (fractionMasks (.random seed) fractions)) := by
  by_cases stopped : (Operation.randomSplit fractions seed).Stopped container
  · obtain ⟨cause, refused⟩ := container.run_of_stopped _ _ rfl stopped world
    rw [refused]
    constructor
    · rintro ⟨⟩
    · rintro ⟨fit, -, population, present, -⟩
      rcases stopped with misfit | none
      · exact absurd fit misfit
      · rw [present] at none
        cases none
  · obtain ⟨population, present, same⟩ := container.run_of_not_stopped _ _ rfl stopped
    have fit : Fit fractions := not_not.mp fun misfit => stopped (.inl misfit)
    rw [same, addCuts_eq_ok, names_fractionMasks]
    constructor
    · rintro ⟨admitted, rfl⟩
      exact ⟨fit, admitted, population, present, rfl⟩
    · rintro ⟨-, admitted, other, found, rfl⟩
      rw [Option.some.inj (found.symm.trans present)]
      exact ⟨admitted, rfl⟩

theorem lookup_part (seed : Nat) (container : Container) (population : Table)
    (distinct : (fractions.map (·.1)).Nodup) (index : Nat) (name : String) (size : Float)
    (found : fractions[index]? = some (name, size)) :
    (container.holding (cuts population (fractionMasks (.random seed) fractions))).subsets.lookup
        name = some (cut population name (partMask fractions seed index)) := by
  have names : (cuts population (fractionMasks (.random seed) fractions)).map (·.1) =
      fractions.map (·.1) := by rw [names_cuts, names_fractionMasks]
  have member : (name, cut population name (partMask fractions seed index)) ∈
      cuts population (fractionMasks (.random seed) fractions) := by
    refine List.mem_of_getElem? (i := index) ?_
    rw [cuts, List.getElem?_map, fractionMasks_getElem?, found]
    rfl
  rw [← names] at distinct
  rw [container.lookup_holding _ distinct, Index.lookup_of_mem _ _ _ distinct member]
  rfl

/--
A random split that succeeds cuts every part out of the population by a mask on the same random
numbers, and each mask ends at the very number at which the next one begins. However the sums of the
fractions are rounded, the masks take no number twice and leave none out below the last sum. Where
nothing is rounded they take what the same parts of exact numbers contain, that is the numbers from
the sum of the fractions before on to the sum with their own.
-/
theorem random_splits_partition (container after : Container) (seed : Nat) (world : World)
    (positive : ∀ part ∈ fractions, 0.0 < part.2)
    (accepted : (Operation.randomSplit fractions seed).run container world = (.ok (), after)) :
    (∃ population, container.population = some population ∧
      ∀ index name size, fractions[index]? = some (name, size) →
        container.Free name ∧
        after.subsets.lookup name = some (cut population name (between (.random seed)
          (reach 0.0 fractions index) (reach 0.0 fractions (index + 1))))) ∧
    (∃ bounds, Bounds fractions bounds ∧ Partitions fractions seed bounds) ∧
    ∀ parts : List (String × ℚ), (∀ part ∈ parts, 0 < part.2) →
      (∀ draw index, Contains parts draw index ↔ index < parts.length ∧
        ((parts.take index).map (·.2)).sum ≤ draw ∧
        draw < ((parts.take (index + 1)).map (·.2)).sum) ∧
      (∀ draw, 0 ≤ draw → draw < 1 →
        ((∃! index, Contains parts draw index) ↔ draw < (parts.map (·.2)).sum) ∧
        ((parts.map (·.2)).sum = 1 → ∃! index, Contains parts draw index)) ∧
      (Exact fractions parts → ∀ draw index,
        Takes fractions seed draw index ↔ Contains parts draw index) := by
  obtain ⟨fit, admitted, population, present, rfl⟩ :=
    (randomSplit_eq_ok fractions seed container after world).mp accepted
  refine ⟨⟨population, present, fun index name size found => ⟨?_, ?_⟩⟩, ?_, fun parts some => ?_⟩
  · exact admitted.free name (List.mem_map_of_mem (f := (·.1)) (List.mem_of_getElem? found))
  · exact lookup_part fractions seed container population admitted.distinct index name size found
  · obtain ⟨bounds, laid⟩ := exists_bounds fractions positive fit
    exact ⟨bounds, laid, partitions_of_bounds fractions seed bounds laid⟩
  · obtain ⟨between, covers⟩ := exact_parts parts some
    exact ⟨between, covers, fun exact => takes_of_exact fractions parts exact seed⟩

def shares : List (String × Float) := [("train", 0.5), ("valid", 0.25), ("test", 0.25)]

theorem exact_shares : Exact shares [("train", 1 / 2), ("valid", 1 / 4), ("test", 1 / 4)] := by
  have number (value : Float) (mantissa : Nat) (exponent : Int) (some : 0 < mantissa)
      (unpacked : value.toModel.unpack = .finite .positive mantissa exponent some) :
      number? value = Option.some ((mantissa : ℚ) * 2 ^ exponent) := by
    rw [number?, unpacked]
    rfl
  refine ⟨?_, fun index inside => ?_⟩
  · simp only [shares, List.map_cons, List.map_nil]
    rw [number 0.5 (2 ^ 52) (-53) (by decide) rfl, number 0.25 (2 ^ 52) (-54) (by decide) rfl]
    norm_num
  · rw [reach_zero_eq_sum]
    have : index ≤ 3 := inside
    interval_cases index
    · exact Binary64.number?_zero
    · rw [number (reach 0.0 shares 1) (2 ^ 52) (-53) (by decide) rfl]
      norm_num
    · rw [number (reach 0.0 shares 2) (3 * 2 ^ 51) (-53) (by decide) rfl]
      norm_num
    · rw [number (reach 0.0 shares 3) (2 ^ 52) (-52) (by decide) rfl]
      norm_num

theorem run_shares : ∃ after,
    (Operation.randomSplit shares 1).run { id := "id0000", population := some orders } {} =
      (.ok (), after) ∧ after.subsets.names = ["test", "train", "valid"] :=
  ⟨_, rfl, by decide +kernel⟩

theorem random_splits_partition_shares :
    ∃ after, (Operation.randomSplit shares 1).run { id := "id0000", population := some orders } {} =
        (.ok (), after) ∧ after.subsets.names = ["test", "train", "valid"] ∧
      Takes shares 1 (5 / 8) 1 ∧
      ∀ draw, 0 ≤ draw → draw < 1 → ∃! index, Takes shares 1 draw index := by
  obtain ⟨after, accepted, names⟩ := run_shares
  have positive : ∀ part ∈ shares, 0.0 < part.2 := by decide +kernel
  obtain ⟨-, -, exact⟩ := random_splits_partition shares _ after 1 {} positive accepted
  obtain ⟨between, covers, takes⟩ :=
    exact [("train", 1 / 2), ("valid", 1 / 4), ("test", 1 / 4)] (by norm_num)
  have takes := takes exact_shares
  refine ⟨after, accepted, names, (takes _ 1).mpr ((between _ 1).mpr ⟨by decide, ?_, ?_⟩), ?_⟩
  · norm_num
  · norm_num
  · intro draw some below
    simp only [takes]
    exact (covers draw some below).2 (by norm_num)

end Container
end RelationalLearning
