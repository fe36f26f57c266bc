import Mathlib.Data.List.Sort
import RelationalLearning.Pipeline.Importance
import RelationalLearning.Pipeline.Score
import RelationalLearning.Proofs.Binary64.Ordering

/-!
Entries that are sorted by a figure. Those that have it come with the best first; those that miss it
come behind them where less is better, but ahead of them where more is better.
-/

namespace RelationalLearning

namespace Ranking

variable {α : Type} {figure : α → Figure} {better : Float → Float → Prop} {front : Bool}
  {key : α → Int}

theorem insert_eq_orderedInsert (key : α → Int) (entry : α) (entries : List α) :
    insert key entry entries =
      entries.orderedInsert (fun first second => key first ≤ key second) entry := by
  induction entries with
  | nil => rfl
  | cons first rest ih => rw [insert, List.orderedInsert_cons, ih]

theorem ascending_eq_insertionSort (key : α → Int) (entries : List α) :
    ascending key entries =
      entries.insertionSort fun first second => key first ≤ key second := by
  induction entries with
  | nil => rfl
  | cons entry entries ih =>
      rw [ascending, List.foldr_cons, ← ascending, ih, insert_eq_orderedInsert]
      rfl

theorem ascending_perm (key : α → Int) (entries : List α) :
    (ascending key entries).Perm entries := by
  rw [ascending_eq_insertionSort]
  exact List.perm_insertionSort _ entries

theorem ascending_pairwise (key : α → Int) (entries : List α) :
    (ascending key entries).Pairwise fun first second => key first ≤ key second := by
  have total : Std.Total fun first second : α => key first ≤ key second :=
    ⟨fun first second => Int.le_total (key first) (key second)⟩
  have trans : IsTrans α fun first second => key first ≤ key second :=
    ⟨fun _ _ _ => Int.le_trans⟩
  rw [ascending_eq_insertionSort]
  exact List.pairwise_insertionSort _ entries

theorem ascending_stable (key : α → Int) (entries : List α) (first second : α)
    (ordered : [first, second].Sublist entries) (least : key first ≤ key second) :
    [first, second].Sublist (ascending key entries) := by
  rw [ascending_eq_insertionSort]
  exact List.pair_sublist_insertionSort least ordered

/-- The key of a better entry is less, and missing figures are kept apart from all numbers. -/
structure Reflects (figure : α → Figure) (better : Float → Float → Prop) (front : Bool)
    (key : α → Int) : Prop where
  lt_of_better : ∀ first second number other, figure first = .number number →
    figure second = .number other → better number other → key first < key second
  eq_of_same : ∀ first second number other, figure first = .number number →
    figure second = .number other → (number == other) = true →
      ((number == 0.0) = true → number = other) → key first = key second
  missing_lt : ∀ first second number, figure first = .missing front →
    figure second = .number number → key first < key second
  lt_missing : ∀ first second number, figure first = .number number →
    figure second = .missing (!front) → key first < key second

theorem reflects_rank (figure : α → Figure) :
    Reflects figure (fun number other => number < other) true fun entry => (figure entry).rank := by
  refine ⟨?_, ?_, ?_, ?_⟩
  · intro first second number other held also less
    rw [held, also]
    exact Binary64.rank_lt_of_lt number other less
  · intro first second number other held also same told
    rw [held, also]
    exact Binary64.rank_eq_of_beq number other same told
  · intro first second number missing held
    rw [missing, held]
    exact (Binary64.rank_bounds number).1
  · intro first second number held missing
    rw [held, missing]
    exact (Binary64.rank_bounds number).2

theorem Reflects.neg (reflects : Reflects figure better front key) :
    Reflects figure (fun number other => better other number) (!front) fun entry => -key entry := by
  refine ⟨?_, ?_, ?_, ?_⟩
  · intro first second number other held also best
    exact Int.neg_lt_neg (reflects.lt_of_better second first other number also held best)
  · intro first second number other held also same told
    rw [reflects.eq_of_same first second number other held also same told]
  · intro first second number missing held
    exact Int.neg_lt_neg (reflects.lt_missing second first number held missing)
  · intro first second number held missing
    rw [Bool.not_not] at missing
    exact Int.neg_lt_neg (reflects.missing_lt second first number missing held)

def MissingLast (figure : α → Figure) (entries : List α) : Prop :=
  entries.Pairwise fun first second => ∀ below number,
    figure first = .missing below → figure second ≠ .number number

/-- Some entries have the figure, and others miss it in one of the two ways. -/
def Mixed (figure : α → Figure) (below : Bool) (entries : List α) : Prop :=
  (∃ entry ∈ entries, figure entry = .missing below) ∧
    ∃ entry ∈ entries, ∃ number, figure entry = .number number

/--
The same entries, and none before a better one. Entries that are equally good keep their order,
where a zero with a minus sign is not quite as much as zero. Missing figures are told apart by
whether they stand below all numbers; one sort of them comes first, the other last. So all of them
come last exactly if none of the first sort stand beside numbers.
-/
structure BestFirst (figure : α → Figure) (better : Float → Float → Prop) (front : Bool)
    (entries sorted : List α) : Prop where
  perm : sorted.Perm entries
  best_first : sorted.Pairwise fun first second => ∀ number other,
    figure first = .number number → figure second = .number other → ¬ better other number
  stable : ∀ first second number other, [first, second].Sublist entries →
    figure first = .number number → figure second = .number other → (number == other) = true →
      ((number == 0.0) = true → number = other) → [first, second].Sublist sorted
  missing_first : sorted.Pairwise fun first second => ∀ number,
    figure first = .number number → figure second ≠ .missing front
  missing_last : sorted.Pairwise fun first second => ∀ number,
    figure first = .missing (!front) → figure second ≠ .number number
  missing_last_iff : MissingLast figure sorted ↔ ¬ Mixed figure front entries

theorem not_mixed_of_missingLast (entries : List α) (last : MissingLast figure entries)
    (first : entries.Pairwise fun first second => ∀ number,
      figure first = .number number → figure second ≠ .missing front) :
    ¬ Mixed figure front entries := by
  rintro ⟨⟨without, member, missing⟩, other, present, number, held⟩
  let beside (first second : α) : Prop :=
    figure first = .missing front ∧ figure second = .number number
  -- neither of the two can come before the other
  have apart : entries.Pairwise fun first second =>
      ¬ beside first second ∧ ¬ beside second first := by
    apply (last.and first).imp
    intro first second neither
    exact ⟨fun both => neither.1 front number both.1 both.2,
      fun both => neither.2 number both.2 both.1⟩
  have symmetric : Std.Symm fun first second => ¬ beside first second ∧ ¬ beside second first :=
    ⟨fun _ _ neither => neither.symm⟩
  have differ : without ≠ other := by
    rintro rfl
    cases missing.symm.trans held
  exact (apart.forall member present differ).1 ⟨missing, held⟩

theorem missingLast_of_not_mixed (entries : List α) (pure : ¬ Mixed figure front entries)
    (last : entries.Pairwise fun first second => ∀ number,
      figure first = .missing (!front) → figure second ≠ .number number) :
    MissingLast figure entries := by
  apply last.imp_of_mem
  intro first second member present behind below number missing held
  by_cases same : below = front
  · subst same
    exact pure ⟨⟨first, member, missing⟩, second, present, number, held⟩
  · rw [Bool.eq_not_of_ne same] at missing
    exact behind number missing held

theorem mixed_of_perm (entries sorted : List α) (perm : sorted.Perm entries) (below : Bool) :
    Mixed figure below sorted ↔ Mixed figure below entries := by
  simp only [Mixed, perm.mem_iff]

theorem Reflects.bestFirst (reflects : Reflects figure better front key) (entries : List α) :
    BestFirst figure better front entries (ascending key entries) := by
  have pairwise := ascending_pairwise key entries
  have missing_first : (ascending key entries).Pairwise fun first second => ∀ number,
      figure first = .number number → figure second ≠ .missing front := by
    apply pairwise.imp
    intro first second least number held missing
    exact Int.not_lt.mpr least (reflects.missing_lt second first number missing held)
  have missing_last : (ascending key entries).Pairwise fun first second => ∀ number,
      figure first = .missing (!front) → figure second ≠ .number number := by
    apply pairwise.imp
    intro first second least number missing held
    exact Int.not_lt.mpr least (reflects.lt_missing second first number held missing)
  refine ⟨ascending_perm key entries, ?_, ?_, missing_first, missing_last, ?_⟩
  · apply pairwise.imp
    intro first second least number other held also best
    exact Int.not_lt.mpr least (reflects.lt_of_better second first other number also held best)
  · intro first second number other ordered held also same told
    have equal := reflects.eq_of_same first second number other held also same told
    exact ascending_stable key entries first second ordered equal.le
  · rw [← mixed_of_perm entries _ (ascending_perm key entries)]
    constructor
    · intro last
      exact not_mixed_of_missingLast _ last missing_first
    · intro pure
      exact missingLast_of_not_mixed _ pure missing_last

theorem bestFirst_ascending (figure : α → Figure) (entries : List α) :
    BestFirst figure (fun number other => number < other) true entries
      (ascending (fun entry => (figure entry).rank) entries) :=
  (reflects_rank figure).bestFirst entries

theorem bestFirst_descending (figure : α → Figure) (entries : List α) :
    BestFirst figure (fun number other => other < number) false entries
      (descending (fun entry => (figure entry).rank) entries) :=
  (reflects_rank figure).neg.bestFirst entries

end Ranking

open Ranking (BestFirst)

theorem Metric.named?_eq_none (name : String) (unknown : Metric.named? name = none)
    (metric : Metric) : metric.name ≠ name := by
  have known : metric ∈ Metric.all := by cases metric <;> decide
  simpa using List.find?_eq_none.mp unknown metric known

theorem Scores.bestFirst_sortBy (scores : Scores) (metric : Metric) :
    BestFirst (fun score => score.metric metric)
      (fun number other => if metric.isLoss then number < other else other < number)
      metric.isLoss scores.entries (scores.sortBy metric).entries := by
  rw [sortBy]
  cases metric.isLoss with
  | true => exact Ranking.bestFirst_ascending (fun score => score.metric metric) scores.entries
  | false => exact Ranking.bestFirst_descending (fun score => score.metric metric) scores.entries

/--
Every ranking puts the best first. A figure that was not told counts as more than any number, so
entries without one come last by the metrics of which less is better, but otherwise only if all
entries lack it or none.
-/
theorem rankings_put_best_first (features : Features) (columns : ImportantColumns)
    (tables : ImportantTables) (scores : Scores) (name : String) :
    BestFirst (fun feature => feature.importance) (fun number other => other < number) false
      features features.sortByImportance ∧
    BestFirst (fun feature => feature.correlation.magnitude) (fun number other => other < number)
      false features features.sortByCorrelation ∧
    BestFirst (fun column => column.importance) (fun number other => other < number) false
      columns columns.sortByImportance ∧
    BestFirst (fun table => table.importance) (fun number other => other < number) false
      tables tables.sortByImportance ∧
    ((∃ metric : Metric, metric.name = name ∧
      BestFirst (fun score => score.metric metric)
        (fun number other => if metric.isLoss then number < other else other < number)
        metric.isLoss scores.entries (scores.sortByNamed name).entries) ∨
    (∀ metric : Metric, metric.name ≠ name) ∧ scores.sortByNamed name = scores) := by
  refine ⟨Ranking.bestFirst_descending _ features, Ranking.bestFirst_descending _ features,
    Ranking.bestFirst_descending _ columns, Ranking.bestFirst_descending _ tables, ?_⟩
  rw [Scores.sortByNamed]
  cases found : Metric.named? name with
  | none => exact .inr ⟨Metric.named?_eq_none name found, rfl⟩
  | some metric =>
      have named : metric.name = name := by simpa using List.find?_some found
      exact .inl ⟨metric, named, scores.bestFirst_sortBy metric⟩

def partlyImportant : Features :=
  [⟨0, "feature_1_1", "default", .number 0.5, .ofFloat (0.0 / 0.0)⟩,
    ⟨1, "feature_1_2", "default", .number 0.25, .number 0.75⟩]

/-- A feature whose importance is missing is ranked ahead of one that has an importance. -/
theorem missing_importance_leads :
    ¬ ∀ features : Features,
      Ranking.MissingLast (fun feature => feature.importance) features.sortByImportance := by
  intro last
  have least : -Figure.rank (.missing false) ≤ -Figure.rank (.number 0.75) :=
    Int.neg_le_neg (Binary64.rank_bounds 0.75).2.le
  have ranked : partlyImportant.sortByImportance = partlyImportant := by
    simp only [Features.sortByImportance, Ranking.descending, Ranking.ascending, partlyImportant,
      List.foldr_cons, List.foldr_nil, Ranking.insert]
    exact if_pos least
  have first := last partlyImportant
  rw [ranked] at first
  exact (List.pairwise_cons.mp first).1 _ (List.mem_singleton_self _) false 0.75 rfl rfl

end RelationalLearning
