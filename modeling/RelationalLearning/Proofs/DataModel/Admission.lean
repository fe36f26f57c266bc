import RelationalLearning.Proofs.Binary64.Special
import RelationalLearning.Proofs.DataModel.Run

namespace RelationalLearning

open Relation (ReflTransGen)

namespace JoinOptions

def NotNegative (span : Option Float) : Prop :=
  ∀ seconds, span = some seconds → seconds.isNaN = false ∧ ¬ seconds < 0.0

theorem checkSpan_eq_ok (span : Option Float) (what : String) :
    checkSpan span what = .ok () ↔ NotNegative span := by
  cases span with
  | none => simp [checkSpan, NotNegative]
  | some seconds =>
      have accepted : checkSpan (some seconds) what = .ok () ↔
          Validation.nonNegative seconds what = .ok () := by
        simp only [checkSpan]
        split <;> simp_all
      rw [accepted, Validation.nonNegative, Outcome.refused_eq_ok]
      simp [NotNegative]

theorem restricts_iff (span : Option Float) (positive : NotNegative span) :
    restricts span = true ↔ ∃ seconds, span = some seconds ∧ 0.0 < seconds := by
  cases span with
  | none => simp [restricts]
  | some seconds =>
      obtain ⟨number, above⟩ := positive seconds rfl
      have same := Binary64.zero_lt_iff_bne seconds number above
      simp [restricts, same]

/-- The keys and the time stamp are declared, unless the side declares none at all. -/
structure Fits (roles : Roles) (keys : List String) (timeStamp : Option String) : Prop where
  keys : roles.joinKey ≠ [] → ∀ key ∈ keys, key ∈ roles.joinKey
  timeStamp : roles.timeStamp ≠ [] → ∀ name, timeStamp = some name → name ∈ roles.timeStamp

def checkKeys (declared keys : List String) : Except DataError Unit :=
  if !declared.isEmpty && !keys.isEmpty then
    match keys.filter fun key => !declared.contains key with
    | [] => .ok ()
    | wrong =>
      let listed := Text.join ", " wrong
      .error (.value s!"Not a join key: {listed}.")
  else .ok ()

def checkTimeStamp (declared : List String) : Option String → Except DataError Unit
  | none => .ok ()
  | some name =>
    if !declared.isEmpty && !declared.contains name then
      .error (.value s!"Not a time stamp: {name}.")
    else .ok ()

theorem checkSide_eq (roles : Roles) (keys : List String) (timeStamp : Option String) :
    checkSide roles keys timeStamp =
      checkKeys roles.joinKey keys >>= fun _ => checkTimeStamp roles.timeStamp timeStamp := by
  unfold checkSide checkKeys
  generalize keys.filter (fun key => !roles.joinKey.contains key) = wrong
  generalize (!roles.joinKey.isEmpty && !keys.isEmpty) = looked
  cases looked <;> cases wrong <;> cases timeStamp <;> rfl

theorem checkKeys_eq_ok (declared keys : List String) :
    checkKeys declared keys = .ok () ↔ (declared ≠ [] → ∀ key ∈ keys, key ∈ declared) := by
  have all : keys.filter (fun key => !declared.contains key) = [] ↔
      ∀ key ∈ keys, key ∈ declared := by simp
  unfold checkKeys
  by_cases looked : (!declared.isEmpty && !keys.isEmpty) = true
  · obtain ⟨declares, -⟩ : declared ≠ [] ∧ keys ≠ [] := by simpa using looked
    rw [if_pos looked, ← all]
    cases keys.filter (fun key => !declared.contains key) with
    | nil => simp
    | cons wrong others => simp [declares]
  · rw [if_neg looked]
    by_cases declares : declared = []
    · simp [declares]
    · obtain rfl : keys = [] := by simpa [declares] using looked
      simp

theorem checkTimeStamp_eq_ok (declared : List String) (timeStamp : Option String) :
    checkTimeStamp declared timeStamp = .ok () ↔
      (declared ≠ [] → ∀ name, timeStamp = some name → name ∈ declared) := by
  cases timeStamp with
  | none => simp [checkTimeStamp]
  | some name =>
      rw [checkTimeStamp, Outcome.refused_eq_ok]
      simp

theorem checkSide_eq_ok (roles : Roles) (keys : List String) (timeStamp : Option String) :
    checkSide roles keys timeStamp = .ok () ↔ Fits roles keys timeStamp := by
  rw [checkSide_eq, Outcome.bind_eq_ok]
  constructor
  · rintro ⟨⟨⟩, declared, dated⟩
    exact ⟨(checkKeys_eq_ok _ _).mp declared, (checkTimeStamp_eq_ok _ _).mp dated⟩
  · rintro ⟨declared, dated⟩
    exact ⟨(), (checkKeys_eq_ok _ _).mpr declared, (checkTimeStamp_eq_ok _ _).mpr dated⟩

structure Spanned (options : JoinOptions) : Prop where
  lagged : options.laggedTargets = true → ∃ seconds, options.horizon = some seconds ∧ 0.0 < seconds
  dated : ∀ seconds, options.horizon = some seconds ∨ options.memory = some seconds →
    (seconds == 0.0) = false → options.timeStamps.isSome

theorem checkSpans_eq_ok (options : JoinOptions) (positive : NotNegative options.horizon) :
    options.checkSpans = .ok () ↔ options.Spanned := by
  have passed : options.checkSpans = .ok () ↔
      (options.laggedTargets = true → restricts options.horizon = true) ∧
        (restricts options.horizon = true → options.timeStamps.isSome) ∧
        (restricts options.memory = true → options.timeStamps.isSome) := by
    simp only [checkSpans, Outcome.throw_eq_error, Outcome.error_bind, Outcome.refused_eq_ok]
    simp [Option.isSome_iff_ne_none]
  have nonzero (span : Option Float) : restricts span = true ↔
      ∃ seconds, span = some seconds ∧ (seconds == 0.0) = false := by
    cases span <;> simp [restricts, bne]
  rw [passed]
  constructor
  · rintro ⟨lagged, ahead, back⟩
    refine ⟨fun wanted => (restricts_iff _ positive).mp (lagged wanted), ?_⟩
    rintro seconds (set | set) some
    · exact ahead ((nonzero _).mpr ⟨seconds, set, some⟩)
    · exact back ((nonzero _).mpr ⟨seconds, set, some⟩)
  · rintro ⟨lagged, dated⟩
    refine ⟨fun wanted => (restricts_iff _ positive).mpr (lagged wanted), ?_, ?_⟩
    · intro set
      obtain ⟨seconds, set, some⟩ := (nonzero _).mp set
      exact dated seconds (.inl set) some
    · intro set
      obtain ⟨seconds, set, some⟩ := (nonzero _).mp set
      exact dated seconds (.inr set) some

end JoinOptions

namespace PlaceholderGraph

/-- What a join of `right` to `left` has to meet. -/
structure Admits (graph : PlaceholderGraph) (left right : Nat) (options : JoinOptions) : Prop where
  leftInside : left < graph.size
  rightInside : right < graph.size
  noCircle : ¬ ReflTransGen graph.Joined right left
  memory : JoinOptions.NotNegative options.memory
  horizon : JoinOptions.NotNegative options.horizon
  leftFits : ∀ side, graph.placeholder left = .ok side →
    JoinOptions.Fits side.roles (options.on.map (·.1)) (options.timeStamps.map (·.1))
  rightFits : ∀ side, graph.placeholder right = .ok side →
    JoinOptions.Fits side.roles (options.on.map (·.2)) (options.timeStamps.map (·.2))
  spanned : options.Spanned
  new : ∀ joins, graph.joins left = .ok joins → ∀ join ∈ joins, (⟨right, options⟩ == join) = false

def linkedNode (left right : Nat) (options : JoinOptions) (id : Nat) (node : GraphNode) : GraphNode where
  placeholder := node.placeholder
  joins := if id = left then node.joins ++ [⟨right, options⟩] else node.joins
  parent := if id = right then some left else node.parent

def Linked (graph joined : PlaceholderGraph) (left right : Nat) (options : JoinOptions) : Prop :=
  ∀ id, joined.nodes[id]? = graph.nodes[id]?.map (linkedNode left right options id)

theorem linked_link (graph : PlaceholderGraph) (left right : Nat) (options : JoinOptions) :
    graph.Linked (graph.link left ⟨right, options⟩) left right options := by
  intro id
  simp only [link, List.getElem?_modify]
  cases graph.nodes[id]? with
  | none => rfl
  | some node =>
      by_cases isLeft : left = id <;> by_cases isRight : right = id <;>
        simp [linkedNode, isLeft, isRight, eq_comm]

def revise (id : Nat) (revision : GraphNode → GraphNode) :
    ExceptT DataError (StateM PlaceholderGraph) Unit := fun graph =>
  match graph.node id with
  | .ok _ => (.ok (), ⟨graph.nodes.modify id revision⟩)
  | .error cause => (.error cause, graph)

theorem revise_of_lt (graph : PlaceholderGraph) (id : Nat) (revision : GraphNode → GraphNode)
    (inside : id < graph.size) :
    revise id revision graph = (.ok (), ⟨graph.nodes.modify id revision⟩) := by
  have found : graph.node id = .ok graph.nodes[id] := by
    rw [node_eq_ok]
    exact List.getElem?_eq_getElem inside
  rw [revise, found]

/-- Appends a join, and then sets the parent; if that failed, the join would be there nevertheless. -/
def linkInPlace (left : Nat) (join : Join) : ExceptT DataError (StateM PlaceholderGraph) Unit := do
  revise left fun node => { node with joins := node.joins ++ [join] }
  revise join.right fun node => { node with parent := some left }

theorem linkInPlace_eq (graph : PlaceholderGraph) (left : Nat) (join : Join)
    (leftInside : left < graph.size) (rightInside : join.right < graph.size) :
    linkInPlace left join graph = (.ok (), graph.link left join) := by
  rw [linkInPlace, Outcome.run_bind, revise_of_lt graph left _ leftInside]
  refine revise_of_lt _ join.right _ ?_
  simpa [size] using rightInside

theorem placeholder_of_lt (graph : PlaceholderGraph) (id : Nat) (inside : id < graph.size) :
    ∃ side, graph.placeholder id = .ok side := by
  obtain ⟨side, joins, found⟩ := graph.shape_of_lt id inside
  exact ⟨side, (graph.placeholder_eq_ok id side).mpr ⟨joins, found⟩⟩

theorem join_isOk_iff (graph : PlaceholderGraph) (sound : graph.Sound) (left right : Nat)
    (options : JoinOptions) :
    (∃ joined, graph.join left right options = .ok joined) ↔ graph.Admits left right options := by
  simp only [join_eq_ok, JoinOptions.checkSpan_eq_ok, JoinOptions.checkSide_eq_ok]
  constructor
  · rintro ⟨_, ⟨ids, listed, fresh⟩, memory, horizon,
      ⟨leftSide, rightSide, isLeft, isRight, leftFits, rightFits⟩, spans, ⟨joins, present, new⟩, -⟩
    have rightInside := graph.lt_size_of_placeholder right rightSide isRight
    refine ⟨graph.lt_size_of_placeholder left leftSide isLeft, rightInside, ?_, memory, horizon, ?_,
      ?_, (options.checkSpans_eq_ok horizon).mp spans, ?_⟩
    · exact fun path =>
        fresh ((mem_toList graph sound right rightInside ids listed left).mpr path)
    · intro side found
      obtain rfl := Except.ok.inj (isLeft.symm.trans found)
      exact leftFits
    · intro side found
      obtain rfl := Except.ok.inj (isRight.symm.trans found)
      exact rightFits
    · intro listed found
      obtain rfl := Except.ok.inj (present.symm.trans found)
      rw [List.contains_eq_any_beq, List.any_eq_false] at new
      simpa using new
  · intro admits
    obtain ⟨leftSide, isLeft⟩ := graph.placeholder_of_lt left admits.leftInside
    obtain ⟨rightSide, isRight⟩ := graph.placeholder_of_lt right admits.rightInside
    obtain ⟨ids, listed, members⟩ := (walks_end graph sound right admits.rightInside).list
    obtain ⟨_, joins, found⟩ := graph.shape_of_lt left admits.leftInside
    have present := (graph.joins_eq_ok left joins).mpr ⟨_, found⟩
    refine ⟨_, ⟨ids, listed, fun member => admits.noCircle ((members left).mp member)⟩,
      admits.memory, admits.horizon, ⟨leftSide, rightSide, isLeft, isRight,
      admits.leftFits leftSide isLeft, admits.rightFits rightSide isRight⟩,
      (options.checkSpans_eq_ok admits.horizon).mpr admits.spanned, ⟨joins, present, ?_⟩, rfl⟩
    rw [List.contains_eq_any_beq, List.any_eq_false]
    simpa using admits.new joins present

/--
A join succeeds if and only if it is admitted. It then changes nothing but the joins of `left` and
the parent of `right`, and neither of the two changes fails; a join that fails leaves the graph as it
was.
-/
theorem joins_are_admitted (start : PlaceholderGraph) (origin : Origin start)
    (operations : List Operation) (left right : Nat) (options : JoinOptions) :
    ((∃ joined, (run start operations).join left right options = .ok joined) ↔
      (run start operations).Admits left right options) ∧
    (∀ joined, (run start operations).join left right options = .ok joined →
      step (run start operations) (.join left right options) = joined ∧
        linkInPlace left ⟨right, options⟩ (run start operations) = (.ok (), joined) ∧
        (run start operations).Linked joined left right options) ∧
    ∀ cause, (run start operations).join left right options = .error cause →
      step (run start operations) (.join left right options) = run start operations := by
  have sound := sound_run start operations (sound_of_origin start origin)
  generalize run start operations = graph at sound
  refine ⟨join_isOk_iff graph sound left right options, ?_, ?_⟩
  · intro joined made
    have admits := (join_isOk_iff graph sound left right options).mp ⟨joined, made⟩
    refine ⟨by rw [step, made], ?_⟩
    obtain ⟨-, -, -, -, -, -, rfl⟩ := (join_eq_ok graph joined left right options).mp made
    exact ⟨graph.linkInPlace_eq left ⟨right, options⟩ admits.leftInside admits.rightInside,
      linked_link graph left right options⟩
  · intro cause failed
    rw [step, failed]

def dated : List Operation :=
  [.add ⟨"population", { joinKey := ["id"], timeStamp := ["date"] }⟩,
    .add ⟨"trans", { joinKey := ["id"], timeStamp := ["date"] }⟩]

def lookingBack : JoinOptions :=
  { on := [("id", "id")], timeStamps := some ("date", "date"), memory := some 30.0 }

theorem joins_are_admitted_dated :
    (run {} dated).Admits 0 1 lookingBack ∧
      ¬ (run {} dated).Admits 0 1 { lookingBack with laggedTargets := true } ∧
      ¬ (run {} (dated ++ [.join 0 1 lookingBack])).Admits 1 0 lookingBack := by
  refine ⟨(joins_are_admitted {} .empty dated 0 1 lookingBack).1.mp ⟨_, rfl⟩, ?_, ?_⟩
  · rw [← (joins_are_admitted {} .empty dated 0 1 _).1]
    rintro ⟨joined, made⟩
    cases made
  · rw [← (joins_are_admitted {} .empty _ 1 0 lookingBack).1]
    rintro ⟨joined, made⟩
    cases made

end PlaceholderGraph

end RelationalLearning
