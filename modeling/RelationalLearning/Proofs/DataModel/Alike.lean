import RelationalLearning.Proofs.Binary64.Special
import RelationalLearning.Proofs.DataModel.Encoding
import RelationalLearning.Proofs.Json.Values

/-!
Options of joins that a command does not tell apart. They are equal, unless one leaves out what the
other spells out, or their keys hold the reserved sequence.
-/

namespace RelationalLearning

def JoinOptions.Measured (span : Option Float) : Prop :=
  ∀ seconds ∈ span, seconds.isFinite = true ∨ seconds.isNaN = false ∧ ¬ seconds < 0.0

namespace Binary64

theorem beq_self_of_finite (value : Float) (finite : value.isFinite = true) :
    (value == value) = true := by
  have some : value ≠ Float.nan := by
    rintro rfl
    exact absurd finite (by decide)
  exact Float.beq_iff_ne_nan_and_eq.mpr ⟨some, some, .inl rfl⟩

end Binary64

theorem Relationship.name_injective (first second : Relationship)
    (same : first.name = second.name) : first = second := by
  have read : parse first.name = parse second.name := congrArg parse same
  rw [parse_name, parse_name] at read
  exact Except.ok.inj read

namespace JoinOptions

/-- One leaves a value out, and the other spells out what is sent in place of none. -/
def Spells {α : Type} (empty : α) (first second : Option α) : Prop :=
  first = none ∧ second = some empty ∨ first = some empty ∧ second = none

def SpelledOut (first second : JoinOptions) : Prop :=
  Spells ("", "") first.timeStamps second.timeStamps ∨
  Spells "" first.upperTimeStamp second.upperTimeStamp ∨
  Spells 0.0 first.memory second.memory ∨ Spells 0.0 first.horizon second.horizon

theorem eq_or_spells {α : Type} (empty : α) (first second : Option α)
    (same : first.getD empty = second.getD empty) : first = second ∨ Spells empty first second := by
  cases first with
  | none =>
      cases second with
      | none => exact .inl rfl
      | some value => exact .inr (.inl ⟨rfl, congrArg some same.symm⟩)
  | some value =>
      cases second with
      | none => exact .inr (.inr ⟨congrArg some same, rfl⟩)
      | some other => exact .inl (congrArg some same)

theorem pair_eq_or_spells (first second : Option (String × String))
    (left : (first.map (·.1)).getD "" = (second.map (·.1)).getD "")
    (right : (first.map (·.2)).getD "" = (second.map (·.2)).getD "") :
    first = second ∨ Spells ("", "") first second := by
  apply eq_or_spells
  have half (pair : Option (String × String)) (pick : String × String → String)
      (empty : pick ("", "") = "") : (pair.map pick).getD "" = pick (pair.getD ("", "")) := by
    cases pair with
    | none => exact empty.symm
    | some pair => rfl
  apply Prod.ext
  · rwa [half first (·.1) rfl, half second (·.1) rfl] at left
  · rwa [half first (·.2) rfl, half second (·.2) rfl] at right

theorem endless_of_null (span : Option Float) (measured : Measured span)
    (null : Json.number (span.getD 0.0) = .null) :
    ∃ seconds, span = some seconds ∧ seconds.toModel.unpack = .infinity .positive := by
  have infinite := (Json.number_eq_null _).mp null
  cases span with
  | none => exact absurd infinite (by decide)
  | some seconds =>
      refine ⟨seconds, rfl, ?_⟩
      rcases measured seconds rfl with finite | ⟨number, nonnegative⟩
      · exact absurd finite (Bool.eq_false_iff.mp infinite)
      · exact Binary64.unpack_of_infinite seconds infinite number nonnegative

theorem span_eq_or_spells (first second : Option Float) (measured : Measured first)
    (others : Measured second)
    (same : Json.number (first.getD 0.0) = Json.number (second.getD 0.0)) :
    (second == first) = true ∨ Spells 0.0 first second := by
  cases finite : (first.getD 0.0).isFinite with
  | true =>
      have same := Json.number_injective _ _ finite same
      rcases eq_or_spells 0.0 first second same with rfl | spelled
      · left
        cases first with
        | none => rfl
        | some seconds => exact Binary64.beq_self_of_finite seconds finite
      · exact .inr spelled
  | false =>
      have null := (Json.number_eq_null _).mpr finite
      obtain ⟨seconds, rfl, endless⟩ := endless_of_null first measured null
      obtain ⟨other, rfl, alike⟩ := endless_of_null second others (same ▸ null)
      left
      change other.toModel.unpack.beq seconds.toModel.unpack = true
      rw [endless, alike]
      rfl

def Timed (options : JoinOptions) : Prop := Measured options.memory ∧ Measured options.horizon

/-- A command has the same entries for both. -/
structure Alike (first second : JoinOptions) : Prop where
  keys : JoinKeys.encode first.on = JoinKeys.encode second.on
  left : (first.timeStamps.map (·.1)).getD "" = (second.timeStamps.map (·.1)).getD ""
  right : (first.timeStamps.map (·.2)).getD "" = (second.timeStamps.map (·.2)).getD ""
  upper : first.upperTimeStamp.getD "" = second.upperTimeStamp.getD ""
  relationship : first.relationship.name = second.relationship.name
  memory : Json.number (first.memory.getD 0.0) = Json.number (second.memory.getD 0.0)
  horizon : Json.number (first.horizon.getD 0.0) = Json.number (second.horizon.getD 0.0)
  laggedTargets : first.laggedTargets = second.laggedTargets

theorem beq_eq (first second : JoinOptions) :
    (first == second) = (first.on == second.on && (first.timeStamps == second.timeStamps &&
      (first.upperTimeStamp == second.upperTimeStamp &&
        (first.relationship == second.relationship && (first.memory == second.memory &&
          (first.horizon == second.horizon && first.laggedTargets == second.laggedTargets)))))) :=
  rfl

theorem Alike.keys_eq (first second : JoinOptions) (alike : first.Alike second)
    (clean : ∀ pair ∈ first.on ++ second.on, JoinKeys.Clean pair.1 ∧ JoinKeys.Clean pair.2) :
    first.on = second.on := by
  refine JoinKeys.encode_injective first.on second.on ?_ ?_ alike.keys
  · intro pair member
    exact clean pair (List.mem_append_left _ member)
  · intro pair member
    exact clean pair (List.mem_append_right _ member)

theorem beq_or_spelledOut (first second : JoinOptions) (alike : first.Alike second)
    (keys : first.on = second.on) (timed : first.Timed) (others : second.Timed) :
    (second == first) = true ∨ first.SpelledOut second := by
  have relationship := Relationship.name_injective _ _ alike.relationship
  rcases pair_eq_or_spells _ _ alike.left alike.right with timeStamps | spelled
  · rcases eq_or_spells "" _ _ alike.upper with upper | spelled
    · rcases span_eq_or_spells _ _ timed.1 others.1 alike.memory with memory | spelled
      · rcases span_eq_or_spells _ _ timed.2 others.2 alike.horizon with horizon | spelled
        · left
          simp [beq_eq, keys, timeStamps, upper, relationship, memory, horizon,
            alike.laggedTargets]
        · exact .inr (.inr (.inr (.inr spelled)))
      · exact .inr (.inr (.inr (.inl spelled)))
    · exact .inr (.inr (.inl spelled))
  · exact .inr (.inl spelled)

end JoinOptions
end RelationalLearning
