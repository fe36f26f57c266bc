import RelationalLearning.Proofs.Engine.Exchange
import RelationalLearning.Proofs.Json.Covered

/-!
Views that are described to the engine after it was asked for the last change of their data frames.
An operation is known by the data frames whose last changes it may take for known and by those
whose last changes are known after it.
-/

namespace RelationalLearning

variable {ε ε' σ α β : Type}

def Asked (frame : String) (events : List Event) : Prop :=
  Answered "DataFrame.last_change" frame Succeeded events

/-- A command that describes views on the given data frames only, or that lays tables end to end. -/
def Message.Covered (frames : List String) : Message → Prop
  | .command document =>
    document.field? "type_" = some (.string "DataFrame.concat") ∨ Json.Covered frames document
  | _ => True

def Checked (frames : List String) (events : List Event) : Prop :=
  ∀ earlier link command later, events = earlier ++ .sent link (.command command) :: later →
    command.field? "type_" ≠ some (.string "DataFrame.concat") →
      ∀ description, Json.Within description command →
        description.field? "type_" = some (.string "View") →
          ∃ frame, Json.RootOf description frame ∧ (frame ∈ frames ∨ Asked frame earlier)

theorem Asked.append {frame : String} {events : List Event} (asked : Asked frame events)
    (before after : List Event) : Asked frame (before ++ (events ++ after)) :=
  Answered.append asked Succeeded.append before after

namespace World

/-- All that was described on the way was known or asked for, and so is what is known now. -/
def Reports (frames known : List String) (before after : World) : Prop :=
  ∃ events, after.trace = before.trace ++ events ∧ Checked frames events ∧
    ∀ frame ∈ known, frame ∈ frames ∨ Asked frame events

variable {frames known more : List String}

theorem Reports.trans {first second third : World} (one : Reports frames known first second)
    (two : Reports known more second third) : Reports frames more first third := by
  obtain ⟨events, earlier, checked, asked⟩ := one
  obtain ⟨further, later, rest, answered⟩ := two
  refine ⟨events ++ further, by rw [later, earlier, List.append_assoc], ?_, ?_⟩
  · intro before link command after same apart description within of_kind
    rcases split_append events further before after _ same with ⟨_, rfl, -⟩ | ⟨start, rfl, rfl⟩
    · exact checked before link command _ rfl apart description within of_kind
    · obtain ⟨frame, root, known | asking⟩ :=
        rest start link command after rfl apart description within of_kind
      · refine ⟨frame, root, (asked frame known).imp_right fun asking => ?_⟩
        exact asking.append [] start
      · refine ⟨frame, root, .inr ?_⟩
        simpa using asking.append events []
  · intro frame member
    rcases answered frame member with known | asking
    · exact (asked frame known).imp_right fun asking => asking.append [] further
    · exact .inr (by simpa using asking.append events [])

theorem Reports.forget {before after : World} (reports : Reports frames known before after)
    (fewer : more ⊆ known) : Reports frames more before after := by
  obtain ⟨events, recorded, checked, asked⟩ := reports
  exact ⟨events, recorded, checked, fun frame member => asked frame (fewer member)⟩

theorem reports_of_grows {base : Nat} {before after : World}
    (grows : Grows base (Message.Covered frames) before after) :
    Reports frames frames before after := by
  obtain ⟨events, recorded, fits⟩ := grows.recorded
  refine ⟨events, recorded, ?_, fun frame member => .inl member⟩
  intro earlier link command later same apart description within of_kind
  have covered := (fits (.sent link (.command command)) (by simp [same])).2
  obtain ⟨frame, known, root⟩ := (covered.resolve_left apart) description within of_kind
  exact ⟨frame, root, .inl known⟩

/-- What the run of an operation reports; only success lets more be known. -/
def Reported (frames known : List String) (good : α → Prop) (outcome : Except ε α)
    (before after : World) : Prop :=
  Reports frames [] before after ∧
    ∀ value, outcome = .ok value → Reports frames known before after ∧ good value

end World

namespace Client

variable {frames known more : List String}

def Reports (frames known : List String) (good : α → Prop) (action : Client ε α) : Prop :=
  ∀ world, World.Reported frames known good (action world).1 world (action world).2

theorem Emits.reports {good : α → Prop} {action : Client ε α}
    (emits : Emits 0 (Message.Covered frames) good action) : Reports frames frames good action := by
  intro world
  obtain ⟨grows, holds⟩ := emits world (Nat.zero_le _)
  have reports := World.reports_of_grows grows
  exact ⟨reports.forget (List.nil_subset _), fun value done => ⟨reports, holds value done⟩⟩

theorem Reports.forget {good : α → Prop} {action : Client ε α}
    (reports : Reports frames known good action) (fewer : more ⊆ known) :
    Reports frames more good action := by
  intro world
  obtain ⟨always, done⟩ := reports world
  exact ⟨always, fun value same => ⟨(done value same).1.forget fewer, (done value same).2⟩⟩

theorem reports_bind (first : α → Prop) (second : β → Prop) (action : Client ε α)
    (next : α → Client ε β) (one : Reports frames known first action)
    (two : ∀ value, first value → Reports known more second (next value)) :
    Reports frames more second (action >>= next) := by
  intro world
  obtain ⟨always, done⟩ := one world
  rw [Outcome.run_bind]
  generalize action world = reached at always done
  obtain ⟨outcome, middle⟩ := reached
  cases outcome with
  | ok value =>
      obtain ⟨known, holds⟩ := done value rfl
      obtain ⟨further, last⟩ := two value holds middle
      exact ⟨known.trans further, fun result same =>
        ⟨known.trans (last result same).1, (last result same).2⟩⟩
  | error cause =>
      refine ⟨always, ?_⟩
      rintro _ ⟨⟩

theorem reports_adapt (change : ε → ε') (good : α → Prop) (action : Client ε α)
    (reports : Reports frames known good action) :
    Reports frames known good (ExceptT.adapt change action : Client ε' α) := by
  intro world
  obtain ⟨always, done⟩ := reports world
  rw [run_adapt]
  exact ⟨always, fun value same => done value ((Outcome.mapError_eq_ok _ _ _).mp same)⟩

def Careful (frames : List String) (action : Client ε α) : Prop :=
  Reports frames [] (fun _ => True) action

theorem Reports.careful {good : α → Prop} {action : Client ε α}
    (reports : Reports frames known good action) : Careful frames action := fun world =>
  ⟨(reports world).1, fun _ _ => ⟨(reports world).1, trivial⟩⟩

theorem Emits.careful {action : Client ε α}
    (emits : Emits 0 (Message.Covered frames) (fun _ => True) action) : Careful frames action :=
  emits.reports.careful

theorem careful_bind (action : Client ε α) (next : α → Client ε β)
    (one : Careful frames action) (two : ∀ value, Careful [] (next value)) :
    Careful frames (action >>= next) := reports_bind _ _ action next one fun value _ => two value

theorem careful_attempt (action : Client ε α) (careful : Careful frames action) :
    Careful frames (attempt action) := fun world =>
  ⟨(careful world).1, fun _ _ => ⟨(careful world).1, trivial⟩⟩

end Client

namespace Updating

variable {frames known more : List String}

def Reports (frames known : List String) (good : α → Prop) (action : Updating σ ε α) : Prop :=
  ∀ handle world, World.Reported frames known good (action.runOn handle world).1.1 world
    (action.runOn handle world).2

theorem Emits.reports {good : α → Prop} {action : Updating σ ε α}
    (emits : Emits 0 (Message.Covered frames) good action) :
    Reports frames frames good action := by
  intro handle world
  obtain ⟨grows, holds⟩ := emits handle world (Nat.zero_le _)
  have reports := World.reports_of_grows grows
  exact ⟨reports.forget (List.nil_subset _), fun value done => ⟨reports, holds value done⟩⟩

theorem reports_bind (first : α → Prop) (second : β → Prop) (action : Updating σ ε α)
    (next : α → Updating σ ε β) (one : Reports frames known first action)
    (two : ∀ value, first value → Reports known more second (next value)) :
    Reports frames more second (action >>= next) := by
  intro handle world
  obtain ⟨always, done⟩ := one handle world
  rw [runOn_bind]
  split
  next value changed later ran =>
    rw [ran] at done
    obtain ⟨known, holds⟩ := done value rfl
    obtain ⟨further, last⟩ := two value holds changed later
    exact ⟨known.trans further, fun result same =>
      ⟨known.trans (last result same).1, (last result same).2⟩⟩
  next cause changed later ran =>
    rw [ran] at always
    refine ⟨always, ?_⟩
    rintro _ ⟨⟩

theorem reports_ofClient (good : α → Prop) (action : Client ε α)
    (reports : Client.Reports frames known good action) :
    Reports frames known good (ofClient action : Updating σ ε α) := fun _ => reports

def Careful (frames : List String) (action : Updating σ ε α) : Prop :=
  Reports frames [] (fun _ => True) action

theorem Reports.careful {good : α → Prop} {action : Updating σ ε α}
    (reports : Reports frames known good action) : Careful frames action := fun handle world =>
  ⟨(reports handle world).1, fun _ _ => ⟨(reports handle world).1, trivial⟩⟩

theorem Emits.careful {action : Updating σ ε α}
    (emits : Emits 0 (Message.Covered frames) (fun _ => True) action) : Careful frames action :=
  emits.reports.careful

theorem careful_bind (action : Updating σ ε α) (next : α → Updating σ ε β)
    (one : Careful frames action) (two : ∀ value, Careful [] (next value)) :
    Careful frames (action >>= next) := reports_bind _ _ action next one fun value _ => two value

theorem careful_ofClient (action : Client ε α) (careful : Client.Careful frames action) :
    Careful frames (ofClient action : Updating σ ε α) := reports_ofClient _ action careful

theorem careful_finish (action : Updating σ ε Unit) (handle : σ)
    (careful : Careful frames action) : Client.Careful frames (action.finish handle) :=
  fun world => ⟨(careful handle world).1, fun _ _ => ⟨(careful handle world).1, trivial⟩⟩

end Updating
end RelationalLearning
