import Mathlib.Logic.Relation
import RelationalLearning.Proofs.Engine.Exchange
import RelationalLearning.Proofs.Pipeline.Serving

/-!
The lifetime of a fitted pipeline. Over any run on one handle, the commands that need a fitted
pipeline name one that was announced and trained before and that the engine was not told to delete
with success.
-/

namespace RelationalLearning.Pipeline

open Relation (ReflTransGen)

def Trained (replies : List String) : Prop :=
  ∃ lines reply rest, replies = found :: lines ++ reply :: rest ∧
    (∀ line ∈ lines, Text.startsWith line Link.logMark = true) ∧
    Text.startsWith reply Link.logMark = false ∧ Text.contains reply "Trained" = true

structure Fitted (name : String) (events : List Event) : Prop where
  announced : Answered "Pipeline" name Succeeded events
  trained : Answered "Pipeline.fit" name Trained events

def Deleted (name : String) (events : List Event) : Prop :=
  Answered "Pipeline.delete" name Succeeded events

theorem Trained.append (replies more : List String) (trained : Trained replies) :
    Trained (replies ++ more) := by
  obtain ⟨lines, reply, rest, rfl, marks, ends, done⟩ := trained
  exact ⟨lines, reply, rest ++ more, by simp, marks, ends, done⟩

theorem Fitted.append {name : String} {events : List Event} (fitted : Fitted name events)
    (before after : List Event) : Fitted name (before ++ (events ++ after)) :=
  ⟨fitted.announced.append Succeeded.append before after,
    fitted.trained.append Trained.append before after⟩

/-- A deletion that had not succeeded does not succeed later, as nobody listens to it any more. -/
theorem not_deleted_append (name : String) (events more : List Event) (base : Nat)
    (alive : ¬ Deleted name events) (still : ¬ Deleted name more)
    (past : ∀ link command, .sent link (.command command) ∈ events →
      command.field? "type_" = some (.string "Pipeline.delete") → link < base)
    (fresh : ∀ link reply, .received link reply ∈ more → base ≤ link) :
    ¬ Deleted name (events ++ more) := by
  rintro ⟨earlier, link, command, later, same, of_kind, of_name, succeeded⟩
  rcases split_append events more earlier later _ same with ⟨rest, rfl, rfl⟩ | ⟨start, rfl, rfl⟩
  · have below := past link command (by simp) of_kind
    -- an old deletion could only succeed now by replies on its old connection
    obtain ⟨further, replies, silent⟩ := repliesTo_append link rest more
    rw [replies, silent, List.append_nil] at succeeded
    · exact alive ⟨earlier, link, command, rest, rfl, of_kind, of_name, succeeded⟩
    · intro reply heard
      exact absurd (fresh link reply heard) (Nat.not_le_of_lt below)
  · exact still ⟨start, link, command, later, rfl, of_kind, of_name, succeeded⟩

/-- Every command that needs a fitted pipeline names one. -/
def Justified (events : List Event) : Prop :=
  ∀ earlier link command kind later, events = earlier ++ .sent link (.command command) :: later →
    command.field? "type_" = some (.string kind) → kind ∈ fittedKinds →
      ∃ name, command.field? "name_" = some (.string name) ∧ Fitted name earlier ∧
        ¬ Deleted name earlier

/-- The record since the handle was made; what is deleted had its name made up before. -/
structure Orderly (world : World) (events : List Event) : Prop where
  justified : Justified events
  spoken : ∀ link message, .sent link message ∈ events → ∃ command, message = .command command
  deletions : ∀ link command, .sent link (.command command) ∈ events →
    command.field? "type_" = some (.string "Pipeline.delete") → link < world.links.length ∧
      ∃ number < world.names, command.field? "name_" = some (.string (Client.madeUpName number))

structure Alive (name : String) (world : World) (events : List Event) : Prop where
  fitted : Fitted name events
  kept : ¬ Deleted name events
  old : ∃ number < world.names, name = Client.madeUpName number

structure Tracked (id : Option String) (world : World) (events : List Event) : Prop where
  orderly : Orderly world events
  alive : ∀ name, id = some name → Alive name world events

theorem serves_not_deletion (id : Option String) (command : Json)
    (serves : Serves id (.command command)) :
    command.field? "type_" ≠ some (.string "Pipeline.delete") :=
  fun same => (serves _ same).1 rfl

theorem not_deleted_of_serves (id : Option String) (name : String) (base : Nat)
    (more : List Event) (fits : ∀ event ∈ more, event.Fits base (Serves id)) :
    ¬ Deleted name more := by
  rintro ⟨earlier, link, command, later, rfl, of_kind, -, -⟩
  exact serves_not_deletion id command (fits (.sent link (.command command)) (by simp)).2 of_kind

theorem received_of_fits {allowed : Message → Prop} (base : Nat) (more : List Event)
    (fits : ∀ event ∈ more, event.Fits base allowed) :
    ∀ link reply, .received link reply ∈ more → base ≤ link :=
  fun _ _ member => fits _ member

theorem Alive.append {name : String} {id : Option String} {world last : World}
    {events more : List Event} (alive : Alive name world events) (orderly : Orderly world events)
    (fits : ∀ event ∈ more, event.Fits world.links.length (Serves id))
    (names : world.names ≤ last.names) : Alive name last (events ++ more) := by
  refine ⟨alive.fitted.append [] more, ?_, ?_⟩
  · refine not_deleted_append name events more world.links.length alive.kept
      (not_deleted_of_serves id name _ more fits) ?_ (received_of_fits _ more fits)
    intro link command member of_kind
    exact (orderly.deletions link command member of_kind).1
  · obtain ⟨number, below, same⟩ := alive.old
    exact ⟨number, Nat.lt_of_lt_of_le below names, same⟩

theorem Tracked.append {id : Option String} {world last : World} {events more : List Event}
    (tracked : Tracked id world events) (links : world.links.length ≤ last.links.length)
    (names : world.names ≤ last.names)
    (fits : ∀ event ∈ more, event.Fits world.links.length (Serves id)) :
    Tracked id last (events ++ more) := by
  refine ⟨⟨?_, ?_, ?_⟩, ?_⟩
  · intro earlier link command kind later same of_kind needed
    rcases split_append events more earlier later _ same with ⟨rest, rfl, -⟩ | ⟨start, rfl, rfl⟩
    · exact tracked.orderly.justified earlier link command kind rest rfl of_kind needed
    · -- a new command that needs a fitted pipeline names that of the handle
      have serves := (fits (.sent link (.command command)) (by simp)).2 kind of_kind
      obtain ⟨name, own, named⟩ := serves.2 needed
      have alive : Alive name last (events ++ start) := (tracked.alive name own).append
        tracked.orderly (fun event member => fits event (by simp [member])) names
      exact ⟨name, named, alive.fitted, alive.kept⟩
  · intro link message member
    rcases List.mem_append.mp member with old | new
    · exact tracked.orderly.spoken link message old
    · have serves := (fits (.sent link message) new).2
      cases message with
      | command command => exact ⟨command, rfl⟩
      | text content => exact serves.elim
      | table content => exact serves.elim
  · intro link command member of_kind
    rcases List.mem_append.mp member with old | new
    · obtain ⟨below, number, made, named⟩ := tracked.orderly.deletions link command old of_kind
      exact ⟨Nat.lt_of_lt_of_le below links, number, Nat.lt_of_lt_of_le made names, named⟩
    · exact absurd of_kind (serves_not_deletion id command (fits _ new).2)
  · intro name own
    exact (tracked.alive name own).append tracked.orderly fits names

/-- The record since some moment, at which `start` was on record, is as the handle relies on it. -/
def Held (start : List Event) (id : Option String) (world : World) : Prop :=
  ∃ events, world.trace = start ++ events ∧ Tracked id world events

variable {start : List Event} {ε α β : Type}

theorem Held.emits {id : Option String} {world : World} {action : Client ε α}
    (held : Held start id world) (good : α → Prop)
    (emits : Client.Emits world.links.length (Serves id) good action) :
    Held start id (action world).2 := by
  obtain ⟨events, recorded, tracked⟩ := held
  obtain ⟨grows, -⟩ := emits world (Nat.le_refl _)
  obtain ⟨more, later, fits⟩ := grows.recorded
  refine ⟨events ++ more, ?_, tracked.append grows.links grows.names fits⟩
  rw [later, recorded, List.append_assoc]

theorem serves_none (id : Option String) (message : Message) (serves : Serves none message) :
    Serves id message := by
  cases message with
  | command command =>
      intro kind of_kind
      obtain ⟨other, needs⟩ := serves kind of_kind
      refine ⟨other, fun needed => ?_⟩
      obtain ⟨name, own, -⟩ := needs needed
      cases own
  | text content => exact serves.elim
  | table content => exact serves.elim

theorem deletion_concerns (name : String) (onlyMemory : Bool) :
    (Session.command "Pipeline.delete" name [("mem_only_", .bool onlyMemory)]).field? "type_" =
        some (.string "Pipeline.delete") ∧
      (Session.command "Pipeline.delete" name [("mem_only_", .bool onlyMemory)]).field? "name_" =
        some (.string name) :=
  ⟨Session.kind_command _ _ _ (by simp), Session.name_command _ _ _ (by simp)⟩

section

variable {session : Session} {name : String} {onlyMemory : Bool} {replies : List String}
  {world last : World} {events : List Event}

theorem Orderly.deletion (orderly : Orderly world events)
    (made : ∃ number < world.names, name = Client.madeUpName number)
    (exchange : session.Exchange
      (Session.command "Pipeline.delete" name [("mem_only_", .bool onlyMemory)]) replies
        world last) :
    Orderly last (events ++ Session.exchanged world.links.length session.port
      (Session.command "Pipeline.delete" name [("mem_only_", .bool onlyMemory)]) replies) := by
  have concerns := deletion_concerns name onlyMemory
  have alone := Session.sent_in_exchange world.links.length session.port
  refine ⟨?_, ?_, ?_⟩
  · intro earlier link command kind later same of_kind needed
    rcases split_append events _ earlier later _ same with ⟨rest, rfl, -⟩ | ⟨before, rfl, said⟩
    · exact orderly.justified earlier link command kind rest rfl of_kind needed
    · obtain ⟨-, sent, -⟩ := alone link _ _ _ before later said
      obtain rfl := Message.command.inj sent
      rw [concerns.1] at of_kind
      obtain rfl : "Pipeline.delete" = kind := by simpa using of_kind
      exact absurd needed (by decide)
  · intro link message member
    rcases List.mem_append.mp member with old | new
    · exact orderly.spoken link message old
    · obtain ⟨before, later, said⟩ := List.append_of_mem new
      exact ⟨_, (alone link _ message _ before later said).2.1⟩
  · intro link command member of_kind
    rw [exchange.links, exchange.names]
    rcases List.mem_append.mp member with old | new
    · obtain ⟨below, known⟩ := orderly.deletions link command old of_kind
      exact ⟨Nat.lt_succ_of_lt below, known⟩
    · obtain ⟨before, later, said⟩ := List.append_of_mem new
      obtain ⟨rfl, sent, -⟩ := alone link _ _ _ before later said
      obtain rfl := Message.command.inj sent
      obtain ⟨number, least, rfl⟩ := made
      exact ⟨Nat.lt_succ_self _, number, least, concerns.2⟩

theorem Alive.deletion {own : String} (alive : Alive own world events)
    (orderly : Orderly world events)
    (exchange : session.Exchange
      (Session.command "Pipeline.delete" name [("mem_only_", .bool onlyMemory)]) replies world last)
    (other : own = name → ¬ Succeeded replies) :
    Alive own last (events ++ Session.exchanged world.links.length session.port
      (Session.command "Pipeline.delete" name [("mem_only_", .bool onlyMemory)]) replies) := by
  obtain ⟨fitted, kept, number, least, spelled⟩ := alive
  refine ⟨fitted.append [] _, ?_, number, exchange.names ▸ least, spelled⟩
  refine not_deleted_append own events _ world.links.length kept ?_ ?_ ?_
  · rintro ⟨before, link, command, later, said, -, of_name, succeeded⟩
    obtain ⟨rfl, sent, all⟩ :=
      Session.sent_in_exchange world.links.length session.port link _ _ _ before later said
    obtain rfl := Message.command.inj sent
    rw [(deletion_concerns name onlyMemory).2] at of_name
    obtain rfl : name = own := by simpa using of_name
    rw [all] at succeeded
    exact other rfl succeeded
  · intro link command member of_kind
    exact (orderly.deletions link command member of_kind).1
  · intro link reply member
    exact Nat.le_of_eq (Session.received_in_exchange _ _ link _ _ reply member).symm

theorem Tracked.deletion {id : Option String} (tracked : Tracked id world events)
    (made : ∃ number < world.names, name = Client.madeUpName number)
    (exchange : session.Exchange
      (Session.command "Pipeline.delete" name [("mem_only_", .bool onlyMemory)]) replies world last)
    (other : id = some name → ¬ Succeeded replies) :
    ∃ more, last.trace = world.trace ++ more ∧ Tracked id last (events ++ more) := by
  refine ⟨_, exchange.recorded, tracked.orderly.deletion made exchange, fun own same => ?_⟩
  refine (tracked.alive own same).deletion tracked.orderly exchange fun deleted => other ?_
  rw [same, deleted]

end

theorem Held.bind {id : Option String} {world : World} {action : Client ε α} {next : α → Client ε β}
    (first : Held start id (action world).2)
    (second : ∀ value later, action world = (.ok value, later) → Held start id later →
      Held start id (next value later).2) : Held start id ((action >>= next) world).2 := by
  rw [Outcome.run_bind]
  split
  next value later done =>
    rw [done] at first
    exact second value later done first
  next cause later done =>
    rw [done] at first
    exact first

theorem Held.deletion {id : Option String} {session : Session} {name : String} {onlyMemory : Bool}
    {replies : List String} {world last : World} (held : Held start id world)
    (made : ∃ number < world.names, name = Client.madeUpName number)
    (exchange : session.Exchange
      (Session.command "Pipeline.delete" name [("mem_only_", .bool onlyMemory)]) replies world last)
    (other : id = some name → ¬ Succeeded replies) : Held start id last := by
  obtain ⟨events, recorded, tracked⟩ := held
  obtain ⟨more, later, kept⟩ := tracked.deletion made exchange other
  exact ⟨events ++ more, by rw [later, recorded, List.append_assoc], kept⟩

theorem Held.quiet {id : Option String} {world last : World} (held : Held start id world)
    (quiet : world.Grows world.links.length (fun _ => False) last) : Held start id last := by
  obtain ⟨events, recorded, tracked⟩ := held
  obtain ⟨more, later, fits⟩ := (quiet.mono fun _ never => never.elim).recorded
  exact ⟨events ++ more, by rw [later, recorded, List.append_assoc],
    tracked.append quiet.links quiet.names fits⟩

theorem Held.forget {id : Option String} {world : World} (held : Held start id world) :
    Held start none world := by
  obtain ⟨events, recorded, tracked⟩ := held
  refine ⟨events, recorded, tracked.orderly, ?_⟩
  rintro name ⟨⟩

/-- A deletion that fails leaves the handle with its pipeline; one that succeeds takes it away. -/
theorem held_deleteById (session : Session) (id : Option String) (name : String)
    (onlyMemory : Bool) (world : World) (held : Held start id world)
    (made : ∃ number < world.names, name = Client.madeUpName number) :
    (∃ last, deleteById session name onlyMemory world = (.ok (), last) ∧
      (id ≠ some name → Held start id last) ∧ Held start none last) ∨
    ∃ cause last, deleteById session name onlyMemory world = (.error cause, last) ∧
      Held start id last := by
  have unfolded : deleteById session name onlyMemory = ExceptT.adapt PipelineError.engine
      (session.send (Session.command "Pipeline.delete" name
        [("mem_only_", .bool onlyMemory)])) := rfl
  rw [unfolded, Client.run_adapt]
  rcases Session.send_cases session world.links.length (Session.command "Pipeline.delete" name
      [("mem_only_", .bool onlyMemory)]) world with
    ⟨last, sent, exchange⟩ | ⟨cause, last, failed, quiet | ⟨replies, exchange, other⟩⟩
  · rw [sent]
    refine .inl ⟨last, rfl, ?_, held.forget.deletion made exchange ?_⟩
    · exact fun apart => held.deletion made exchange fun same => absurd same apart
    · rintro ⟨⟩
  · rw [failed]
    exact .inr ⟨_, last, rfl, held.quiet quiet⟩
  · rw [failed]
    exact .inr ⟨_, last, rfl, held.deletion made exchange fun _ => other⟩

end RelationalLearning.Pipeline
