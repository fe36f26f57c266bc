import RelationalLearning.Proofs.Engine.Answering
import RelationalLearning.Proofs.Table.LastChange

/-!
Refreshes that fail. A handle takes the roles as soon as they are told, before it asks for the last
change; when that question fails, new roles stand beside the old last change.
-/

namespace RelationalLearning

open Relation (ReflTransGen)

def ToldRoles (name : String) (roles : Roles) (events : List Event) : Prop :=
  Answered "DataFrame.refresh" name
    (fun replies => ∃ reply ∈ replies.head?, Roles.ofReply reply = .ok roles) events

def ToldLastChange (name lastChange : String) (events : List Event) : Prop :=
  Answered "DataFrame.last_change" name (fun replies => [success, lastChange] <+: replies) events

theorem Updating.runOn_handle_bind {σ ε β : Type} (next : σ → Updating σ ε β) (handle : σ)
    (world : World) :
    (Updating.handle >>= next).runOn handle world = (next handle).runOn handle world := rfl

theorem Updating.ofClient_bind_ofExcept {σ ε α β γ : Type} (action : Client ε α)
    (read : α → Except ε β) (next : β → Updating σ ε γ) :
    (ofClient action >>= fun value => ofExcept (read value) >>= next) =
      ofClient (action >>= fun value => Client.ofExcept (read value)) >>= next := by
  funext handle world
  change runOn (_ >>= _) handle world = runOn (_ >>= _) handle world
  rw [runOn_ofClient_bind, runOn_ofClient_bind, Outcome.run_bind]
  rcases action world with ⟨cause | value, later⟩
  · rfl
  dsimp only
  rw [runOn_bind]
  cases read value <;> rfl

theorem not_answered_of_grows {base : Nat} {before after : World}
    (quiet : before.Grows base (fun _ => False) after) :
    ∃ events, after.trace = before.trace ++ events ∧
      ∀ kind name good, ¬ Answered kind name good events := by
  obtain ⟨events, recorded, fits⟩ := quiet.recorded
  refine ⟨events, recorded, ?_⟩
  rintro kind name good ⟨earlier, link, command, later, rfl, -⟩
  exact (fits (.sent link (.command command)) (by simp)).2

theorem not_answered_exchanged {link port : Nat} {command : Json} {kind name : String}
    {replies : List String} {good : List String → Prop} (bad : ¬ good replies) :
    ¬ Answered kind name good (Session.exchanged link port command replies) := by
  rintro ⟨earlier, other, sent, later, same, -, -, fine⟩
  obtain ⟨rfl, -, heard⟩ := Session.sent_in_exchange _ _ _ _ _ _ _ _ same
  exact bad (heard ▸ fine)

theorem not_answered_behind {link port : Nat} {command : Json} {kind other name : String}
    {replies : List String} {good : List String → Prop} {events : List Event}
    (of_kind : command.field? "type_" = some (.string other)) (apart : other ≠ kind)
    (silent : ¬ Answered kind name good events) :
    ¬ Answered kind name good (Session.exchanged link port command replies ++ events) := by
  rintro ⟨earlier, link, sent, later, same, is_kind, named, fine⟩
  rcases split_append _ _ _ _ _ same with ⟨rest, within, -⟩ | ⟨start, -, within⟩
  · obtain ⟨-, same, -⟩ := Session.sent_in_exchange _ _ _ _ _ _ _ _ within
    obtain rfl : sent = command := by simpa using same
    rw [of_kind] at is_kind
    exact apart (by simpa using is_kind)
  · exact silent ⟨start, link, sent, later, within, is_kind, named, fine⟩

namespace DataFrame

variable (session : Session) (frame : DataFrame) (world : World)

def readReply (reply : String) : Except DataError DataFrame := do
  frame.withReply (← (Link.objectOf reply).mapError .engine)

theorem readReply_cases (reply : String) :
    (∃ cause, frame.readReply reply = .error cause ∧ Roles.ofReply reply = .error cause) ∨
    ∃ roles valid, frame.readReply reply = .ok { frame with roles, valid } ∧
      Roles.ofReply reply = .ok roles := by
  cases read : frame.readReply reply with
  | error cause =>
      refine .inl ⟨cause, rfl, ?_⟩
      simpa [readReply, Roles.ofReply, Outcome.bind_eq_error, withReply_eq_error] using read
  | ok changed =>
      simp only [readReply, Outcome.bind_eq_ok, withReply_eq_ok] at read
      obtain ⟨document, object, roles, valid, told, rfl⟩ := read
      exact .inr ⟨roles, valid, rfl, (Outcome.bind_eq_ok _ _ _).mpr ⟨document, object, told⟩⟩

def askRoles : Client DataError DataFrame := do
  let link ← session.ask (frame.command "DataFrame.refresh" [])
  let reply ← Link.receive link
  Client.ofExcept (frame.readReply reply)

theorem askRoles_eq : frame.askRoles session =
    (show Client DataError Json from do
      Link.receiveJson (← session.ask (frame.command "DataFrame.refresh" []))) >>=
        fun reply => Client.ofExcept (frame.withReply reply) := by
  rw [bind_assoc]
  refine congrArg (_ >>= ·) (funext fun link => funext fun world => ?_)
  rw [Link.receiveJson_eq]
  simp only [Outcome.run_bind, liftM, monadLift, MonadLift.monadLift, Client.run_adapt]
  rcases Link.receive link world with ⟨cause | reply, later⟩
  · rfl
  dsimp only [Except.mapError, readReply]
  cases Link.objectOf reply <;> rfl

def takeRoles (changed : DataFrame) : Updating DataFrame DataError Unit := do
  Updating.replace changed
  let lastChange ← Updating.ofClient (changed.askLastChange session)
  Updating.replace { changed with lastChange }
  Updating.ofClient
    (Client.log .debug s!"Refreshed data frame '{changed.name}' ({changed.roles.size} columns)")

theorem refresh_eq_takeRoles : refresh session = (Updating.handle >>= fun frame =>
    Updating.ofClient (frame.askRoles session) >>= takeRoles session) := by
  refine congrArg (Updating.handle >>= ·) (funext fun frame => ?_)
  rw [askRoles_eq, ← Updating.ofClient_bind_ofExcept]
  rfl

/-- From then on the roles stay, whatever comes of the question for the last change. -/
theorem runOn_takeRoles (changed : DataFrame) : (takeRoles session changed).runOn frame world =
    match changed.askLastChange session world with
    | (.error cause, last) => ((.error cause, changed), last)
    | (.ok lastChange, last) =>
      ((.ok (), { changed with lastChange }), last.record (.logged ⟨.debug, false,
        s!"Refreshed data frame '{changed.name}' ({changed.roles.size} columns)"⟩)) := by
  have unfolded : (takeRoles session changed).runOn frame world =
      (Updating.ofClient (changed.askLastChange session) >>= fun lastChange => do
        Updating.replace { changed with lastChange }
        Updating.ofClient (Client.log .debug
          s!"Refreshed data frame '{changed.name}' ({changed.roles.size} columns)")).runOn
        changed world := rfl
  rw [unfolded, Updating.runOn_ofClient_bind]
  rcases changed.askLastChange session world with ⟨cause | lastChange, last⟩
  · rfl
  · rfl

theorem runOn_refresh : (refresh session).runOn frame world =
    match frame.askRoles session world with
    | (.ok changed, later) => (takeRoles session changed).runOn frame later
    | (.error cause, later) => ((.error cause, frame), later) := by
  rw [refresh_eq_takeRoles, Updating.runOn_handle_bind, Updating.runOn_ofClient_bind]
  rcases frame.askRoles session world with ⟨cause | changed, later⟩
  · rfl
  · rfl

theorem askRoles_cases :
    (∃ cause last events, frame.askRoles session world = (.error cause, last) ∧
      last.trace = world.trace ++ events ∧ ∀ roles, ¬ ToldRoles frame.name roles events) ∨
    ∃ roles valid reply last,
      frame.askRoles session world = (.ok { frame with roles, valid }, last) ∧
      session.Exchange (frame.command "DataFrame.refresh" []) [reply] world last ∧
      Roles.ofReply reply = .ok roles := by
  simp only [askRoles, Outcome.run_bind, liftM, monadLift, MonadLift.monadLift, Client.run_adapt]
  rcases session.ask_cases 0 (frame.command "DataFrame.refresh" []) world with
    ⟨cause, last, failed, quiet⟩ | ⟨middle, asked, said⟩
  · obtain ⟨events, recorded, silent⟩ := not_answered_of_grows quiet
    rw [failed]
    exact .inl ⟨_, last, events, rfl, recorded, fun _ => silent _ _ _⟩
  rw [asked]
  dsimp only [Except.mapError]
  rcases Link.receive_cases world.links.length middle with
    ⟨cause, last, failed, heard⟩ | ⟨reply, last, received, heard⟩
  · rw [failed]
    refine .inl ⟨_, last, _, rfl, (said.heard heard).recorded, fun roles => ?_⟩
    exact not_answered_exchanged (by simp)
  rw [received]
  dsimp only [Except.mapError]
  rcases frame.readReply_cases reply with ⟨cause, same, read⟩ | ⟨roles, valid, same, read⟩
  · rw [same]
    refine .inl ⟨cause, last, _, rfl, (said.heard heard).recorded, fun roles => ?_⟩
    exact not_answered_exchanged (by simp [read])
  · rw [same]
    exact .inr ⟨roles, valid, reply, last, rfl, said.heard heard, read⟩

theorem askLastChange_cases :
    (∃ cause last events, frame.askLastChange session world = (.error cause, last) ∧
      last.trace = world.trace ++ events ∧
      ∀ lastChange, ¬ ToldLastChange frame.name lastChange events) ∨
    ∃ lastChange last, frame.askLastChange session world = (.ok lastChange, last) ∧
      session.Exchange (frame.command "DataFrame.last_change" []) [success, lastChange]
        world last := by
  simp only [askLastChange, Link.expectSuccess, Link.expect, Outcome.run_bind, liftM, monadLift,
    MonadLift.monadLift, Client.run_adapt]
  rcases session.ask_cases 0 (frame.command "DataFrame.last_change" []) world with
    ⟨cause, last, failed, quiet⟩ | ⟨middle, asked, said⟩
  · obtain ⟨events, recorded, silent⟩ := not_answered_of_grows quiet
    rw [failed]
    exact .inl ⟨_, last, events, rfl, recorded, fun _ => silent _ _ _⟩
  rw [asked]
  dsimp only [Except.mapError]
  rcases Link.receive_cases world.links.length middle with
    ⟨cause, last, failed, heard⟩ | ⟨reply, between, received, heard⟩
  · rw [failed]
    refine .inl ⟨_, last, _, rfl, (said.heard heard).recorded, fun lastChange => ?_⟩
    exact not_answered_exchanged (by simp)
  rw [received]
  dsimp only
  -- any other first reply is a refusal, and what may be behind it is not read
  by_cases refused : reply ≠ success
  · rw [if_neg refused]
    refine .inl ⟨_, between, _, rfl, (said.heard heard).recorded, fun lastChange => ?_⟩
    refine not_answered_exchanged fun told => refused ?_
    exact (List.cons_prefix_cons.mp told).1.symm
  obtain rfl : reply = success := not_not.mp refused
  have said := said.heard heard
  rw [if_pos rfl]
  dsimp only [pure, ExceptT.pure, ExceptT.mk, StateT.pure]
  rcases Link.receive_cases world.links.length between with
    ⟨cause, last, failed, heard⟩ | ⟨reply, last, received, heard⟩
  · rw [failed]
    refine .inl ⟨_, last, _, rfl, (said.heard heard).recorded, fun lastChange => ?_⟩
    exact not_answered_exchanged (by simp)
  · rw [received]
    exact .inr ⟨reply, last, rfl, said.heard heard⟩

theorem toldRoles_exchanged (link port : Nat) (reply : String) (roles : Roles)
    (read : Roles.ofReply reply = .ok roles) :
    ToldRoles frame.name roles
      (Session.exchanged link port (frame.command "DataFrame.refresh" []) [reply]) :=
  Session.answered_command _ _ _ _ _ _ _ (by simp) ⟨reply, rfl, read⟩

theorem toldLastChange_exchanged (link port : Nat) (lastChange : String) :
    ToldLastChange frame.name lastChange (Session.exchanged link port
      (frame.command "DataFrame.last_change" []) [success, lastChange]) :=
  Session.answered_command _ _ _ _ _ _ _ (by simp) (List.prefix_refl _)

end DataFrame

theorem ToldRoles.append {name : String} {roles : Roles} {events : List Event}
    (told : ToldRoles name roles events) (more : List Event) :
    ToldRoles name roles (events ++ more) := by
  refine Answered.append told ?_ [] more
  rintro (_ | ⟨first, replies⟩) more ⟨reply, same, read⟩
  · cases same
  · exact ⟨reply, same, read⟩

theorem ToldLastChange.around {name lastChange : String} {events : List Event}
    (told : ToldLastChange name lastChange events) (earlier more : List Event) :
    ToldLastChange name lastChange (earlier ++ (events ++ more)) :=
  Answered.append told (fun _ more said => said.trans (List.prefix_append _ more)) earlier more

namespace Table

/-- How a refresh ends, given what was said in it. -/
inductive Refreshed (table : Table) (events : List Event) : Except DataError Unit → Table → Prop
  | untold (cause : DataError) (silent : ∀ roles, ¬ ToldRoles table.root.name roles events) :
    Refreshed table events (.error cause) table
  | halfway (cause : DataError) (roles : Roles) (valid : roles.validate = .ok ())
    (told : ToldRoles table.root.name roles events)
    (silent : ∀ lastChange, ¬ ToldLastChange table.root.name lastChange events) :
    Refreshed table events (.error cause) (table.withRoot { table.root with roles, valid })
  | whole (roles : Roles) (valid : roles.validate = .ok ()) (lastChange : String)
    (told : ToldRoles table.root.name roles events)
    (dated : ToldLastChange table.root.name lastChange events) :
    Refreshed table events (.ok ()) (table.withRoot { table.root with roles, lastChange, valid })

theorem withRoot_root (table : Table) : table.withRoot table.root = table := by
  induction table with
  | frame data => rfl
  | view base layer ih => rw [root, withRoot, ih]

theorem withRoot_withRoot (table : Table) (first second : DataFrame) :
    (table.withRoot first).withRoot second = table.withRoot second := by
  induction table with
  | frame data => rfl
  | view base layer ih => rw [withRoot, withRoot, withRoot, ih]

theorem runOn_refresh (session : Session) (table : Table) (world : World) :
    (refresh session).runOn table world =
      let ((outcome, changed), last) := (DataFrame.refresh session).runOn table.root world
      ((outcome, table.withRoot changed), last) := rfl

theorem refresh_refreshed (session : Session) (table : Table) (world : World) :
    ∃ events, ((refresh session).runOn table world).2.trace = world.trace ++ events ∧
      table.Refreshed events ((refresh session).runOn table world).1.1
        ((refresh session).runOn table world).1.2 := by
  rw [runOn_refresh, DataFrame.runOn_refresh]
  rcases table.root.askRoles_cases session world with
    ⟨cause, last, events, failed, recorded, silent⟩ |
      ⟨roles, valid, reply, middle, asked, exchange, read⟩
  · rw [failed]
    have same : table.Refreshed events (.error cause) (table.withRoot table.root) := by
      rw [withRoot_root]
      exact .untold cause silent
    exact ⟨events, recorded, same⟩
  have told := table.root.toldRoles_exchanged world.links.length session.port reply roles read
  have asking := exchange.recorded
  rw [asked]
  dsimp only
  rw [DataFrame.runOn_takeRoles]
  -- the question for the last change goes by the name, which has not changed
  have sameQuestion : DataFrame.askLastChange session { table.root with roles, valid } =
      table.root.askLastChange session := rfl
  rw [sameQuestion]
  rcases table.root.askLastChange_cases session middle with
    ⟨cause, last, events, failed, recorded, silent⟩ | ⟨lastChange, last, answered, dated⟩
  · have neither (lastChange : String) : ¬ ToldLastChange table.root.name lastChange
        (Session.exchanged world.links.length session.port
          (table.root.command "DataFrame.refresh" []) [reply] ++ events) :=
      not_answered_behind (Session.kind_command _ _ _ (by simp)) (by decide) (silent lastChange)
    rw [failed]
    refine ⟨_, ?_, .halfway cause roles valid (told.append events) neither⟩
    rw [recorded, asking, List.append_assoc]
  · have said := table.root.toldLastChange_exchanged middle.links.length session.port lastChange
    have recorded (event : Event) : (last.record event).trace = world.trace ++
        (Session.exchanged world.links.length session.port
            (table.root.command "DataFrame.refresh" []) [reply] ++
          (Session.exchanged middle.links.length session.port
            (table.root.command "DataFrame.last_change" []) [success, lastChange] ++ [event])) := by
      rw [World.record, dated.recorded, asking]
      simp only [List.append_assoc]
    rw [answered]
    exact ⟨_, recorded _, .whole roles valid lastChange (told.append _) (said.around _ _)⟩

def Refresh (table : Table) (outcome : Except DataError Unit) (changed : Table)
    (events : List Event) : Prop :=
  ∃ session world last, (refresh session).runOn table world = ((outcome, changed), last) ∧
    last.trace = world.trace ++ events

theorem Refresh.refreshed {table changed : Table} {outcome : Except DataError Unit}
    {events : List Event} (refresh : table.Refresh outcome changed events) :
    table.Refreshed events outcome changed := by
  obtain ⟨session, world, last, ran, recorded⟩ := refresh
  obtain ⟨others, same, ended⟩ := refresh_refreshed session table world
  rw [ran] at same ended
  obtain rfl := List.append_cancel_left (recorded.symm.trans same)
  exact ended

def Refreshes (before after : Table) : Prop := ∃ outcome events, before.Refresh outcome after events

def Fails (before after : Table) : Prop :=
  ∃ cause events, before.Refresh (.error cause) after events

/-- The handle as it was at the start, or as one refresh told all of it. -/
def Completed (start whole : Table) : Prop :=
  whole = start ∨ ∃ before events, ReflTransGen Refreshes start before ∧
    before.Refresh (.ok ()) whole events ∧
    ToldRoles whole.root.name whole.root.roles events ∧
    ToldLastChange whole.root.name whole.root.lastChange events

/-- All that happened to the handle since is that refreshes failed; they left other roles at most. -/
structure FailedSince (whole table : Table) : Prop where
  failing : ReflTransGen Fails whole table
  same : table =
    whole.withRoot { whole.root with roles := table.root.roles, valid := table.root.valid }
  roles : table.root.roles = whole.root.roles ∨
    ∃ before after cause events, ReflTransGen Fails whole before ∧
      before.Refresh (.error cause) after events ∧ ReflTransGen Fails after table ∧
      ToldRoles whole.root.name table.root.roles events ∧
      ∀ lastChange, ¬ ToldLastChange whole.root.name lastChange events

theorem FailedSince.refl (whole : Table) : FailedSince whole whole :=
  ⟨.refl, whole.withRoot_root.symm, .inl rfl⟩

theorem FailedSince.tail {whole table changed : Table} (since : FailedSince whole table)
    (cause : DataError) (events : List Event)
    (refresh : table.Refresh (.error cause) changed events) : FailedSince whole changed := by
  have fails : Fails table changed := ⟨cause, events, refresh⟩
  obtain ⟨failing, same, roles⟩ := since
  have name : table.root.name = whole.root.name := by rw [same, root_withRoot]
  cases refresh.refreshed with
  | untold _ silent =>
      refine ⟨failing.tail fails, same, roles.imp_right ?_⟩
      rintro ⟨before, after, reason, said, early, halfway, late, told⟩
      exact ⟨before, after, reason, said, early, halfway, late.tail fails, told⟩
  | halfway _ roles valid told silent =>
      rw [name] at told silent
      refine ⟨failing.tail fails, ?_, .inr ?_⟩
      · rw [root_withRoot, same, root_withRoot, withRoot_withRoot]
      · refine ⟨table, _, cause, events, failing, refresh, .refl, ?_, silent⟩
        rwa [root_withRoot]

theorem failedSince_of_refreshes (start table : Table) (life : ReflTransGen Refreshes start table) :
    ∃ whole, Completed start whole ∧ FailedSince whole table := by
  induction life with
  | refl => exact ⟨start, .inl rfl, .refl start⟩
  | @tail table changed early refreshes ih =>
      obtain ⟨whole, completed, since⟩ := ih
      obtain ⟨outcome, events, refresh⟩ := refreshes
      cases outcome with
      | error cause => exact ⟨whole, completed, since.tail cause events refresh⟩
      | ok result =>
          refine ⟨changed, .inr ⟨table, events, early, refresh, ?_⟩, .refl changed⟩
          cases refresh.refreshed with
          | whole roles valid lastChange told dated =>
              rw [root_withRoot]
              exact ⟨told, dated⟩

/--
A refresh that fails leaves a data frame or a view as it was, unless the engine told the roles but
not the last change: then the new roles are kept. Whatever refreshes there were, the last change is
the one that came with the latest refresh that succeeded, and the roles came with it or later.
-/
theorem failed_refreshes_keep_last_change (start table : Table)
    (life : ReflTransGen Refreshes start table) :
    (∀ cause changed events, table.Refresh (.error cause) changed events →
      changed = table ∧ (∀ roles, ¬ ToldRoles table.root.name roles events) ∨
      ∃ roles valid, changed = table.withRoot { table.root with roles, valid } ∧
        ToldRoles table.root.name roles events ∧
        ∀ lastChange, ¬ ToldLastChange table.root.name lastChange events) ∧
    ∃ whole, Completed start whole ∧ FailedSince whole table ∧
      table.lastChange = whole.lastChange := by
  refine ⟨?_, ?_⟩
  · intro cause changed events refresh
    cases refresh.refreshed with
    | untold _ silent => exact .inl ⟨rfl, silent⟩
    | halfway _ roles valid told silent => exact .inr ⟨roles, valid, rfl, told, silent⟩
  · obtain ⟨whole, completed, since⟩ := failedSince_of_refreshes start table life
    refine ⟨whole, completed, since, ?_⟩
    rw [since.same, lastChange, root_withRoot]
    rfl

def forgetful : World :=
  Pipeline.answering [["\x7b\"target\": [\"default\"]\x7d"], ["DataFrame not found."]]

def mixed (table : Table) : Table := ((refresh {}).runOn table forgetful).1.2

theorem refreshes_mixed (table : Table) : Refreshes table (mixed table) := by
  obtain ⟨events, recorded, -⟩ := refresh_refreshed {} table forgetful
  exact ⟨_, events, {}, forgetful, _, rfl, recorded⟩

theorem failed_refreshes_keep_last_change_forgetful :
    ReflTransGen Refreshes refreshedMask.table (mixed refreshedMask.table) ∧
    (mixed refreshedMask.table).root.roles = { target := ["default"] } ∧
    (mixed refreshedMask.table).lastChange = "tuesday" ∧
    ∃ whole, Completed refreshedMask.table whole ∧ whole.lastChange = "tuesday" ∧
      FailedSince whole (mixed refreshedMask.table) := by
  have life : ReflTransGen Refreshes refreshedMask.table (mixed refreshedMask.table) :=
    .single (refreshes_mixed _)
  have held : (mixed refreshedMask.table).root.roles = { target := ["default"] } ∧
      (mixed refreshedMask.table).lastChange = "tuesday" := by decide +kernel
  obtain ⟨-, whole, completed, since, same⟩ := failed_refreshes_keep_last_change _ _ life
  exact ⟨life, held.1, held.2, whole, completed, same.symm.trans held.2, since⟩

/-- After the failure the roles are new, but the last change is the old one. -/
theorem failed_refresh_changes_roles :
    ¬ ∀ (session : Session) (table : Table) (world : World) (cause : DataError),
      ((refresh session).runOn table world).1.1 = .error cause →
      ((refresh session).runOn table world).1.2 = table := by
  intro claim
  have ran : ((refresh {}).runOn (.frame loans) forgetful).1.1.isOk = false ∧
      (mixed (.frame loans)).root.roles ≠ loans.roles := by decide +kernel
  obtain ⟨cause, failed⟩ := Outcome.exists_error _ ran.1
  have same : mixed (.frame loans) = .frame loans := claim {} _ forgetful cause failed
  exact ran.2 (by rw [same]; rfl)

end Table
end RelationalLearning
