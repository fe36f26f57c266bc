import RelationalLearning.Proofs.Engine.Commands
import RelationalLearning.Proofs.Engine.Reports

namespace RelationalLearning

variable {ε ε' σ α β : Type}

@[simp]
theorem Json.coveredField_iff (frames : List String) (name : String) (value : Json) :
    Json.CoveredField frames (name, value) ↔
      Json.Covered frames value ∧ (name = "type_" → value ≠ .string "View") := Iff.rfl

theorem Message.covered_command {frames : List String} (kind name : String)
    (fields : List (String × Json)) (other : kind ≠ "View")
    (each : ∀ field ∈ fields, Json.CoveredField frames field) :
    Message.Covered frames (.command (Session.command kind name fields)) := by
  right
  apply Json.covered_record
  simpa [other] using each

theorem Message.Covered.mono {frames : List String} (message : Message)
    (covered : Message.Covered [] message) : Message.Covered frames message := by
  cases message with
  | command document => exact covered.imp_right fun inner => inner.mono (List.nil_subset frames)
  | text content => trivial
  | table content => trivial

namespace Client

/-- The operation describes no view, but for tables that it lays end to end. -/
structure Plain (action : Client ε α) : Prop where
  grows : ∀ world : World, world.Grows 0 (Message.Covered []) (action world).2

theorem Emits.plain {good : α → Prop} {action : Client ε α}
    (emits : Emits 0 (Message.Covered []) good action) : Plain action :=
  ⟨fun world => (emits world (Nat.zero_le _)).1⟩

theorem Plain.emits {frames : List String} {action : Client ε α} (plain : Plain action) :
    Emits 0 (Message.Covered frames) (fun _ => True) action := fun world _ =>
  ⟨(plain.grows world).mono Message.Covered.mono, fun _ _ => trivial⟩

theorem Plain.reports {frames : List String} {action : Client ε α} (plain : Plain action) :
    Reports frames frames (fun _ => True) action := plain.emits.reports

theorem Plain.careful {frames : List String} {action : Client ε α} (plain : Plain action) :
    Careful frames action := plain.emits.careful

@[simp]
theorem plain_pure (value : α) : Plain (pure value : Client ε α) := ⟨.refl⟩

@[simp]
theorem plain_throw (cause : ε) : Plain (throw cause : Client ε α) := ⟨.refl⟩

@[simp]
theorem plain_ofExcept (outcome : Except ε α) : Plain (ofExcept outcome) := ⟨.refl⟩

@[simp]
theorem plain_get : Plain (get : Client ε World) := ⟨.refl⟩

@[simp]
theorem plain_log (level : Level) (text : String) : Plain (log level text : Client ε Unit) :=
  (emits_log level text).plain

@[simp]
theorem plain_freshName : Plain (freshName : Client ε String) := emits_freshName.plain

theorem plain_bind (action : Client ε α) (next : α → Client ε β) (one : Plain action)
    (two : ∀ value, Plain (next value)) : Plain (action >>= next) :=
  (emits_bind _ _ action next one.emits fun value _ => (two value).emits).plain

@[simp]
theorem plain_map (action : Client ε α) (change : α → β) (plain : Plain action) :
    Plain (change <$> action) := by
  rw [map_eq_pure_bind]
  exact plain_bind _ _ plain fun value => plain_pure _

@[simp]
theorem plain_adapt (change : ε → ε') (action : Client ε α) :
    Plain (ExceptT.adapt change action : Client ε' α) ↔ Plain action :=
  ⟨fun plain => ⟨plain.grows⟩, fun plain => ⟨plain.grows⟩⟩

@[simp]
theorem plain_attempt (action : Client ε α) : Plain (attempt action) ↔ Plain action :=
  ⟨fun plain => ⟨plain.grows⟩, fun plain => ⟨plain.grows⟩⟩

@[simp]
theorem plain_liftData (action : Client EngineError α) :
    Plain (liftM action : Client DataError α) ↔ Plain action := plain_adapt _ action

@[simp]
theorem plain_liftPipeline (action : Client EngineError α) :
    Plain (liftM action : Client PipelineError α) ↔ Plain action := plain_adapt _ action

@[simp]
theorem plain_liftDataPipeline (action : Client DataError α) :
    Plain (liftM action : Client PipelineError α) ↔ Plain action := plain_adapt _ action

theorem plain_ite (condition : Prop) [Decidable condition] (first second : Client ε α)
    (one : Plain first) (two : Plain second) : Plain (if condition then first else second) := by
  split
  · exact one
  · exact two

theorem plain_unless (condition : Prop) [Decidable condition] (cause : ε) (rest : Client ε α)
    (plain : Plain rest) :
    Plain (if condition then (throw cause : Client ε PUnit) >>= fun _ => rest else rest) :=
  plain_ite condition _ _ (plain_bind _ _ (plain_throw cause) fun _ => plain) plain

theorem plain_tryCatch (action : Client ε α) (handler : ε → Client ε α) (one : Plain action)
    (two : ∀ cause, Plain (handler cause)) : Plain (tryCatch action handler) := by
  refine ⟨fun world => ?_⟩
  have unfolded : tryCatch action handler world = (match (action world).1 with
      | .ok value => pure value
      | .error cause => handler cause : Client ε α) (action world).2 := rfl
  have first := one.grows world
  rw [unfolded]
  generalize action world = reached at first
  rcases reached with ⟨cause | value, last⟩
  · exact first.trans ((two cause).grows last)
  · exact first

@[simp]
theorem plain_fileBytes (path : String) : Plain (fileBytes path) := by
  refine plain_bind _ _ plain_get fun world => ?_
  split
  · exact plain_pure _
  · exact plain_throw _

theorem plain_forIn (items : List α) (step : α → PUnit → Client ε (ForInStep PUnit))
    (each : ∀ item, Plain (step item PUnit.unit)) : Plain (forIn items PUnit.unit step) :=
  (emits_forIn items step fun item _ => (each item).emits).plain

end Client

namespace Link

open Client

variable (link : Nat)

@[simp]
theorem plain_receive : Plain (receive link) := (emits_receive link (Nat.zero_le _)).plain

@[simp]
theorem plain_expect (token : String) : Plain (expect link token) :=
  (emits_expect link token (Nat.zero_le _)).plain

@[simp]
theorem plain_expectSuccess : Plain (expectSuccess link) := plain_expect link success

@[simp]
theorem plain_receiveJson : Plain (receiveJson link) :=
  (emits_receiveJson link (Nat.zero_le _)).plain

@[simp]
theorem plain_receiveIssues : Plain (receiveIssues link) :=
  (emits_receiveIssues link (Nat.zero_le _)).plain

@[simp]
theorem plain_receiveColumn : Plain (receiveColumn link) :=
  (emits_collect link _ _ (Nat.zero_le _)).plain

@[simp]
theorem plain_receiveMatrix : Plain (receiveMatrix link) :=
  (emits_collect link _ _ (Nat.zero_le _)).plain

@[simp]
theorem plain_receiveTable : Plain (receiveTable link) :=
  (emits_receiveTable link (Nat.zero_le _)).plain

@[simp]
theorem plain_logLoop : Plain (logLoop link) := (emits_logLoop link (Nat.zero_le _)).plain

@[simp]
theorem plain_sendText (content : String) : Plain (sendText link content) :=
  (emits_sendText link content (Nat.zero_le _) trivial).plain

@[simp]
theorem plain_sendTable (content : Arrow.Table) : Plain (sendTable link content) :=
  (emits_sendTable link content (Nat.zero_le _) trivial).plain

end Link

namespace Session

open Client

variable (session : Session) (kind name : String) (fields : List (String × Json))

@[simp]
theorem plain_ask (other : kind ≠ "View") (each : ∀ field ∈ fields, Json.CoveredField [] field) :
    Plain (session.ask (command kind name fields)) :=
  (emits_ask session _ (Message.covered_command kind name fields other each)).plain

@[simp]
theorem plain_askExpecting (token : String) (other : kind ≠ "View")
    (each : ∀ field ∈ fields, Json.CoveredField [] field) :
    Plain (session.askExpecting (command kind name fields) token) :=
  (emits_askExpecting session _ token (Message.covered_command kind name fields other each)).plain

@[simp]
theorem plain_dial (port : Nat) : Plain (session.dial port) := (emits_dial session port).plain

@[simp]
theorem plain_askMonitor (body : Json) (other : kind ≠ "View") (covered : Json.Covered [] body) :
    Plain (session.askMonitor kind body) := by
  have described : Message.Covered [] (.command (.record [("type_", .string kind),
      ("body_", body)])) := .inr (Json.covered_record _ (by simp [other, covered]))
  refine plain_bind _ _ (by simp) fun link => plain_bind _ _ ?_ fun _ => by simp
  exact (Link.emits_sendJson link _ (Nat.zero_le _) described).plain

theorem plain_canDial (port : Nat) : Plain (session.canDial port) :=
  plain_tryCatch _ _ (plain_bind _ _ (by simp) fun _ => by simp) fun _ => by simp

@[simp]
theorem plain_isAlive : Plain session.isAlive := session.plain_canDial _

@[simp]
theorem plain_isMonitorAlive : Plain session.isMonitorAlive := session.plain_canDial _

@[simp]
theorem plain_projectName : Plain session.projectName :=
  plain_bind _ _ (by simp) fun _ => by simp

@[simp]
theorem plain_monitorUrl : Plain session.monitorUrl :=
  plain_bind _ _ (by simp) fun _ => plain_bind _ _ (by simp) fun _ => by simp

@[simp]
theorem plain_send (other : kind ≠ "View") (each : ∀ field ∈ fields, Json.CoveredField [] field) :
    Plain (session.send (command kind name fields)) :=
  (emits_send session _ (Message.covered_command kind name fields other each)).plain

end Session

namespace Updating

structure Plain (action : Updating σ ε α) : Prop where
  grows : ∀ (handle : σ) (world : World),
    world.Grows 0 (Message.Covered []) (action.runOn handle world).2

theorem Emits.plain {good : α → Prop} {action : Updating σ ε α}
    (emits : Emits 0 (Message.Covered []) good action) : Plain action :=
  ⟨fun handle world => (emits handle world (Nat.zero_le _)).1⟩

theorem Plain.emits {frames : List String} {action : Updating σ ε α} (plain : Plain action) :
    Emits 0 (Message.Covered frames) (fun _ => True) action := fun handle world _ =>
  ⟨(plain.grows handle world).mono Message.Covered.mono, fun _ _ => trivial⟩

theorem Plain.careful {frames : List String} {action : Updating σ ε α} (plain : Plain action) :
    Careful frames action := plain.emits.careful

@[simp]
theorem plain_pure (value : α) : Plain (pure value : Updating σ ε α) := ⟨fun _ => .refl⟩

@[simp]
theorem plain_throw (cause : ε) : Plain (throw cause : Updating σ ε α) := ⟨fun _ => .refl⟩

@[simp]
theorem plain_handle : Plain (handle : Updating σ ε σ) := ⟨fun _ => .refl⟩

@[simp]
theorem plain_replace (changed : σ) : Plain (replace changed : Updating σ ε Unit) :=
  ⟨fun _ => .refl⟩

@[simp]
theorem plain_ofExcept (outcome : Except ε α) : Plain (ofExcept outcome : Updating σ ε α) :=
  ⟨fun _ => .refl⟩

@[simp]
theorem plain_ofState (action : ExceptT ε (StateM σ) α) : Plain (ofState action) := ⟨fun _ => .refl⟩

theorem plain_bind (action : Updating σ ε α) (next : α → Updating σ ε β) (one : Plain action)
    (two : ∀ value, Plain (next value)) : Plain (action >>= next) :=
  (emits_bind _ _ action next one.emits fun value _ => (two value).emits).plain

@[simp]
theorem plain_ofClient (action : Client ε α) (plain : Client.Plain action) :
    Plain (ofClient action : Updating σ ε α) := ⟨fun _ => plain.grows⟩

@[simp]
theorem plain_liftClient (action : Client ε α) (plain : Client.Plain action) :
    Plain (liftM action : Updating σ ε α) := ⟨fun _ => plain.grows⟩

@[simp]
theorem plain_onPart {τ : Type} (part : τ → σ) (replace : σ → τ → τ) (action : Updating σ ε α)
    (plain : Plain action) : Plain (onPart part replace action) :=
  ⟨fun whole => plain.grows (part whole)⟩

@[simp]
theorem plain_finish (action : Updating σ ε Unit) (handle : σ) (plain : Plain action) :
    Client.Plain (action.finish handle) := ⟨plain.grows handle⟩

theorem plain_unless (condition : Prop) [Decidable condition] (cause : ε)
    (rest : Updating σ ε α) (plain : Plain rest) :
    Plain (if condition then (throw cause : Updating σ ε PUnit) >>= fun _ => rest else rest) := by
  split
  · exact plain_bind _ _ (plain_throw cause) fun _ => plain
  · exact plain

end Updating
end RelationalLearning
