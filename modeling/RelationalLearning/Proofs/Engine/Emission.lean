import RelationalLearning.Arrow.Stream
import RelationalLearning.Proofs.Engine.Conversation
import RelationalLearning.Proofs.Engine.Steps

/-!
Which messages an operation may send. There is a rule for every way in which operations are put
together, so an operation is known by the commands it is made of.
-/

namespace RelationalLearning

variable {ε ε' σ α β : Type}

namespace Client

variable {base : Nat} {allowed : Message → Prop}

/--
The operation says nothing but what is allowed, on connections from number `base` on, and `good`
holds of its value.
-/
def Emits (base : Nat) (allowed : Message → Prop) (good : α → Prop) (action : Client ε α) : Prop :=
  ∀ world, base ≤ world.links.length → world.Grows base allowed (action world).2 ∧
    ∀ value, (action world).1 = .ok value → good value

theorem emits_pure (good : α → Prop) (value : α) (holds : good value) :
    Emits base allowed good (pure value : Client ε α) := by
  intro world _
  refine ⟨.refl world, ?_⟩
  rintro _ ⟨⟩
  exact holds

theorem emits_throw (good : α → Prop) (cause : ε) :
    Emits base allowed good (throw cause : Client ε α) := by
  intro world _
  refine ⟨.refl world, ?_⟩
  rintro _ ⟨⟩

theorem emits_ofExcept (good : α → Prop) (outcome : Except ε α)
    (holds : ∀ value, outcome = .ok value → good value) :
    Emits base allowed good (ofExcept outcome) := fun world _ => ⟨.refl world, holds⟩

theorem emits_bind (first : α → Prop) (second : β → Prop) (action : Client ε α)
    (next : α → Client ε β) (one : Emits base allowed first action)
    (two : ∀ value, first value → Emits base allowed second (next value)) :
    Emits base allowed second (action >>= next) := by
  intro world low
  obtain ⟨grows, holds⟩ := one world low
  rw [Outcome.run_bind]
  generalize action world = reached at grows holds
  obtain ⟨outcome, middle⟩ := reached
  cases outcome with
  | ok value =>
      obtain ⟨further, last⟩ := two value (holds value rfl) middle (Nat.le_trans low grows.links)
      exact ⟨grows.trans further, last⟩
  | error cause =>
      refine ⟨grows, ?_⟩
      rintro _ ⟨⟩

theorem Emits.imp {good better : α → Prop} {action : Client ε α}
    (emits : Emits base allowed good action) (weaker : ∀ value, good value → better value) :
    Emits base allowed better action := by
  intro world low
  obtain ⟨grows, holds⟩ := emits world low
  exact ⟨grows, fun value done => weaker value (holds value done)⟩

theorem Emits.mono {wider : Message → Prop} {good : α → Prop} {action : Client ε α}
    (emits : Emits base allowed good action) (weaker : ∀ message, allowed message → wider message) :
    Emits base wider good action := by
  intro world low
  obtain ⟨grows, holds⟩ := emits world low
  exact ⟨grows.mono weaker, holds⟩

theorem Emits.ran {good : α → Prop} {action : Client ε α} {world last : World} {value : α}
    (emits : Emits base allowed good action) (low : base ≤ world.links.length)
    (done : action world = (.ok value, last)) : world.Grows base allowed last ∧ good value := by
  obtain ⟨grows, holds⟩ := emits world low
  rw [done] at grows holds
  exact ⟨grows, holds value rfl⟩

theorem emits_adapt (change : ε → ε') (good : α → Prop) (action : Client ε α)
    (emits : Emits base allowed good action) :
    Emits base allowed good (ExceptT.adapt change action : Client ε' α) := by
  intro world low
  obtain ⟨grows, holds⟩ := emits world low
  rw [run_adapt]
  refine ⟨grows, ?_⟩
  intro value done
  exact holds value ((Outcome.mapError_eq_ok _ _ _).mp done)

theorem emits_attempt (good : α → Prop) (action : Client ε α)
    (emits : Emits base allowed good action) :
    Emits base allowed (fun outcome => ∀ value, outcome = .ok value → good value)
      (attempt action) := by
  intro world low
  obtain ⟨grows, holds⟩ := emits world low
  refine ⟨grows, ?_⟩
  rintro outcome ⟨⟩
  exact holds

theorem emits_log (level : Level) (text : String) :
    Emits base allowed (fun _ => True) (log level text : Client ε Unit) := by
  intro world _
  exact ⟨World.grows_record world _ _ (Nat.le_refl _) rfl rfl trivial, fun _ _ => trivial⟩

theorem emits_logProgress (level : Level) (text : String) :
    Emits base allowed (fun _ => True) (logProgress level text : Client ε Unit) := by
  intro world _
  exact ⟨World.grows_record world _ _ (Nat.le_refl _) rfl rfl trivial, fun _ _ => trivial⟩

theorem emits_freshName : Emits base allowed (fun _ => True) (freshName : Client ε String) := by
  intro world _
  refine ⟨⟨Nat.le_refl _, Nat.le_succ _, [], ?_, by simp⟩, fun _ _ => trivial⟩
  exact (List.append_nil _).symm

theorem emits_forIn (items : List α) (step : α → Unit → Client ε (ForInStep Unit))
    (each : ∀ item ∈ items, Emits base allowed (fun _ => True) (step item ())) :
    Emits base allowed (fun _ => True) (forIn items () step) := by
  induction items with
  | nil => exact emits_pure _ () trivial
  | cons item items ih =>
      rw [List.forIn_cons]
      refine emits_bind _ _ _ _ (each item (by simp)) fun next _ => ?_
      cases next with
      | done _ => exact emits_pure _ () trivial
      | yield _ => exact ih fun other member => each other (List.mem_cons_of_mem _ member)

theorem emits_mapM (items : List α) (step : α → Client ε β)
    (each : ∀ item ∈ items, Emits base allowed (fun _ => True) (step item)) :
    Emits base allowed (fun _ => True) (items.mapM step) := by
  induction items with
  | nil => exact emits_pure _ [] trivial
  | cons item items ih =>
      rw [List.mapM_cons]
      refine emits_bind _ _ _ _ (each item (by simp)) fun first _ => ?_
      refine emits_bind _ _ _ _ (ih fun other member => each other (List.mem_cons_of_mem _ member))
        fun rest _ => ?_
      exact emits_pure _ _ trivial

end Client

namespace Link

variable {base : Nat} {allowed : Message → Prop}

theorem emits_read (reader : Reader α) (link : Nat) :
    Client.Emits base allowed (fun _ => True) (read link reader) := by
  intro world _
  obtain ⟨recorded, links, names⟩ := world.read_shape link reader
  refine ⟨⟨Nat.le_of_eq links.symm, Nat.le_of_eq names.symm, [], ?_, by simp⟩, fun _ _ => trivial⟩
  exact recorded.trans (List.append_nil _).symm

theorem emits_receive (link : Nat) (fresh : base ≤ link) :
    Client.Emits base allowed (fun _ => True) (receive link) := by
  refine Client.emits_bind _ _ _ _ (emits_read Frame.text link) fun reply _ => ?_
  refine Client.emits_bind (fun _ => True) _ _ _ ?_ fun _ _ => Client.emits_pure _ reply trivial
  intro world _
  exact ⟨World.grows_record world _ _ (Nat.le_refl _) rfl rfl fresh, fun _ _ => trivial⟩

theorem emits_deliver (link : Nat) (delivery : Delivery) (fresh : base ≤ link) :
    Client.Emits base allowed (fun _ => True)
      (modify (World.record (.delivered link delivery)) : Client EngineError Unit) := by
  intro world _
  exact ⟨World.grows_record world _ _ (Nat.le_refl _) rfl rfl fresh, fun _ _ => trivial⟩

theorem emits_collect (link : Nat) (reader : Reader α) (delivery : α → Delivery)
    (fresh : base ≤ link) :
    Client.Emits base allowed (fun _ => True) (collect link reader delivery) := by
  apply Client.emits_bind _ _ _ _ (emits_read reader link)
  intro content _
  apply Client.emits_bind _ _ _ _ (emits_deliver link (delivery content) fresh)
  exact fun _ _ => Client.emits_pure _ content trivial

theorem emits_receiveTable (link : Nat) (fresh : base ≤ link) :
    Client.Emits base allowed (fun _ => True) (receiveTable link) := by
  apply Client.emits_bind _ _ _ _ (emits_read Arrow.readStream link)
  intro stream _
  apply Client.emits_bind (fun _ => True) _ _ _ (Client.emits_ofExcept _ _ fun _ _ => trivial)
  intro table _
  apply Client.emits_bind _ _ _ _ (emits_deliver link (.table table) fresh)
  exact fun _ _ => Client.emits_pure _ table trivial

theorem emits_sendJson (link : Nat) (document : Json) (fresh : base ≤ link)
    (fits : allowed (.command document)) :
    Client.Emits base allowed (fun _ => True) (sendJson link document) := by
  refine Client.emits_bind (fun _ => True) _ _ _ (Client.emits_ofExcept _ _ fun _ _ => trivial)
    fun _ _ => ?_
  intro world _
  obtain ⟨recorded, links, names⟩ := world.send_shape link (.command document)
  exact ⟨World.grows_record world _ _ (Nat.le_of_eq links.symm) names.symm recorded ⟨fresh, fits⟩,
    fun _ _ => trivial⟩

theorem emits_sendText (link : Nat) (content : String) (fresh : base ≤ link)
    (fits : allowed (.text content)) :
    Client.Emits base allowed (fun _ => True) (sendText link content) := by
  refine Client.emits_bind (fun _ => True) _ _ _ (Client.emits_ofExcept _ _ fun _ _ => trivial)
    fun _ _ => ?_
  intro world _
  obtain ⟨recorded, links, names⟩ := world.send_shape link (.text content)
  exact ⟨World.grows_record world _ _ (Nat.le_of_eq links.symm) names.symm recorded ⟨fresh, fits⟩,
    fun _ _ => trivial⟩

theorem emits_sendTable (link : Nat) (content : Arrow.Table) (fresh : base ≤ link)
    (fits : allowed (.table content)) :
    Client.Emits base allowed (fun _ => True) (sendTable link content) := by
  intro world _
  obtain ⟨recorded, links, names⟩ := world.send_shape link (.table content)
  exact ⟨World.grows_record world _ _ (Nat.le_of_eq links.symm) names.symm recorded ⟨fresh, fits⟩,
    fun _ _ => trivial⟩

theorem emits_expect (link : Nat) (token : String) (fresh : base ≤ link) :
    Client.Emits base allowed (fun _ => True) (expect link token) := by
  refine Client.emits_bind _ _ _ _ (emits_receive link fresh) fun reply _ => ?_
  split
  next => exact Client.emits_pure _ _ trivial
  next => exact Client.emits_throw _ _

theorem emits_receiveJson (link : Nat) (fresh : base ≤ link) :
    Client.Emits base allowed (fun _ => True) (receiveJson link) := by
  refine Client.emits_bind _ _ _ _ (emits_receive link fresh) fun reply _ => ?_
  split
  next =>
    split
    next => exact Client.emits_pure _ _ trivial
    next => exact Client.emits_throw _ _
  next => exact Client.emits_throw _ _

theorem emits_receiveIssues (link : Nat) (fresh : base ≤ link) :
    Client.Emits base allowed (fun _ => True) (receiveIssues link) := by
  refine Client.emits_bind _ _ _ _ (emits_receive link fresh) fun reply _ => ?_
  exact Client.emits_ofExcept _ _ fun _ _ => trivial

theorem emits_followLog (link : Nat) (fresh : base ≤ link) (fuel : Nat) (last : Option Nat) :
    Client.Emits base allowed (fun _ => True) (followLog link fuel last) := by
  induction fuel generalizing last with
  | zero => exact Client.emits_throw _ _
  | succ fuel ih =>
      rw [followLog]
      refine Client.emits_bind _ _ _ _ (emits_receive link fresh) fun reply _ => ?_
      split
      next => exact Client.emits_pure _ _ trivial
      next line _ =>
        split
        next percent _ =>
          split
          next => exact ih last
          next =>
            exact Client.emits_bind _ _ _ _ (Client.emits_logProgress _ _) fun _ _ => ih _
        next => exact Client.emits_bind _ _ _ _ (Client.emits_logProgress _ _) fun _ _ => ih _

theorem emits_logLoop (link : Nat) (fresh : base ≤ link) :
    Client.Emits base allowed (fun _ => True) (logLoop link) := by
  intro world low
  exact emits_followLog link fresh _ none world low

end Link

namespace Session

variable {base : Nat} {allowed : Message → Prop}

theorem dial_eq (session : Session) (port : Nat) (world : World) :
    session.dial port world =
      match world.dial port with
      | (some link, last) => (.ok link, last)
      | (none, _) => (.error (.unreachable s!"{session.host}:{port}"), world) := by
  have unfolded : session.dial port world =
      (match world.dial port with
        | (some link, last) => do set last; return link
        | (none, _) => throw (.unreachable s!"{session.host}:{port}") : Client EngineError Nat)
          world := rfl
  rw [unfolded]
  obtain ⟨dialled, last⟩ := world.dial port
  cases dialled with
  | some link => rfl
  | none => rfl

theorem emits_dial (session : Session) (port : Nat) :
    Client.Emits base allowed (fun link => base ≤ link) (session.dial port) := by
  intro world low
  rw [dial_eq]
  split
  next link last dialled =>
    obtain ⟨rfl, recorded, links, names⟩ := world.dial_shape port last link dialled
    refine ⟨World.grows_record world last _ (by omega) names.symm recorded trivial, ?_⟩
    rintro _ ⟨⟩
    exact low
  next =>
    refine ⟨.refl world, ?_⟩
    rintro _ ⟨⟩

theorem emits_ask (session : Session) (command : Json) (fits : allowed (.command command)) :
    Client.Emits base allowed (fun link => base ≤ link) (session.ask command) := by
  refine Client.emits_bind _ _ _ _ (emits_dial session _) fun link fresh => ?_
  refine Client.emits_bind _ _ _ _ (Link.emits_sendJson link command fresh fits) fun _ _ => ?_
  exact Client.emits_pure _ link fresh

theorem emits_askExpecting (session : Session) (command : Json) (token : String)
    (fits : allowed (.command command)) :
    Client.Emits base allowed (fun link => base ≤ link) (session.askExpecting command token) := by
  refine Client.emits_bind _ _ _ _ (emits_ask session command fits) fun link fresh => ?_
  refine Client.emits_bind _ _ _ _ (Link.emits_expect link token fresh) fun _ _ => ?_
  exact Client.emits_pure _ link fresh

theorem emits_send (session : Session) (command : Json) (fits : allowed (.command command)) :
    Client.Emits base allowed (fun _ => True) (session.send command) := by
  refine Client.emits_bind _ _ _ _ (emits_askExpecting session command success fits) fun _ _ => ?_
  exact Client.emits_pure _ _ trivial

end Session

namespace Updating

variable {base : Nat} {allowed : Message → Prop}

def Emits (base : Nat) (allowed : Message → Prop) (good : α → Prop) (action : Updating σ ε α) :
    Prop :=
  ∀ handle world, base ≤ world.links.length →
    world.Grows base allowed (action.runOn handle world).2 ∧
      ∀ value, (action.runOn handle world).1.1 = .ok value → good value

theorem emits_bind (first : α → Prop) (second : β → Prop) (action : Updating σ ε α)
    (next : α → Updating σ ε β) (one : Emits base allowed first action)
    (two : ∀ value, first value → Emits base allowed second (next value)) :
    Emits base allowed second (action >>= next) := by
  intro handle world low
  obtain ⟨grows, holds⟩ := one handle world low
  rw [runOn_bind]
  split
  next value changed later ran =>
    rw [ran] at grows holds
    obtain ⟨further, last⟩ :=
      two value (holds value rfl) changed later (Nat.le_trans low grows.links)
    exact ⟨grows.trans further, last⟩
  next cause changed later ran =>
    rw [ran] at grows
    refine ⟨grows, ?_⟩
    rintro _ ⟨⟩

theorem emits_handle : Emits base allowed (fun _ => True) (handle : Updating σ ε σ) :=
  fun _ world _ => ⟨.refl world, fun _ _ => trivial⟩

theorem emits_replace (changed : σ) :
    Emits base allowed (fun _ => True) (replace changed : Updating σ ε Unit) :=
  fun _ world _ => ⟨.refl world, fun _ _ => trivial⟩

theorem emits_ofExcept (good : α → Prop) (outcome : Except ε α)
    (holds : ∀ value, outcome = .ok value → good value) :
    Emits base allowed good (ofExcept outcome : Updating σ ε α) :=
  fun _ world _ => ⟨.refl world, holds⟩

theorem emits_ofClient (good : α → Prop) (action : Client ε α)
    (emits : Client.Emits base allowed good action) :
    Emits base allowed good (ofClient action : Updating σ ε α) := fun _ => emits

theorem emits_finish (good : Unit → Prop) (action : Updating σ ε Unit) (handle : σ)
    (emits : Emits base allowed good action) :
    Client.Emits base allowed (fun _ => True) (action.finish handle) := by
  intro world low
  exact ⟨(emits handle world low).1, fun _ _ => trivial⟩

end Updating
end RelationalLearning
