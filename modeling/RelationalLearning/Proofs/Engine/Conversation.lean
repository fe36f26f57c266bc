import Mathlib.Data.List.Basic
import RelationalLearning.Engine.Session

namespace RelationalLearning

variable {α : Type}

/-- The replies that came on a connection before the next message was sent on it. -/
def repliesTo (link : Nat) : List Event → List String
  | [] => []
  | .received other reply :: later =>
    if other = link then reply :: repliesTo link later else repliesTo link later
  | .sent other _ :: later => if other = link then [] else repliesTo link later
  | .delivered _ _ :: later => repliesTo link later
  | .opened _ _ :: later => repliesTo link later
  | .logged _ :: later => repliesTo link later

def Answered (kind name : String) (good : List String → Prop) (events : List Event) : Prop :=
  ∃ earlier link command later, events = earlier ++ .sent link (.command command) :: later ∧
    command.field? "type_" = some (.string kind) ∧ command.field? "name_" = some (.string name) ∧
      good (repliesTo link later)

def Succeeded (replies : List String) : Prop := replies.head? = some success

theorem Succeeded.append (replies more : List String) (succeeded : Succeeded replies) :
    Succeeded (replies ++ more) := by
  cases replies with
  | nil => cases succeeded
  | cons reply replies => exact succeeded

/-- An event on a connection from number `base` on; what is sent is `allowed`. -/
def Event.Fits (base : Nat) (allowed : Message → Prop) : Event → Prop
  | .opened _ _ => True
  | .sent link message => base ≤ link ∧ allowed message
  | .received link _ | .delivered link _ => base ≤ link
  | .logged _ => True

theorem repliesTo_received (link : Nat) (replies : List String) :
    repliesTo link (replies.map (.received link)) = replies := by
  induction replies with
  | nil => rfl
  | cons reply replies ih => rw [List.map_cons, repliesTo, if_pos rfl, ih]

theorem repliesTo_append (link : Nat) (events more : List Event) :
    ∃ further, repliesTo link (events ++ more) = repliesTo link events ++ further ∧
      ((∀ reply, .received link reply ∉ more) → further = []) := by
  induction events with
  | nil =>
      refine ⟨repliesTo link more, rfl, ?_⟩
      intro silent
      induction more with
      | nil => rfl
      | cons event more ih =>
          have rest := ih fun reply member => silent reply (List.mem_cons_of_mem _ member)
          cases event with
          | received other reply =>
              have apart : other ≠ link := by
                rintro rfl
                exact silent reply (by simp)
              rw [repliesTo, if_neg apart, rest]
          | sent other message => rw [repliesTo, rest, ite_self]
          | delivered other delivery => exact rest
          | opened other port => exact rest
          | logged line => exact rest
  | cons event events ih =>
      obtain ⟨further, same, quiet⟩ := ih
      cases event with
      | received other reply =>
          by_cases here : other = link
          · exact ⟨further, by simp [repliesTo, here, same], quiet⟩
          · exact ⟨further, by simp [repliesTo, here, same], quiet⟩
      | sent other message =>
          by_cases here : other = link
          · exact ⟨[], by simp [repliesTo, here], fun _ => rfl⟩
          · exact ⟨further, by simp [repliesTo, here, same], quiet⟩
      | delivered other delivery => exact ⟨further, same, quiet⟩
      | opened other port => exact ⟨further, same, quiet⟩
      | logged line => exact ⟨further, same, quiet⟩

theorem Answered.append {kind name : String} {good : List String → Prop} {events : List Event}
    (answered : Answered kind name good events)
    (lasting : ∀ replies more, good replies → good (replies ++ more)) (before after : List Event) :
    Answered kind name good (before ++ (events ++ after)) := by
  obtain ⟨earlier, link, command, later, rfl, of_kind, of_name, fine⟩ := answered
  obtain ⟨further, same, -⟩ := repliesTo_append link later after
  refine ⟨before ++ earlier, link, command, later ++ after, by simp, of_kind, of_name, ?_⟩
  rw [same]
  exact lasting _ further fine

theorem split_append (events more earlier later : List Event) (event : Event)
    (same : events ++ more = earlier ++ event :: later) :
    (∃ rest, events = earlier ++ event :: rest ∧ later = rest ++ more) ∨
      ∃ start, earlier = events ++ start ∧ more = start ++ event :: later := by
  rcases List.append_eq_append_iff.mp same with ⟨start, behind, within⟩ | ⟨rest, before, within⟩
  · exact .inr ⟨start, behind, within⟩
  · cases rest with
    | nil => exact .inr ⟨[], by simpa using before.symm, within.symm⟩
    | cons first rest =>
        obtain ⟨rfl, rfl⟩ : event = first ∧ later = rest ++ more := by simpa using within
        exact .inl ⟨rest, before, rfl⟩

namespace World

/-- The record grows by allowed messages on connections from number `base` on. -/
structure Grows (base : Nat) (allowed : Message → Prop) (before after : World) : Prop where
  links : before.links.length ≤ after.links.length
  names : before.names ≤ after.names
  recorded : ∃ events, after.trace = before.trace ++ events ∧
    ∀ event ∈ events, event.Fits base allowed

variable {base : Nat} {allowed : Message → Prop}

theorem Grows.refl (world : World) : Grows base allowed world world :=
  ⟨Nat.le_refl _, Nat.le_refl _, [], (List.append_nil _).symm, by simp⟩

theorem Grows.trans {first second third : World} (one : Grows base allowed first second)
    (two : Grows base allowed second third) : Grows base allowed first third := by
  obtain ⟨before, earlier, fitting⟩ := one.recorded
  obtain ⟨after, later, fits⟩ := two.recorded
  refine ⟨Nat.le_trans one.links two.links, Nat.le_trans one.names two.names, before ++ after,
    ?_, ?_⟩
  · rw [later, earlier, List.append_assoc]
  · intro event member
    rcases List.mem_append.mp member with old | new
    · exact fitting event old
    · exact fits event new

theorem Grows.mono {wider : Message → Prop} {before after : World}
    (grows : Grows base allowed before after)
    (weaker : ∀ message, allowed message → wider message) :
    Grows base wider before after := by
  obtain ⟨events, recorded, fits⟩ := grows.recorded
  refine ⟨grows.links, grows.names, events, recorded, ?_⟩
  intro event member
  have old := fits event member
  cases event with
  | sent link message => exact ⟨old.1, weaker message old.2⟩
  | received link reply => exact old
  | delivered link delivery => exact old
  | opened link port => trivial
  | logged line => trivial

theorem grows_record (world changed : World) (event : Event)
    (links : world.links.length ≤ changed.links.length) (names : world.names = changed.names)
    (recorded : changed.trace = world.trace ++ [event]) (fits : event.Fits base allowed) :
    Grows base allowed world changed :=
  ⟨links, Nat.le_of_eq names, [event], recorded, by simpa using fits⟩

/-- Serving a connection leaves the record, the number of connections and the names alone. -/
theorem send_shape (link : Nat) (message : Message) (world : World) :
    (world.send link message).trace = world.trace ++ [.sent link message] ∧
      (world.send link message).links.length = world.links.length ∧
      (world.send link message).names = world.names := by
  unfold send
  dsimp only
  split
  next port found =>
    unfold serve
    split
    next => simp [record]
    next => simp [record]
  next => simp [record]

theorem read_shape (link : Nat) (reader : Reader α) (world : World) :
    (world.read link reader).2.trace = world.trace ∧
      (world.read link reader).2.links.length = world.links.length ∧
      (world.read link reader).2.names = world.names := by
  unfold read
  dsimp only
  refine ⟨rfl, ?_, rfl⟩
  split
  split
  next => simp
  next => rfl

theorem dial_shape (port : Nat) (world last : World) (link : Nat)
    (dialled : world.dial port = (some link, last)) :
    link = world.links.length ∧ last.trace = world.trace ++ [.opened link port] ∧
      last.links.length = link + 1 ∧ last.names = world.names := by
  unfold dial at dialled
  split at dialled
  next =>
    obtain ⟨same, rfl⟩ := Prod.mk.inj dialled
    obtain rfl := Option.some.inj same
    exact ⟨rfl, rfl, List.length_append, rfl⟩
  next => cases dialled

end World

end RelationalLearning
