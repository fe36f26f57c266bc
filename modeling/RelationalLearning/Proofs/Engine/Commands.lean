import RelationalLearning.Proofs.Engine.Emission
import RelationalLearning.Proofs.Json.Field
import RelationalLearning.Table.View

namespace RelationalLearning

variable {base : Nat} {allowed : Message → Prop}

namespace Json

theorem lookup_free (name : String) (fields : List (String × Json))
    (free : ∀ field ∈ fields, field.1 ≠ name) : fields.lookup name = none := by
  rw [List.lookup_eq_none_iff]
  intro field member
  exact bne_iff_ne.mpr (free field member).symm

end Json

namespace Session

theorem kind_command (kind name : String) (fields : List (String × Json))
    (free : ∀ field ∈ fields, field.1 ≠ "type_") :
    (command kind name fields).field? "type_" = some (.string kind) := by
  rw [command, Json.field?_record]
  simp [List.lookup_append, Json.lookup_free "type_" fields.reverse (by simpa using free),
    Index.lookup_cons]

theorem name_command (kind name : String) (fields : List (String × Json))
    (free : ∀ field ∈ fields, field.1 ≠ "name_") :
    (command kind name fields).field? "name_" = some (.string name) := by
  rw [command, Json.field?_record]
  simp [List.lookup_append, Json.lookup_free "name_" fields.reverse (by simpa using free)]

end Session

namespace DataFrame

theorem emits_askLastChange (session : Session) (frame : DataFrame)
    (fits : allowed (.command (frame.command "DataFrame.last_change" []))) :
    Client.Emits base allowed (fun _ => True) (frame.askLastChange session) := by
  refine Client.emits_bind _ _ _ _ (Client.emits_adapt _ _ _ (session.emits_ask _ fits))
    fun link fresh => ?_
  refine Client.emits_bind _ _ _ _ (Client.emits_adapt _ _ _ (Link.emits_expect link _ fresh))
    fun _ _ => ?_
  exact Client.emits_adapt _ _ _ (Link.emits_receive link fresh)

/-- Which frame is refreshed depends on the handle, so the commands are allowed for all of them. -/
theorem emits_refresh (session : Session)
    (refreshes : ∀ frame : DataFrame, allowed (.command (frame.command "DataFrame.refresh" [])))
    (asks : ∀ frame : DataFrame, allowed (.command (frame.command "DataFrame.last_change" []))) :
    Updating.Emits base allowed (fun _ => True) (refresh session) := by
  refine Updating.emits_bind _ _ _ _ Updating.emits_handle fun frame _ => ?_
  refine Updating.emits_bind _ _ _ _ (Updating.emits_ofClient (fun _ => True) _ ?_)
    fun reply _ => ?_
  · refine Client.emits_bind _ _ _ _
      (Client.emits_adapt _ _ _ (session.emits_ask _ (refreshes frame))) fun link fresh => ?_
    exact Client.emits_adapt _ _ _ (Link.emits_receiveJson link fresh)
  refine Updating.emits_bind (fun _ => True) _ _ _
    (Updating.emits_ofExcept _ _ fun _ _ => trivial) fun changed _ => ?_
  refine Updating.emits_bind _ _ _ _ (Updating.emits_replace _) fun _ _ => ?_
  refine Updating.emits_bind _ _ _ _
    (Updating.emits_ofClient _ _ (emits_askLastChange session changed (asks changed)))
    fun change _ => ?_
  refine Updating.emits_bind _ _ _ _ (Updating.emits_replace _) fun _ _ => ?_
  exact Updating.emits_ofClient _ _ (Client.emits_log _ _)

end DataFrame

theorem View.emits_check (session : Session) (view : View)
    (fits : allowed (.command (view.base.root.command "DataFrame.last_change" []))) :
    Client.Emits base allowed (fun _ => True) (view.check session) := by
  refine Client.emits_bind _ _ _ _ (DataFrame.emits_askLastChange session _ fits) fun change _ => ?_
  split
  next => exact Client.emits_pure _ _ trivial
  next =>
    refine Client.emits_bind _ _ _ _ (Client.emits_log _ _) fun _ _ => ?_
    exact Client.emits_pure _ _ trivial

theorem Table.emits_check (session : Session) (table : Table)
    (fits : allowed (.command (table.root.command "DataFrame.last_change" []))) :
    Client.Emits base allowed (fun _ => True) (table.check session) := by
  cases table with
  | frame data => exact Client.emits_pure _ _ trivial
  | view base layer => exact View.emits_check session ⟨base, layer⟩ fits

end RelationalLearning
