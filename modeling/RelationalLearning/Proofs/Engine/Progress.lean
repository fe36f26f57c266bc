import RelationalLearning.Proofs.Engine.Exchange
import RelationalLearning.Proofs.Engine.Matrices

namespace RelationalLearning

open Text (Bytes)

namespace Frame

theorem length_lt_of_text (bytes rest : Bytes) (reply : String)
    (read : text bytes = (.ok reply, rest)) : rest.length < bytes.length := by
  rw [text, Outcome.run_bind_eq_ok] at read
  obtain ⟨size, behind, first, read⟩ := read
  obtain ⟨long, rfl, rfl⟩ := header_eq_ok 4 bytes behind size first
  split at read
  next negative => cases read
  next natural =>
    obtain ⟨content, last, second, read⟩ := (Outcome.run_bind_eq_ok _ _ _ _ _).mp read
    obtain ⟨-, -, rfl⟩ := payload_eq_ok _ _ _ _ second
    cases read
    rw [List.length_drop, List.length_drop]
    omega

end Frame

namespace World

variable {α : Type}

@[simp]
theorem unread_record (link : Nat) (event : Event) (world : World) :
    (world.record event).unread link = world.unread link := rfl

theorem links_read (link : Nat) (reader : Reader α) (world : World) :
    (world.read link reader).2.links =
      match world.links[link]? with
      | some ⟨port, some replies⟩ => world.links.set link
          ⟨port, some { replies with bytes := (reader (world.unread link).bytes).2 }⟩
      | _ => world.links := rfl

theorem unread_read (link : Nat) (reader : Reader α) (world : World)
    (empty : (reader []).2 = []) :
    ((world.read link reader).2.unread link).bytes = (reader (world.unread link).bytes).2 := by
  rw [unread, links_read]
  cases found : world.links[link]? with
  | none => simp [unread, found, empty]
  | some connection =>
      obtain ⟨inside, -⟩ := List.getElem?_eq_some_iff.mp found
      obtain ⟨port, incoming⟩ := connection
      cases incoming with
      | none => simp only [unread, found, empty]
      | some replies => simp only [unread, found, List.getElem?_set_self inside]

theorem read_eq (link : Nat) (reader : Reader α) (world : World) (outcome : Except EngineError α)
    (rest : Bytes) (empty : (reader []).2 = [])
    (ran : reader (world.unread link).bytes = (outcome, rest)) :
    ∃ last, world.read link reader = (outcome, last) ∧ (last.unread link).bytes = rest ∧
      last.trace = world.trace := by
  have found : (world.read link reader).1 = (reader (world.unread link).bytes).1 := rfl
  have left := world.unread_read link reader empty
  rw [ran] at found left
  exact ⟨(world.read link reader).2, Prod.ext found rfl, left, rfl⟩

end World

def Event.logged? : Event → Option LogRecord
  | .logged record => some record
  | _ => none

namespace Link

theorem receive_of_ok (link : Nat) (world : World) (reply : String) (rest : Bytes)
    (read : Frame.text (world.unread link).bytes = (.ok reply, rest)) :
    ∃ last, receive link world = (.ok reply, last) ∧ (last.unread link).bytes = rest ∧
      last.trace = world.trace ++ [.received link reply] := by
  obtain ⟨middle, done, left, recorded⟩ := world.read_eq link Frame.text _ rest rfl read
  refine ⟨middle.record (.received link reply), ?_, left, ?_⟩
  · rw [receive, Outcome.run_bind, Link.read, done]
    rfl
  · exact congrArg (· ++ [Event.received link reply]) recorded

theorem receive_of_error (link : Nat) (world : World) (cause : EngineError) (rest : Bytes)
    (read : Frame.text (world.unread link).bytes = (.error cause, rest)) :
    ∃ last, receive link world = (.error cause, last) ∧ (last.unread link).bytes = rest ∧
      last.trace = world.trace := by
  obtain ⟨last, done, left, recorded⟩ := world.read_eq link Frame.text _ rest rfl read
  exact ⟨last, by rw [receive, Outcome.run_bind, Link.read, done], left, recorded⟩

/-- What lines add to the log, each seen together with the line right before it. -/
def records (before : Option Nat) (lines : List String) : List LogRecord :=
  ((before :: lines.map progressOf?).zip lines).filterMap fun (before, line) => record? before line

theorem records_cons (before : Option Nat) (line : String) (lines : List String) :
    records before (line :: lines) =
      (record? before line).toList ++ records (progressOf? line) lines := by
  cases shown : record? before line <;> simp [records, shown]

def passing (link : Nat) (before : Option Nat) (lines : List String) : List Event :=
  ((before :: lines.map progressOf?).zip lines).flatMap fun (before, line) =>
    .received link (logMark ++ line) :: (record? before line).toList.map .logged

theorem passing_cons (link : Nat) (before : Option Nat) (line : String) (lines : List String) :
    passing link before (line :: lines) =
      .received link (logMark ++ line) :: (record? before line).toList.map .logged ++
        passing link (progressOf? line) lines := rfl

theorem logged_passing (link : Nat) (before : Option Nat) (lines : List String) :
    (passing link before lines).filterMap Event.logged? = records before lines := by
  induction lines generalizing before with
  | nil => rfl
  | cons line lines ih =>
      rw [passing_cons, records_cons, List.filterMap_append, ih]
      cases record? before line <;> rfl

theorem logged_received (link : Nat) (replies : List String) :
    (replies.map (Event.received link)).filterMap Event.logged? = [] := by
  rw [List.filterMap_map]
  exact List.filterMap_none replies

/--
What lines and the replies behind them leave: the bytes that are still to be read, and on record the
lines with what they add to the log, then these replies, and nothing else.
-/
structure Passed (link : Nat) (before : Option Nat) (lines others : List String) (rest : Bytes)
    (world last : World) : Prop where
  unread : (last.unread link).bytes = rest
  recorded : last.trace =
    world.trace ++ (passing link before lines ++ others.map (.received link))
  logged : last.trace.filterMap Event.logged? =
    world.trace.filterMap Event.logged? ++ records before lines

theorem passed_of_recorded {link : Nat} {before : Option Nat} {lines others : List String}
    {rest : Bytes} {world last : World} (unread : (last.unread link).bytes = rest)
    (recorded : last.trace =
      world.trace ++ (passing link before lines ++ others.map (.received link))) :
    Passed link before lines others rest world last := by
  refine ⟨unread, recorded, ?_⟩
  rw [recorded, List.filterMap_append, List.filterMap_append, logged_passing, logged_received,
    List.append_nil]

theorem followLog_lines (link fuel : Nat) (before : Option Nat) (frames : List Bytes)
    (lines : List String) (rest : Bytes) (world : World)
    (carried : List.Forall₂ (fun frame line => Frame.Carries frame (logMark ++ line)) frames lines)
    (unread : (world.unread link).bytes = frames.flatten ++ rest) :
    ∃ last middle, followLog link (lines.length + fuel) before world =
      followLog link fuel last middle ∧ Passed link before lines [] rest world middle := by
  induction carried generalizing before world with
  | nil =>
      refine ⟨before, world, ?_, passed_of_recorded unread (List.append_nil _).symm⟩
      rw [List.length_nil, Nat.zero_add]
  | @cons frame line frames lines first others ih =>
      rw [List.flatten_cons, List.append_assoc] at unread
      have read := first.frames.whole (frames.flatten ++ rest)
      rw [← unread] at read
      obtain ⟨heard, received, behind, told⟩ := receive_of_ok link world _ _ read
      obtain ⟨next, goes, same, logged⟩ :=
        followLog_line link before line world heard received
      obtain ⟨last, middle, follows, left, recorded, -⟩ :=
        ih (progressOf? line) next (by rw [same, behind])
      refine ⟨last, middle, ?_, passed_of_recorded left ?_⟩
      · rw [List.length_cons, Nat.add_right_comm, goes, follows]
      · rw [recorded, logged, told, passing_cons]
        simp

/-- Every reply takes bytes away, so the loop ends before as many rounds as there are bytes. -/
theorem followLog_congr (link fuel more : Nat) (before : Option Nat) (world : World)
    (enough : (world.unread link).bytes.length < fuel)
    (also : (world.unread link).bytes.length < more) :
    followLog link fuel before world = followLog link more before world := by
  induction fuel generalizing more before world with
  | zero => exact absurd enough (Nat.not_lt_zero _)
  | succ fuel ih =>
      obtain ⟨more, rfl⟩ := Nat.exists_eq_succ_of_ne_zero (Nat.ne_zero_of_lt also)
      generalize ran : Frame.text (world.unread link).bytes = taken
      rcases taken with ⟨cause | reply, rest⟩
      · obtain ⟨last, failed, -⟩ := receive_of_error link world cause rest ran
        rw [followLog, followLog, Outcome.run_bind, Outcome.run_bind, failed]
      · obtain ⟨middle, received, left, -⟩ := receive_of_ok link world reply rest ran
        have shorter := Frame.length_lt_of_text _ rest reply ran
        cases marked : Text.after? logMark reply with
        | none =>
            rw [followLog, followLog, Outcome.run_bind, Outcome.run_bind, received]
            dsimp only
            rw [marked]
        | some line =>
            obtain rfl := (Text.after?_eq_some logMark reply line).mp marked
            obtain ⟨next, goes, same, -⟩ := followLog_line link before line world middle received
            rw [goes, goes]
            apply ih
            · rw [same, left]
              exact Nat.lt_of_lt_of_le shorter (Nat.le_of_lt_succ enough)
            · rw [same, left]
              exact Nat.lt_of_lt_of_le shorter (Nat.le_of_lt_succ also)

theorem exists_lines (replies : List String) :
    (∃ (lines : List String) (reply : String) (others : List String),
      replies = lines.map (logMark ++ ·) ++ reply :: others ∧
        ∀ line, reply ≠ logMark ++ line) ∨
    ∃ lines : List String, replies = lines.map (logMark ++ ·) := by
  induction replies with
  | nil => exact .inr ⟨[], rfl⟩
  | cons reply replies ih =>
      by_cases marked : ∃ line, reply = logMark ++ line
      · obtain ⟨line, rfl⟩ := marked
        rcases ih with ⟨lines, reply, others, rfl, ends⟩ | ⟨lines, rfl⟩
        · exact .inl ⟨line :: lines, reply, others, rfl, ends⟩
        · exact .inr ⟨line :: lines, rfl⟩
      · exact .inl ⟨[], reply, replies, rfl, not_exists.mp marked⟩

theorem followLog_reply (link fuel : Nat) (before : Option Nat) (reply : String) (rest : Bytes)
    (world : World) (read : Frame.text (world.unread link).bytes = (.ok reply, rest))
    (ends : ∀ line, reply ≠ logMark ++ line) :
    ∃ last, followLog link (fuel + 1) before world = (.ok reply, last) ∧
      (last.unread link).bytes = rest ∧ last.trace = world.trace ++ [.received link reply] := by
  obtain ⟨last, received, left, recorded⟩ := receive_of_ok link world reply rest read
  refine ⟨last, ?_, left, recorded⟩
  rw [followLog, Outcome.run_bind, received]
  dsimp only
  cases marked : Text.after? logMark reply with
  | none => rfl
  | some line => exact absurd ((Text.after?_eq_some logMark reply line).mp marked) (ends line)

theorem Passed.and_reply {link : Nat} {before : Option Nat} {lines : List String} {reply : String}
    {passed rest : Bytes} {world middle last : World}
    (passes : Passed link before lines [] passed world middle)
    (unread : (last.unread link).bytes = rest)
    (recorded : last.trace = middle.trace ++ [.received link reply]) :
    Passed link before lines [reply] rest world last := by
  apply passed_of_recorded unread
  rw [recorded, passes.recorded]
  simp

theorem logLoop_eq (link fuel : Nat) (world : World)
    (enough : (world.unread link).bytes.length < fuel) :
    followLog link fuel none world = logLoop link world :=
  followLog_congr link fuel _ none world enough (Nat.lt_succ_self _)

theorem logLoop_lines (link : Nat) (frames : List Bytes) (lines : List String) (rest : Bytes)
    (world : World)
    (carried : List.Forall₂ (fun frame line => Frame.Carries frame (logMark ++ line)) frames lines)
    (unread : (world.unread link).bytes = frames.flatten ++ rest) :
    ∃ last middle fuel, logLoop link world = followLog link (fuel + 1) last middle ∧
      Passed link none lines [] rest world middle := by
  have enough : (world.unread link).bytes.length <
      lines.length + ((world.unread link).bytes.length + 1) := by omega
  obtain ⟨last, middle, follows, passes⟩ :=
    followLog_lines link ((world.unread link).bytes.length + 1) none frames lines rest world
      carried unread
  exact ⟨last, middle, _, (logLoop_eq link _ world enough).symm.trans follows, passes⟩

theorem logLoop_reply (link : Nat) (frames : List Bytes) (frame : Bytes) (lines : List String)
    (reply : String) (rest : Bytes) (world : World)
    (carried : List.Forall₂ (fun frame line => Frame.Carries frame (logMark ++ line)) frames lines)
    (ended : Frame.Carries frame reply) (ends : ∀ line, reply ≠ logMark ++ line)
    (unread : (world.unread link).bytes = frames.flatten ++ (frame ++ rest)) :
    ∃ last, logLoop link world = (.ok reply, last) ∧
      Passed link none lines [reply] rest world last := by
  obtain ⟨percent, middle, fuel, follows, passes⟩ :=
    logLoop_lines link frames lines (frame ++ rest) world carried unread
  have read := ended.frames.whole rest
  rw [← passes.unread] at read
  obtain ⟨last, done, left, recorded⟩ :=
    followLog_reply link fuel percent reply rest middle read ends
  exact ⟨last, follows.trans done, passes.and_reply left recorded⟩

theorem logLoop_end (link : Nat) (frames : List Bytes) (lines : List String) (world : World)
    (carried : List.Forall₂ (fun frame line => Frame.Carries frame (logMark ++ line)) frames lines)
    (unread : (world.unread link).bytes = frames.flatten) :
    ∃ last, logLoop link world = (.error .endOfStream, last) ∧
      Passed link none lines [] [] world last := by
  rw [← List.append_nil frames.flatten] at unread
  obtain ⟨percent, middle, fuel, follows, passes⟩ :=
    logLoop_lines link frames lines [] world carried unread
  have nothing : Frame.text (middle.unread link).bytes = (.error .endOfStream, []) := by
    rw [passes.unread]
    rfl
  obtain ⟨last, failed, left, recorded⟩ := receive_of_error link middle .endOfStream [] nothing
  refine ⟨last, ?_, ?_⟩
  · rw [follows, followLog, Outcome.run_bind, failed]
  · exact passed_of_recorded left (recorded.trans passes.recorded)

/--
The lines that come before any other reply are passed on, and the loop ends with that reply, or
where the replies end; it needs no more rounds than there are bytes. Every line without a percentage
is passed on, and one with a percentage unless the line right before it has the same.
-/
theorem logLoop_passes_lines (link : Nat) (world : World) :
    (∀ fuel, (world.unread link).bytes.length < fuel →
      followLog link fuel none world = logLoop link world) ∧
    (∀ replies : List String,
      (∃ (lines : List String) (reply : String) (others : List String),
        replies = lines.map (logMark ++ ·) ++ reply :: others ∧
          ∀ line, reply ≠ logMark ++ line) ∨
      ∃ lines : List String, replies = lines.map (logMark ++ ·)) ∧
    ∀ (frames : List Bytes) (replies : List String) (rest : Bytes),
      List.Forall₂ Frame.Carries frames replies →
      (world.unread link).bytes = frames.flatten ++ rest →
      (∀ lines reply others, replies = lines.map (logMark ++ ·) ++ reply :: others →
        (∀ line, reply ≠ logMark ++ line) →
        ∃ last, logLoop link world = (.ok reply, last) ∧
          Passed link none lines [reply]
            ((frames.drop (lines.length + 1)).flatten ++ rest) world last) ∧
      ∀ lines : List String, replies = lines.map (logMark ++ ·) → rest = [] →
        ∃ last, logLoop link world = (.error .endOfStream, last) ∧
          Passed link none lines [] [] world last := by
  refine ⟨fun fuel enough => logLoop_eq link fuel world enough, exists_lines, ?_⟩
  intro frames replies rest carried unread
  constructor
  · intro lines reply others split ends
    subst split
    have early := List.forall₂_take_append frames (lines.map (logMark ++ ·)) _ carried
    have late := List.forall₂_drop_append frames (lines.map (logMark ++ ·)) _ carried
    rw [List.length_map] at early late
    generalize behind : frames.drop lines.length = frames' at late
    cases late with
    | @cons frame _ frames' _ ended more =>
        have left : frames.drop (lines.length + 1) = frames' := by
          rw [← List.drop_drop, behind, List.drop_one, List.tail_cons]
        rw [left]
        apply logLoop_reply link (frames.take lines.length) frame lines reply _ world
          (List.forall₂_map_right_iff.mp early) ended ends
        rw [unread, ← List.append_assoc frame, ← List.flatten_cons, ← behind, ← List.append_assoc,
          ← List.flatten_append, List.take_append_drop]
  · intro lines split none
    subst split none
    rw [List.append_nil] at unread
    exact logLoop_end link frames lines world (List.forall₂_map_right_iff.mp carried) unread

def training : List String :=
  ["Training", "Progress: 50%", "Progress: 50%", "Testing", "Progress: 50%"]

def trainingReplies : List String := training.map (logMark ++ ·) ++ ["Trained."]

def trainingWorld : World :=
  let bytes := (trainingReplies.map Frame.ofReply).flatten ++ [0]
  { links := [⟨1708, some ⟨bytes, true, []⟩⟩] }

theorem logLoop_passes_training :
    ∃ last, logLoop 0 trainingWorld = (.ok "Trained.", last) ∧ (last.unread 0).bytes = [0] ∧
      last.trace.filterMap Event.logged? =
        [⟨.info, true, "Training"⟩, ⟨.debug, true, "50%"⟩, ⟨.info, true, "Testing"⟩,
          ⟨.debug, true, "50%"⟩] := by
  have short : ∀ reply ∈ trainingReplies, (Text.encode reply).length < Nat.pow 2 31 := by
    intro reply member
    rw [← String.ofList_toList (s := reply), Text.encode_ofList]
    revert reply
    decide
  have carried : List.Forall₂ Frame.Carries (trainingReplies.map Frame.ofReply) trainingReplies :=
    List.forall₂_map_left_iff.mpr
      (List.forall₂_same.mpr fun reply member => Frame.carries_ofReply reply (short reply member))
  have ends : ∀ line, "Trained." ≠ logMark ++ line := by
    intro line same
    have marked := Text.after?_append logMark line
    rw [← same] at marked
    exact absurd (marked.symm.trans (by decide : Text.after? logMark "Trained." = none)) nofun
  obtain ⟨-, -, passes⟩ := logLoop_passes_lines 0 trainingWorld
  obtain ⟨last, done, left, -, logged⟩ :=
    (passes _ _ [0] carried rfl).1 training "Trained." [] rfl ends
  exact ⟨last, done, left, logged⟩

end Link

end RelationalLearning
