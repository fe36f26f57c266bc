import RelationalLearning.Pipeline.Fitting

namespace RelationalLearning

namespace ProjectError

def message : ProjectError → String
  | .engine cause => cause.message
  | .invalidArgument reason => s!"Invalid argument: {reason}"

def ofData : DataError → ProjectError
  | .engine cause => .engine cause
  | .io cause => .engine (.io cause)
  | other => .invalidArgument other.message

def ofPipeline : PipelineError → ProjectError
  | .engine cause => .engine cause
  | .data cause => ofData cause
  | other => .invalidArgument other.message

end ProjectError

instance : MonadLift (Client EngineError) (Client ProjectError) :=
  ⟨fun action => ExceptT.adapt ProjectError.engine action⟩

instance (priority := mid) : MonadLift (Client DataError) (Client ProjectError) :=
  ⟨fun action => ExceptT.adapt ProjectError.ofData action⟩

instance (priority := low) : MonadLift (Client PipelineError) (Client ProjectError) :=
  ⟨fun action => ExceptT.adapt ProjectError.ofPipeline action⟩

structure FrameListing where
  inMemory : List String
  onDisk : List String
  deriving DecidableEq, Repr

namespace FrameListing

def ofWritten? (written : Written) : Option FrameListing := do
  match ← written.fields? [.optional "in_memory", .optional "on_disk"] with
  | [inMemory, onDisk] =>
    return ⟨← Written.orElse? Json.asStrings? [] inMemory, ← Written.orElse? Json.asStrings? [] onDisk⟩
  | _ => none

def notLoaded (listing : FrameListing) : List String :=
  listing.onDisk.filter fun name => !listing.inMemory.contains name

end FrameListing

namespace Project

def askListing {α : Type} (session : Session) (kind : String) (read : Written → Option α) :
    Client EngineError α := do
  let link ← session.askExpecting (Session.command kind "" []) success
  match (Json.written? (← Link.receive link)).bind read with
  | some listing => return listing
  | none => throw .json

def dataFrames (session : Session) : Client EngineError FrameListing :=
  askListing session "list_data_frames" FrameListing.ofWritten?

def pipelines (session : Session) : Client EngineError (List String) :=
  askListing session "list_pipelines" fun written => do
    match ← written.fields? [.optional "names"] with
    | [names] => Written.orElse? Json.asStrings? [] names
    | _ => none

def existsInMemory (session : Session) (name : String) : Client EngineError Bool := do
  return (← dataFrames session).inMemory.contains name

def deleteDataFrame (session : Session) (name : String) (onlyMemory : Bool) : Client ProjectError Unit := do
  liftM (show Client DataError Unit from do
    let frame ← Client.ofExcept (DataFrame.create name .empty)
    frame.delete session onlyMemory)
  Client.log .info s!"Deleted data frame '{name}'"

def loadDataFrame (session : Session) (name : String) : Client ProjectError DataFrame :=
  liftM (show Client DataError DataFrame from do
    let frame ← Client.ofExcept (DataFrame.create name .empty)
    if ← existsInMemory session name then (DataFrame.refresh session).finish frame
    else (DataFrame.load session).finish frame)

def deleteAllPipelines (session : Session) (onlyMemory : Bool) : Client ProjectError Unit := do
  for id in ← pipelines session do
    liftM (Pipeline.deleteById session id onlyMemory)

end Project
end RelationalLearning
