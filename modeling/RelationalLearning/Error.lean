namespace RelationalLearning

inductive EngineError where
  /-- The operating system or the end of the stream stopped a transfer. -/
  | io (cause : String)
  | json
  | protocol (breach : String)
  | refused (message : String)
  | unreachable (address : String)
  | arrow
  deriving DecidableEq, Repr

def EngineError.message : EngineError → String
  | .io cause => s!"IO error: {cause}"
  | .json => "JSON error: the reply is not a document of the expected form"
  | .protocol breach => s!"Protocol error: {breach}"
  | .refused text => text
  | .unreachable address => s!"Could not connect to {address}. Is the engine running?"
  | .arrow => "Arrow error: the stream cannot be decoded"

def EngineError.isRefusal : EngineError → Bool
  | .refused _ => true
  | _ => false

def EngineError.endOfStream : EngineError := .io "failed to fill whole buffer"

inductive DataError where
  | engine (cause : EngineError)
  | type (reason : String)
  | value (reason : String)
  | index (reason : String)
  | key (reason : String)
  | io (cause : String)
  | parse (reason : String)
  | notSupported (reason : String)
  deriving DecidableEq, Repr

def DataError.message : DataError → String
  | .engine cause => cause.message
  | .type reason => s!"Type error: {reason}"
  | .value reason => s!"Value error: {reason}"
  | .index reason => s!"Index error: {reason}"
  | .key reason => s!"Key error: {reason}"
  | .io cause => s!"IO error: {cause}"
  | .parse reason => s!"Parse error: {reason}"
  | .notSupported reason => s!"Not supported: {reason}"

/-- Whether the failure is found before anything is sent. -/
def DataError.isLocal : DataError → Bool
  | .type _ | .value _ | .index _ | .key _ => true
  | _ => false

inductive PipelineError where
  | engine (cause : EngineError)
  | data (cause : DataError)
  | invalidArgument (reason : String)
  | notFitted (name : String)
  deriving DecidableEq, Repr

inductive ProjectError where
  | engine (cause : EngineError)
  | invalidArgument (reason : String)
  deriving DecidableEq, Repr

end RelationalLearning
