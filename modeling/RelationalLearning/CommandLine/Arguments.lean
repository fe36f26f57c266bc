/-!
The words after the name of the program. Options that take a value may stand before or behind the
subcommand, where the later place wins; at either place they may be given once.
-/

namespace RelationalLearning.CommandLine

inductive Subcommand where
  | ping
  | projects (running : Bool)
  | setProject (name : String)
  | dataFrames
  | pipelines
  | rows (name : String)
  | describe (name : String)
  deriving DecidableEq, Repr

inductive Setting where
  | config | host | port
  deriving DecidableEq, Repr

namespace Setting

def ofLong? : String → Option Setting
  | "config" => some .config
  | "host" => some .host
  | "port" => some .port
  | _ => none

def ofShort? : Char → Option Setting
  | 'c' => some .config
  | 'p' => some .port
  | _ => none

end Setting

inductive Request where
  | showVersion
  | showHelp
  | run (settings : List (Setting × String)) (subcommand : Option Subcommand)
  deriving DecidableEq, Repr

inductive Word where
  | ping | projects | setProject | dataFrames | pipelines | rows | describe
  deriving DecidableEq, Repr

def Word.ofName? : String → Option Word
  | "ping" => some .ping
  | "projects" => some .projects
  | "set-project" => some .setProject
  | "data-frames" => some .dataFrames
  | "pipelines" => some .pipelines
  | "nrows" => some .rows
  | "describe" => some .describe
  | _ => none

def Word.complete? (word : Word) (name : Option String) (running : Bool) : Option Subcommand :=
  match word with
  | .ping => some .ping
  | .projects => some (.projects running)
  | .dataFrames => some .dataFrames
  | .pipelines => some .pipelines
  | .setProject => name.map .setProject
  | .rows => name.map .rows
  | .describe => name.map .describe

def Word.takesName : Word → Bool
  | .setProject | .rows | .describe => true
  | _ => false

structure Reading where
  word : Option Word := none
  before : List (Setting × String) := []
  behind : List (Setting × String) := []
  name : Option String := none
  running : Bool := false
  namesOnly : Bool := false
  /-- Whether something is wrong that is only refused at the end. -/
  faulty : Bool := false

namespace Reading

def withSetting (reading : Reading) (setting : Setting) (value : String) : Reading :=
  let given := if reading.word.isNone then reading.before else reading.behind
  let faulty := reading.faulty || given.any fun other => other.1 = setting
  match reading.word with
  | none => { reading with before := reading.before ++ [(setting, value)], faulty }
  | some _ => { reading with behind := reading.behind ++ [(setting, value)], faulty }

def withWord? (reading : Reading) (word : String) : Option Reading :=
  match reading.word with
  | none =>
    if reading.namesOnly then none
    else (Word.ofName? word).map fun known => { reading with word := some known }
  | some known =>
    if known.takesName && reading.name.isNone then some { reading with name := some word } else none

def withRunning? (reading : Reading) : Option Reading :=
  match reading.word with
  | some .projects => some { reading with running := true, faulty := reading.faulty || reading.running }
  | _ => none

def request? (reading : Reading) : Option Request :=
  if reading.faulty then none
  else
    match reading.word with
    | none => some (.run reading.before none)
    | some word =>
      (word.complete? reading.name reading.running).map fun subcommand =>
        .run (reading.behind ++ reading.before) (some subcommand)

end Reading

inductive Effect where
  | read (reading : Reading)
  | awaits (setting : Setting)
  | answer (request : Request)
  | refuse

def effectOf (reading : Option Reading) : Effect :=
  match reading with
  | some reading => .read reading
  | none => .refuse

/-- An option of one letter; the rest of the word is its value, or more letters. -/
def short (reading : Reading) : List Char → Effect
  | [] => .read reading
  | letter :: rest =>
    match Setting.ofShort? letter, rest with
    | some setting, [] => .awaits setting
    | some setting, '=' :: value => .read (reading.withSetting setting (String.ofList value))
    | some setting, value => .read (reading.withSetting setting (String.ofList value))
    | none, _ =>
      if letter = 'h' then .answer .showHelp
      else if letter = 'V' && reading.word.isNone then .answer .showVersion
      else .refuse

/-- An option written out, with its value behind an equals sign or in the next word. -/
def long (reading : Reading) (text : List Char) : Effect :=
  let name := String.ofList (text.takeWhile (· ≠ '='))
  match Setting.ofLong? name, text.dropWhile (· ≠ '=') with
  | some setting, '=' :: value => .read (reading.withSetting setting (String.ofList value))
  | some setting, _ => .awaits setting
  | none, [] =>
    if name = "help" then .answer .showHelp
    else if name = "version" && reading.word.isNone then .answer .showVersion
    else if name = "running" then effectOf reading.withRunning?
    else .refuse
  | none, _ => .refuse

def effect (reading : Reading) (word : String) : Effect :=
  if reading.namesOnly then effectOf (reading.withWord? word)
  else
    match word.toList with
    | ['-', '-'] => .read { reading with namesOnly := true }
    | '-' :: '-' :: text => long reading text
    | ['-'] => effectOf (reading.withWord? word)
    | '-' :: text => short reading text
    | _ =>
      if word = "help" && reading.word.isNone then .answer .showHelp
      else effectOf (reading.withWord? word)

def isValue (word : String) : Bool :=
  match word.toList with
  | '-' :: _ :: _ => false
  | _ => true

def readFrom (reading : Reading) : Option Setting → List String → Option Request
  | none, [] => reading.request?
  | some _, [] => none
  | some setting, word :: words =>
    if isValue word then readFrom (reading.withSetting setting word) none words
    else follow { reading with faulty := true } (effect { reading with faulty := true } word) words
  | none, word :: words => follow reading (effect reading word) words
where
  follow (reading : Reading) (effect : Effect) (words : List String) : Option Request :=
    match effect with
    | .read reading => readFrom reading none words
    | .awaits setting => readFrom reading (some setting) words
    | .answer request => some request
    | .refuse => none

def read? (words : List String) : Option Request := readFrom {} none words

end RelationalLearning.CommandLine
