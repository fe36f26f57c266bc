import RelationalLearning.Text.Pieces
import RelationalLearning.Yaml.Basic

namespace RelationalLearning.Yaml

structure Cursor where
  rest : List Char
  column : Nat := 0
  lineStart : Bool := true
  tabbed : Bool := false
  afterBlank : Bool := true
  deriving Inhabited

structure State where
  cursor : Cursor
  parts : List (String × Yaml) := []

abbrev Scan := StateT State Option

def isBlank (c : Char) : Bool := c = ' ' || c = '\t'

def endsToken : List Char → Bool
  | [] => true
  | c :: _ => isBlank c || c = '\n'

def isFlowMark (c : Char) : Bool := c = ',' || c = '[' || c = ']' || c = '\x7b' || c = '\x7d'

namespace Cursor

def step (cursor : Cursor) (c : Char) (rest : List Char) : Cursor :=
  if c = '\n' then { rest }
  else
    let lineStart := cursor.lineStart && isBlank c
    ⟨rest, cursor.column + 1, lineStart, lineStart && (cursor.tabbed || c = '\t'), isBlank c⟩

def skip (cursor : Cursor) : Nat → Cursor
  | 0 => cursor
  | count + 1 =>
    match cursor.rest with
    | [] => cursor
    | c :: rest => (cursor.step c rest).skip count

def behind (cursor : Cursor) (rest : List Char) : Cursor := cursor.skip (cursor.rest.length - rest.length)

end Cursor

/-- What is left behind blanks, line ends and comments; a comment stands behind a blank. -/
def behindBlanks (comment afterBlank : Bool) : List Char → List Char
  | [] => []
  | c :: rest =>
    if c = '\n' then behindBlanks false true rest
    else if comment then behindBlanks true true rest
    else if isBlank c then behindBlanks false true rest
    else if c = '#' && afterBlank then behindBlanks true true rest
    else c :: rest

def behindSpaces : List Char → List Char
  | c :: rest => if isBlank c then behindSpaces rest else c :: rest
  | [] => []

def isMark (cursor : Cursor) : Bool :=
  cursor.lineStart && cursor.column = 0 &&
    match cursor.rest with
    | '-' :: '-' :: '-' :: rest => endsToken rest
    | '.' :: '.' :: '.' :: rest => endsToken rest
    | _ => false

def cursor : Scan Cursor := do return (← get).cursor

def goTo (rest : List Char) : Scan Unit := modify fun state => { state with cursor := state.cursor.behind rest }

def passBlanks : Scan Cursor := do
  let before ← cursor
  goTo (behindBlanks false before.afterBlank before.rest)
  cursor

def plainLine (flow afterBlank : Bool) : List Char → List Char × List Char
  | [] => ([], [])
  | c :: rest =>
    let stops := c = '\n' || (c = '#' && afterBlank) || (flow && isFlowMark c) ||
      (c = ':' && (endsToken rest || (flow && rest.head?.any isFlowMark)))
    if stops then ([], c :: rest)
    else
      let (text, left) := plainLine flow (isBlank c) rest
      (c :: text, left)

def withoutEndBlanks (text : List Char) : List Char := (text.reverse.dropWhile isBlank).reverse

def beginsPlain (flow : Bool) : List Char → Bool
  | [] => false
  | c :: rest =>
    if c = '-' || c = '?' || c = ':' then !(endsToken rest) && !(flow && rest.head?.any isFlowMark)
    else !(isFlowMark c || c = '#' || c = '&' || c = '*' || c = '!' || c = '|' || c = '>' || c = '\'' ||
      c = '"' || c = '%' || c = '@' || c.toNat = 96)

def lineEnds (count : Nat) : List Char → Nat × List Char
  | '\n' :: rest => lineEnds (count + 1) rest
  | c :: rest => if isBlank c then lineEnds count rest else (count, c :: rest)
  | [] => (count, [])

/-- One line end is a blank, and of more the first is dropped. -/
def folded (ends : Nat) : List Char := if ends ≤ 1 then [' '] else List.replicate (ends - 1) '\n'

/-- The further lines of a plain scalar; they stand deeper than `parent`. -/
def plainLines (flow : Bool) (parent : Int) : Nat → List Char → Scan (List Char)
  | 0, text => return text
  | fuel + 1, text => do
    let here ← cursor
    let (ends, rest) := lineEnds 0 here.rest
    let next := here.behind rest
    let goesOn := ends > 0 && !isMark next && (flow || parent < next.column) && rest.head?.any (· ≠ '#')
    let (line, left) := plainLine flow false rest
    if goesOn && !line.isEmpty then
      goTo left
      plainLines flow parent fuel (text ++ folded ends ++ withoutEndBlanks line)
    else return text

def codePoint? (count : Nat) (text : List Char) : Option (List Char × List Char) := do
  if text.length < count then none
  else
    let value ← readDigits? 16 (text.take count)
    if Nat.isValidChar value then some ([Char.ofNat value], text.drop count) else none

def escaped? : List Char → Option (List Char × List Char)
  | 'n' :: rest => some (['\n'], rest)
  | 't' :: rest => some (['\t'], rest)
  | 'r' :: rest => some (['\r'], rest)
  | '0' :: rest => some ([Char.ofNat 0], rest)
  | 'a' :: rest => some ([Char.ofNat 7], rest)
  | 'b' :: rest => some ([Char.ofNat 8], rest)
  | 'v' :: rest => some ([Char.ofNat 11], rest)
  | 'f' :: rest => some ([Char.ofNat 12], rest)
  | 'e' :: rest => some ([Char.ofNat 27], rest)
  | 'N' :: rest => some ([Char.ofNat 0x85], rest)
  | '_' :: rest => some ([Char.ofNat 0xA0], rest)
  | 'L' :: rest => some ([Char.ofNat 0x2028], rest)
  | 'P' :: rest => some ([Char.ofNat 0x2029], rest)
  | 'x' :: rest => codePoint? 2 rest
  | 'u' :: rest => codePoint? 4 rest
  | 'U' :: rest => codePoint? 8 rest
  | '\n' :: rest => some ([], behindSpaces rest)
  | c :: rest => if c = ' ' || c = '"' || c = '\'' || c = '\\' || c = '/' then some ([c], rest) else none
  | [] => none

def quotedText? (double : Bool) : Nat → List Char → List Char → Option (List Char × List Char)
  | 0, _, _ => none
  | _ + 1, _, [] => none
  | fuel + 1, text, c :: rest =>
    if c = '\n' then
      let (ends, rest) := lineEnds 1 rest
      quotedText? double fuel (withoutEndBlanks text ++ folded ends) rest
    else if double then
      if c = '"' then some (text, rest)
      else if c = '\\' then do
        let (more, rest) ← escaped? rest
        quotedText? double fuel (text ++ more) rest
      else quotedText? double fuel (text ++ [c]) rest
    else if c = '\'' then
      match rest with
      | '\'' :: rest => quotedText? double fuel (text ++ ['\'']) rest
      | rest => some (text, rest)
    else quotedText? double fuel (text ++ [c]) rest

def quotedScalar (double : Bool) (rest : List Char) : Scan (Yaml × Bool) := do
  let before ← cursor
  let (text, left) ← StateT.lift (quotedText? double (rest.length + 1) [] rest)
  goTo left
  let taken := before.rest.take (before.rest.length - left.length)
  return (.scalar (String.ofList text) .verbatim, !taken.contains '\n')

def plainScalar (flow : Bool) : Scan (List Char) := do
  let here ← cursor
  if !beginsPlain flow here.rest then failure
  let (line, left) := plainLine flow false here.rest
  goTo left
  return withoutEndBlanks line

def blockLines (indent : Nat) : List (List Char) → List (List Char)
  | [] => []
  | line :: rest =>
    if line.all (· = ' ') then line.drop indent :: blockLines indent rest
    else if indent ≤ (line.takeWhile (· = ' ')).length then line.drop indent :: blockLines indent rest
    else []

/-- Lines joined by blanks, but for empty ones and those that are indented. -/
def foldLines : List (List Char) → List Char
  | [] => []
  | [line] => line
  | line :: next :: rest =>
    let plain (line : List Char) : Bool := line.head?.any fun c => !isBlank c
    let between := if plain line && plain next then [' '] else if line.isEmpty && plain next then [] else ['\n']
    line ++ between ++ foldLines (next :: rest)

def splitLines (text : List Char) : List (List Char) := Text.pieces '\n' [] text

def blockScalar (isFolded : Bool) (parent : Int) (rest : List Char) : Scan Yaml := do
  let head := (rest.takeWhile (· ≠ '\n')).takeWhile (· ≠ '#')
  if !head.all (fun c => isBlank c || c = '-' || c = '+' || ('1' ≤ c && c ≤ '9')) then failure
  let lines := splitLines ((rest.dropWhile (· ≠ '\n')).drop 1)
  let first := (lines.find? fun line => !line.all (· = ' ')).map fun line => (line.takeWhile (· = ' ')).length
  let indent : Nat := match head.find? Char.isDigit with
    | some digit => (parent + (digit.toNat - '0'.toNat : Nat)).toNat
    | none => first.getD 0
  if (indent : Int) ≤ parent && first.isSome then
    goTo (rest.dropWhile (· ≠ '\n'))
    return .scalar "" .verbatim
  let taken := blockLines indent lines
  let left := (lines.drop taken.length).map fun line => '\n' :: line
  goTo (left.flatten)
  let kept := (taken.reverse.dropWhile (·.isEmpty)).reverse
  let body := if isFolded then foldLines kept else (kept.map fun line => line ++ ['\n']).flatten.dropLast
  let ending :=
    if head.contains '-' || kept.isEmpty then []
    else if head.contains '+' then List.replicate (taken.length - kept.length + 1) '\n'
    else ['\n']
  return .scalar (String.ofList (body ++ ending)) .verbatim

def atColon : Scan Bool := do
  match behindSpaces (← cursor).rest with
  | ':' :: rest => if endsToken rest then do goTo rest; return true else return false
  | _ => return false

def partName (rest : List Char) : String × List Char :=
  let name := rest.takeWhile fun c => !isBlank c && c ≠ '\n' && !isFlowMark c
  (String.ofList name, rest.drop name.length)

def nameBehind (rest : List Char) : Scan String := do
  let (name, rest) := partName rest
  goTo rest
  return name

def naming (name : String) (node : Yaml) : Scan Yaml := do
  modify fun state => { state with parts := (name, node) :: state.parts }
  return node

def partOf (name : String) : Scan Yaml := do StateT.lift ((← get).parts.lookup name)

mutual
def flowNode : Nat → Scan Yaml
  | 0 => failure
  | fuel + 1 => do
    let here ← passBlanks
    match here.rest with
    | '[' :: rest => do
      goTo rest
      return .list (← flowItems fuel)
    | '"' :: rest => return (← quotedScalar true rest).1
    | '\'' :: rest => return (← quotedScalar false rest).1
    | '&' :: rest => do
      let name ← nameBehind rest
      naming name (← flowNode fuel)
    | '*' :: rest => do partOf (← nameBehind rest)
    | '!' :: rest => do
      let tag ← nameBehind rest
      return (← flowNode fuel).under tag
    | c :: rest =>
      if c = '\x7b' then do
        goTo rest
        return .mapping (← flowEntries fuel)
      else do
        let line ← plainScalar true
        return .scalar (String.ofList (← plainLines true 0 fuel line)) .plain
    | [] => failure

def flowValue : Nat → Scan (Option Yaml)
  | 0 => failure
  | fuel + 1 => do
    match (← passBlanks).rest with
    | ':' :: rest => do
      goTo rest
      match (← passBlanks).rest with
      | ',' :: _ | ']' :: _ => return some missing
      | '\x7d' :: _ => return some missing
      | _ => return some (← flowNode fuel)
    | _ => return none

def flowItems : Nat → Scan (List Yaml)
  | 0 => failure
  | fuel + 1 => do
    match (← passBlanks).rest with
    | ']' :: rest => do
      goTo rest
      return []
    | _ => do
      let node ← flowNode fuel
      let item := match ← flowValue fuel with
        | some value => .mapping [(node, value)]
        | none => node
      match (← passBlanks).rest with
      | ',' :: rest => do
        goTo rest
        return item :: (← flowItems fuel)
      | ']' :: rest => do
        goTo rest
        return [item]
      | _ => failure

def flowEntries : Nat → Scan (List (Yaml × Yaml))
  | 0 => failure
  | fuel + 1 => do
    match (← passBlanks).rest with
    | '\x7d' :: rest => do
      goTo rest
      return []
    | _ => do
      let key ← flowNode fuel
      let entry := (key, (← flowValue fuel).getD missing)
      match (← passBlanks).rest with
      | ',' :: rest => do
        goTo rest
        return entry :: (← flowEntries fuel)
      | '\x7d' :: rest => do
        goTo rest
        return [entry]
      | _ => failure
end

mutual
/-- A node in the block that stands deeper than `parent`; `inline` behind a key. -/
def blockNode : Nat → Int → Bool → Scan Yaml
  | 0, _, _ => failure
  | fuel + 1, parent, inline => do
    let here ← passBlanks
    let isEntry := match here.rest with
      | '-' :: rest => endsToken rest
      | _ => false
    let opens := here.lineStart || !inline
    if here.rest.isEmpty || isMark here then return missing
    if here.lineStart && ((here.column : Int) < parent || (here.column = parent && !(isEntry && inline))) then
      return missing
    if here.tabbed then failure
    match here.rest with
    | '&' :: rest => do
      let name ← nameBehind rest
      naming name (← blockNode fuel parent inline)
    | '*' :: rest => do partOf (← nameBehind rest)
    | '!' :: rest => do
      let tag ← nameBehind rest
      return (← blockNode fuel parent inline).under tag
    | '|' :: rest => blockScalar false parent rest
    | '>' :: rest => blockScalar true parent rest
    | '"' :: rest => do keyed fuel here.column opens (← quotedScalar true rest)
    | '\'' :: rest => do keyed fuel here.column opens (← quotedScalar false rest)
    | c :: rest =>
      if isEntry then
        if opens then return .list (← blockItems fuel here.column)
        else failure
      else if c = '?' && endsToken rest then
        if opens then do
          goTo rest
          let key ← blockNode fuel here.column false
          return .mapping (← blockEntries fuel here.column true key)
        else failure
      else if c = '[' || c = '\x7b' then flowNode fuel
      else do
        let line ← plainScalar false
        if ← atColon then
          if opens then return .mapping (← blockEntries fuel here.column false (.scalar (String.ofList line) .plain))
          else failure
        else return .scalar (String.ofList (← plainLines false parent fuel line)) .plain
    | [] => failure

/-- A quoted scalar, which may be the key of a mapping. -/
def keyed : Nat → Nat → Bool → Yaml × Bool → Scan Yaml
  | 0, _, _, _ => failure
  | fuel + 1, column, opens, (node, oneLine) => do
    if ← atColon then
      if opens && oneLine then return .mapping (← blockEntries fuel column false node)
      else failure
    else return node

def blockItems : Nat → Nat → Scan (List Yaml)
  | 0, _ => failure
  | fuel + 1, column => do
    goTo ((← cursor).rest.drop 1)
    let item ← blockNode fuel column false
    let next ← passBlanks
    if next.rest.isEmpty || isMark next then return [item]
    if !next.lineStart || column < next.column then failure
    match next.rest with
    | '-' :: rest =>
      if next.column = column && endsToken rest then return item :: (← blockItems fuel column)
      else return [item]
    | _ => return [item]

def markedValue : Nat → Nat → Scan Yaml
  | 0, _ => failure
  | fuel + 1, column => do
    let here ← passBlanks
    match here.rest with
    | ':' :: rest => do
      if here.lineStart && here.column = column && endsToken rest then
        goTo rest
        blockNode fuel column false
      else return missing
    | _ => return missing

/-- The entries of a mapping whose keys stand in a column; the reader stands behind the first key if it is marked, else behind its colon. -/
def blockEntries : Nat → Nat → Bool → Yaml → Scan (List (Yaml × Yaml))
  | 0, _, _, _ => failure
  | fuel + 1, column, marked, key => do
    let value ← if marked then markedValue fuel column else blockNode fuel column true
    let next ← passBlanks
    if next.rest.isEmpty || isMark next then return [(key, value)]
    if !next.lineStart || column < next.column || next.tabbed then failure
    if next.column < column then return [(key, value)]
    let isMarked := match next.rest with
      | '?' :: rest => endsToken rest
      | _ => false
    let key' ← match next.rest with
      | '"' :: rest => pure (← quotedScalar true rest).1
      | '\'' :: rest => pure (← quotedScalar false rest).1
      | _ :: rest =>
        if isMarked then do
          goTo rest
          blockNode fuel column false
        else do
          let line ← plainScalar false
          pure (.scalar (String.ofList line) .plain)
      | [] => failure
    if !isMarked && !(← atColon) then failure
    return (key, value) :: (← blockEntries fuel column isMarked key')
end

def plainText (text : String) : List Char :=
  let rec clean : List Char → List Char
    | '\r' :: '\n' :: rest => '\n' :: clean rest
    | '\r' :: rest => '\n' :: clean rest
    | c :: rest => c :: clean rest
    | [] => []
  match clean text.toList with
  | c :: rest => if c.toNat = 0xFEFF then rest else c :: rest
  | [] => []

def isDirective (line : List Char) : Bool := line.head?.any (· = '%')

/-- The text behind directives, which stand at its beginning, each on a line of its own; a document mark follows them. -/
def behindDirectives? (text : List Char) : Option (List Char) :=
  let passed (line : List Char) : Bool := isDirective line || (behindSpaces line).head?.all (· = '#')
  let lines := splitLines text
  if (lines.takeWhile passed).any isDirective then
    let body := ['\n'].intercalate (lines.dropWhile passed)
    if isMark { rest := body } && body.head?.any (· = '-') then some body else none
  else some text

def document (fuel : Nat) : Scan Yaml := do
  let here ← passBlanks
  if here.rest.isEmpty then failure
  match isMark here, here.rest with
  | true, '-' :: _ => goTo (here.rest.drop 3)
  | true, _ => failure
  | false, _ => pure ()
  let node ← blockNode fuel (-1) false
  let next ← passBlanks
  match isMark next, next.rest with
  | true, '.' :: _ => do
    goTo (next.rest.drop 3)
    if !(← passBlanks).rest.isEmpty then failure
  | true, _ => failure
  | false, [] => pure ()
  | false, _ => failure
  return node

def read? (text : String) : Option Yaml :=
  (behindDirectives? (plainText text)).bind fun body =>
    ((document (2 * body.length + 8)).run { cursor := { rest := body } }).map (·.1)

end RelationalLearning.Yaml
