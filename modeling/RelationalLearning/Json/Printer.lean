import RelationalLearning.Json.Basic
import RelationalLearning.Text.Hex

namespace RelationalLearning.Json

def escapeChar (c : Char) : List Char :=
  if c = '"' then ['\\', '"']
  else if c = '\\' then ['\\', '\\']
  else if c = '\n' then ['\\', 'n']
  else if c = '\r' then ['\\', 'r']
  else if c = '\t' then ['\\', 't']
  else if c.toNat = 8 then ['\\', 'b']
  else if c.toNat = 12 then ['\\', 'f']
  else if c.toNat < 32 then
    ['\\', 'u', '0', '0', Text.hexDigit (c.toNat / 16), Text.hexDigit (c.toNat % 16)]
  else [c]

def quote (text : String) : String :=
  "\"" ++ String.ofList (text.toList.flatMap escapeChar) ++ "\""

mutual
def write : Json → String
  | .null => "null"
  | .bool value => if value then "true" else "false"
  | .int value => toString value
  | .float value => if value.isFinite then Decimal.Layout.command.write value else "null"
  | .string value => quote value
  | .array items => "[" ++ ",".intercalate (writeItems items) ++ "]"
  | .object fields => "\x7b" ++ ",".intercalate (writeFields fields) ++ "\x7d"

def writeItems : List Json → List String
  | [] => []
  | item :: rest => item.write :: writeItems rest

def writeFields : List (String × Json) → List String
  | [] => []
  | (name, value) :: rest => (quote name ++ ":" ++ value.write) :: writeFields rest
end

def indentation (depth : Nat) : String := String.ofList (List.replicate (2 * depth) ' ')

def block (depth : Nat) (opening closing : String) : List String → String
  | [] => opening ++ closing
  | lines =>
    opening ++ "\n" ++ ",\n".intercalate (lines.map (indentation (depth + 1) ++ ·)) ++ "\n" ++
      indentation depth ++ closing

mutual
def prettyAt (depth : Nat) : Json → String
  | .array items => block depth "[" "]" (prettyItems (depth + 1) items)
  | .object fields => block depth "\x7b" "\x7d" (prettyFields (depth + 1) fields)
  | leaf => leaf.write

def prettyItems (depth : Nat) : List Json → List String
  | [] => []
  | item :: rest => item.prettyAt depth :: prettyItems depth rest

def prettyFields (depth : Nat) : List (String × Json) → List String
  | [] => []
  | (name, value) :: rest => (quote name ++ ": " ++ value.prettyAt depth) :: prettyFields depth rest
end

def pretty (document : Json) : String := document.prettyAt 0

end RelationalLearning.Json
