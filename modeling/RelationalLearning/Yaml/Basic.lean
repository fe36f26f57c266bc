import RelationalLearning.Decimal.Read
import RelationalLearning.Json.Written
import RelationalLearning.Text.Hex

/-!
Documents in the indented notation. What a scalar that stands without quotes means depends on the
place where it stands, so a document becomes one of the other kind only along a shape.
-/

namespace RelationalLearning

namespace Yaml

inductive Kind where
  | truth | whole | number | missing
  deriving DecidableEq, Repr

/-- The kind that a tag behind its first mark stands for; under any other tag a scalar is a text. -/
def Kind.ofTag? : String → Option Kind
  | "!bool" => some .truth
  | "!int" => some .whole
  | "!float" => some .number
  | "!null" => some .missing
  | _ => none

/-- How a scalar is written, on which it depends what it may mean. -/
inductive Style where
  | plain
  /-- Quoted, or under a tag that makes it a text. -/
  | verbatim
  | tagged (kind : Kind) (quoted : Bool)
  deriving DecidableEq, Repr, Inhabited

def Style.under (tag : String) (style : Style) : Style :=
  match Kind.ofTag? tag with
  | some kind => .tagged kind (style ≠ .plain)
  | none => .verbatim

end Yaml

inductive Yaml where
  | scalar (text : String) (style : Yaml.Style)
  | list (items : List Yaml)
  | mapping (entries : List (Yaml × Yaml))
  deriving Repr, Inhabited

namespace Yaml

def under (tag : String) : Yaml → Yaml
  | .scalar text style => .scalar text (style.under tag)
  | node => node

inductive Shape where
  | plain
  | text
  | optionalText
  | record (fields : List (String × Shape))
  deriving Repr

def missing : Yaml := .scalar "~" .plain

def isMissing (text : String) : Bool := text = "~" || text = "null"

def readDigits? (base : Nat) (digits : List Char) : Option Nat :=
  if digits.isEmpty then none
  else digits.foldlM (fun value c => do
    let digit ← Text.hexValue? c
    if digit < base then some (base * value + digit) else none) 0

/-- A whole number without a sign; zeros in front make digits a text. -/
def readNatural? (text : List Char) : Option Nat :=
  match text with
  | '0' :: 'x' :: digits => readDigits? 16 digits
  | '0' :: 'o' :: digits => readDigits? 8 digits
  | '0' :: 'b' :: digits => readDigits? 2 digits
  | ['0'] => some 0
  | '0' :: _ => none
  | digits => readDigits? 10 digits

def readNumber? (text : String) : Option Json :=
  match text.toList with
  | '-' :: digits => (readNatural? digits).map fun value => .int (-value)
  | '+' :: digits => (readNatural? digits).map fun value => .int value
  | digits => (readNatural? digits).map fun value => .int value

def resolve (text : String) : Json :=
  if isMissing text then .null
  else if text = "true" then .bool true
  else if text = "false" then .bool false
  else
    match readNumber? text with
    | some number => number
    | none =>
      match Decimal.readFloat? text with
      | some value => if value.isFinite then .float value else .string text
      | none => .string text

def keyName? : Yaml → Option String
  | .scalar text _ => some text
  | _ => none

def Kind.value? (text : String) (quoted : Bool) : Kind → Option Json
  | .truth => if text = "true" then some (.bool true) else if text = "false" then some (.bool false) else none
  | .whole => (Decimal.readInt? text).map .int
  | .number => (Decimal.readFloat? text).map .float
  | .missing => if !quoted && isMissing text then some .null else none

def scalarAs (shape : Shape) (text : String) (style : Style) : Option Json :=
  match shape, style with
  | .text, _ => some (.string text)
  | .optionalText, .plain => some (if isMissing text then .null else .string text)
  | .optionalText, .tagged .missing false => Kind.missing.value? text false
  | .optionalText, _ => some (.string text)
  | _, .plain => some (resolve text)
  | _, .verbatim => some (.string text)
  | _, .tagged kind quoted => kind.value? text quoted

def Shape.field (shape : Shape) (name : String) : Shape :=
  match shape with
  | .record fields => (fields.lookup name).getD .plain
  | _ => .plain

def Shape.item (shape : Shape) (index : Nat) : Shape :=
  match shape with
  | .record fields => (fields[index]?.map (·.2)).getD .plain
  | _ => .plain

mutual
def along (shape : Shape) : Yaml → Written
  | .scalar text style => .leaf (scalarAs shape text style)
  | .list items => .array (itemsAlong shape 0 items)
  | .mapping entries => .object (entriesAlong shape entries)

def itemsAlong (shape : Shape) (index : Nat) : List Yaml → List Written
  | [] => []
  | item :: rest => along (shape.item index) item :: itemsAlong shape (index + 1) rest

def entriesAlong (shape : Shape) : List (Yaml × Yaml) → List (Option String × Written)
  | [] => []
  | (key, value) :: rest =>
    let name := keyName? key
    (name, along (shape.field (name.getD "")) value) :: entriesAlong shape rest
end

end Yaml
end RelationalLearning
