namespace RelationalLearning.Text

def stripStart? : List Char → List Char → Option (List Char)
  | [], text => some text
  | _ :: _, [] => none
  | s :: start, c :: text => if s = c then stripStart? start text else none

theorem length_of_stripStart? {start text rest : List Char} (h : stripStart? start text = some rest) :
    text.length = start.length + rest.length := by
  induction start generalizing text with
  | nil => simp_all [stripStart?]
  | cons s start ih =>
    cases text with
    | nil => simp [stripStart?] at h
    | cons c text =>
      by_cases same : s = c
      · have shorter : stripStart? start text = some rest := by simpa [stripStart?, same] using h
        have := ih shorter
        simp; omega
      · simp [stripStart?, same] at h

def cutAt? (mark : List Char) : List Char → Option (List Char × List Char)
  | [] => if mark = [] then some ([], []) else none
  | c :: text =>
    match stripStart? mark (c :: text) with
    | some rest => some ([], rest)
    | none => (cutAt? mark text).map fun (before, after) => (c :: before, after)

theorem length_of_cutAt? {mark text before after : List Char} (h : cutAt? mark text = some (before, after)) :
    text.length = before.length + mark.length + after.length := by
  induction text generalizing before after with
  | nil => simp only [cutAt?] at h; split at h <;> simp_all
  | cons c text ih =>
    simp only [cutAt?] at h
    split at h
    · rename_i rest eq
      obtain ⟨rfl, rfl⟩ : [] = before ∧ rest = after := by simpa using h
      simpa using length_of_stripStart? eq
    · obtain ⟨⟨b, a⟩, eq, same⟩ := Option.map_eq_some_iff.1 h
      obtain ⟨rfl, rfl⟩ : c :: b = before ∧ a = after := by simpa using same
      simp [ih eq]; omega

/-- The pieces of `text` between the places where `mark` stands; `mark` has a first character. -/
def pieces (first : Char) (mark : List Char) (text : List Char) : List (List Char) :=
  match h : cutAt? (first :: mark) text with
  | none => [text]
  | some (before, after) =>
    have : after.length < text.length := by
      have := length_of_cutAt? h
      simp at this; omega
    before :: pieces first mark after
termination_by text.length

/-- The pieces of a text between the separators; an empty separator cuts nowhere. -/
def splitOn (text separator : String) : List String :=
  match separator.toList with
  | [] => [text]
  | first :: mark => (pieces first mark text.toList).map String.ofList

def join (separator : String) (parts : List String) : String := separator.intercalate parts

def startsWith (text start : String) : Bool := (stripStart? start.toList text.toList).isSome

def after? (start text : String) : Option String :=
  (stripStart? start.toList text.toList).map String.ofList

def before? (stop text : String) : Option String :=
  (stripStart? stop.toList.reverse text.toList.reverse).map fun rest => String.ofList rest.reverse

def contains (text part : String) : Bool := (cutAt? part.toList text.toList).isSome

def cut? (mark text : String) : Option (String × String) :=
  (cutAt? mark.toList text.toList).map fun (before, after) => (String.ofList before, String.ofList after)

end RelationalLearning.Text
