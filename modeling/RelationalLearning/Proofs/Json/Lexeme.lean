import Mathlib.Data.List.Basic
import Mathlib.Tactic.SplitIfs
import RelationalLearning.Json.Parser
import RelationalLearning.Json.Printer

namespace RelationalLearning

theorem Text.hexValue?_hexDigit (value : Nat) (small : value < 16) :
    hexValue? (hexDigit value) = some value := by
  have all : ∀ value : Fin 16, hexValue? (hexDigit value) = some value.val := by decide
  exact all ⟨value, small⟩

namespace Json

theorem readEscapedUnit?_control (code : Nat) (rest : List Char) (control : code < 32) :
    readEscapedUnit?
        ('0' :: '0' :: Text.hexDigit (code / 16) :: Text.hexDigit (code % 16) :: rest) =
      some (some (Char.ofNat code), rest) := by
  have high := Text.hexValue?_hexDigit (code / 16) (by omega)
  have low := Text.hexValue?_hexDigit (code % 16) (by omega)
  have zero : Text.hexValue? '0' = some 0 := by decide
  have unit :
      readUnit? ('0' :: '0' :: Text.hexDigit (code / 16) :: Text.hexDigit (code % 16) :: rest) =
        some (code, rest) := by
    simp [readUnit?, zero, high, low]
    omega
  simp only [readEscapedUnit?, unit, Option.bind_eq_bind, Option.bind_some]
  rw [if_neg (by simp; omega), if_neg (by simp; omega)]
  rfl

theorem readQuoted?_escapeChar (fuel : Nat) (c : Char) (rest : List Char) :
    readQuoted? (fuel + 1) (escapeChar c ++ rest) =
      (readQuoted? fuel rest).map fun (chars, rest) => (chars.map (c :: ·), rest) := by
  have simple (escape char : Char) (other : escape ≠ 'u')
      (stands : simpleEscape? escape = some char) :
      readQuoted? (fuel + 1) ('\\' :: escape :: rest) =
        (readQuoted? fuel rest).map fun (chars, rest) => (chars.map (char :: ·), rest) := by
    rw [readQuoted?, if_neg (by decide), if_pos rfl, stands]
    · cases readQuoted? fuel rest <;> rfl
    · exact other
  have code (value : Nat) (same : c.toNat = value) : Char.ofNat value = c := by
    rw [← same, Char.ofNat_toNat]
  unfold escapeChar
  split_ifs with quote backslash newline back tab backspace feed control
  · exact simple '"' c (by decide) (by rw [quote]; rfl)
  · exact simple '\\' c (by decide) (by rw [backslash]; rfl)
  · exact simple 'n' c (by decide) (by rw [newline]; rfl)
  · exact simple 'r' c (by decide) (by rw [back]; rfl)
  · exact simple 't' c (by decide) (by rw [tab]; rfl)
  · exact simple 'b' c (by decide) (by rw [← code 8 backspace]; rfl)
  · exact simple 'f' c (by decide) (by rw [← code 12 feed]; rfl)
  · have unit := readEscapedUnit?_control c.toNat rest control
    rw [code c.toNat rfl] at unit
    simp only [List.cons_append, List.nil_append]
    rw [readQuoted?, if_neg (by decide), if_pos rfl, unit]
    cases read : readQuoted? fuel rest with
    | none => simp [read]
    | some result => cases first : result.1 <;> simp [read, first]
  · conv_lhs => unfold readQuoted?
    simp only [List.singleton_append, if_neg quote, if_neg backslash, if_neg control]
    cases readQuoted? fuel rest <;> rfl

theorem readQuoted?_escaped (text rest : List Char) (fuel : Nat) (enough : text.length < fuel) :
    readQuoted? fuel (text.flatMap escapeChar ++ '"' :: rest) = some (some text, rest) := by
  induction text generalizing fuel with
  | nil =>
      obtain ⟨fuel, rfl⟩ := Nat.exists_eq_succ_of_ne_zero (Nat.ne_of_gt enough)
      simp [readQuoted?]
  | cons c text ih =>
      obtain ⟨fuel, rfl⟩ := Nat.exists_eq_succ_of_ne_zero (Nat.ne_zero_of_lt enough)
      rw [List.flatMap_cons, List.append_assoc, readQuoted?_escapeChar,
        ih fuel (by simpa using enough)]
      rfl

theorem toList_quote (text : String) :
    (quote text).toList = '"' :: (text.toList.flatMap escapeChar ++ ['"']) := by
  simp [quote]

theorem length_le_escaped (text : List Char) : text.length ≤ (text.flatMap escapeChar).length := by
  induction text with
  | nil => simp
  | cons c text ih =>
      have long : 0 < (escapeChar c).length := by
        unfold escapeChar
        split_ifs <;> simp
      simp only [List.flatMap_cons, List.length_append, List.length_cons]
      omega

theorem readQuoted?_quote (text : String) (rest : List Char) :
    ∃ behind, (quote text).toList ++ rest = '"' :: behind ∧
      readQuoted? (behind.length + 1) behind = some (some text.toList, rest) := by
  refine ⟨text.toList.flatMap escapeChar ++ '"' :: rest, by simp [toList_quote], ?_⟩
  refine readQuoted?_escaped _ _ _ ?_
  have := length_le_escaped text.toList
  simp only [List.length_append, List.length_cons]
  omega

/-- What stands behind a number and does not continue it. -/
def Stops (rest : List Char) : Prop :=
  ∀ c ∈ rest.head?, Decimal.isDigit c = false ∧ c ≠ '.' ∧ c ≠ 'e' ∧ c ≠ 'E'

theorem stops_nil : Stops [] := by simp [Stops]

theorem stops_cons (c : Char) (rest : List Char)
    (mark : Decimal.isDigit c = false ∧ c ≠ '.' ∧ c ≠ 'e' ∧ c ≠ 'E') : Stops (c :: rest) := by
  rintro _ ⟨⟩
  exact mark

theorem takeWhile_stops (text rest : List Char) (stops : Stops rest) :
    (text ++ rest).takeWhile Decimal.isDigit = text.takeWhile Decimal.isDigit := by
  induction text with
  | nil =>
      cases rest with
      | nil => rfl
      | cons c rest => simp [(stops c rfl).1]
  | cons c text ih => by_cases digit : Decimal.isDigit c <;> simp [digit, ih]

theorem dropWhile_stops (text rest : List Char) (stops : Stops rest) :
    (text ++ rest).dropWhile Decimal.isDigit = text.dropWhile Decimal.isDigit ++ rest := by
  induction text with
  | nil =>
      cases rest with
      | nil => rfl
      | cons c rest => simp [(stops c rfl).1]
  | cons c text ih => by_cases digit : Decimal.isDigit c <;> simp [digit, ih]

theorem splitSign_append (c : Char) (text rest : List Char) :
    Decimal.splitSign (c :: text ++ rest) =
      ((Decimal.splitSign (c :: text)).1, (Decimal.splitSign (c :: text)).2 ++ rest) := by
  by_cases minus : c = '-'
  · simp [Decimal.splitSign, minus]
  · by_cases plus : c = '+' <;> simp [Decimal.splitSign, minus, plus]

theorem readExponent?_append (text rest after : List Char) (power : Int) (stops : Stops rest)
    (read : readExponent? text = some (power, after)) :
    readExponent? (text ++ rest) = some (power, after ++ rest) := by
  cases text with
  | nil =>
      obtain ⟨rfl, rfl⟩ : 0 = power ∧ [] = after := by simpa [readExponent?] using read
      cases rest with
      | nil => rfl
      | cons c rest => simp [readExponent?, (stops c rfl).2.2]
  | cons mark text =>
      by_cases marked : (mark = 'e' || mark = 'E') = true
      · cases text with
        | nil => simp [readExponent?, marked, Decimal.splitSign] at read
        | cons c text =>
            simp only [readExponent?, marked, if_true] at read
            simp only [readExponent?, List.cons_append, marked, if_true]
            rw [← List.cons_append, splitSign_append, takeWhile_stops _ _ stops,
              dropWhile_stops _ _ stops]
            split at read
            next => cases read
            next some =>
              rw [if_neg some]
              obtain ⟨rfl, rfl⟩ := Prod.mk.inj (Option.some.inj read)
              rfl
      · simp only [readExponent?, marked, Bool.false_eq_true, if_false] at read
        obtain ⟨rfl, rfl⟩ := Prod.mk.inj (Option.some.inj read)
        simp [readExponent?, marked]

theorem finishFloat?_append (negative : Bool) (significand : Nat) (exponent : Int)
    (text rest after : List Char) (number : Option Json) (stops : Stops rest)
    (read : finishFloat? negative significand exponent text = some (number, after)) :
    finishFloat? negative significand exponent (text ++ rest) = some (number, after ++ rest) := by
  simp only [finishFloat?, Option.bind_eq_bind, Option.bind_eq_some_iff] at read
  obtain ⟨⟨power, behind⟩, found, result⟩ := read
  simp only [finishFloat?, readExponent?_append text rest behind power stops found,
    Option.bind_eq_bind, Option.bind_some]
  split at result
  next far =>
    obtain ⟨rfl, rfl⟩ := Prod.mk.inj (Option.some.inj result)
    rw [if_pos far]
    rfl
  next near =>
    obtain ⟨rfl, rfl⟩ := Prod.mk.inj (Option.some.inj result)
    rw [if_neg near]
    rfl

theorem finishWhole_append (negative : Bool) (significand dropped : Nat)
    (text rest after : List Char) (number : Option Json)
    (read : finishWhole negative significand dropped text = (number, after)) :
    finishWhole negative significand dropped (text ++ rest) = (number, after ++ rest) := by
  have kept (behind : List Char) : finishWhole negative significand dropped behind =
      ((finishWhole negative significand dropped []).1, behind) := by
    unfold finishWhole
    split_ifs <;> rfl
  rw [kept] at read
  obtain ⟨rfl, rfl⟩ := Prod.mk.inj read
  exact kept (text ++ rest)

def readTail? (negative : Bool) (significand dropped : Nat) (behind : List Char) :
    Option (Option Json × List Char) :=
  match behind with
  | '.' :: after =>
    let fraction := after.takeWhile Decimal.isDigit
    if fraction.isEmpty then none
    else
      let (significand, taken, _) := takeDigits significand 0 fraction
      finishFloat? negative significand (dropped - taken) (after.dropWhile Decimal.isDigit)
  | mark :: _ =>
    if mark = 'e' || mark = 'E' then finishFloat? negative significand dropped behind
    else some (finishWhole negative significand dropped behind)
  | [] => some (finishWhole negative significand dropped behind)

theorem readTail?_of_ne (negative : Bool) (significand dropped : Nat) (mark : Char)
    (more : List Char) (other : mark ≠ '.') :
    readTail? negative significand dropped (mark :: more) =
      if mark = 'e' ∨ mark = 'E' then finishFloat? negative significand dropped (mark :: more)
      else some (finishWhole negative significand dropped (mark :: more)) := by
  unfold readTail?
  split
  next same =>
    cases same
    exact absurd rfl other
  next same =>
    cases same
    simp
  next same => cases same

theorem readTail?_append (negative : Bool) (significand dropped : Nat)
    (behind rest after : List Char) (number : Option Json) (stops : Stops rest)
    (read : readTail? negative significand dropped behind = some (number, after)) :
    readTail? negative significand dropped (behind ++ rest) = some (number, after ++ rest) := by
  cases behind with
  | nil =>
      have whole := finishWhole_append _ _ _ [] rest after number (Option.some.inj read)
      cases rest with
      | nil => exact congrArg some whole
      | cons c rest =>
          obtain ⟨-, point, lower, upper⟩ := stops c rfl
          rw [List.nil_append, readTail?_of_ne _ _ _ _ _ point, if_neg (by simp [lower, upper])]
          exact congrArg some whole
  | cons mark more =>
      by_cases point : mark = '.'
      · subst point
        simp only [readTail?, List.cons_append] at read ⊢
        rw [takeWhile_stops _ _ stops, dropWhile_stops _ _ stops]
        split at read
        next => cases read
        next some =>
          rw [if_neg some]
          exact finishFloat?_append _ _ _ _ rest after number stops read
      · rw [readTail?_of_ne _ _ _ _ _ point] at read
        rw [List.cons_append, readTail?_of_ne _ _ _ _ _ point, ← List.cons_append]
        split at read
        next marked =>
          rw [if_pos marked]
          exact finishFloat?_append _ _ _ _ rest after number stops read
        next unmarked =>
          rw [if_neg unmarked]
          exact congrArg some (finishWhole_append _ _ _ _ rest after number (Option.some.inj read))

theorem readNumber?_eq (text : List Char) :
    readNumber? text =
      let negative := text.head? = some '-'
      let body := if negative then text.drop 1 else text
      let whole := body.takeWhile Decimal.isDigit
      if whole.isEmpty || (whole.head? = some '0' && whole.length > 1) then none
      else readTail? negative (takeDigits 0 0 whole).1 (takeDigits 0 0 whole).2.2
        (body.dropWhile Decimal.isDigit) := rfl

/-- A number is read as such whatever stands behind it. -/
theorem readNumber?_append (text rest after : List Char) (number : Option Json) (stops : Stops rest)
    (read : readNumber? text = some (number, after)) :
    readNumber? (text ++ rest) = some (number, after ++ rest) := by
  cases text with
  | nil => simp [readNumber?] at read
  | cons c text =>
      have body : (if (c :: text ++ rest).head? = some '-' then (c :: text ++ rest).drop 1
            else c :: text ++ rest) =
          (if (c :: text).head? = some '-' then (c :: text).drop 1 else c :: text) ++ rest := by
        by_cases minus : c = '-' <;> simp [minus]
      have head : (c :: text ++ rest).head? = (c :: text).head? := rfl
      simp only [readNumber?_eq, head] at read body ⊢
      rw [body, takeWhile_stops _ _ stops, dropWhile_stops _ _ stops]
      generalize (if (c :: text).head? = some '-' then (c :: text).drop 1 else c :: text) = digits
        at read ⊢
      split at read
      next => cases read
      next some =>
        rw [if_neg some]
        exact readTail?_append _ _ _ _ rest after number stops read

theorem start_of_readNumber? (text : List Char) (result : Option Json × List Char)
    (read : readNumber? text = some result) :
    ∃ c more, text = c :: more ∧ (c = '-' ∨ Decimal.isDigit c = true) := by
  cases text with
  | nil => simp [readNumber?] at read
  | cons c more =>
      refine ⟨c, more, rfl, ?_⟩
      by_contra other
      obtain ⟨minus, digit⟩ := not_or.mp other
      simp [readNumber?, minus, digit] at read

theorem readValue?_number (fuel : Nat) (text : List Char) (c : Char) (more : List Char)
    (skipped : skipSpace text = c :: more) (start : c = '-' ∨ Decimal.isDigit c = true) :
    readValue? (fuel + 1) text =
      (readNumber? (c :: more)).map fun (number, rest) => (.leaf number, rest) := by
  have other (d : Char) (plain : d ≠ '-' ∧ Decimal.isDigit d = false) : c ≠ d := by
    rintro rfl
    simp [plain] at start
  unfold readValue?
  rw [skipped]
  split
  next same => exact absurd (List.cons.inj same).1 (other 'n' (by decide))
  next same => exact absurd (List.cons.inj same).1 (other 't' (by decide))
  next same => exact absurd (List.cons.inj same).1 (other 'f' (by decide))
  next same => exact absurd (List.cons.inj same).1 (other '"' (by decide))
  next same => exact absurd (List.cons.inj same).1 (other '[' (by decide))
  next same =>
    obtain ⟨rfl, rfl⟩ := List.cons.inj same
    rw [if_neg (other '\x7b' (by decide))]
  next same => cases same

theorem leaf_of_numeral (written : Written) (value : Json)
    (settled : written.document? = some value) (numeral : value.asFloat?.isSome) :
    written = .leaf (some value) := by
  cases written with
  | leaf found => exact congrArg Written.leaf settled
  | array items =>
      simp only [Written.document?, Written.levelBound, Written.settled?] at settled
      obtain ⟨_, -, rfl⟩ := Option.map_eq_some_iff.mp settled
      cases numeral
  | object fields =>
      simp only [Written.document?, Written.levelBound, Written.settled?] at settled
      obtain ⟨_, -, rfl⟩ := Option.map_eq_some_iff.mp settled
      cases numeral

theorem number_of_readValue? (fuel : Nat) (text rest : List Char) (value : Json)
    (read : readValue? (fuel + 1) text = some (.leaf (some value), rest))
    (numeral : value.asFloat?.isSome) :
    readNumber? (skipSpace text) = some (some value, rest) := by
  unfold readValue? at read
  split at read
  iterate 3
    next =>
      obtain ⟨⟨⟩, -⟩ := Prod.mk.inj (Option.some.inj read)
      cases numeral
  next =>
    obtain ⟨⟨chars, behind⟩, -, same⟩ := Option.map_eq_some_iff.mp read
    obtain ⟨leaf, -⟩ := Prod.mk.inj same
    obtain ⟨text, -, rfl⟩ := Option.map_eq_some_iff.mp (Written.leaf.inj leaf)
    cases numeral
  next =>
    split at read
    next => cases read
    next =>
      obtain ⟨items, -, same⟩ := Option.map_eq_some_iff.mp read
      cases same
  next c behind _ _ _ _ _ skipped =>
    rw [skipped]
    split at read
    next =>
      split at read
      next => cases read
      next =>
        split at read
        next => cases read
        next =>
          obtain ⟨fields, -, same⟩ := Option.map_eq_some_iff.mp read
          cases same
    next =>
      obtain ⟨⟨number, behind⟩, found, same⟩ := Option.map_eq_some_iff.mp read
      obtain ⟨leaf, rfl⟩ := Prod.mk.inj same
      obtain rfl := Written.leaf.inj leaf
      exact found
  next => cases read

end Json
end RelationalLearning
