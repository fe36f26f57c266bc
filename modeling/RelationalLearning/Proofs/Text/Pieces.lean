import Mathlib.Data.List.Infix
import RelationalLearning.Text.Pieces

namespace RelationalLearning.Text

theorem stripStart?_eq_some (start text rest : List Char) :
    stripStart? start text = some rest ↔ text = start ++ rest := by
  induction start generalizing text with
  | nil => simp [stripStart?]
  | cons s start ih =>
      cases text with
      | nil => simp [stripStart?]
      | cons c text =>
          by_cases same : s = c
          · simp [stripStart?, same, ih]
          · have other : c ≠ s := fun h => same h.symm
            simp [stripStart?, same, other]

theorem cutAt?_eq_none (mark text : List Char) : cutAt? mark text = none ↔ ¬ mark <:+: text := by
  induction text with
  | nil => by_cases empty : mark = [] <;> simp [cutAt?, empty]
  | cons c text ih =>
      simp only [cutAt?, List.infix_cons_iff, not_or]
      split
      next rest found =>
        have start : mark <+: c :: text :=
          ⟨rest, ((stripStart?_eq_some mark (c :: text) rest).mp found).symm⟩
        simp [start]
      next missing =>
        have absent : ¬ mark <+: c :: text := by
          rintro ⟨rest, same⟩
          rw [(stripStart?_eq_some mark (c :: text) rest).mpr same.symm] at missing
          exact absurd missing (by simp)
        simp [absent, ih]

theorem contains_eq_false (text part : String) :
    contains text part = false ↔ ¬ part.toList <:+: text.toList := by
  rw [contains, ← cutAt?_eq_none]
  cases cutAt? part.toList text.toList <;> simp

theorem contains_around (between : Char) (text before after part : String)
    (spelled : text.toList = before.toList ++ between :: after.toList)
    (apart : between ∉ part.toList) (left : contains before part = false)
    (right : contains after part = false) : contains text part = false := by
  rw [contains_eq_false] at left right ⊢
  rw [spelled, List.infix_append_iff_ne_nil, List.infix_cons_iff]
  rintro (inside | (start | inside) | ⟨first, second, -, nonempty, same, -, start⟩)
  · exact left inside
  · rcases List.prefix_cons_iff.mp start with none | ⟨rest, same, -⟩
    · exact left (none ▸ List.nil_infix)
    · exact apart (same ▸ List.mem_cons_self)
  · exact right inside
  · rcases List.prefix_cons_iff.mp start with none | ⟨rest, rfl, -⟩
    · exact nonempty none
    · exact apart (same ▸ List.mem_append_right first List.mem_cons_self)

/-- A mark that started inside a text and ended behind it would have its first character twice. -/
theorem not_prefix_append (first : Char) (mark text rest : List Char) (once : first ∉ mark)
    (absent : ¬ (first :: mark) <:+: text) (nonempty : text ≠ []) :
    ¬ (first :: mark) <+: text ++ (first :: mark ++ rest) := by
  rintro ⟨after, same⟩
  rcases List.append_eq_append_iff.mp same with ⟨left, same, -⟩ | ⟨left, same, behind⟩
  · exact absent (same ▸ (List.prefix_append (first :: mark) left).isInfix)
  · cases text with
    | nil => exact nonempty rfl
    | cons c text =>
        obtain ⟨rfl, rfl⟩ : first = c ∧ mark = text ++ left := by simpa using same
        cases left with
        | nil => exact absent (by simp)
        | cons d left =>
            have twice : first = d := by simpa using congrArg List.head? behind
            exact once (by simp [twice])

theorem cutAt?_append (first : Char) (mark text rest : List Char) (once : first ∉ mark)
    (absent : ¬ (first :: mark) <:+: text) :
    cutAt? (first :: mark) (text ++ (first :: mark ++ rest)) = some (text, rest) := by
  induction text with
  | nil =>
      have start : stripStart? (first :: mark) (first :: (mark ++ rest)) = some rest :=
        (stripStart?_eq_some _ _ _).mpr rfl
      simp [cutAt?, start]
  | cons c text ih =>
      have missing : stripStart? (first :: mark) (c :: text ++ (first :: mark ++ rest)) = none := by
        rw [Option.eq_none_iff_forall_ne_some]
        intro after found
        refine not_prefix_append first mark (c :: text) rest once absent (by simp) ⟨after, ?_⟩
        exact ((stripStart?_eq_some _ _ after).mp found).symm
      have later := ih fun within => absent (List.infix_cons within)
      simp only [List.cons_append] at missing later
      simp [cutAt?, missing, later]

theorem pieces_uncut (first : Char) (mark text : List Char)
    (missing : cutAt? (first :: mark) text = none) : pieces first mark text = [text] := by
  rw [pieces]
  split
  next => rfl
  next before after found =>
    rw [missing] at found
    exact absurd found (by simp)

theorem pieces_cut (first : Char) (mark text before after : List Char)
    (found : cutAt? (first :: mark) text = some (before, after)) :
    pieces first mark text = before :: pieces first mark after := by
  rw [pieces]
  split
  next missing =>
    rw [found] at missing
    exact absurd missing (by simp)
  next cut =>
    rw [found] at cut
    obtain ⟨rfl, rfl⟩ : before = _ ∧ after = _ := by simpa using cut
    rfl

theorem pieces_intercalate (first : Char) (mark : List Char) (once : first ∉ mark)
    (parts : List (List Char)) (nonempty : parts ≠ [])
    (absent : ∀ part ∈ parts, ¬ (first :: mark) <:+: part) :
    pieces first mark ((first :: mark).intercalate parts) = parts := by
  induction parts with
  | nil => exact absurd rfl nonempty
  | cons part parts ih =>
      cases parts with
      | nil =>
          rw [List.intercalate_singleton]
          exact pieces_uncut first mark part ((cutAt?_eq_none _ part).mpr (absent part (by simp)))
      | cons next parts =>
          have cut := cutAt?_append first mark part
            ((first :: mark).intercalate (next :: parts)) once
            (absent part (by simp))
          rw [List.intercalate_cons_cons, List.append_assoc, pieces_cut first mark _ _ _ cut]
          rw [ih (by simp) fun other member => absent other (by simp [member])]

theorem cutAt?_eq_some (mark text before after : List Char) (nonempty : mark ≠ [])
    (found : cutAt? mark text = some (before, after)) :
    text = before ++ (mark ++ after) ∧ ¬ mark <:+: before := by
  induction text generalizing before with
  | nil => simp [cutAt?, nonempty] at found
  | cons c text ih =>
      simp only [cutAt?] at found
      split at found
      next rest start =>
        obtain ⟨rfl, rfl⟩ : [] = before ∧ rest = after := by simpa using found
        exact ⟨(stripStart?_eq_some mark (c :: text) rest).mp start, by simpa using nonempty⟩
      next missing =>
        obtain ⟨⟨front, behind⟩, later, same⟩ := Option.map_eq_some_iff.mp found
        obtain ⟨rfl, rfl⟩ : c :: front = before ∧ behind = after := by simpa using same
        obtain ⟨rfl, absent⟩ := ih front later
        refine ⟨rfl, fun within => ?_⟩
        rcases List.infix_cons_iff.mp within with ⟨rest, start⟩ | inside
        · have stripped := (stripStart?_eq_some mark (c :: (front ++ (mark ++ behind)))
            (rest ++ (mark ++ behind))).mpr (by simp [← List.append_assoc, start])
          rw [missing] at stripped
          exact absurd stripped (by simp)
        · exact absent inside

theorem pieces_ne_nil (first : Char) (mark text : List Char) : pieces first mark text ≠ [] := by
  cases found : cutAt? (first :: mark) text with
  | none => simp [pieces_uncut first mark text found]
  | some cut => simp [pieces_cut first mark text cut.1 cut.2 found]

theorem intercalate_pieces (first : Char) (mark text : List Char) :
    (first :: mark).intercalate (pieces first mark text) = text := by
  induction text using pieces.induct first mark with
  | case1 text missing =>
      rw [pieces_uncut first mark text missing, List.intercalate_singleton]
  | case2 text before after found _ ih =>
      rw [pieces_cut first mark text before after found,
        List.intercalate_cons_of_ne_nil (pieces_ne_nil first mark after), ih, List.append_assoc]
      exact (cutAt?_eq_some _ text before after (by simp) found).1.symm

theorem not_infix_of_mem_pieces (first : Char) (mark text part : List Char)
    (member : part ∈ pieces first mark text) : ¬ (first :: mark) <:+: part := by
  induction text using pieces.induct first mark with
  | case1 text missing =>
      rw [pieces_uncut first mark text missing, List.mem_singleton] at member
      exact member ▸ (cutAt?_eq_none _ text).mp missing
  | case2 text before after found _ ih =>
      rw [pieces_cut first mark text before after found, List.mem_cons] at member
      rcases member with rfl | member
      · exact (cutAt?_eq_some _ text part after (by simp) found).2
      · exact ih member

theorem join_splitOn (separator text : String) : join separator (splitOn text separator) = text := by
  rw [join, ← String.toList_inj, String.toList_intercalate]
  cases spelled : separator.toList with
  | nil => simp [splitOn, spelled]
  | cons first mark =>
      simp only [splitOn, spelled, List.map_map]
      simpa [Function.comp_def] using intercalate_pieces first mark text.toList

theorem contains_of_mem_splitOn (separator text part : String) (nonempty : separator ≠ "")
    (member : part ∈ splitOn text separator) : contains part separator = false := by
  rw [contains_eq_false]
  cases spelled : separator.toList with
  | nil => exact absurd (String.toList_eq_nil_iff.mp spelled) nonempty
  | cons first mark =>
      simp only [splitOn, spelled, List.mem_map] at member
      obtain ⟨chars, cut, rfl⟩ := member
      simpa using not_infix_of_mem_pieces first mark text.toList chars cut

/-- The separator may start with a character that stands in it only once. -/
theorem splitOn_join (separator : String) (first : Char) (mark : List Char)
    (spelled : separator.toList = first :: mark) (once : first ∉ mark) (parts : List String)
    (nonempty : parts ≠ []) (absent : ∀ part ∈ parts, contains part separator = false) :
    splitOn (join separator parts) separator = parts := by
  have cut := pieces_intercalate first mark once (parts.map String.toList) (by simpa using nonempty)
    (by
    intro part member
    obtain ⟨text, present, rfl⟩ := List.mem_map.mp member
    rw [← spelled, ← contains_eq_false]
    exact absent text present)
  simp only [splitOn, spelled, join, String.toList_intercalate, cut, List.map_map]
  simp [Function.comp_def]

theorem splitOn_join_iff (separator : String) (first : Char) (mark : List Char)
    (spelled : separator.toList = first :: mark) (once : first ∉ mark) (parts : List String)
    (nonempty : parts ≠ []) :
    splitOn (join separator parts) separator = parts ↔
      ∀ part ∈ parts, contains part separator = false := by
  refine ⟨fun read part member => ?_, splitOn_join separator first mark spelled once parts nonempty⟩
  have marked : separator ≠ "" := by
    rintro rfl
    simp at spelled
  exact contains_of_mem_splitOn separator (join separator parts) part marked (read.symm ▸ member)

theorem after?_append (start rest : String) : after? start (start ++ rest) = some rest := by
  have found := (stripStart?_eq_some start.toList (start ++ rest).toList rest.toList).mpr (by simp)
  rw [after?, found]
  simp

theorem before?_append (stop rest : String) : before? stop (rest ++ stop) = some rest := by
  have found :=
    (stripStart?_eq_some stop.toList.reverse (rest ++ stop).toList.reverse rest.toList.reverse).mpr
    (by simp)
  rw [before?, found]
  simp

theorem after?_eq_some (start text rest : String) :
    after? start text = some rest ↔ text = start ++ rest := by
  constructor
  · intro found
    obtain ⟨chars, stripped, rfl⟩ := Option.map_eq_some_iff.mp found
    rw [← String.toList_inj, (stripStart?_eq_some _ _ _).mp stripped]
    simp
  · rintro rfl
    exact after?_append start rest

theorem before?_eq_some (stop text rest : String) :
    before? stop text = some rest ↔ text = rest ++ stop := by
  constructor
  · intro found
    obtain ⟨chars, stripped, rfl⟩ := Option.map_eq_some_iff.mp found
    have reversed := (stripStart?_eq_some _ _ _).mp stripped
    rw [← String.toList_inj, ← List.reverse_inj, reversed]
    simp
  · rintro rfl
    exact before?_append stop rest

end RelationalLearning.Text
