/-
# NodeSettings.Proofs.Messages -- messages keep what they say

A place is taken off a message only where the message ends in one
(`Notice.ofText`).  What is wrong with an item ends in the name of the kind that
was wanted, and none of these names ends in a place; so nothing is taken off, in
either of the two rounds, whatever the quoted text of the document contains
(`Mismatch.notice_eq`).
-/
import Mathlib.Data.List.Basic
import NodeSettings.Mismatch

namespace NodeSettings

set_option autoImplicit false

theorem Wanted.text_ending (wanted : Wanted) :
    ∃ front c digits, wanted.text.toList = front ++ c :: digits ∧ c ≠ ' ' ∧
      c.isDigit = false ∧ digits.all Char.isDigit = true := by
  cases wanted with
  | object => exact ⟨"an objec".toList, 't', [], by decide⟩
  | string => exact ⟨"a strin".toList, 'g', [], by decide⟩
  | list => exact ⟨"a sequenc".toList, 'e', [], by decide⟩
  | integer => exact ⟨[], 'i', ['6', '4'], by decide⟩

namespace Notice

/-! ## Places -/

theorem append_of_cutLast? {mark text before after : List Char}
    (found : cutLast? mark text = some (before, after)) : text = before ++ (mark ++ after) := by
  induction text generalizing before with
  | nil => cases found
  | cons c rest ih =>
      rw [cutLast?] at found
      cases later : cutLast? mark rest with
      | some cut =>
          obtain ⟨front, back⟩ := cut
          simp only [later, Option.some.injEq, Prod.mk.injEq] at found
          obtain ⟨rfl, rfl⟩ := found
          rw [List.cons_append, ← ih later]
      | none =>
          simp only [later, Option.map_eq_some_iff, Prod.mk.injEq] at found
          obtain ⟨back, here, rfl, rfl⟩ := found
          rw [← List.append_eq_of_isPrefixOf?_eq_some here, List.nil_append]

/-- A text with a place at its end ends in digits after a space. -/
theorem digits_of_placed? {text before : List Char} {place : Position}
    (placed : placed? text = some (before, place)) :
    ∃ front digits, text = front ++ ' ' :: digits ∧ digits.all Char.isDigit = true := by
  simp only [placed?, Option.bind_eq_bind, Option.bind_eq_some_iff] at placed
  obtain ⟨⟨front, after⟩, cut, column, found, digits⟩ := placed
  by_cases all : column.all Char.isDigit = true
  · have shape := append_of_cutLast? cut
    have marked := List.append_eq_of_isPrefixOf?_eq_some found
    refine ⟨front ++ (lineMark ++ (after.takeWhile Char.isDigit ++ " column".toList)), column,
      ?_, all⟩
    have halves : after = after.takeWhile Char.isDigit ++ (columnMark ++ column) := by
      rw [marked, List.takeWhile_append_dropWhile]
    have spaced : columnMark ++ column = " column".toList ++ ' ' :: column := rfl
    rw [shape, List.append_assoc, List.append_assoc, List.append_assoc, ← spaced, ← halves]
  · rw [if_neg all] at digits
    cases digits

/-- A text that ends in a character which is neither a digit nor a space, with
digits after it or not, has no place at its end. -/
theorem placed?_eq_none {front digits : List Char} {c : Char} (solid : c ≠ ' ')
    (noDigit : c.isDigit = false) (all : digits.all Char.isDigit = true) :
    placed? (front ++ c :: digits) = none := by
  apply Option.eq_none_iff_forall_ne_some.mpr
  intro found placed
  obtain ⟨front', digits', shape, all'⟩ := digits_of_placed? placed
  have last (front : List Char) {digits : List Char} {c : Char} (noDigit : c.isDigit = false)
      (all : digits.all Char.isDigit = true) :
      ((front ++ c :: digits).reverse.dropWhile Char.isDigit).head? = some c := by
    have each : ∀ d ∈ digits.reverse, d.isDigit = true := by
      simpa using all
    rw [List.reverse_append, List.reverse_cons, List.append_assoc,
      List.dropWhile_append_of_pos each]
    simp [noDigit]
  have same := last front noDigit all
  rw [shape, last front' (by decide) all', Option.some.injEq] at same
  exact solid same.symm

/-- Nothing is taken off a message that ends in the name of a kind. -/
theorem ofText_wanted (front : String) (wanted : Wanted) :
    ofText (front ++ wanted.text) = ⟨front ++ wanted.text, none⟩ := by
  obtain ⟨middle, c, digits, shape, solid, noDigit, all⟩ := wanted.text_ending
  have none : placed? (front ++ wanted.text).toList = none := by
    rw [String.toList_append, shape, ← List.append_assoc]
    exact placed?_eq_none solid noDigit all
  simp only [ofText, none]

end Notice

namespace Mismatch

/-- The message about a mismatch: the path of its item, if it has one, and what is
wrong. -/
def message (m : Mismatch) : String :=
  match m.item.path? with
  | none => m.what
  | some path => path ++ ": " ++ m.what

theorem what_eq (m : Mismatch) :
    m.what = m.complaint ++ ": " ++ m.found.text m.item.layout ++ ", expected " ++
      m.item.wanted.text := by
  simp only [what, String.append_assoc]
  rfl

/-- **A message about a mismatch is handed on whole**, without a place. -/
theorem notice_eq (m : Mismatch) : m.notice = ⟨m.message, none⟩ := by
  have whole : Notice.ofText m.what = ⟨m.what, none⟩ := by
    rw [what_eq]
    exact Notice.ofText_wanted _ _
  rw [notice, message, whole]
  cases m.item.path? with
  | none => rfl
  | some path =>
      have shape : s!"{path}: {Notice.text ⟨m.what, none⟩}" =
          path ++ ": " ++ (m.complaint ++ ": " ++ m.found.text m.item.layout ++ ", expected ") ++
            m.item.wanted.text := by
        simp only [Notice.text, what_eq, String.append_assoc]
        rfl
      have same : path ++ ": " ++ m.what =
          path ++ ": " ++ (m.complaint ++ ": " ++ m.found.text m.item.layout ++ ", expected ") ++
            m.item.wanted.text := by
        simp only [what_eq, String.append_assoc]
      simp only [shape, same]
      exact Notice.ofText_wanted _ _

theorem text_eq (m : Mismatch) : m.text = m.message := by
  rw [text, notice_eq]
  rfl

end Mismatch

end NodeSettings
