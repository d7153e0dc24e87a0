import Mathlib

/-!
# A line of a terminal

What a terminal shows in the line of the cursor when printable characters and backspaces are written
to it.  A backspace only moves the cursor, so erasing a character takes three bytes: `erase`.
`Line.Shows` says that the line shows a text, with nothing but blanks behind it, and that the cursor
stands behind the text.  The line is as wide as it has to be.
-/

namespace Foundation

/-- The backspace character. -/
def backspace : UInt8 := 8

/-- The blank. -/
def blank : UInt8 := 32

/-- The line of the cursor. -/
structure Line where
  /-- The characters, as far as any have been written. -/
  cells : List UInt8
  cursor : ℕ
deriving DecidableEq, Repr

namespace Line

/-- Write a character. -/
def put (l : Line) (c : UInt8) : Line :=
  if c = backspace then { l with cursor := l.cursor - 1 }
  else if l.cursor < l.cells.length then ⟨l.cells.set l.cursor c, l.cursor + 1⟩
  else ⟨l.cells ++ [c], l.cells.length + 1⟩

/-- Write a string. -/
def write (l : Line) (s : List UInt8) : Line := s.foldl put l

/-- The empty line. -/
def empty : Line := ⟨[], 0⟩

/-- What is written to erase the last character. -/
def erase : List UInt8 := [backspace, blank, backspace]

/-- The line shows this text, and the cursor stands behind it. -/
def Shows (l : Line) (text : List UInt8) : Prop :=
  ∃ k, l = ⟨text ++ List.replicate k blank, text.length⟩

/-- Writing one string behind another one. -/
lemma write_append (l : Line) (s t : List UInt8) : l.write (s ++ t) = (l.write s).write t :=
  List.foldl_append

/-- The empty line shows the empty text. -/
lemma shows_empty : empty.Shows [] := ⟨0, rfl⟩

/-- A character that is written appears behind the text. -/
lemma Shows.put {l : Line} {text : List UInt8} (h : l.Shows text) {c : UInt8}
    (hc : c ≠ backspace) : (l.put c).Shows (text ++ [c]) := by
  obtain ⟨k, rfl⟩ := h
  rcases k with _ | k
  · exact ⟨0, by simp [Line.put, hc]⟩
  · refine ⟨k, ?_⟩
    simp [Line.put, hc, List.replicate_succ]

/-- A string that is written appears behind the text. -/
lemma Shows.write {l : Line} {text s : List UInt8} (h : l.Shows text) (hs : backspace ∉ s) :
    (l.write s).Shows (text ++ s) := by
  induction s generalizing l text with
  | nil => simpa [Line.write] using h
  | cons c s ih =>
    rw [List.mem_cons, not_or] at hs
    have hrest := ih (h.put (Ne.symm hs.1)) hs.2
    rwa [List.append_assoc, List.singleton_append] at hrest

/-- The last character of the text is erased. -/
lemma Shows.erase {l : Line} {text : List UInt8} {c : UInt8} (h : l.Shows (text ++ [c])) :
    (l.write erase).Shows text := by
  obtain ⟨k, rfl⟩ := h
  refine ⟨k + 1, ?_⟩
  have hback : blank ≠ backspace := by decide
  simp [Line.write, Line.erase, Line.put, hback, List.replicate_succ]

end Line

end Foundation
