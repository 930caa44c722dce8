/-!
Splitting text into lines.

A line keeps the terminator at its end.  Where a line ends is decided by a character and the one
behind it (`splitAfter`), so nothing is lost and no line is empty:

    (splitAfter ends s).flatten = s
-/

namespace LineCursor.Text

section Split

variable {α : Type}

/-- Puts an element in front of the lines behind it. -/
def attach (ends : α → Option α → Bool) (a : α) : List (List α) → List (List α)
  | [] => [[a]]
  | line :: lines => if ends a line.head? then [a] :: line :: lines else (a :: line) :: lines

/-- Splits behind each element `a` with `ends a next`, where `next` is the element behind it. -/
def splitAfter (ends : α → Option α → Bool) (s : List α) : List (List α) :=
  s.foldr (attach ends) []

theorem flatten_attach (ends : α → Option α → Bool) (a : α) (lines : List (List α)) :
    (attach ends a lines).flatten = a :: lines.flatten := by
  cases lines with
  | nil => rfl
  | cons line lines => simp only [attach]; split <;> simp

theorem flatten_splitAfter (ends : α → Option α → Bool) (s : List α) :
    (splitAfter ends s).flatten = s := by
  induction s with
  | nil => rfl
  | cons a s ih => rw [splitAfter, List.foldr_cons, flatten_attach, ← splitAfter, ih]

end Split

/-- How a text file treats line terminators. -/
inductive Newlines where
  /-- A line ends at a line feed. -/
  | lineFeed
  /-- A line ends at a line feed, a carriage return, or one behind the other. -/
  | any
  /-- Each such terminator is read as a line feed. -/
  | unified
  /-- A line feed is kept as a carriage return, and a line ends there. -/
  | carriageReturn
  /-- A line feed is kept as carriage return and line feed, and a line ends behind the two. -/
  | both
deriving DecidableEq, Repr

namespace Newlines

/-- The text with all its terminators as line feeds. -/
def unify : List Char → List Char
  | '\r' :: '\n' :: rest => '\n' :: unify rest
  | '\r' :: rest => '\n' :: unify rest
  | c :: rest => c :: unify rest
  | [] => []

/-- A text as the file keeps it. -/
def kept (mode : Newlines) (s : List Char) : List Char :=
  match mode with
  | lineFeed | any => s
  | unified => unify s
  | carriageReturn => s.map fun c => if c = '\n' then '\r' else c
  | both => s.flatMap fun c => if c = '\n' then ['\r', '\n'] else [c]

/-- Whether a line of a kept text ends between a character and the next one. -/
def ends (mode : Newlines) (c : Char) (next : Option Char) : Bool :=
  match mode with
  | lineFeed | unified | both => c == '\n'
  | any => c == '\n' || c == '\r' && next != some '\n'
  | carriageReturn => c == '\r'

/-- The lines that a file gives for a text. -/
def lines (mode : Newlines) (s : List Char) : List (List Char) :=
  splitAfter mode.ends (mode.kept s)

end Newlines

end LineCursor.Text
