/-!
Capital letters.

A spelling is compared through its capital form.  Names that are compared with it consist of
ASCII letters, so only characters whose capital form is ASCII have to be replaced: the small ASCII
letters and ten others.
-/

namespace LineCursor.Text

/-- The capital form of a character, if that form is made of ASCII letters; others stay as they are.
-/
def capital (c : Char) : List Char :=
  match c with
  | 'ı' => ['I']
  | 'ſ' => ['S']
  | 'ß' => ['S', 'S']
  | 'ﬀ' => ['F', 'F']
  | 'ﬁ' => ['F', 'I']
  | 'ﬂ' => ['F', 'L']
  | 'ﬃ' => ['F', 'F', 'I']
  | 'ﬄ' => ['F', 'F', 'L']
  | 'ﬅ' => ['S', 'T']
  | 'ﬆ' => ['S', 'T']
  | c => [c.toUpper]

/-- The capital form of a text. -/
def capitals (s : List Char) : List Char :=
  s.flatMap capital

end LineCursor.Text
