import LineCursor.Datum

/-!
The test cases that every benchmark has: no text, many short lines, few long lines, and lines with
two characters for terminator.
-/

namespace LineCursor.Bench

/-- The texts for the numbers below `count`, one behind the other. -/
def numbered (count : Nat) (line : Nat → String) : String :=
  String.join ((List.range count).map line)

/-- Test cases by name, in order of registration. -/
def standardCases : Entries :=
  let longLine := String.join (List.replicate 500 "token ")
  [("empty", .str ""),
   ("short_lines", .str (numbered 2000 fun i => s!"x = {i}\n")),
   ("long_lines", .str ("\n".intercalate (List.replicate 20 longLine))),
   ("crlf_lines", .str (numbered 1000 fun i => s!"rule_{i} ::= <a> | <b>\r\n"))]

end LineCursor.Bench
