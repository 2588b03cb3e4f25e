/-!
# Lines

A line ends at a line feed, and a carriage return right before that line feed
belongs to the line end.  The last line needs no line end, and a text that ends
with one has no empty line after it.
-/

namespace TopicBridge.Text

/-- The lines of a text, without their line ends. -/
def lines : List Char → List (List Char)
  | [] => []
  | '\r' :: '\n' :: rest => [] :: lines rest
  | '\n' :: rest => [] :: lines rest
  | c :: rest =>
      match lines rest with
      | [] => [[c]]
      | line :: later => (c :: line) :: later

@[simp]
theorem lines_nil : lines [] = [] := by
  simp [lines]

/-- A line feed at the start ends an empty line. -/
@[simp]
theorem lines_newline (rest : List Char) : lines ('\n' :: rest) = [] :: lines rest := by
  simp [lines]

end TopicBridge.Text
