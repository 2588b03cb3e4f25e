/-!
# Blank characters, trimming and words

A blank is a character with the Unicode property `White_Space`.  Trimming
removes blanks at both ends of a text, and the words of a text are its maximal
runs of characters that are not blank.  Texts are lists of characters here, so
that the laws below are ordinary list inductions.
-/

namespace TopicBridge.Text

/-- The code points with the property `White_Space`, as inclusive ranges in
ascending order. -/
def blankRanges : List (Nat × Nat) :=
  [(0x0009, 0x000D), (0x0020, 0x0020), (0x0085, 0x0085), (0x00A0, 0x00A0),
   (0x1680, 0x1680), (0x2000, 0x200A), (0x2028, 0x2029), (0x202F, 0x202F),
   (0x205F, 0x205F), (0x3000, 0x3000)]

/-- The character has the property `White_Space`. -/
def isBlank (c : Char) : Bool :=
  blankRanges.any fun range => range.1 ≤ c.toNat && c.toNat ≤ range.2

/-- Drop the blanks before the first character that is not blank. -/
def trimStart (cs : List Char) : List Char :=
  cs.dropWhile isBlank

/-- Drop the blanks after the last character that is not blank. -/
def trimEnd (cs : List Char) : List Char :=
  (trimStart cs.reverse).reverse

/-- Drop the blanks at both ends. -/
def trim (cs : List Char) : List Char :=
  trimEnd (trimStart cs)

/-- Put a word in front of later words, unless the word is empty. -/
def consWord (word : List Char) (words : List (List Char)) : List (List Char) :=
  if word.isEmpty then words else word :: words

/-- The word that a text starts with, empty if the text is empty or starts with
a blank, and the words after it. -/
def splitWord : List Char → List Char × List (List Char)
  | [] => ([], [])
  | c :: rest =>
      let later := splitWord rest
      if isBlank c then ([], consWord later.1 later.2) else (c :: later.1, later.2)

/-- The maximal runs of characters that are not blank, in order. -/
def words (cs : List Char) : List (List Char) :=
  consWord (splitWord cs).1 (splitWord cs).2

@[simp]
theorem words_nil : words [] = [] :=
  rfl

end TopicBridge.Text
