import Mathlib.Data.List.DropRight
import TopicBridge.Text.Blank
import TopicBridge.Text.Lines

/-!
# Trimming, words and lines of texts that are put together

A text is trimmed up to its first and from its last character that is not blank,
so a character in between that is not blank parts it: what stands before keeps its
end and what stands after keeps its start.  A word is read up to the blank behind
it, and a line up to the line feed behind it.
-/

namespace TopicBridge.Text

variable {c : Char} {cs word line : List Char}

/-! ## Trimming -/

theorem trimStart_cons_of_blank (blank : isBlank c = true) (cs : List Char) :
    trimStart (c :: cs) = trimStart cs :=
  List.dropWhile_cons_of_pos blank

theorem trimStart_cons_of_not_blank (visible : isBlank c = false) (cs : List Char) :
    trimStart (c :: cs) = c :: cs :=
  List.dropWhile_cons_of_neg (by simp [visible])

/-- Nothing before a character that is not blank is dropped from the end. -/
theorem trimEnd_append_cons (visible : isBlank c = false) (before after : List Char) :
    trimEnd (before ++ c :: after) = before ++ c :: trimEnd after := by
  induction after using List.reverseRecOn with
  | nil => exact List.rdropWhile_concat_neg isBlank before c (by simp [visible])
  | append_singleton after last ih =>
      rw [← List.cons_append, ← List.append_assoc]
      cases blank : isBlank last with
      | true =>
          change List.rdropWhile isBlank _ = before ++ c :: List.rdropWhile isBlank _
          rw [List.rdropWhile_concat_pos _ _ _ blank, List.rdropWhile_concat_pos _ _ _ blank]
          exact ih
      | false =>
          change List.rdropWhile isBlank _ = before ++ c :: List.rdropWhile isBlank _
          rw [List.rdropWhile_concat_neg _ _ _ (by simp [blank]),
            List.rdropWhile_concat_neg _ _ _ (by simp [blank]), List.append_assoc,
            List.cons_append]

theorem trimEnd_cons_of_not_blank (visible : isBlank c = false) (cs : List Char) :
    trimEnd (c :: cs) = c :: trimEnd cs :=
  trimEnd_append_cons visible [] cs

theorem trimEnd_eq_nil_iff : trimEnd cs = [] ↔ ∀ c ∈ cs, isBlank c = true :=
  List.rdropWhile_eq_nil_iff

/-- A blank at the start goes with the start, also where the end was trimmed first. -/
theorem trimStart_trimEnd_cons (blank : isBlank c = true) (cs : List Char) :
    trimStart (trimEnd (c :: cs)) = trimStart (trimEnd cs) := by
  by_cases blanks : ∀ d ∈ cs, isBlank d = true
  · rw [trimEnd_eq_nil_iff.mpr blanks, trimEnd_eq_nil_iff.mpr]
    exact List.forall_mem_cons.mpr ⟨blank, blanks⟩
  · push Not at blanks
    obtain ⟨d, member, shown⟩ := blanks
    obtain ⟨before, after, rfl⟩ := List.append_of_mem member
    have visible : isBlank d = false := by simpa using shown
    rw [← List.cons_append, trimEnd_append_cons visible, trimEnd_append_cons visible,
      List.cons_append, trimStart_cons_of_blank blank]

/-- The two ends are trimmed in either order. -/
theorem trimStart_trimEnd (cs : List Char) : trimStart (trimEnd cs) = trim cs := by
  induction cs with
  | nil => rfl
  | cons c cs ih =>
      cases blank : isBlank c with
      | true => rw [trimStart_trimEnd_cons blank, ih, trim, trim, trimStart_cons_of_blank blank]
      | false =>
          rw [trim, trimStart_cons_of_not_blank blank, trimEnd_cons_of_not_blank blank,
            trimStart_cons_of_not_blank blank]

/-- Blanks at the end make no difference. -/
@[simp]
theorem trim_trimEnd (cs : List Char) : trim (trimEnd cs) = trim cs := by
  rw [← trimStart_trimEnd, ← trimStart_trimEnd]
  exact congrArg trimStart (List.rdropWhile_idempotent isBlank cs)

/-- A blank at the start makes no difference. -/
theorem trim_cons_of_blank (blank : isBlank c = true) (cs : List Char) :
    trim (c :: cs) = trim cs := by
  rw [trim, trim, trimStart_cons_of_blank blank]

@[simp]
theorem trim_trim (cs : List Char) : trim (trim cs) = trim cs := by
  have idempotent : trimStart (trimStart cs) = trimStart cs :=
    List.dropWhile_idempotent isBlank cs
  calc
    trim (trim cs) = trim (trimStart cs) := trim_trimEnd (trimStart cs)
    _ = trim cs := by rw [trim, trim, idempotent]

/-- Blanks before a text are trimmed off. -/
theorem trim_blanks_append {blanks : List Char} (blank : ∀ c ∈ blanks, isBlank c = true)
    (cs : List Char) : trim (blanks ++ cs) = trim cs := by
  have dropped : trimStart (blanks ++ cs) = trimStart cs := List.dropWhile_append_of_pos blank
  rw [trim, trim, dropped]

/-- Blanks behind a text are trimmed off. -/
theorem trim_append_blanks {blanks : List Char} (blank : ∀ c ∈ blanks, isBlank c = true)
    (cs : List Char) : trim (cs ++ blanks) = trim cs := by
  have turned : ∀ c ∈ blanks.reverse, isBlank c = true := fun c member =>
    blank c (List.mem_reverse.mp member)
  have dropped : trimEnd (cs ++ blanks) = trimEnd cs := by
    rw [trimEnd, List.reverse_append]
    exact congrArg List.reverse (List.dropWhile_append_of_pos turned)
  rw [← trim_trimEnd, dropped, trim_trimEnd]

/-- A word at the start has no blank to drop. -/
theorem trimStart_append (nonempty : word ≠ []) (visible : ∀ c ∈ word, isBlank c = false)
    (rest : List Char) : trimStart (word ++ rest) = word ++ rest := by
  cases word with
  | nil => exact absurd rfl nonempty
  | cons c word => exact trimStart_cons_of_not_blank (visible c List.mem_cons_self) _

/-- A word at the end has no blank to drop. -/
theorem trimEnd_append (nonempty : word ≠ []) (visible : ∀ c ∈ word, isBlank c = false)
    (before : List Char) : trimEnd (before ++ word) = before ++ word := by
  rcases List.eq_nil_or_concat' word with rfl | ⟨word, last, rfl⟩
  · exact absurd rfl nonempty
  · rw [← List.append_assoc, trimEnd_append_cons (visible last List.mem_concat_self)]
    rfl

/-- A trimmed text does not end with a blank. -/
theorem isBlank_of_getLast? (trimmed : trim cs = cs) (last : cs.getLast? = some c) :
    isBlank c = false := by
  obtain ⟨before, rfl⟩ := List.getLast?_eq_some_iff.mp last
  have kept : List.rdropWhile isBlank (before ++ [c]) = before ++ [c] := by
    rw [← trimmed]
    exact List.rdropWhile_idempotent isBlank _
  simpa using List.rdropWhile_eq_self_iff.mp kept (by simp)

/-- What trimming leaves is part of the text. -/
theorem mem_of_mem_trim (member : c ∈ trim cs) : c ∈ cs :=
  (List.dropWhile_sublist isBlank).subset
    ((List.rdropWhile_prefix isBlank (l := trimStart cs)).subset member)

/-! ## Words -/

/-- Characters that are not blank go on to the word that the rest starts with. -/
theorem splitWord_append (visible : ∀ c ∈ word, isBlank c = false) (rest : List Char) :
    splitWord (word ++ rest) = (word ++ (splitWord rest).1, (splitWord rest).2) := by
  induction word with
  | nil => rfl
  | cons c word ih =>
      obtain ⟨head, tail⟩ := List.forall_mem_cons.mp visible
      rw [List.cons_append, splitWord, head, ih tail]
      rfl

/-- A word is read up to the blank behind it. -/
theorem words_append_cons (nonempty : word ≠ []) (visible : ∀ c ∈ word, isBlank c = false)
    (blank : isBlank c = true) (rest : List Char) :
    words (word ++ c :: rest) = word :: words rest := by
  have stops : splitWord (c :: rest) = ([], words rest) := by rw [splitWord, if_pos blank, words]
  rw [words, splitWord_append visible, stops, List.append_nil, consWord,
    if_neg (by rwa [List.isEmpty_iff])]

theorem words_singleton (nonempty : word ≠ []) (visible : ∀ c ∈ word, isBlank c = false) :
    words word = [word] := by
  have whole := splitWord_append visible []
  rw [List.append_nil, splitWord, List.append_nil] at whole
  rw [words, whole, consWord, if_neg (by rwa [List.isEmpty_iff])]

/-! ## Lines -/

/-- A text goes on in its first line, except at a line end. -/
theorem lines_cons (inner : c ≠ '\n') (single : c = '\r' → cs.head? ≠ some '\n') :
    lines (c :: cs) = match lines cs with
      | [] => [[c]]
      | line :: later => (c :: line) :: later := by
  have returns : ∀ rest, c = '\r' → cs = '\n' :: rest → False := by
    intro rest carriage breaks
    apply single carriage
    rw [breaks, List.head?_cons]
  exact lines.eq_4 c cs returns inner

/-- A line without its line end.  A carriage return right before the line feed would
belong to the line end. -/
structure IsLine (line : List Char) : Prop where
  newline : '\n' ∉ line
  carriage : line.getLast? ≠ some '\r'

theorem IsLine.tail (isLine : IsLine (c :: line)) : IsLine line := by
  constructor
  case newline => exact fun member => isLine.newline (List.mem_cons_of_mem c member)
  case carriage =>
    cases line with
    | nil => simp
    | cons d line =>
        rw [← List.getLast?_cons_cons]
        exact isLine.carriage

/-- A line is read up to its line feed. -/
theorem IsLine.lines_append (isLine : IsLine line) (rest : List Char) :
    lines (line ++ '\n' :: rest) = line :: lines rest := by
  induction line with
  | nil => exact lines_newline rest
  | cons c line ih =>
      have inner : c ≠ '\n' := fun same => isLine.newline (same ▸ List.mem_cons_self)
      have single : c = '\r' → (line ++ '\n' :: rest).head? ≠ some '\n' := by
        rintro rfl
        cases line with
        | nil => exact absurd rfl isLine.carriage
        | cons d line =>
            intro breaks
            apply isLine.tail.newline
            cases breaks
            exact List.mem_cons_self
      rw [List.cons_append, lines_cons inner single, ih isLine.tail]

/-- A carriage return before a line feed belongs to the line end. -/
theorem lines_append_return (newline : '\n' ∉ line) (rest : List Char) :
    lines (line ++ '\r' :: '\n' :: rest) = line :: lines rest := by
  induction line with
  | nil => simp [lines]
  | cons c line ih =>
      rw [List.mem_cons, not_or] at newline
      have single : c = '\r' → (line ++ '\r' :: '\n' :: rest).head? ≠ some '\n' := by
        intro _ breaks
        cases line with
        | nil => cases breaks
        | cons d line =>
            cases breaks
            exact newline.2 List.mem_cons_self
      rw [List.cons_append, lines_cons (Ne.symm newline.1) single, ih newline.2]

/-- What stands before a line feed is read as a line, maybe less a carriage return. -/
theorem lines_append_newline (newline : '\n' ∉ line) (rest : List Char) :
    ∃ shown, lines (line ++ '\n' :: rest) = shown :: lines rest ∧
      (line = shown ∨ line = shown ++ ['\r']) := by
  by_cases carriage : line.getLast? = some '\r'
  · obtain ⟨shown, rfl⟩ := List.getLast?_eq_some_iff.mp carriage
    refine ⟨shown, ?_, Or.inr rfl⟩
    rw [List.append_assoc]
    exact lines_append_return (fun member => newline (List.mem_append_left _ member)) rest
  · exact ⟨line, IsLine.lines_append ⟨newline, carriage⟩ rest, Or.inl rfl⟩

/-- The last line needs no line feed. -/
theorem lines_singleton (nonempty : line ≠ []) (newline : '\n' ∉ line) : lines line = [line] := by
  induction line with
  | nil => exact absurd rfl nonempty
  | cons c line ih =>
      rw [List.mem_cons, not_or] at newline
      have single : c = '\r' → line.head? ≠ some '\n' := fun _ breaks =>
        newline.2 (List.mem_of_head? breaks)
      rw [lines_cons (Ne.symm newline.1) single]
      cases line with
      | nil => rfl
      | cons d line => rw [ih (List.cons_ne_nil d line) newline.2]

/-- A line has no line feed in it. -/
theorem newline_notMem_of_mem_lines (member : line ∈ lines cs) : '\n' ∉ line := by
  fun_induction lines cs generalizing line with
  | case1 => cases member
  | case2 rest ih =>
      rcases List.mem_cons.mp member with rfl | later
      · exact List.not_mem_nil
      · exact ih later
  | case3 rest ih =>
      rcases List.mem_cons.mp member with rfl | later
      · exact List.not_mem_nil
      · exact ih later
  | case4 c rest returns inner last ih =>
      rw [List.mem_singleton.mp member, List.mem_singleton]
      exact fun same => inner same.symm
  | case5 c rest returns inner first others started ih =>
      rw [started] at ih
      rcases List.mem_cons.mp member with rfl | later
      · rw [List.mem_cons, not_or]
        exact ⟨fun same => inner same.symm, ih List.mem_cons_self⟩
      · exact ih (List.mem_cons_of_mem first later)

variable {all : List (List Char)}

/-- Lines that each end with a line feed are read back. -/
theorem lines_flatMap (isLine : ∀ line ∈ all, IsLine line) :
    lines (all.flatMap (· ++ ['\n'])) = all := by
  induction all with
  | nil => exact lines_nil
  | cons line all ih =>
      obtain ⟨head, tail⟩ := List.forall_mem_cons.mp isLine
      rw [List.flatMap_cons, List.append_assoc, List.singleton_append, head.lines_append,
        ih tail]

/-- Lines with a line feed between them are read back, if the last one can be seen. -/
theorem lines_intercalate (isLine : ∀ line ∈ all, IsLine line) (nonempty : [] ∉ all) :
    lines (['\n'].intercalate all) = all := by
  induction all with
  | nil => exact lines_nil
  | cons line all ih =>
      obtain ⟨head, tail⟩ := List.forall_mem_cons.mp isLine
      rw [List.mem_cons, not_or] at nonempty
      cases all with
      | nil =>
          rw [List.intercalate_singleton]
          exact lines_singleton (Ne.symm nonempty.1) head.newline
      | cons next all =>
          rw [List.intercalate_cons_cons, List.append_assoc, List.singleton_append,
            head.lines_append, ih tail nonempty.2]

end TopicBridge.Text
