import Mathlib.Logic.Relation
import TopicBridge.Proofs.Message.Printing

/-!
# Edits that change nothing

What is read from a text depends on the contents of its lines alone, and of these
only on those that say something.  So comments may come and go, as may lines that say
nothing, the blanks around what a line says, carriage returns before line feeds and
the line feed at the end of the text.  An error stays what it is as well, with the
line or the name that it quotes.

A text is refused for the first line that is refused after the lines before it, and
what stands behind that line makes no difference.
-/

namespace TopicBridge

open Message

/-! ## Where lines start and end -/

namespace Text

/-- A line starts behind this text. -/
inductive LineStart : List Char → Prop
  | first : LineStart []
  | next (before : List Char) : LineStart (before ++ ['\n'])

/-- A line ends before this text. -/
inductive LineEnd : List Char → Prop
  | last : LineEnd []
  | feed (after : List Char) : LineEnd ('\n' :: after)

theorem LineEnd.append {after : List Char} (ends : LineEnd after) (rest : List Char) :
    LineEnd (after ++ '\n' :: rest) := by
  cases ends with
  | last => exact .feed rest
  | feed after => exact .feed _

/-- A text has a last line, which may be empty. -/
theorem exists_lastLine (text : List Char) :
    '\n' ∉ text ∨ ∃ past line, text = past ++ '\n' :: line ∧ '\n' ∉ line := by
  by_cases member : '\n' ∈ text
  · obtain ⟨line, past, turned, newline⟩ :=
      List.eq_append_cons_of_mem (List.mem_reverse.mpr member)
    refine Or.inr ⟨past.reverse, line.reverse, ?_, by rwa [List.mem_reverse]⟩
    rw [← List.reverse_reverse text, turned]
    simp
  · exact Or.inl member

end Text

namespace Message.Definition

open Text

variable {line line' text text' blanks before after past : List Char} {definition : Definition}
  {e : DefinitionError}

/-! ## The content of a line -/

/-- A comment makes no difference. -/
theorem content_append_comment (line comment : List Char) :
    content (line ++ '#' :: comment) = content line := by
  have stops : ('#' :: comment).takeWhile (fun c => decide (c ≠ '#')) = [] := rfl
  have kept : (line ++ '#' :: comment).takeWhile (fun c => decide (c ≠ '#')) =
      line.takeWhile fun c => decide (c ≠ '#') := by
    rw [List.takeWhile_append, stops, List.append_nil]
    split
    · rename_i whole
      exact ((List.takeWhile_prefix _).eq_of_length whole).symm
    · rfl
  rw [content, content, kept]

/-- Blanks are no part of a comment. -/
theorem takeWhile_blanks_append (blank : ∀ c ∈ blanks, isBlank c = true) (cs : List Char) :
    (blanks ++ cs).takeWhile (fun c => decide (c ≠ '#')) =
      blanks ++ cs.takeWhile fun c => decide (c ≠ '#') := by
  apply List.takeWhile_append_of_pos
  intro c member
  apply decide_eq_true
  rintro rfl
  exact absurd (blank '#' member) (by decide)

theorem content_blanks_append (blank : ∀ c ∈ blanks, isBlank c = true) (line : List Char) :
    content (blanks ++ line) = content line := by
  rw [content, takeWhile_blanks_append blank, trim_blanks_append blank, content]

theorem content_append_blanks (blank : ∀ c ∈ blanks, isBlank c = true) (line : List Char) :
    content (line ++ blanks) = content line := by
  have whole := takeWhile_blanks_append blank []
  rw [List.append_nil, List.takeWhile_nil, List.append_nil] at whole
  rw [content, content, List.takeWhile_append, whole]
  split
  · rename_i uncommented
    rw [trim_append_blanks blank, (List.takeWhile_prefix _).eq_of_length uncommented]
  · rfl

theorem content_content (line : List Char) : content (content line) = content line := by
  rw [content_eq_trim fun member => (mem_content member).2 rfl]
  exact trim_trim _

/-! ## The contents of a text -/

/-- The contents of the lines that say something. -/
def contents (text : List Char) : List (List Char) :=
  ((lines text).map content).filter (!·.isEmpty)

theorem addLine_content (definition : Definition) (line : List Char) :
    definition.addLine (content line) = definition.addLine line := by
  rw [addLine, addLine, content_content]

/-- Lines that say nothing add nothing. -/
theorem foldlM_contents (all : List (List Char)) (definition : Definition) :
    ((all.map content).filter (!·.isEmpty)).foldlM addLine definition =
      all.foldlM addLine definition := by
  induction all generalizing definition with
  | nil => rfl
  | cons line all ih =>
      rw [List.map_cons, List.foldlM_cons]
      cases empty : (content line).isEmpty with
      | true =>
          have nothing : definition.addLine line = .ok definition := by
            rw [addLine]
            exact if_pos empty
          rw [List.filter_cons_of_neg (by simp [empty]), ih, nothing]
          rfl
      | false =>
          rw [List.filter_cons_of_pos (by simp [empty]), List.foldlM_cons, addLine_content]
          exact bind_congr ih

/-- A text is read from the contents of its lines. -/
theorem parse_eq_foldlM_contents (text : List Char) :
    parse text = (contents text).foldlM addLine {} :=
  (foldlM_contents (lines text) {}).symm

theorem contents_of_line (newline : '\n' ∉ line) :
    contents line = [content line].filter (!·.isEmpty) := by
  cases line with
  | nil => rfl
  | cons c line =>
      rw [contents, lines_singleton (List.cons_ne_nil c line) newline, List.map_singleton]

/-- A new line starts behind a line feed. -/
theorem contents_append_newline (before after : List Char) :
    contents (before ++ '\n' :: after) = contents before ++ contents after := by
  have line_append {line : List Char} (newline : '\n' ∉ line) (rest : List Char) :
      contents (line ++ '\n' :: rest) = contents line ++ contents rest := by
    obtain ⟨shown, split, same⟩ := lines_append_newline newline rest
    have said : content line = content shown := by
      rcases same with rfl | rfl
      · rfl
      · exact content_append_blanks (List.all_eq_true.mp rfl) shown
    rw [contents_of_line newline, said, contents, split, List.map_cons, ← List.singleton_append,
      List.filter_append]
    rfl
  -- The text before is taken apart at its first line feed.
  induction length : before.length using Nat.strong_induction_on generalizing before with
  | _ n ih =>
    by_cases member : '\n' ∈ before
    · obtain ⟨line, rest, rfl, newline⟩ := List.eq_append_cons_of_mem member
      rw [List.length_append, List.length_cons] at length
      rw [List.append_assoc, List.cons_append, line_append newline, line_append newline,
        ih rest.length (by omega) rest rfl, List.append_assoc]
    · exact line_append member after

theorem contents_append_of_start (starts : LineStart before) (after : List Char) :
    contents (before ++ after) = contents before ++ contents after := by
  cases starts with
  | first => rfl
  | next before =>
      have ended : contents (before ++ ['\n']) = contents before := by
        rw [contents_append_newline]
        exact List.append_nil _
      rw [ended, List.append_assoc, List.singleton_append, contents_append_newline]

theorem contents_append_of_end (ends : LineEnd after) (before : List Char) :
    contents (before ++ after) = contents before ++ contents after := by
  cases ends with
  | last =>
      rw [List.append_nil]
      exact (List.append_nil _).symm
  | feed after =>
      have started : contents ('\n' :: after) = contents after := contents_append_newline [] after
      rw [started, contents_append_newline]

/-- A carriage return at the end makes no difference. -/
theorem contents_append_return (text : List Char) : contents (text ++ ['\r']) = contents text := by
  have ended {line : List Char} (newline : '\n' ∉ line) :
      contents (line ++ ['\r']) = contents line := by
    have whole : '\n' ∉ line ++ ['\r'] := by simp [newline]
    rw [contents_of_line whole, contents_of_line newline,
      content_append_blanks (List.all_eq_true.mp rfl)]
  rcases exists_lastLine text with newline | ⟨past, line, rfl, newline⟩
  · exact ended newline
  · rw [List.append_assoc, List.cons_append, contents_append_newline, contents_append_newline,
      ended newline]

/-! ## Edits -/

/-- A comment up to the end of the line, or nothing. -/
inductive Remark : List Char → Prop
  | nothing : Remark []
  | comment (text : List Char) : Remark ('#' :: text)

/-- The line is empty, blank or only a comment. -/
def SaysNothing (line : List Char) : Prop :=
  ∃ blanks remark, line = blanks ++ remark ∧ (∀ c ∈ blanks, isBlank c = true) ∧ Remark remark

/-- An edit within a line. -/
inductive LineEdit : List Char → List Char → Prop
  /-- A number sign and any text behind it are appended.  The other way round, a line is
  cut at a number sign. -/
  | comment (line comment : List Char) : LineEdit line (line ++ '#' :: comment)
  /-- What the line says before its comment gets other blanks around it. -/
  | blanks (lead lead' said trail trail' : List Char) {remark : List Char}
      (blank : ∀ c ∈ lead ++ lead' ++ trail ++ trail', isBlank c = true) (rest : Remark remark) :
      LineEdit (lead ++ said ++ trail ++ remark) (lead' ++ said ++ trail' ++ remark)

/-- An edit of a text. -/
inductive Edit : List Char → List Char → Prop
  /-- A line is edited. -/
  | line {before after line line' : List Char} (starts : LineStart before) (ends : LineEnd after)
      (newline : '\n' ∉ line) (newline' : '\n' ∉ line') (edit : LineEdit line line') :
      Edit (before ++ line ++ after) (before ++ line' ++ after)
  /-- A line that says nothing is inserted before a line. -/
  | insertBefore {before line : List Char} (after : List Char) (starts : LineStart before)
      (newline : '\n' ∉ line) (nothing : SaysNothing line) :
      Edit (before ++ after) (before ++ line ++ '\n' :: after)
  /-- A line that says nothing is inserted behind a line. -/
  | insertBehind {line after : List Char} (before : List Char) (ends : LineEnd after)
      (newline : '\n' ∉ line) (nothing : SaysNothing line) :
      Edit (before ++ after) (before ++ '\n' :: line ++ after)
  /-- A line feed gets a carriage return before it. -/
  | carriageReturn (before after : List Char) :
      Edit (before ++ '\n' :: after) (before ++ '\r' :: '\n' :: after)
  /-- The text gets a line feed at its end. -/
  | newline (text : List Char) : Edit text (text ++ ['\n'])

theorem Remark.content_append {remark : List Char} (rest : Remark remark) (line : List Char) :
    content (line ++ remark) = content line := by
  cases rest with
  | nothing => rw [List.append_nil]
  | comment text => exact content_append_comment line text

theorem SaysNothing.contents_eq_nil (nothing : SaysNothing line) (newline : '\n' ∉ line) :
    contents line = [] := by
  rw [contents_of_line newline]
  obtain ⟨blanks, remark, rfl, blank, rest⟩ := nothing
  have empty : content (blanks ++ []) = content [] := content_blanks_append blank []
  rw [List.append_nil] at empty
  rw [rest.content_append, empty]
  rfl

theorem LineEdit.content_eq (edit : LineEdit line line') : content line = content line' := by
  cases edit with
  | comment line comment => exact (content_append_comment line comment).symm
  | blanks lead lead' said trail trail' blank rest =>
      simp only [List.forall_mem_append] at blank
      obtain ⟨⟨⟨ahead, ahead'⟩, behind⟩, behind'⟩ := blank
      rw [rest.content_append, rest.content_append, content_append_blanks behind,
        content_append_blanks behind', content_blanks_append ahead, content_blanks_append ahead']

/-- An edit leaves what the lines say. -/
theorem Edit.contents_eq (edit : Edit text text') : contents text = contents text' := by
  cases edit with
  | line starts ends newline newline' edit =>
      rw [contents_append_of_end ends, contents_append_of_end ends,
        contents_append_of_start starts, contents_append_of_start starts,
        contents_of_line newline, contents_of_line newline', edit.content_eq]
  | insertBefore after starts newline nothing =>
      rw [contents_append_newline, contents_append_of_start starts,
        contents_append_of_start starts, nothing.contents_eq_nil newline, List.append_nil]
  | insertBehind before ends newline nothing =>
      rw [contents_append_of_end ends, contents_append_of_end ends, contents_append_newline,
        nothing.contents_eq_nil newline, List.append_nil]
  | carriageReturn before after =>
      rw [List.append_cons before '\r', contents_append_newline, contents_append_newline,
        contents_append_return]
  | newline text =>
      rw [contents_append_newline]
      exact (List.append_nil _).symm

theorem contents_eq_of_edits (edits : Relation.EqvGen Edit text text') :
    contents text = contents text' := by
  induction edits with
  | rel _ _ edit => exact edit.contents_eq
  | refl _ => rfl
  | symm _ _ _ ih => exact ih.symm
  | trans _ _ _ _ _ first second => exact first.trans second

/-! ## Errors -/

/-- The text has a first line that is refused after the lines before it, with an error. -/
inductive FirstFault : List Char → DefinitionError → Prop
  | mk {past line after : List Char} {definition : Definition} {e : DefinitionError}
      (starts : LineStart past) (newline : '\n' ∉ line) (ends : LineEnd after)
      (read : parse past = .ok definition) (refused : definition.addLine line = .error e) :
      FirstFault (past ++ line ++ after) e

/-- What stands behind an error makes no difference. -/
theorem parse_append_of_error (ends : LineEnd after) (refused : parse text = .error e) :
    parse (text ++ after) = .error e := by
  rw [parse_eq_foldlM_contents] at refused ⊢
  rw [contents_append_of_end ends, List.foldlM_append, refused]
  rfl

/-- A line is read after the lines before it. -/
theorem parse_append_line (starts : LineStart past) (newline : '\n' ∉ line)
    (read : parse past = .ok definition) : parse (past ++ line) = definition.addLine line := by
  have single : (contents line).foldlM addLine definition = [line].foldlM addLine definition := by
    rw [contents_of_line newline]
    exact foldlM_contents [line] definition
  rw [parse_eq_foldlM_contents] at read ⊢
  rw [contents_append_of_start starts, List.foldlM_append, read]
  change (contents line).foldlM addLine definition = definition.addLine line
  rw [single, List.foldlM_cons]
  exact bind_pure _

theorem FirstFault.parse_eq (fault : FirstFault text e) : parse text = .error e := by
  obtain ⟨starts, newline, ends, read, refused⟩ := fault
  exact parse_append_of_error ends ((parse_append_line starts newline read).trans refused)

theorem firstFault_of_parse (refused : parse text = .error e) : FirstFault text e := by
  -- The text is taken apart at its last line feed.
  induction length : text.length using Nat.strong_induction_on generalizing text with
  | _ n ih =>
    rcases exists_lastLine text with newline | ⟨past, line, rfl, newline⟩
    · have alone : parse text = addLine {} text := parse_append_line .first newline rfl
      have fault := FirstFault.mk .first newline .last rfl (alone.symm.trans refused)
      rwa [List.nil_append, List.append_nil] at fault
    · cases read : parse past with
      | error e' =>
          cases (parse_append_of_error (.feed line) read).symm.trans refused
          rw [List.length_append, List.length_cons] at length
          obtain ⟨starts, newline, ends, before, refused⟩ := ih past.length (by omega) read rfl
          rw [List.append_assoc _ _ ('\n' :: line)]
          exact .mk starts newline (ends.append line) before refused
      | ok definition =>
          have ended : parse (past ++ ['\n']) = .ok definition := by
            rw [← read, parse_eq_foldlM_contents, parse_eq_foldlM_contents,
              (Edit.newline past).contents_eq]
          have last := parse_append_line (.next past) newline ended
          rw [List.append_cons] at refused ⊢
          have fault := FirstFault.mk (.next past) newline .last ended (last.symm.trans refused)
          rwa [List.append_nil] at fault

/-- Any number of edits, done or undone, changes nothing about what is read or refused.
A text is refused for its first faulty line, whatever stands behind that. -/
theorem parse_edited :
    (∀ text text', Relation.EqvGen Edit text text' → parse text = parse text') ∧
      (∀ text e, parse text = .error e ↔ FirstFault text e) ∧
        ∀ text after e, LineEnd after → parse text = .error e →
          parse (text ++ after) = .error e := by
  refine ⟨?_, ?_, ?_⟩
  · intro text text' edits
    rw [parse_eq_foldlM_contents, parse_eq_foldlM_contents, contents_eq_of_edits edits]
  · exact fun text e => ⟨firstFault_of_parse, FirstFault.parse_eq⟩
  · exact fun text after e ends refused => parse_append_of_error ends refused

/-- A type that cannot be read is quoted alike whatever is written around it. -/
theorem parse_edited_badType :
    let text := "int32 x\nb@d y".toList
    let edited := "int32 x\r\n\t# why?\n b@d y # what?".toList
    Relation.EqvGen Edit text edited ∧ parse edited = parse text ∧
      parse text = .error (.badType "b@d") ∧
        parse (text ++ "\nint32 x".toList) = .error (.badType "b@d") := by
  intro text edited
  have commented : Edit text "int32 x\nb@d y# what?".toList :=
    .line (.next "int32 x".toList) .last (by decide) (by decide)
      (.comment "b@d y".toList " what?".toList)
  have spaced : Edit "int32 x\nb@d y# what?".toList "int32 x\n b@d y # what?".toList :=
    .line (.next "int32 x".toList) .last (by decide) (by decide)
      (.blanks [] [' '] "b@d y".toList [] [' '] (List.all_eq_true.mp rfl) (.comment " what?".toList))
  have returned : Edit "int32 x\n b@d y # what?".toList "int32 x\r\n b@d y # what?".toList :=
    .carriageReturn "int32 x".toList " b@d y # what?".toList
  have inserted : Edit "int32 x\r\n b@d y # what?".toList edited :=
    .insertBefore " b@d y # what?".toList (.next "int32 x\r".toList) (by decide)
      ⟨['\t'], "# why?".toList, rfl, List.all_eq_true.mp rfl, .comment _⟩
  have edits : Relation.EqvGen Edit text edited :=
    ((Relation.EqvGen.rel _ _ commented).trans _ _ _ (.rel _ _ spaced)).trans _ _ _
      ((Relation.EqvGen.rel _ _ returned).trans _ _ _ (.rel _ _ inserted))
  have refused : parse text = .error (.badType "b@d") := by decide +kernel
  exact ⟨edits, (parse_edited.1 text edited edits).symm, refused,
    parse_edited.2.2 text _ _ (.feed _) refused⟩

end Message.Definition

end TopicBridge
