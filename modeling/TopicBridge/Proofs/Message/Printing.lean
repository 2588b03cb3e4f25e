import TopicBridge.Proofs.Message.Canonical
import TopicBridge.Proofs.Text.Layout

/-!
# Message definitions as texts

A definition that was read is canonical: its names are identifiers, its type
specifications are read back from their texts, and its values have neither blanks
around them nor a comment in them.  A canonical definition is read back from the
lines of its declarations, in whatever way the lines of fields and of constants take
turns.
-/

namespace TopicBridge.Message

open Text

/-! ## Canonical definitions -/

/-- A field that stands in a line as it is. -/
structure FieldDecl.Canonical (decl : FieldDecl) : Prop where
  legible : isIdentifier decl.name.toList = true
  type : decl.type.Canonical

/-- A constant that stands in a line as it is. -/
structure ConstantDecl.Canonical (decl : ConstantDecl) : Prop where
  legible : isIdentifier decl.name.toList = true
  type : decl.type.Canonical
  trimmed : trim decl.value.toList = decl.value.toList
  uncommented : '#' ∉ decl.value.toList
  newline : '\n' ∉ decl.value.toList

/-- The fields have different names, and every declaration stands in a line as it is. -/
structure Definition.Canonical (definition : Definition) : Prop where
  distinct : definition.NamesDistinct
  fields : ∀ decl ∈ definition.fields, decl.Canonical
  constants : ∀ decl ∈ definition.constants, decl.Canonical

/-! ## Declarations -/

/-- What a line may declare. -/
inductive Declaration where
  | field (decl : FieldDecl)
  | constant (decl : ConstantDecl)

namespace Declaration

/-- The field that is declared, if it is one. -/
def field? : Declaration → Option FieldDecl
  | field decl => some decl
  | constant _ => none

/-- The constant that is declared, if it is one. -/
def constant? : Declaration → Option ConstantDecl
  | field _ => none
  | constant decl => some decl

/-- The line of a declaration. -/
def line : Declaration → String
  | field decl => decl.type.text ++ " " ++ decl.name
  | constant decl => decl.type.text ++ " " ++ decl.name ++ " = " ++ decl.value

theorem line_ne_nil (declaration : Declaration) : declaration.line.toList ≠ [] := by
  cases declaration <;> simp [line]

/-- The text of some declarations, with a line feed between their lines. -/
def joined (declarations : List Declaration) : List Char :=
  ['\n'].intercalate (declarations.map fun declaration => declaration.line.toList)

/-- The text of some declarations, with a line feed behind each line. -/
def terminated (declarations : List Declaration) : List Char :=
  (declarations.map fun declaration => declaration.line.toList).flatMap (· ++ ['\n'])

/-- A declaration that stands in a line as it is. -/
def Canonical : Declaration → Prop
  | field decl => decl.Canonical
  | constant decl => decl.Canonical

end Declaration

/-- The declarations are the fields and the constants of a definition, each kind in
its order and the two kinds in turns. -/
def Definition.ListedBy (definition : Definition) (declarations : List Declaration) : Prop :=
  declarations.filterMap Declaration.field? = definition.fields ∧
    declarations.filterMap Declaration.constant? = definition.constants

/-! ## What is read is canonical -/

namespace Definition

variable {definition next : Definition} {line : List Char}

theorem mem_content {c : Char} (member : c ∈ content line) : c ∈ line ∧ c ≠ '#' := by
  have kept := mem_of_mem_trim member
  refine ⟨(List.takeWhile_sublist _).subset kept, ?_⟩
  simpa using List.mem_takeWhile_imp kept

theorem Canonical.addLine (canonical : definition.Canonical) (newline : '\n' ∉ line)
    (added : definition.addLine line = .ok next) : next.Canonical := by
  have distinct := canonical.distinct.addLine added
  cases addLine_eq_ok_iff.mp added with
  | nothing => exact canonical
  | field _ declared _ read =>
      refine ⟨distinct, List.forall_mem_append.mpr ⟨canonical.fields, ?_⟩, canonical.constants⟩
      rw [List.forall_mem_singleton]
      constructor
      case legible =>
        rw [String.toList_ofList]
        exact isIdentifier_of_declared? declared
      case type => exact TypeSpec.canonical_of_parse read
  | @constant declaration value type name spec cut declared read =>
      have inside {c : Char} (member : c ∈ trim value) : c ∈ line ∧ c ≠ '#' := by
        apply mem_content
        rw [(eq_append_of_cutAt cut).1]
        exact List.mem_append_right _ (List.mem_cons_of_mem _ (mem_of_mem_trim member))
      refine ⟨distinct, canonical.fields, List.forall_mem_append.mpr ⟨canonical.constants, ?_⟩⟩
      rw [List.forall_mem_singleton]
      constructor
      case legible =>
        rw [String.toList_ofList]
        exact isIdentifier_of_declared? declared
      case type => exact TypeSpec.canonical_of_parse read
      case trimmed =>
        rw [String.toList_ofList]
        exact trim_trim value
      case uncommented =>
        rw [String.toList_ofList]
        exact fun member => (inside member).2 rfl
      case newline =>
        rw [String.toList_ofList]
        exact fun member => newline (inside member).1

theorem canonical_of_parse {text : List Char} (read : parse text = .ok definition) :
    definition.Canonical := by
  refine parse_induction ⟨List.nodup_nil, ?_, ?_⟩ ?_ read
  · exact fun _ member => nomatch member
  · exact fun _ member => nomatch member
  · intro line member definition next canonical added
    exact canonical.addLine (newline_notMem_of_mem_lines member) added

end Definition

/-! ## Lines of declarations -/

namespace Declaration

/-- The type and the name of a declaration as a line starts with them. -/
def signature (spec : TypeSpec) (name : List Char) : List Char :=
  spec.text.toList ++ ' ' :: name

section Signature

variable {spec : TypeSpec} {name : List Char} (type : spec.Canonical)
  (legible : isIdentifier name = true)
include type

theorem trimStart_signature (rest : List Char) :
    trimStart (signature spec name ++ rest) = signature spec name ++ rest := by
  rw [signature, List.append_assoc]
  exact trimStart_append type.nonempty (fun _ => type.isBlank_eq_false) _

include legible

/-- A signature has none of the characters that part a line. -/
theorem notMem_signature {c : Char} (foreign : isIdentifierRest c = false)
    (other : c ∉ ['/', '[', ']', ' ']) : c ∉ signature spec name := by
  simp only [List.mem_cons, List.not_mem_nil, or_false, not_or] at other
  obtain ⟨slash, opening, closing, blank⟩ := other
  rw [signature, List.mem_append, List.mem_cons, not_or, not_or]
  exact ⟨type.notMem foreign slash opening closing, blank, not_mem_of_isIdentifier foreign legible⟩

theorem trim_signature : trim (signature spec name) = signature spec name := by
  have start : trimStart (signature spec name ++ []) = signature spec name ++ [] :=
    trimStart_signature type []
  rw [List.append_nil] at start
  rw [trim, start, signature, ← List.singleton_append, ← List.append_assoc]
  exact trimEnd_append (ne_nil_of_isIdentifier legible) (isBlank_of_isIdentifier legible) _

end Signature

theorem toList_line_field (decl : FieldDecl) :
    (field decl).line.toList = signature decl.type decl.name.toList := by
  simp [line, signature]

theorem toList_line_constant (decl : ConstantDecl) :
    (constant decl).line.toList =
      signature decl.type decl.name.toList ++ [' '] ++ '=' :: ' ' :: decl.value.toList := by
  simp [line, signature]

theorem isLine_field {decl : FieldDecl} (canonical : decl.Canonical) :
    IsLine (field decl).line.toList := by
  obtain ⟨legible, type⟩ := canonical
  rw [toList_line_field]
  constructor
  case newline => exact notMem_signature type legible (by decide) (by decide)
  case carriage =>
    intro last
    exact notMem_signature type legible (by decide) (by decide) (List.mem_of_getLast? last)

/-- The line of a constant ends with its value or with the blank before it. -/
theorem isLine_constant {decl : ConstantDecl} (canonical : decl.Canonical) :
    IsLine (constant decl).line.toList := by
  obtain ⟨legible, type, trimmed, _, newline⟩ := canonical
  rw [toList_line_constant]
  constructor
  case newline =>
    have free : '\n' ∉ signature decl.type decl.name.toList :=
      notMem_signature type legible (by decide) (by decide)
    simp [free, newline]
  case carriage =>
    rw [List.getLast?_append_cons, List.getLast?_cons_cons, List.getLast?_cons]
    cases last : decl.value.toList.getLast? with
    | none => decide
    | some c =>
        rintro ⟨⟩
        cases isBlank_of_getLast? trimmed last

theorem Canonical.isLine {declaration : Declaration}
    (canonical : declaration.Canonical) : IsLine declaration.line.toList := by
  cases declaration with
  | field decl => exact isLine_field canonical
  | constant decl => exact isLine_constant canonical

end Declaration

/-! ## What is canonical is read back -/

namespace Definition

open Declaration (signature notMem_signature trim_signature trimStart_signature toList_line_field
  toList_line_constant)

variable {definition : Definition} {declarations : List Declaration} {line : List Char}

/-- Without a comment the content of a line is what trimming leaves of it. -/
theorem content_eq_trim (uncommented : '#' ∉ line) : content line = trim line := by
  have whole : line.takeWhile (· ≠ '#') = line := by
    rw [List.takeWhile_eq_self_iff]
    intro c member
    exact decide_eq_true fun same => uncommented (same ▸ member)
  rw [content, whole]

/-- Add what is declared. -/
def add (definition : Definition) : Declaration → Definition
  | .field decl => { definition with fields := definition.fields ++ [decl] }
  | .constant decl => { definition with constants := definition.constants ++ [decl] }

/-- A signature is read as its two words, with or without a blank behind it. -/
theorem declared?_signature {spec : TypeSpec} {name : List Char} (type : spec.Canonical)
    (legible : isIdentifier name = true) (rest : List Char) (ends : words (name ++ rest) = [name]) :
    declared? (signature spec name ++ rest) = some (spec.text.toList, name) := by
  rw [signature, List.append_assoc, List.cons_append, declared?,
    words_append_cons type.nonempty (fun _ => type.isBlank_eq_false) (by decide), ends]
  exact if_pos legible

/-- The line of a field is its signature, which is cut at no equals sign. -/
theorem addLine_field {decl : FieldDecl} (canonical : decl.Canonical)
    (fresh : decl.name ∉ definition.fields.map FieldDecl.name) :
    definition.addLine (Declaration.field decl).line.toList =
      .ok (definition.add (.field decl)) := by
  obtain ⟨legible, type⟩ := canonical
  have shown : content (Declaration.field decl).line.toList =
      signature decl.type decl.name.toList := by
    rw [toList_line_field, content_eq_trim (notMem_signature type legible (by decide) (by decide)),
      trim_signature type legible]
  have uncut : cutAt '=' (signature decl.type decl.name.toList) = none :=
    cutAt_eq_none (notMem_signature type legible (by decide) (by decide))
  have declared := declared?_signature type legible [] (by
    rw [List.append_nil]
    exact words_singleton (ne_nil_of_isIdentifier legible) (isBlank_of_isIdentifier legible))
  rw [List.append_nil] at declared
  rw [← shown] at uncut declared
  have adds := Adds.field uncut declared (by rwa [String.ofList_toList]) type
  rw [String.ofList_toList] at adds
  exact addLine_eq_ok_iff.mpr adds

/-- The content of a constant ends with its value. -/
theorem content_constant {decl : ConstantDecl} (canonical : decl.Canonical) :
    content (Declaration.constant decl).line.toList =
      signature decl.type decl.name.toList ++ [' '] ++
        '=' :: trimEnd (' ' :: decl.value.toList) := by
  obtain ⟨legible, type, _, uncommented, _⟩ := canonical
  have free : '#' ∉ signature decl.type decl.name.toList :=
    notMem_signature type legible (by decide) (by decide)
  have start : trimStart (signature decl.type decl.name.toList ++
      ([' '] ++ '=' :: ' ' :: decl.value.toList)) = _ := trimStart_signature type _
  rw [← List.append_assoc] at start
  rw [toList_line_constant, content_eq_trim (by simp [free, uncommented]), trim, start]
  exact trimEnd_append_cons (by decide) _ _

/-- The line of a constant is cut at the equals sign behind its signature. -/
theorem addLine_constant {decl : ConstantDecl} (canonical : decl.Canonical) :
    definition.addLine (Declaration.constant decl).line.toList =
      .ok (definition.add (.constant decl)) := by
  have shown := content_constant canonical
  obtain ⟨legible, type, trimmed, _, _⟩ := canonical
  have single : '=' ∉ signature decl.type decl.name.toList ++ [' '] := by
    rw [List.mem_append, not_or]
    exact ⟨notMem_signature type legible (by decide) (by decide), by decide⟩
  have cut := cutAt_append single (trimEnd (' ' :: decl.value.toList))
  have declared := declared?_signature type legible [' '] (by
    rw [words_append_cons (ne_nil_of_isIdentifier legible) (isBlank_of_isIdentifier legible)
      (by decide), words_nil])
  have value : trim (trimEnd (' ' :: decl.value.toList)) = decl.value.toList := by
    rw [trim_trimEnd, trim_cons_of_blank (by decide), trimmed]
  rw [← shown] at cut
  have adds : Adds definition _ _ := Adds.constant cut declared type
  rw [value, String.ofList_toList, String.ofList_toList] at adds
  exact addLine_eq_ok_iff.mpr adds

/-! ## Whole texts -/

theorem foldl_add (declarations : List Declaration) (definition : Definition) :
    declarations.foldl add definition =
      { fields := definition.fields ++ declarations.filterMap Declaration.field?
        constants := definition.constants ++ declarations.filterMap Declaration.constant? } := by
  induction declarations generalizing definition with
  | nil => simp
  | cons declaration declarations ih =>
      rw [List.foldl_cons, ih]
      cases declaration <;>
        simp [add, Declaration.field?, Declaration.constant?, List.filterMap_cons]

/-- A field that is added has a name that the fields before it do not have. -/
theorem fresh_of_namesDistinct {decl : FieldDecl} {later : List Declaration}
    (distinct : (later.foldl add (definition.add (.field decl))).NamesDistinct) :
    decl.name ∉ definition.fields.map FieldDecl.name := by
  rw [foldl_add, NamesDistinct, add, List.map_append, List.map_append] at distinct
  have apart := List.nodup_append.mp distinct.of_append_left
  exact fun member => apart.2.2 decl.name member decl.name (List.mem_singleton.mpr rfl) rfl

/-- Declarations whose fields have different names are read one after the other. -/
theorem foldlM_addLine {declarations : List Declaration}
    (canonical : ∀ declaration ∈ declarations, declaration.Canonical)
    (distinct : (declarations.foldl add definition).NamesDistinct) :
    (declarations.map fun declaration => declaration.line.toList).foldlM addLine definition =
      .ok (declarations.foldl add definition) := by
  induction declarations generalizing definition with
  | nil => rfl
  | cons declaration declarations ih =>
      obtain ⟨head, tail⟩ := List.forall_mem_cons.mp canonical
      have added : definition.addLine declaration.line.toList =
          .ok (definition.add declaration) := by
        cases declaration with
        | field decl => exact addLine_field head (fresh_of_namesDistinct distinct)
        | constant decl => exact addLine_constant head
      rw [List.map_cons, List.foldlM_cons, added]
      exact ih tail distinct

/-- The declarations make up the definition that they list. -/
theorem ListedBy.foldl_add (listed : definition.ListedBy declarations) :
    declarations.foldl add {} = definition := by
  rw [Definition.foldl_add, listed.1, listed.2]
  rfl

/-- The declarations that list a canonical definition are canonical. -/
theorem ListedBy.canonical (listed : definition.ListedBy declarations)
    (canonical : definition.Canonical) : ∀ declaration ∈ declarations, declaration.Canonical := by
  intro declaration member
  cases declaration with
  | field decl =>
      apply canonical.fields
      rw [← listed.1]
      exact List.mem_filterMap.mpr ⟨_, member, rfl⟩
  | constant decl =>
      apply canonical.constants
      rw [← listed.2]
      exact List.mem_filterMap.mpr ⟨_, member, rfl⟩

/-- A text with the lines of a canonical definition is read as that definition. -/
theorem Canonical.parse_of_lines (canonical : definition.Canonical)
    (listed : definition.ListedBy declarations) {text : List Char}
    (shown : lines text = declarations.map fun declaration => declaration.line.toList) :
    parse text = .ok definition := by
  have made := listed.foldl_add
  have read := foldlM_addLine (listed.canonical canonical) (made.symm ▸ canonical.distinct)
  rw [parse, shown, read, made]

/-- Every definition that is read is canonical, and a canonical one is read back from
every text with the lines of its declarations. -/
theorem parse_declarations (definition : Definition) :
    (∀ text, parse text = .ok definition → definition.Canonical) ∧
      (definition.Canonical → ∀ declarations, definition.ListedBy declarations →
        parse (Declaration.joined declarations) = .ok definition ∧
          parse (Declaration.terminated declarations) = .ok definition) := by
  refine ⟨fun _ => canonical_of_parse, fun canonical declarations listed => ?_⟩
  have each := listed.canonical canonical
  have isLine : ∀ line ∈ declarations.map fun declaration => declaration.line.toList,
      IsLine line := List.forall_mem_map.mpr fun declaration member =>
    (each declaration member).isLine
  constructor
  · apply canonical.parse_of_lines listed
    apply lines_intercalate isLine
    intro empty
    obtain ⟨declaration, _, same⟩ := List.mem_map.mp empty
    exact declaration.line_ne_nil same
  · exact canonical.parse_of_lines listed (lines_flatMap isLine)

/-- Two constants, one of them empty, between the fields of a scan. -/
def scan : List Declaration :=
  [.constant ⟨"TITLE", ⟨.builtin .string, .single⟩, "a = b  c"⟩,
   .field ⟨"header", ⟨.named none "Header", .single⟩⟩,
   .field ⟨"ranges", ⟨.builtin (.int .w8), .sequence⟩⟩,
   .constant ⟨"EMPTY", ⟨.builtin .string, .single⟩, ""⟩,
   .field ⟨"origin", ⟨.named (some "geo") "Point", .fixed 3⟩⟩]

/-- The text of a scan is not the only one that is read as it. -/
theorem parse_declarations_scan :
    let text := ("# a scan\r\nHeader header # stamp\n\tbyte[] ranges\n\ngeo/Point[+03] origin\n" ++
      "string TITLE=a = b  c\r\nstring EMPTY =").toList
    let definition := scan.foldl add {}
    parse text = .ok definition ∧ definition.Canonical ∧ definition.ListedBy scan ∧
      parse (Declaration.joined scan) = .ok definition ∧
        parse (Declaration.terminated scan) = .ok definition := by
  intro text definition
  have read : parse text = .ok definition := by decide +kernel
  have canonical := (parse_declarations definition).1 text read
  have listed : definition.ListedBy scan := ⟨rfl, rfl⟩
  exact ⟨read, canonical, listed, (parse_declarations definition).2 canonical scan listed⟩

example : String.ofList (Declaration.joined scan) =
    "string TITLE = a = b  c\nHeader header\nint8[] ranges\n" ++
      "string EMPTY = \ngeo/Point[3] origin" := by
  decide +kernel

end Definition

end TopicBridge.Message
