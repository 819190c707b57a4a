import Mathlib.Data.List.Nodup
import TableSchema.Proofs.Catalog.NumericDefault
import TableSchema.Proofs.Schema.Nesting
import TableSchema.Proofs.Selection
import TableSchema.Proofs.Text.JsonString
import TableSchema.Proofs.Text.Words

/-! # The names of members

The members of an object in its text are named by keys, as properties are (`Text.propertyName?`): a
name stands for itself, and a string of JSON for its content. `memberNames?` reads the names in the
text of a table. They are the names of the selected columns, but for a line break at the end of a
name that is written without quotes (`memberNames_schemaText`).
-/

namespace TableSchema

namespace Text

/-- The name of the property that a text begins with: a string or a name, with a colon behind it. -/
def propertyName? (text : List Char) : Option String :=
  let text := text.dropWhile isBlank
  match jsonString? text with
  | some (name, rest) => if (rest.dropWhile isBlank).head? = some ':' then some name else none
  | none =>
    let name := text.takeWhile isKeyPart
    if name.head?.any isKeyStart ∧
        ((text.drop name.length).dropWhile isBlank).head? = some ':' then
      some (String.ofList name)
    else none

/-- What a written key names: a key without quotes loses a line break at its end. -/
def keyName (name : String) : String :=
  if isBareKey name.toList then String.ofList (name.toList.takeWhile isKeyPart) else name

/-- Whether a key is written without quotes and ends in a line break. -/
def IsBrokenKey (name : String) : Prop :=
  isBareKey name.toList = true ∧ '\n' ∈ name.toList

instance (name : String) : Decidable (IsBrokenKey name) :=
  inferInstanceAs (Decidable (_ ∧ _))

/-- A name is found again as a key unless its key is broken over two lines. -/
theorem keyName_eq_iff (name : String) : keyName name = name ↔ ¬IsBrokenKey name := by
  unfold keyName IsBrokenKey
  split
  · next bare =>
    have same := rereadKey_eq_iff name
    rw [rereadKey, if_pos bare, IsKeptKey, if_pos bare] at same
    simp only [same, bare, true_and]
  · next quoted => simp [quoted]

/-- A broken key is a name with a newline at its end. -/
theorem toList_of_broken {name : String} (broken : IsBrokenKey name) :
    name.toList = (keyName name).toList ++ ['\n'] := by
  obtain ⟨-, ⟨-, fresh⟩ | same⟩ := isBareKey_cases broken.1
  · exact absurd broken.2 fresh
  · rwa [keyName, if_pos broken.1, String.toList_ofList]

/-- What is found as a key is found again. -/
theorem keyName_keyName (name : String) : keyName (keyName name) = keyName name := by
  by_cases broken : IsBrokenKey name
  · refine (keyName_eq_iff _).mpr fun again => ?_
    have part : isKeyPart '\n' = true := by
      have member := again.2
      rw [keyName, if_pos broken.1, String.toList_ofList] at member
      exact List.mem_takeWhile_imp member
    rw [isKeyPart_newline] at part
    cases part
  · exact congrArg keyName ((keyName_eq_iff name).mpr broken)

/-- Names are found again exactly if none of their keys is broken. -/
theorem map_keyName_eq_iff (names : List String) :
    names.map keyName = names ↔ ∀ name ∈ names, ¬IsBrokenKey name := by
  calc names.map keyName = names
      ↔ names.map keyName = names.map id := by rw [List.map_id]
    _ ↔ ∀ name ∈ names, keyName name = id name := List.map_inj_left
    _ ↔ ∀ name ∈ names, ¬IsBrokenKey name := forall₂_congr fun name _ => keyName_eq_iff name

/-- Names are told apart by their keys unless one of them is another one with a line break. -/
theorem nodup_map_keyName_iff {names : List String} (distinct : names.Nodup) :
    (names.map keyName).Nodup ↔ ∀ name ∈ names, IsBrokenKey name → keyName name ∉ names := by
  rw [List.nodup_map_iff_inj_on distinct]
  constructor
  · intro injective name member broken stripped
    have same := injective _ stripped name member (keyName_keyName name)
    exact (keyName_eq_iff name).mp same broken
  · intro apart
    -- A key without a line break is its name, and then the name is told apart from broken ones.
    have found {name other : String} (member : name ∈ names) (member' : other ∈ names)
        (same : keyName name = keyName other) (whole : ¬IsBrokenKey name) : name = other := by
      rw [(keyName_eq_iff name).mpr whole] at same
      by_cases broken : IsBrokenKey other
      · exact absurd (same ▸ member) (apart other member' broken)
      · rw [same, (keyName_eq_iff other).mpr broken]
    intro name member other member' same
    by_cases broken : IsBrokenKey name
    · by_cases broken' : IsBrokenKey other
      · refine String.toList_inj.mp ?_
        rw [toList_of_broken broken, toList_of_broken broken', same]
      · exact (found member' member same.symm broken').symm
    · exact found member member' same broken

/-- Blanks at the front are dropped up to a character that is none. -/
theorem dropWhile_isBlank_append {before : List Char} (blank : ∀ c ∈ before, isBlank c = true)
    {c : Char} (solid : isBlank c = false) (rest : List Char) :
    (before ++ c :: rest).dropWhile isBlank = c :: rest := by
  rw [dropWhile_append_cons solid, List.dropWhile_eq_nil_iff.mpr blank, List.nil_append]

/-- A name, perhaps with a line break behind it, names a property. -/
theorem propertyName?_name {before broken name : List Char}
    (blank : ∀ c ∈ before, isBlank c = true) (newline : ∀ c ∈ broken, c = '\n')
    (isName : Token.IsName name) (rest : List Char) :
    propertyName? (before ++ (name ++ (broken ++ ':' :: rest))) = some (String.ofList name) := by
  obtain ⟨c, parts, rfl, start, all⟩ := isName
  have other : c ≠ '"' := by
    rintro rfl
    exact absurd start (by decide)
  have key : ∀ d ∈ c :: parts, isKeyPart d = true :=
    List.forall_mem_cons.mpr ⟨(isKeyPart_iff c).mpr (.inl start), all⟩
  have stops : ∀ d ∈ (broken ++ ':' :: rest).head?, isKeyPart d = false := by
    intro d member
    cases broken with
    | nil =>
      cases member
      decide
    | cons e broken =>
      cases member
      rw [newline d List.mem_cons_self]
      decide
  have run : ((c :: parts) ++ (broken ++ ':' :: rest)).takeWhile isKeyPart = c :: parts := by
    rw [Token.takeWhile_append_of_head stops]
    simpa using @List.takeWhile_append_of_pos _ _ _ [] key
  have behind : (broken ++ ':' :: rest).dropWhile isBlank = ':' :: rest :=
    dropWhile_isBlank_append (fun d member => by rw [newline d member]; decide) (by decide) rest
  rw [List.cons_append] at run ⊢
  simp only [propertyName?, dropWhile_isBlank_append blank (isBlank_of_isKeyStart start),
    jsonString?_eq_none other, run]
  rw [if_pos]
  refine ⟨start, ?_⟩
  rw [← List.cons_append, List.drop_left, behind]
  rfl

/-- A written key, with blanks before it and a colon behind it, names what it stands for. -/
theorem propertyName?_objectKey {before : List Char} (blank : ∀ c ∈ before, isBlank c = true)
    (name : String) (rest : List Char) :
    propertyName? (before ++ (objectKey name ++ ':' :: rest)) = some (keyName name) := by
  unfold keyName objectKey
  split
  · next bare =>
    obtain ⟨isName, ⟨same, -⟩ | same⟩ := isBareKey_cases bare
    · have read := propertyName?_name blank (List.forall_mem_nil _) isName rest
      rwa [← same] at read ⊢
    · have read := propertyName?_name blank (List.forall_mem_singleton.mpr rfl) isName rest
      rwa [← List.append_assoc _ ['\n'], ← same] at read
  · have read := jsonString?_quote true name.toList (':' :: rest)
    rw [quote, List.cons_append] at read ⊢
    simp only [propertyName?, dropWhile_isBlank_append blank (by decide : isBlank '"' = false),
      read, String.ofList_toList]
    exact if_pos rfl

end Text

open Nesting

/-! ### Schemas of columns -/

namespace Catalog

variable {text rest : List Char}

theorem neutral_of_isNumeralChar (all : ∀ c ∈ text, isNumeralChar c = true) : Neutral text :=
  neutral_of_class (Text.forall_of_all (by decide)) all

/-- A number without its sign is neutral. -/
theorem neutral_of_afterMantissa? (found : afterMantissa? text = some rest) (tail : IsTail rest) :
    Neutral text := by
  have run := neutral_of_isNumeralChar (isNumeralChar_digitRun text)
  have last := neutral_of_isNumeralChar (isNumeralChar_of_isTail tail)
  rcases afterMantissa?_cases found with ⟨-, same, -⟩ | ⟨behind, same, after⟩
  · rw [same]
    exact run.append last
  · have fraction := (neutral_of_isNumeralChar (isNumeralChar_digitRun behind)).append last
    rw [← after] at fraction
    rw [same]
    exact run.append (List.forall_mem_cons.mpr ⟨by decide, fraction⟩)

/-- A number of a default is neutral as it is shown. -/
theorem neutral_shown (number : isNumber text = true) : Neutral (shown text) := by
  obtain ⟨unsigned, rest, found, tail, shownAs⟩ := shown_cases number
  have neutral := neutral_of_afterMantissa? found tail
  rcases shownAs with ⟨-, same⟩ | ⟨-, same⟩
  · rw [same]
    exact List.forall_mem_cons.mpr ⟨by decide, neutral⟩
  · rwa [same]

end Catalog

/-- Whether a schema, apart from its parts, is not given as text, has no default, and has
refinements with neutral names. -/
def Schema.isPlain (schema : Schema) : Bool :=
  schema.isRegular && schema.decorations.default.isNone &&
    schema.decorations.checks.all fun check => decide (Neutral check.name.toList)

/-- A plain schema has a level text. -/
theorem Schema.level_of_plain {schema : Schema} (plain : schema.isPlain = true) :
    schema.IsLevel := by
  simp only [isPlain, Bool.and_eq_true, Option.isNone_iff_eq_none] at plain
  obtain ⟨⟨regular, bare⟩, names⟩ := plain
  refine ⟨fun check member => ?_, by simp [bare], constructed_of_regular regular⟩
  exact of_decide_eq_true (List.all_eq_true.mp names check member)

/-- The schema of a type has a level text. -/
theorem TypeKind.level_schema (kind : TypeKind) (maxLength : Option Int) :
    (kind.schema maxLength).Everywhere Schema.IsLevel := by
  rcases kind.schema_cases maxLength with same | ⟨limit, same⟩
  · have plain : (kind.schema none).all Schema.isPlain = true := by
      cases kind <;> decide
    rw [same]
    exact (Schema.all_iff.mp plain).mono fun _ => Schema.level_of_plain
  · have neutral : Neutral "max".toList := by decide
    rw [same]
    exact .intro ⟨List.forall_mem_singleton.mpr neutral, nofun, nofun⟩ (List.forall_mem_nil _)

namespace Column

variable {column : Column} {override : Override} {schema base : Schema}

/-- The schema of a column without its default has a level text. -/
theorem level_base (isBase : column.IsBase override base) : base.Everywhere Schema.IsLevel := by
  cases isBase with
  | array isArray element =>
    exact .intro (Schema.level_of_plain rfl)
      (List.forall_mem_singleton.mpr (element.level_schema none))
  | pattern document asked nonempty found =>
    have plain : base.all Schema.isPlain = true := Pattern.holds_schema? (by decide) found
    exact (Schema.all_iff.mp plain).mono fun _ => Schema.level_of_plain
  | kind single free => exact TypeKind.level_schema _ _

/-- The source text of a default is a number. -/
theorem level_default {literal : DefaultLiteral}
    (present : ColumnDefault.ofValue column.defaultValue = .ok (.present literal)) :
    ∀ text ∈ literal.text, Level text.toList := by
  intro source member
  rcases literal_cases present with ⟨scalar, -, rfl⟩ | ⟨text, -, read⟩
  · cases member
  · rcases Catalog.literalOf_cases read with ⟨number, shownAs⟩ | ⟨-, none⟩
    · rw [← Option.some.inj (shownAs.symm.trans member), String.toList_ofList]
      exact (Catalog.neutral_shown number).level
    · cases none.symm.trans member

/-- A column that no expression describes has a schema with a level text. -/
theorem level_schema (found : column.schema (some override) = .ok schema) :
    (∃ text, override.Describes column text) ∨ schema.Everywhere Schema.IsLevel := by
  obtain ⟨base, default, baseFound, defaultFound, rfl⟩ := exists_base found
  refine (isBase_of_found baseFound).imp_right fun isBase => ?_
  have level := level_base isBase
  refine level.decorated ⟨level.here.names, fun literal member => ?_, level.here.constructed⟩
  cases default with
  | skipped => exact level.here.default literal member
  | present present =>
    cases member
    exact level_default defaultFound

end Column

/-! ### Blocks -/

/-- The names of the members of the object that a text begins with. -/
def memberNames? (text : String) : Option (List String) := do
  let parts ← members (.code 0) ((text.toList.dropWhile (· != '\x7b')).drop 1)
  (parts.filter fun part => !part.all Text.isBlank).mapM Text.propertyName?

namespace Nesting

/-- Whether a part is a line with text around it, of which what comes before is blank. -/
def Surrounds (line part : List Char) : Prop :=
  ∃ before after, (∀ c ∈ before, Text.isBlank c = true) ∧ part = before ++ (line ++ after)

/-- A newline may stand in front of what surrounds a line. -/
theorem Surrounds.newline {line part : List Char} (surrounds : Surrounds line part) :
    Surrounds line ('\n' :: part) := by
  obtain ⟨before, after, blank, rfl⟩ := surrounds
  exact ⟨'\n' :: before, after, List.forall_mem_cons.mpr ⟨by decide, blank⟩, rfl⟩

theorem members_newline (rest : List Char) :
    members (.code 0) ('\n' :: rest) = (members (.code 0) rest).map (extend ['\n']) :=
  members_of_walk (Neutral.level (by decide : Neutral ['\n']) 0) rest

theorem members_comma (rest : List Char) :
    members (.code 0) (',' :: rest) = (members (.code 0) rest).map ([] :: ·) := by
  rw [members, if_neg (by decide), if_neg (by decide), if_pos (by decide)]

/-- The members of a block are its lines. -/
theorem exists_members_lines {line : List Char} {lines : List (List Char)}
    (level : ∀ text ∈ line :: lines, Level text) (rest : List Char) :
    ∃ part parts, members (.code 0)
        (List.intercalate [',', '\n'] (line :: lines) ++ '\n' :: '\x7d' :: rest) =
          some (part :: parts) ∧ List.Forall₂ Surrounds (line :: lines) (part :: parts) := by
  induction lines generalizing line with
  | nil =>
    have ending : members (.code 0) ('\n' :: '\x7d' :: rest) = some [['\n']] := by
      rw [members_newline]
      rfl
    have walk := level line (List.mem_singleton_self line) 0
    rw [List.intercalate_singleton, members_of_walk walk, ending]
    exact ⟨_, [], rfl, .cons ⟨[], ['\n'], List.forall_mem_nil _, rfl⟩ .nil⟩
  | cons next lines hypothesis =>
    obtain ⟨first, others⟩ := List.forall_mem_cons.mp level
    obtain ⟨part, parts, read, surrounds⟩ := hypothesis others
    obtain ⟨here, behind⟩ := List.forall₂_cons.mp surrounds
    have cut : List.intercalate [',', '\n'] (line :: next :: lines) ++ '\n' :: '\x7d' :: rest =
        line ++ ',' :: '\n' ::
          (List.intercalate [',', '\n'] (next :: lines) ++ '\n' :: '\x7d' :: rest) := by
      rw [List.intercalate_cons_cons, List.append_assoc, List.append_assoc]
      rfl
    rw [cut, members_of_walk (first 0), members_comma, members_newline, read]
    exact ⟨_, _, rfl, .cons ⟨[], [], List.forall_mem_nil _, rfl⟩ (.cons here.newline behind)⟩

end Nesting

/-- Whether the name of a field, as its key is written, is the name in a part of a text. -/
def IsNamedIn (field : String × Schema) (part : List Char) : Prop :=
  part.all Text.isBlank = false ∧ Text.propertyName? part = some (Text.keyName field.1)

variable {fields : Entries Schema}

/-- The part that surrounds the line of a field is named by the key of the field. -/
theorem isNamedIn_of_surrounds {field : String × Schema} {line : String} {part : List Char}
    (isLine : IsLineOf field line) (surrounds : Surrounds ("  ".toList ++ line.toList) part) :
    IsNamedIn field part := by
  obtain ⟨expression, -, rfl⟩ := isLine
  obtain ⟨before, after, blank, rfl⟩ := surrounds
  have blank' : ∀ c ∈ before ++ "  ".toList, Text.isBlank c = true :=
    List.forall_mem_append.mpr ⟨blank, Text.forall_of_all (by decide)⟩
  have whole : before ++ ("  ".toList ++ (memberLine field.1 expression).toList ++ after) =
      before ++ "  ".toList ++
        (Text.objectKey field.1 ++ ':' :: (' ' :: (expression.toList ++ after))) := by
    simp [memberLine]
  refine ⟨?_, whole ▸ Text.propertyName?_objectKey blank' field.1 _⟩
  rw [whole, List.all_eq_false]
  exact ⟨':', by simp, by decide⟩

/-- Of parts that are named by fields, blank ones left out, the names of the fields are read. -/
theorem mapM_propertyName? {parts : List (List Char)} (each : List.Forall₂ IsNamedIn fields parts) :
    (parts.filter fun part => !part.all Text.isBlank).mapM Text.propertyName? =
      some (fields.names.map Text.keyName) := by
  induction each with
  | nil => rfl
  | cons here others hypothesis =>
    rw [List.filter_cons_of_pos (by simp [here.1]), List.mapM_cons, here.2, hypothesis]
    rfl

/-- The lines of fields are level if their schemas are. -/
theorem level_lines {lines : List String} (each : List.Forall₂ IsLineOf fields lines)
    (level : ∀ field ∈ fields, field.2.Everywhere Schema.IsLevel) :
    ∀ line ∈ lines, Level line.toList := by
  induction each with
  | nil => exact List.forall_mem_nil _
  | @cons field line fields lines isLine others hypothesis =>
    obtain ⟨expression, written, rfl⟩ := isLine
    obtain ⟨levelField, levelFields⟩ := List.forall_mem_cons.mp level
    have chars := Schema.level_renderChars levelField (Schema.render_eq_ok_iff.mp written)
    refine List.forall_mem_cons.mpr ⟨?_, hypothesis levelFields⟩
    rw [memberLine, String.toList_append, String.toList_append, String.toList_ofList]
    exact chars.keyed field.1

/-- The names in a block are the names of its fields, as their keys are written. -/
theorem memberNames?_blockText {mode : ObjectMode} {lines : List String}
    (each : List.Forall₂ IsLineOf fields lines)
    (level : ∀ field ∈ fields, field.2.Everywhere Schema.IsLevel) :
    memberNames? (blockText mode lines) = some (fields.names.map Text.keyName) := by
  have indented : ∀ text ∈ (lines.map String.toList).map ("  ".toList ++ ·), Level text := by
    have blanks : Neutral "  ".toList := by decide
    refine List.forall_mem_map.mpr (List.forall_mem_map.mpr fun line member => ?_)
    exact blanks.level.append (level_lines each level line member)
  obtain ⟨rest, opened⟩ : ∃ rest, ((blockText mode lines).toList.dropWhile (· != '\x7b')).drop 1 =
      '\n' :: (List.intercalate [',', '\n'] ((lines.map String.toList).map ("  ".toList ++ ·)) ++
        '\n' :: '\x7d' :: rest) := by
    rw [toList_blockText, List.append_assoc, List.append_assoc]
    exact ⟨_, rfl⟩
  rw [memberNames?, opened, members_newline]
  cases lines with
  | nil =>
    cases each
    rw [List.map_nil, List.map_nil, List.intercalate_nil, List.nil_append, members_newline]
    rfl
  | cons line lines =>
    obtain ⟨part, parts, read, surrounds⟩ := exists_members_lines indented rest
    obtain ⟨here, behind⟩ := List.forall₂_cons.mp surrounds
    have whole := List.Forall₂.cons here.newline behind
    rw [← List.map_cons, ← List.map_cons, List.forall₂_map_left_iff, List.forall₂_map_left_iff]
      at whole
    have named : List.Forall₂ IsNamedIn fields (('\n' :: part) :: parts) := by
      refine forall₂_trans ?_ each whole
      exact isNamedIn_of_surrounds
    rw [List.map_cons, List.map_cons, read]
    exact mapM_propertyName? named

/-! ### Tables -/

/-- The text of a table without expressions has one member for each selected column, in order, named
as the key of the column is written. These are the names of the columns exactly if none of them is
written without quotes and ends in a line break, and they are distinct unless such a name is another
one with the line break. -/
theorem memberNames_schemaText {source : ColumnSource} {table : String} {options : TableOptions}
    {columns : Entries Column} (fetched : source.columns table = .ok columns)
    (dictionary : columns.names.Nodup)
    (undescribed : ∀ name text, ¬options.Describes columns name text) {text : String}
    (written : schemaText source table options = .ok text) :
    ∃ keys, memberNames? text = some keys ∧
      keys = (options.select columns.names).map Text.keyName ∧
      (keys = options.select columns.names ↔
        ∀ name ∈ options.select columns.names, ¬Text.IsBrokenKey name) ∧
      (keys.Nodup ↔ ∀ name ∈ options.select columns.names, Text.IsBrokenKey name →
        Text.keyName name ∉ options.select columns.names) := by
  obtain ⟨schema, assembled, block⟩ := bind_eq_ok.mp written
  obtain ⟨fields, selected, -, rfl⟩ :=
    schema_of_assemble fetched dictionary (mapError_eq_ok assembled)
  obtain ⟨lines, each, rfl⟩ := Schema.renderBlock_eq_ok_iff.mp (mapError_eq_ok block)
  have level : ∀ field ∈ fields, field.2.Everywhere Schema.IsLevel := by
    intro field member
    obtain ⟨column, listed, isSelected, found⟩ :=
      mem_columns_of_selectedFields selected field member
    refine (Column.level_schema found).resolve_left ?_
    rintro ⟨text, described⟩
    exact undescribed field.1 text ⟨column, listed, isSelected, described⟩
  refine ⟨_, memberNames?_blockText each level, ?_⟩
  rw [names_selectedFields selected]
  exact ⟨rfl, Text.map_keyName_eq_iff _, Text.nodup_map_keyName_iff (dictionary.filter _)⟩

/-- The keys of columns with plain and with quoted names are read back from the text. -/
theorem memberNames_schemaText_quoted :
    let columns : Entries Column :=
      [("a", { typeName := "integer", default := some (.str "+1.") }),
        ("a\n", { typeName := "text" }), ("a: \x7b", { typeName := "jsonb" }),
        ("\u00e9\"", { typeName := "varchar", nullable := true, maxLength := some 3 })]
    let options : TableOptions :=
      { unwanted := ["a\n"], patterns := [("a: \x7b", "string_array")] }
    ∃ text keys, schemaText (.ofTables [("items", columns)]) "items" options = .ok text ∧
      memberNames? text = some keys ∧ keys = ["a", "a: \x7b", "\u00e9\""] ∧ keys.Nodup := by
  intro columns options
  have fetched : (ColumnSource.ofTables [("items", columns)]).columns "items" = .ok columns := rfl
  have undescribed : ∀ name text, ¬options.Describes columns name text := by
    rintro name text ⟨column, -, -, -, given, -⟩
    cases given
  have written : schemaText (.ofTables [("items", columns)]) "items" options =
      .ok ("z.object(\x7b\n  a: z.number().int().default(1.),\n" ++
        "  \"a: \x7b\": z.array(z.string()),\n" ++
        "  \"\\u00e9\\\"\": z.string().max(3).nullable()\n\x7d).strict()") :=
    ok_of_toOption (by decide +kernel)
  obtain ⟨keys, read, -, kept, distinct⟩ :=
    memberNames_schemaText fetched (by decide) undescribed written
  exact ⟨_, keys, written, read, kept.mpr (by decide), distinct.mpr (by decide)⟩

/-- A name and the same name with a line break behind it are written as keys of one name. -/
theorem memberNames_schemaText_broken :
    let columns : Entries Column :=
      [("a", { typeName := "integer" }), ("a\n", { typeName := "text" })]
    columns.names.Nodup ∧
      schemaText (.ofTables [("items", columns)]) "items" =
        .ok "z.object(\x7b\n  a: z.number().int(),\n  a\n: z.string()\n\x7d).strict()" ∧
      memberNames? "z.object(\x7b\n  a: z.number().int(),\n  a\n: z.string()\n\x7d).strict()" =
        some ["a", "a"] :=
  ⟨by decide, ok_of_toOption (by decide +kernel), by decide +kernel⟩

end TableSchema
