import Mathlib.Data.List.Forall2
import TableSchema.Proofs.Assembly
import TableSchema.Proofs.Pointwise
import TableSchema.Proofs.Service

/-! # Selected columns

The fields of a table are the schemas of its selected columns, each mapped by itself
(`selectedFields_eq_ok_iff`), so to select columns is to filter the fields of all of them. The text
of the table has one line for each selected column, and the service names the same columns
(`schemaText_selected`).
-/

namespace TableSchema

open Schema

variable {source : ColumnSource} {table : String} {options : TableOptions}
  {columns : Entries Column} {fields : Entries Schema}

/-! ### Fields -/

namespace TableOptions

/-- Whether options select a column. -/
theorem selects_iff {name : String} : options.selects name = true ↔
    (∀ names ∈ options.wanted, names ≠ [] → name ∈ names) ∧ name ∉ options.unwanted := by
  obtain ⟨wanted, unwanted, strict, expressions, patterns⟩ := options
  cases wanted with
  | none => simp [selects]
  | some names => cases names <;> simp [selects]

/-- The columns that options select, in order. -/
def selection (options : TableOptions) (columns : Entries Column) : Entries Column :=
  columns.filter fun entry => options.selects entry.1

/-- The first column is selected, or left out, before the others. -/
theorem selection_cons (entry : String × Column) : options.selection (entry :: columns) =
    if options.selects entry.1 then entry :: options.selection columns
    else options.selection columns :=
  List.filter_cons

/-- Whether a field is what options make of a column: it has the name of the column, and the schema
to which the column is mapped by itself. -/
def Maps (options : TableOptions) (entry : String × Column) (field : String × Schema) : Prop :=
  field.1 = entry.1 ∧ entry.2.schema (some (options.overrideFor entry.1)) = .ok field.2

/-- The options without their lists of columns. -/
def everyColumn (options : TableOptions) : TableOptions :=
  { options with wanted := none, unwanted := [] }

theorem selects_everyColumn (name : String) : options.everyColumn.selects name = true :=
  selects_iff.mpr ⟨nofun, List.not_mem_nil⟩

theorem selection_everyColumn : options.everyColumn.selection columns = columns :=
  List.filter_eq_self.mpr fun entry _ => selects_everyColumn entry.1

end TableOptions

/-- The fields of a table are the selected columns, each mapped by itself. -/
theorem selectedFields_eq_ok_iff : selectedFields options columns = .ok fields ↔
    List.Forall₂ options.Maps (options.selection columns) fields := by
  induction columns generalizing fields with
  | nil =>
    rw [selectedFields, TableOptions.selection, List.filter_nil, List.forall₂_nil_left_iff]
    exact ⟨fun same => (Except.ok.inj same).symm, fun same => congrArg Except.ok same.symm⟩
  | cons entry columns hypothesis =>
    obtain ⟨name, column⟩ := entry
    rw [selectedFields, TableOptions.selection_cons]
    split
    · rw [List.forall₂_cons_left_iff]
      constructor
      · intro mapped
        obtain ⟨schema, found, tail⟩ := bind_eq_ok.mp mapped
        obtain ⟨rest, others, same⟩ := bind_eq_ok.mp tail
        cases same
        exact ⟨(name, schema), rest, ⟨rfl, found⟩, hypothesis.mp others, rfl⟩
      · rintro ⟨⟨name', schema⟩, rest, ⟨rfl, found⟩, others, rfl⟩
        exact bind_eq_ok.mpr ⟨schema, found, bind_eq_ok.mpr ⟨rest, hypothesis.mpr others, rfl⟩⟩
    · exact hypothesis

/-- To select columns is to filter the fields of all of them. -/
theorem selectedFields_filter
    (mapped : selectedFields options.everyColumn columns = .ok fields) :
    selectedFields options columns = .ok (fields.filter fun field => options.selects field.1) := by
  have each := selectedFields_eq_ok_iff.mp mapped
  rw [TableOptions.selection_everyColumn] at each
  refine selectedFields_eq_ok_iff.mpr (List.rel_filter ?_ each)
  rintro entry field ⟨named, -⟩
  exact iff_of_eq (congrArg (options.selects · = true) named.symm)

/-! ### Lines -/

/-- The line of a member of an object. -/
def memberLine (name expression : String) : String :=
  String.ofList (Text.objectKey name) ++ ": " ++ expression

/-- The block that the lines of the members of an object make. -/
def blockText (mode : ObjectMode) (lines : List String) : String :=
  "z.object(\x7b\n" ++ ",\n".intercalate (lines.map ("  " ++ ·)) ++ "\n\x7d)." ++ mode.name ++ "()"

/-- A block is a line for each field within an object, and the mode behind it. -/
theorem toList_blockText (mode : ObjectMode) (lines : List String) :
    (blockText mode lines).toList = "z.object(\x7b\n".toList ++ List.intercalate [',', '\n']
      ((lines.map String.toList).map ("  ".toList ++ ·)) ++ "\n\x7d)".toList ++
        '.' :: (mode.name.toList ++ ['(', ')']) := by
  simp [blockText, String.toList_intercalate, Function.comp_def]

/-- Whether a line is that of a field. -/
def IsLineOf (field : String × Schema) (line : String) : Prop :=
  ∃ expression, field.2.render = .ok expression ∧ line = memberLine field.1 expression

namespace Schema

/-- A schema is rendered as the characters of its text. -/
theorem render_eq_ok_iff {schema : Schema} {text : String} :
    schema.render = .ok text ↔ schema.renderChars = .ok text.toList := by
  rw [render]
  cases schema.renderChars with
  | error error => constructor <;> intro same <;> cases same
  | ok chars =>
    constructor
    · intro same
      cases same
      rw [String.toList_ofList]
    · intro same
      cases same
      exact congrArg Except.ok String.ofList_toList

/-- The members of an object are written each by itself. -/
theorem renderFields_eq_ok_iff {lines : List String} :
    renderFields fields = .ok (lines.map String.toList) ↔
      List.Forall₂ IsLineOf fields lines := by
  induction fields generalizing lines with
  | nil => cases lines <;> simp [renderFields]
  | cons field fields hypothesis =>
    obtain ⟨name, schema⟩ := field
    cases lines with
    | nil => simp [renderFields_cons_ok]
    | cons line lines =>
      rw [renderFields_cons_ok, List.map_cons, List.forall₂_cons, ← hypothesis]
      constructor
      · rintro ⟨text, others, written, rest, same⟩
        obtain ⟨first, rfl⟩ := List.cons.inj same
        refine ⟨⟨.ofList text, render_eq_ok_iff.mpr (by rwa [String.toList_ofList]), ?_⟩, rest⟩
        exact String.toList_inj.mp (by simp [memberLine, first])
      · rintro ⟨⟨expression, written, rfl⟩, rest⟩
        exact ⟨_, _, render_eq_ok_iff.mp written, rest, by simp [memberLine]⟩

/-- The block of an object is made of the lines of its members. -/
theorem renderBlock_eq_ok_iff {mode : ObjectMode} {text : String} :
    renderBlock ⟨.object fields, { mode := some mode }⟩ = .ok text ↔
      ∃ lines, List.Forall₂ IsLineOf fields lines ∧ text = blockText mode lines := by
  have block (lines : List String) : blockText mode lines = String.ofList
      ("z.object(\x7b\n".toList ++ List.intercalate [',', '\n']
        ((lines.map String.toList).map ("  ".toList ++ ·)) ++ "\n\x7d)".toList ++
          '.' :: (mode.name.toList ++ ['(', ')'])) := by
    rw [← toList_blockText, String.ofList_toList]
  have marks : Decorations.text { mode := some mode } =
      .ok ('.' :: (mode.name.toList ++ ['(', ')'])) := by
    simp [Decorations.text, checksText, defaultText, modeText, bind, Except.bind, pure, Except.pure]
  rw [renderBlock, renderBlockChars]
  simp only [marks]
  constructor
  · intro written
    cases members : renderFields fields with
    | error error => rw [members] at written; cases written
    | ok texts =>
      rw [members] at written
      cases written
      have asLines : texts = (texts.map String.ofList).map String.toList := by simp
      rw [asLines] at members
      exact ⟨_, renderFields_eq_ok_iff.mp members, by rw [block, ← asLines]⟩
  · rintro ⟨lines, each, rfl⟩
    rw [renderFields_eq_ok_iff.mpr each, block]
    rfl

end Schema

/-! ### Tables -/

/-- The query for the schema of a column of a table, whose type is given apart from it. -/
def TableOptions.queryFor (options : TableOptions) (entry : String × Column) :
    Service.TypeQuery where
  typeName := entry.2.typeName
  column := some entry.2
  override := options.overrideFor entry.1

/-- Whether a line is that of a column: its name and the answer to the query for its schema. -/
def TableOptions.Writes (options : TableOptions) (entry : String × Column) (line : String) : Prop :=
  ∃ expression, (options.queryFor entry).text = .ok expression ∧
    line = memberLine entry.1 expression

/-- The line of the field of a column is what the options write for it. -/
theorem TableOptions.writes_of_maps {entry : String × Column} {field : String × Schema}
    {line : String} (maps : options.Maps entry field) (isLine : IsLineOf field line) :
    options.Writes entry line := by
  obtain ⟨named, found⟩ := maps
  obtain ⟨expression, written, rfl⟩ := isLine
  refine ⟨expression, ?_, by rw [named]⟩
  have described : entry.2.schemaOfType entry.2.typeName (some (options.overrideFor entry.1)) =
      .ok field.2 := found
  rw [Service.TypeQuery.text, queryFor]
  simp only [Option.getD_some, Column.textOfType, described]
  exact congrArg (Except.mapError _) written

/-- A table that is assembled has its columns fetched. -/
theorem fetch_of_assemble {schema : Schema} (fetched : source.columns table = .ok columns)
    (assembled : assemble source table options = .ok schema) :
    source.fetch table = .ok columns := by
  obtain ⟨columns', found, -⟩ := bind_eq_ok.mp assembled
  cases fetched.symm.trans (columns_of_fetch found)
  exact found

/-- Where the selected columns have fields with different names, the table is assembled of these. -/
theorem assemble_of_selectedFields (found : source.fetch table = .ok columns)
    (distinct : fields.names.Nodup) (selected : selectedFields options columns = .ok fields) :
    assemble source table options = .ok ⟨.object fields, { mode := some options.mode }⟩ := by
  rw [assemble_of_fields found selected, Schema.object, Entries.ofList_of_nodup distinct]

/-- If a table has a text with every column, then it has one with any choice of columns. Its fields
are those of all columns, filtered by name in the order of the source; each is its column mapped by
itself and makes one line of the text; and the service names the same columns. -/
theorem schemaText_selected (fetched : source.columns table = .ok columns)
    (dictionary : columns.names.Nodup) {whole : String}
    (written : schemaText source table options.everyColumn = .ok whole) :
    ∃ (all fields : Entries Schema) (lines : List String),
      assemble source table options.everyColumn =
        .ok ⟨.object all, { mode := some options.mode }⟩ ∧
      assemble source table options = .ok ⟨.object fields, { mode := some options.mode }⟩ ∧
      all.names = columns.names ∧ fields.names.Nodup ∧
      fields = all.filter (fun field => options.selects field.1) ∧
      (∀ name, options.selects name = true ↔
        (∀ names ∈ options.wanted, names ≠ [] → name ∈ names) ∧ name ∉ options.unwanted) ∧
      List.Forall₂ options.Maps (options.selection columns) fields ∧
      List.Forall₂ options.Writes (options.selection columns) lines ∧
      schemaText source table options = .ok (blockText options.mode lines) ∧
      ∀ settings (request : Service.Request),
        request.Asks ⟨table, source.dialect, columns, options⟩ →
        ∃ sharing, Service.respond settings request = .ok
          { status := 200
            content := .value (.dict
              [("table_name", .str table), ("columns", .list (fields.names.map .str)),
                ("strict", .bool options.strict),
                ("schema_text", .str (blockText options.mode lines))])
            sharing } := by
  obtain ⟨schema, assembled, block⟩ := bind_eq_ok.mp written
  have assembled := mapError_eq_ok assembled
  have found := fetch_of_assemble fetched assembled
  obtain ⟨all, mapped, -, rfl⟩ := schema_of_assemble fetched dictionary assembled
  have selected := selectedFields_filter mapped
  have names : Entries.names (all.filter fun field => options.selects field.1) =
      options.select columns.names := names_selectedFields selected
  have distinct : (Entries.names (all.filter fun field => options.selects field.1)).Nodup := by
    rw [names]
    exact dictionary.filter _
  have assembled' := assemble_of_selectedFields found distinct selected
  -- The lines of the selected columns are some of the lines of all columns.
  obtain ⟨allLines, eachLine, -⟩ := renderBlock_eq_ok_iff.mp (mapError_eq_ok block)
  obtain ⟨lines, -, isLine⟩ := forall₂_filter eachLine fun field => options.selects field.1
  have maps := selectedFields_eq_ok_iff.mp selected
  have text : schemaText source table options = .ok (blockText options.mode lines) := by
    rw [schemaText, assembled']
    exact congrArg (Except.mapError _) (renderBlock_eq_ok_iff.mpr ⟨lines, isLine, rfl⟩)
  have everyName : all.names = columns.names :=
    (names_selectedFields mapped).trans
      (List.filter_eq_self.mpr fun name _ => TableOptions.selects_everyColumn name)
  have writes : List.Forall₂ options.Writes (options.selection columns) lines := by
    refine forall₂_trans ?_ maps isLine
    exact TableOptions.writes_of_maps
  refine ⟨all, _, lines, assembled, assembled', everyName, distinct, rfl,
    fun name => TableOptions.selects_iff, maps, writes, text, fun settings request asks => ?_⟩
  have answered := Service.answer_of_text ((Service.TableQuery.text_eq fetched).trans text)
  rw [Service.respond_of_asks asks, answered, names]
  exact ⟨_, rfl⟩

/-- Names that are repeated or unknown change nothing, and an unwanted name is left out although it
is wanted, too. The service names the one column that is left. -/
theorem schemaText_selected_overlapping :
    let columns : Entries Column :=
      [("id", { typeName := "integer" }), ("name", { typeName := "text" }),
        ("secret", { typeName := "jsonb" })]
    let options : TableOptions :=
      { wanted := some ["name", "id", "id", "nope"], unwanted := ["name", "gone"] }
    let text := "z.object(\x7b\n  id: z.number().int()\n\x7d).strict()"
    let body : Value := .dict [("table_name", .str "items"), ("columns", .dict [
        ("id", .dict [("type", .str "integer")]), ("name", .dict [("type", .str "text")]),
        ("secret", .dict [("type", .str "jsonb")])]),
      ("options", .dict [("columns", .list [.str "name", .str "id", .str "id", .str "nope"]),
        ("exclude", .list [.str "name", .str "gone"])])]
    let request : Service.Request :=
      { method := "POST", target := "/api/schema", body := some body }
    schemaText (.ofTables [("items", columns)]) "items" options = .ok text ∧
      ∃ sharing, Service.respond {} request = .ok
        { status := 200
          content := .value (.dict [("table_name", .str "items"), ("columns", .list [.str "id"]),
            ("strict", .bool true), ("schema_text", .str text)])
          sharing } := by
  intro columns options text body request
  have whole : schemaText (.ofTables [("items", columns)]) "items" options.everyColumn =
      .ok ("z.object(\x7b\n  id: z.number().int(),\n  name: z.string(),\n  secret: z.unknown()\n" ++
        "\x7d).strict()") := ok_of_toOption (by decide +kernel)
  have fetched : (ColumnSource.ofTables [("items", columns)]).columns "items" = .ok columns := rfl
  have asks : request.Asks ⟨"items", "postgresql", columns, options⟩ := by
    refine ⟨rfl, ⟨[], ?_⟩, ⟨body, rfl, ?_, ?_⟩⟩
    · decide +kernel
    · decide +kernel
    · decide +kernel
  obtain ⟨-, fields, lines, -, -, -, -, -, -, maps, writes, written, responds⟩ :=
    schemaText_selected fetched (by decide) whole
  obtain ⟨sharing, response⟩ := responds {} request asks
  cases writes with
  | cons first others =>
    obtain ⟨expression, answered, rfl⟩ := first
    have answer : (options.queryFor ("id", { typeName := "integer" })).text =
        .ok "z.number().int()" := ok_of_toOption (by decide +kernel)
    cases answered.symm.trans answer
    cases others
    have block : blockText options.mode [memberLine "id" "z.number().int()"] = text := by
      decide +kernel
    rw [block] at written response
    refine ⟨written, sharing, ?_⟩
    cases maps with
    | cons named rest =>
      cases rest
      rw [response]
      simp only [Entries.names, List.map_cons, named.1]
      rfl

end TableSchema
