import TableSchema.Format.Timestamp
import TableSchema.Format.Uuid
import TableSchema.Format.WebAddress
import TableSchema.Issue
import TableSchema.Row.Model
import TableSchema.Text.Blank

/-! # Checking rows

A row is checked against a row type. The check gives the value that the row stands for, in which
numbers, bytes and texts in a format are converted and left-out fields are filled in, or all issues
with the row. Where a date or a time is wanted, a number counts seconds and bytes stand for their
text. Along with a value comes its match, which says how exactly the value fits and how many
fields it has; a union takes the member that matches best.
-/

namespace TableSchema

namespace Row

/-- How exactly a value fits a type. -/
inductive Exactness where
  /-- The value was converted. -/
  | lax
  /-- The value was widened, was made a model of, or could have been anything. -/
  | strict
  | exact
deriving DecidableEq

/-- The rank of an exactness. -/
def Exactness.rank : Exactness → Nat
  | .lax => 0
  | .strict => 1
  | .exact => 2

/-- The lesser of two exactnesses. -/
def Exactness.min (a b : Exactness) : Exactness :=
  if a.rank ≤ b.rank then a else b

/-- How well a value fits a type. -/
structure Fit where
  exactness : Exactness := .exact
  /-- The number of fields that were given, where there is a model. -/
  fields : Option Nat := none
deriving DecidableEq

/-- The sum of two counts of fields. -/
def addFields : Option Nat → Option Nat → Option Nat
  | some m, some n => some (m + n)
  | some m, none => some m
  | none, count => count

/-- How well two parts fit together. -/
def Fit.and (a b : Fit) : Fit where
  exactness := a.exactness.min b.exactness
  fields := addFields a.fields b.fields

/-- Whether the first fit is better than the second: more fields, or as many and more exact. -/
def Fit.better (a b : Fit) : Bool :=
  match a.fields, b.fields with
  | some m, some n => if m = n then b.exactness.rank < a.exactness.rank else n < m
  | _, _ => b.exactness.rank < a.exactness.rank

/-- Whether nothing can fit better. -/
def Fit.isPerfect (fit : Fit) : Bool :=
  fit.exactness == .exact && fit.fields.isNone

/-- A value and how well it fits. -/
abbrev Fitted : Type := Value × Fit

/-- Accepts a value with an exactness. -/
def accept (exactness : Exactness) (value : Value) : Checked Fitted :=
  .accepted (value, { exactness })

/-- Whether a text is the address of a mailbox: one `@` with text on both sides, no blanks, and in
the second part a point that neither begins nor ends it. -/
def isMailbox (text : List Char) : Bool :=
  let name := text.takeWhile (· != '@')
  let domain := text.drop (name.length + 1)
  text.contains '@' && !name.isEmpty && !domain.contains '@' && !text.any Text.isWhiteSpace &&
    (domain.drop 1).dropLast.contains '.'

/-- The first problem of a text. -/
def textProblem? (email : Bool) (length : LengthRange) (text : List Char) : Option Problem :=
  if length.max.any (· < text.length) then some .stringTooLong
  else if length.min.any (text.length < ·) then some .stringTooShort
  else if email && !isMailbox text then some .stringMismatch
  else none

/-- The first problem of a number that is compared by the given tests of less and at most. A number
that compares with nothing is within no bound. -/
def rangeProblem? {ν : Type} (less atMost : ν → ν → Bool) (range : NumberRange ν) (x : ν) :
    Option Problem :=
  if range.atMost.any (!atMost x ·) then some .notAtMost
  else if range.less.any (!less x ·) then some .notLess
  else if range.atLeast.any (!atMost · x) then some .notAtLeast
  else if range.greater.any (!less · x) then some .notGreater
  else none

/-- Accepts a value unless it has a problem. -/
def acceptUnless (problem : Option Problem) (exactness : Exactness) (value : Value) :
    Checked Fitted :=
  match problem with
  | some problem => .refuse problem
  | none => accept exactness value

/-- Checks an integer. -/
def checkInteger (range : NumberRange Int) : Value → Checked Fitted
  | .int n => acceptUnless (rangeProblem? (· < ·) (· ≤ ·) range n) .exact (.int n)
  | _ => .refuse .intType

/-- Whether one number is less than or equal to another. -/
def numberAtMost (x y : Binary64) : Bool :=
  x.less y || x.equals y

/-- Checks a floating point number. -/
def checkFloat (range : NumberRange Binary64) (exactness : Exactness) (x : Binary64) :
    Checked Fitted :=
  acceptUnless (rangeProblem? Binary64.less numberAtMost range x) exactness (.float x)

/-- Checks the floating point number nearest to an integer, if there is one. -/
def checkNearest (range : NumberRange Binary64) : Option Binary64 → Checked Fitted
  | some x => checkFloat range .strict x
  | none => .refuse .floatType

/-- Checks a number; an integer becomes the nearest floating point number. -/
def checkNumber (range : NumberRange Binary64) : Value → Checked Fitted
  | .float x => checkFloat range .exact x
  | .int n => checkNearest range (Binary64.nearest? n)
  | _ => .refuse .floatType

/-- The canonical text of what a text was read as, if it can be kept. -/
def kept {α : Type} (isKept : α → Bool) (canonical : α → List Char) (problem : Problem) (read : α) :
    Checked (List Char) :=
  if isKept read then .accepted (canonical read) else .refuse problem

/-- A canonical text that was found, or a problem. -/
def found (canonical : Option (List Char)) (problem : Problem) : Checked (List Char) :=
  match canonical with
  | some canonical => .accepted canonical
  | none => .refuse problem

/-- The canonical text of a moment. -/
def canonicalMoment (moment : Format.Timestamp) : Checked (List Char) :=
  kept (·.date.isKept) Format.Timestamp.text .datetimeNotKept moment

/-- The canonical text of the date of a moment, which must be the beginning of a day. -/
def canonicalDay (moment : Format.Timestamp) : Checked (List Char) :=
  if moment.isMidnight then kept (·.isKept) Format.Date.text .dateNotKept moment.date
  else .refuse .dateInexact

/-- The canonical text of a text in a format. -/
def canonicalText (format : TextFormat) (text : List Char) : Checked (List Char) :=
  match format with
  | .datetime =>
    match Format.Timestamp.ofText? text with
    | some moment => canonicalMoment moment
    | none => .refuse (.formatParsing .datetime)
  | .time => found ((Format.TimeOfDay.ofText? text).map (·.text)) (.formatParsing .time)
  | .uuid => found (Format.canonicalUuid? text) (.formatParsing .uuid)
  | .url => found (Format.canonicalAddress? text) (.formatParsing .url)
  | .date =>
    match Format.Date.ofText? text, Format.Timestamp.ofText? text with
    | some date, _ => kept (·.isKept) Format.Date.text .dateNotKept date
    | none, some moment => canonicalDay moment
    | none, none => .refuse (.formatParsing .date)

/-- The problem of a number that counts nothing in a format. An integer past the greatest floating
point number is of the wrong kind. -/
def uncounted (format : TextFormat) : Value → Problem
  | .int n =>
    if (Binary64.nearest? n).isNone then .formatType format
    else if format = .datetime then .datetimeNotKept else .formatParsing format
  | _ => if format = .datetime then .datetimeNotKept else .formatParsing format

/-- The whole seconds and the microseconds that a number counts. -/
def countOf? : Value → Option (Int × Nat)
  | .int n => some (n, 0)
  | .float x => Format.splitCount? x
  | _ => none

/-- The canonical text of what a number counts: seconds since 1970 for dates and timestamps, seconds
since midnight for times. -/
def canonicalCount (format : TextFormat) (number : Value) : Checked (List Char) :=
  let moment := (countOf? number).bind fun count => Format.Timestamp.ofCount? count.1 count.2
  let time := (countOf? number).bind fun count => Format.TimeOfDay.ofCount? count.1 count.2
  match format with
  | .datetime =>
    match moment with
    | some moment => canonicalMoment moment
    | none => .refuse (uncounted .datetime number)
  | .date =>
    match moment with
    | some moment => canonicalDay moment
    | none => .refuse (uncounted .date number)
  | .time => found (time.map (·.text)) (uncounted .time number)
  | .uuid => .refuse (.formatType .uuid)
  | .url => .refuse (.formatType .url)

/-- The canonical text of bytes in a format: that of the text which they encode, and for identifiers
also that of the octets themselves. -/
def canonicalBytes (format : TextFormat) (octets : List UInt8) : Checked (List Char) :=
  let text := (Intake.decoded? octets).map String.toList
  match format with
  | .uuid =>
    found ((text.bind Format.canonicalUuid?).or (Format.canonicalUuidOfOctets? octets))
      (.formatParsing .uuid)
  | format =>
    match text with
    | some text => canonicalText format text
    | none => .refuse (if format = .url then .formatType .url else .formatParsing format)

/-- The canonical text of what was read in another format: a date begins with its midnight, and the
beginning of a day is a date. -/
def canonicalRead (format own : TextFormat) (text : String) : Checked (List Char) :=
  match format, own with
  | .datetime, .date => .accepted (text.toList ++ "T00:00:00".toList)
  | .date, .datetime =>
    match Format.Timestamp.ofText? text.toList with
    | some moment => canonicalDay moment
    | none => .refuse (.formatParsing .date)
  | format, _ => .refuse (.formatType format)

/-- The value of a canonical text. -/
def formattedAs (format : TextFormat) (canonical : List Char) : Fitted :=
  (.formatted format (String.ofList canonical), { exactness := .lax })

/-- Checks a value in a format. -/
def checkFormatted (format : TextFormat) : Value → Checked Fitted
  | .str text => formattedAs format <$> canonicalText format text.toList
  | .bytes octets => formattedAs format <$> canonicalBytes format octets
  | .int n => formattedAs format <$> canonicalCount format (.int n)
  | .float x => formattedAs format <$> canonicalCount format (.float x)
  | .formatted own text =>
    if own = format then accept .exact (.formatted own text)
    else formattedAs format <$> canonicalRead format own text
  | _ => .refuse (.formatType format)

/-- Checks a text; bytes stand for the text that they encode. -/
def checkText (email : Bool) (length : LengthRange) : Value → Checked Fitted
  | .str text => acceptUnless (textProblem? email length text.toList) .exact (.str text)
  | .bytes octets =>
    match Intake.decoded? octets with
    | some text => acceptUnless (textProblem? email length text.toList) .lax (.str text)
    | none => .refuse .stringUnicode
  | _ => .refuse .stringType

/-- Checks bytes; a text stands for its octets. -/
def checkBytes : Value → Checked Fitted
  | .bytes octets => accept .exact (.bytes octets)
  | .str text => accept .lax (.bytes text.toUTF8.toList)
  | _ => .refuse .bytesType

/-- Whether two values are of the same kind and equal. -/
def sameKind : Value → Value → Bool
  | .bool a, .bool b => a == b
  | .int m, .int n => m == n
  | .str s, .str t => s == t
  | _, _ => false

/-- The literal that a value stands for: one of its own kind if there is one, and otherwise the
first that is equal as data. -/
def findLiteral (values : List Value) (value : Value) : Option Value :=
  (values.find? (sameKind value)).or (values.find? (·.alike value))

/-- Whether a value is an integer of 64 bits. -/
def isShortInteger : Value → Bool
  | .int n => Intake.isShort n
  | _ => false

/-- Whether a value is an integer of more than 64 bits. -/
def isLongInteger : Value → Bool
  | .int n => !isShortInteger (.int n)
  | _ => false

/-- Checks a literal. Where integers of 64 bits are looked up, a longer one cannot be. -/
def checkLiteral (values : List Value) (value : Value) : Checked Fitted :=
  if isLongInteger value && values.any isShortInteger then .refuse .intParsingSize
  else match findLiteral values value with
    | some literal => accept .exact literal
    | none => .refuse .literalError

/-- The problem of a list that is too short. -/
def shortProblem? (length : LengthRange) (size : Nat) : Option Problem :=
  if length.min.any (size < ·) then some .tooShort else none

/-- The problem of a list that is too long. -/
def longProblem? (length : LengthRange) (size : Nat) : Option Problem :=
  if length.max.any (· < size) then some .tooLong else none

/-- The list that checked items make. -/
def listOf (items : List Fitted) : Fitted :=
  (.list (items.map Prod.fst), items.foldl (fun fit item => fit.and item.2) {})

/-- The dictionary that checked entries make. -/
def dictOf (entries : Entries Fitted) : Fitted :=
  (.dict (entries.map fun entry => (entry.1, entry.2.1)),
    entries.foldl (fun fit entry => fit.and entry.2.2) {})

/-- Whether a type takes any value. -/
def isAny : RowType → Bool
  | .any => true
  | _ => false

/-- Checks the items of a list by a check of each. A list that is too long has no other issue, and
one whose items have issues is not measured. A list of anything is measured only. -/
def checkItems (item : Value → Checked Fitted) (anything : Bool) (length : LengthRange)
    (items : List Value) : Checked Fitted :=
  if anything then
    acceptUnless ((shortProblem? length items.length).or (longProblem? length items.length))
      .exact (.list items)
  else match longProblem? length items.length with
    | some problem => .refuse problem
    | none =>
      match Checked.items (items.map item) with
      | .refused issues => .refused issues
      | .accepted checked =>
        match shortProblem? length items.length with
        | some problem => .refuse problem
        | none => .accepted (listOf checked)

/-- What was converted to be checked. -/
def converted (fitted : Fitted) : Fitted :=
  (fitted.1, fitted.2.and { exactness := .lax })

/-- Checks a list by a check of its items; a tuple stands for the list of its items. -/
def checkList (item : Value → Checked Fitted) (anything : Bool) (length : LengthRange) :
    Value → Checked Fitted
  | .list items => checkItems item anything length items
  | .tuple items => converted <$> checkItems item anything length items
  | _ => .refuse .listType

/-- Checks a dictionary by a check of its values. -/
def checkDict (value : Value → Checked Fitted) : Value → Checked Fitted
  | .dict entries =>
    dictOf <$> Checked.entries (entries.map fun entry => (entry.1, value entry.2))
  | _ => .refuse .dictType

/-- The best of two accepted values; the earlier one unless the later one is better. -/
def pickBetter (best : Option Fitted) (next : Fitted) : Fitted :=
  match best with
  | some best => if next.2.better best.2 then next else best
  | none => next

/-- The outcome of a union from the checks of its members: the first perfect fit, else the best one,
else the issues of all members. -/
def pick (best : Option Fitted) (issues : List Issue) : List (Checked Fitted) → Checked Fitted
  | [] =>
    match best with
    | some best => .accepted best
    | none => .refused issues
  | .accepted next :: checks =>
    if next.2.isPerfect then .accepted next else pick (some (pickBetter best next)) issues checks
  | .refused others :: checks => pick best (issues ++ others) checks

/-- The entry of a row that a field takes: that of its alias first, then that of its attribute. -/
def given? {τ : Type} (field : RowField τ) (row : Entries Value) : Option (String × Value) :=
  [field.name, field.attr].findSome? fun key => (row.find? key).map (key, ·)

/-- The keys of a row that fields take. -/
def takenKeys {τ : Type} (fields : List (RowField τ)) (row : Entries Value) : List String :=
  fields.filterMap fun field => (given? field row).map Prod.fst

/-- The entries of a row that no field takes. -/
def extraEntries {τ : Type} (fields : List (RowField τ)) (row : Entries Value) : Entries Value :=
  row.filter fun entry => !(takenKeys fields row).contains entry.1

/-- Checks the entries that no field takes; the result holds those that are kept. -/
def checkExtras (extras : Extras) (entries : Entries Value) : Checked (Entries Value) :=
  match extras with
  | .forbid =>
    Checked.entries (entries.map fun entry => (entry.1, Checked.refuse .extraForbidden))
  | .allow => .accepted entries
  | .ignore => .accepted []

/-- The value of a model from its fields and the entries it keeps. -/
def modelValue (fields : Entries Fitted) (given : Nat) (extras : Entries Value) : Fitted :=
  let kept := Entries.ofList (fields.map (fun field => (field.1, field.2.1)) ++ extras)
  let own : Fit := { exactness := .strict, fields := some given }
  (.dict kept, fields.foldl (fun fit field => fit.and field.2.2) own)

mutual

/-- Checks a value against a type. -/
def fit : RowType → Value → Checked Fitted
  | .text email length, value => checkText email length value
  | .formatted format, value => checkFormatted format value
  | .integer range, value => checkInteger range value
  | .number range, value => checkNumber range value
  | .boolean, value =>
    match value with
    | .bool truth => accept .exact (.bool truth)
    | _ => .refuse .boolType
  | .any, value => accept .strict value
  | .bytes, value => checkBytes value
  | .list item length, value => checkList (fit item) (isAny item) length value
  | .dict type, value => checkDict (fit type) value
  | .literal values, value => checkLiteral values value
  | .union members, value => pick none [] (fitMembers members value)
  | .nullable type, value =>
    match value with
    | .null => accept .exact .null
    | value => fit type value
  | .model _ extras fields, value =>
    match value with
    | .dict row =>
      modelValue <$> fitFields fields row
        <*> pure (takenKeys fields row).length
        <*> checkExtras extras (extraEntries fields row)
    | _ => .refuse .modelType

/-- Checks a value against each member of a union. -/
def fitMembers : List RowType → Value → List (Checked Fitted)
  | [], _ => []
  | type :: members, value => fit type value :: fitMembers members value

/-- Checks the fields of a row. A field that is left out has its default, unchecked. -/
def fitFields : List (RowField RowType) → Entries Value → Checked (Entries Fitted)
  | [], _ => .accepted []
  | ⟨attr, alias?, type, required, default⟩ :: fields, row =>
    let name := alias?.getD attr
    let checked :=
      match given? ⟨attr, alias?, type, required, default⟩ row with
      | some (key, value) => (fit type value).under key
      | none => if required then .refused [⟨[name], .missing⟩] else .accepted (default, {})
    List.cons <$> ((name, ·) <$> checked) <*> fitFields fields row

end

end Row

/-- The value that a row stands for, or the issues with it. -/
def RowType.check (type : RowType) (row : Value) : Checked Value :=
  Prod.fst <$> Row.fit type row

end TableSchema
