import TableSchema.Text.Blank
import TableSchema.Text.Digit
import TableSchema.Text.Identifier

/-! # Tokens of schema expressions

A text is cut into numbers, quoted strings, names and punctuation, with blanks between them. At each
place the first group that fits is taken, in that order, and each group takes as much as it can.
`Token.scan` either covers the whole text or stops at the first character where no token begins.
-/

namespace TableSchema

namespace Token

/-- The groups of tokens. -/
inductive Group where
  | number
  | string
  | name
  | punctuation
deriving DecidableEq

end Token

/-- A token: its group, its characters, and the number of characters before it. -/
structure Token where
  group : Token.Group
  text : String
  offset : Nat
deriving DecidableEq

/-- A character at which no token begins. -/
structure StrayCharacter where
  char : Char
  offset : Nat
deriving DecidableEq

namespace Token

/-- A point and at least one digit. -/
def fraction? : List Char → Option (List Char)
  | '.' :: rest =>
    match Text.digitRun rest with
    | [] => none
    | digits => some ('.' :: digits)
  | _ => none

/-- At least one digit, after an optional sign. -/
def signedDigits? : List Char → Option (List Char)
  | [] => none
  | c :: rest =>
    if c = '+' ∨ c = '-' then
      match Text.digitRun rest with
      | [] => none
      | digits => some (c :: digits)
    else
      match Text.digitRun (c :: rest) with
      | [] => none
      | digits => some digits

/-- An exponent: its mark, an optional sign, and at least one digit. -/
def exponent? : List Char → Option (List Char)
  | c :: rest => if c = 'e' ∨ c = 'E' then (signedDigits? rest).map (c :: ·) else none
  | [] => none

/-- Digits with an optional fraction, or a fraction alone. -/
def mantissa? (text : List Char) : Option (List Char) :=
  match Text.digitRun text with
  | [] => fraction? text
  | digits => some (digits ++ (fraction? (text.drop digits.length)).getD [])

/-- A number without a sign: a mantissa and an optional exponent. -/
def unsigned? (text : List Char) : Option (List Char) :=
  (mantissa? text).map fun mantissa =>
    mantissa ++ (exponent? (text.drop mantissa.length)).getD []

/-- The number that begins a text. -/
def number? : List Char → Option (List Char)
  | '-' :: rest => (unsigned? rest).map ('-' :: ·)
  | text => unsigned? text

/-- The rest of a string up to and with the closing quote; a backslash takes the next character
along. -/
def stringTail? (quote : Char) : List Char → Option (List Char)
  | [] => none
  | '\\' :: [] => none
  | '\\' :: c :: rest => (stringTail? quote rest).map ('\\' :: c :: ·)
  | c :: rest => if c = quote then some [c] else (stringTail? quote rest).map (c :: ·)

/-- The string that begins a text. -/
def string? : List Char → Option (List Char)
  | c :: rest =>
    if c = '\x27' ∨ c = '"' then (stringTail? c rest).map (c :: ·) else none
  | [] => none

/-- The name that begins a text. -/
def name? : List Char → Option (List Char)
  | c :: rest => if Text.isKeyStart c then some (c :: rest.takeWhile Text.isKeyPart) else none
  | [] => none

/-- The punctuation characters. -/
def punctuation : List Char :=
  ['(', ')', '[', ']', '\x7b', '\x7d', ',', '.', ':', '?']

/-- The punctuation character that begins a text. -/
def punctuation? : List Char → Option (List Char)
  | c :: _ => if c ∈ punctuation then some [c] else none
  | [] => none

/-- The token that begins a text, as its group and its characters. -/
def lexeme? (text : List Char) : Option (Group × List Char) :=
  ((number? text).map (Group.number, ·)).or <|
    ((string? text).map (Group.string, ·)).or <|
      ((name? text).map (Group.name, ·)).or <|
        (punctuation? text).map (Group.punctuation, ·)

/-- The tokens of a text that stands `offset` characters into the whole. The first `covered`
characters belong to a token that is already listed. -/
def scanFrom (offset : Nat) : Nat → List Char → Except StrayCharacter (List Token)
  | _, [] => .ok []
  | covered + 1, _ :: rest => scanFrom (offset + 1) covered rest
  | 0, c :: rest =>
    if Text.isBlank c then scanFrom (offset + 1) 0 rest
    else
      match lexeme? (c :: rest) with
      | none => .error ⟨c, offset⟩
      | some (group, text) => do
        let tokens ← scanFrom (offset + 1) (text.length - 1) rest
        return ⟨group, String.ofList text, offset⟩ :: tokens

/-- The tokens of a text. -/
def scan (text : String) : Except StrayCharacter (List Token) :=
  scanFrom 0 0 text.toList

end Token

end TableSchema
