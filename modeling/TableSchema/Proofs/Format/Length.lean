import TableSchema.Proofs.Numeral.Shortest
import TableSchema.Proofs.Row.Acceptance

/-! # Lengths of texts in a format

The texts of every format have a least length, and only those of identifiers have a greatest one.
Both are attained, so that limits on the length hold for all texts of a format exactly if they hold
for these two (`TextFormat.isWithin_iff`).
-/

namespace TableSchema

/-- Whether a length is within limits. -/
def IsWithin (min max : Option Int) (length : Nat) : Prop :=
  (∀ limit ∈ min, limit ≤ length) ∧ ∀ limit ∈ max, (length : Int) ≤ limit

namespace TextFormat

/-- Whether a text is one of the format. -/
def Reads (format : TextFormat) (text : List Char) : Prop :=
  (Row.canonicalText format text).IsAccepted

/-- The least length of a text of the format. A date or a timestamp may be a count of one digit. -/
def shortest : TextFormat → Nat
  | .date => 1
  | .datetime => 1
  | .time => 5
  | .uuid => 32
  | .url => 2

/-- The greatest length of a text of the format, if there is one. -/
def longest? : TextFormat → Option Nat
  | .uuid => some 45
  | _ => none

end TextFormat

namespace Format

variable {text rest : List Char}

/-! ### Times -/

/-- So many digits are so many characters. -/
theorem length_of_takeDigits? {count value : Nat}
    (taken : takeDigits? count text = some (value, rest)) : text.length = count + rest.length := by
  unfold takeDigits? at taken
  dsimp only at taken
  split at taken
  · next whole =>
    cases taken
    rw [List.length_drop]
    have enough := whole.1
    rw [List.length_take] at enough
    omega
  · cases taken

/-- A mark is one character. -/
theorem length_of_takeMark? {marks : List Char} (taken : takeMark? marks text = some rest) :
    text.length = 1 + rest.length := by
  cases text with
  | nil => cases taken
  | cons c text =>
    rw [takeMark?] at taken
    split at taken
    · cases taken
      rw [List.length_cons, Nat.add_comm]
    · cases taken

/-- A time has two digits for the hour, a colon, and two digits for the minute. -/
theorem TimeOfDay.five_le_length {time : TimeOfDay} (read : ofText? text = some time) :
    5 ≤ text.length := by
  unfold ofText? at read
  obtain ⟨⟨hour, afterHour⟩, hourTaken, read⟩ := Option.bind_eq_some_iff.mp read
  obtain ⟨afterColon, colonTaken, read⟩ := Option.bind_eq_some_iff.mp read
  obtain ⟨⟨minute, afterMinute⟩, minuteTaken, -⟩ := Option.bind_eq_some_iff.mp read
  have := length_of_takeDigits? hourTaken
  have := length_of_takeMark? colonTaken
  have := length_of_takeDigits? minuteTaken
  omega

/-- Zeros are a fraction of a second, however many there are. -/
theorem takeFraction?_zeros (count : Nat) :
    takeFraction? (List.replicate (count + 1) '0') = some (0, []) := by
  have digits : (List.replicate (count + 1) '0').takeWhile Text.isAsciiDigit =
      List.replicate (count + 1) '0' := by
    rw [List.takeWhile_replicate]
    rfl
  have six : (List.replicate (count + 1) '0' ++ List.replicate 6 '0').take 6 =
      List.replicate 6 '0' := by
    rw [← List.replicate_add, List.take_replicate]
    congr 1
  unfold takeFraction?
  simp only [digits, six, List.length_replicate, List.drop_replicate, Nat.sub_self]
  rfl

/-- Seconds of zeros with a fraction of zeros are zero. -/
theorem takeSeconds?_zeros (count : Nat) :
    takeSeconds? (":00.".toList ++ List.replicate (count + 1) '0') = some ((0, 0), []) := by
  show ((takeFraction? (List.replicate (count + 1) '0')).bind fun found =>
    some ((0, found.1), found.2)) = _
  rw [takeFraction?_zeros]
  rfl

/-- Midnight, with a fraction of a second of one zero or more. -/
def midnightText (count : Nat) : List Char :=
  "00:00:00.".toList ++ List.replicate (count + 1) '0'

/-- Midnight may be written with any number of zeros. -/
theorem TimeOfDay.ofText?_midnightText (count : Nat) : ofText? (midnightText count) = some {} := by
  have parts : midnightText count =
      '0' :: '0' :: ':' :: '0' :: '0' :: (":00.".toList ++ List.replicate (count + 1) '0') := rfl
  have digits (rest : List Char) : takeDigits? 2 ('0' :: '0' :: rest) = some (0, rest) := rfl
  have colon (rest : List Char) : takeMark? [':'] (':' :: rest) = some rest := rfl
  simp only [ofText?, parts, digits, colon, takeSeconds?_zeros, Option.bind_eq_bind,
    Option.bind_some]
  rfl

/-! ### Dates -/

/-- The first of January 1970. -/
def Date.first : Date :=
  ⟨1970, 1, 1, by decide, by decide⟩

/-- The first day is taken off a text that begins with it. -/
theorem takeDate?_first (rest : List Char) :
    takeDate? ("1970-01-01".toList ++ rest) = some (.first, rest) := by
  have known : Date.of? 1970 1 1 = some .first := rfl
  show (Date.of? 1970 1 1).bind (fun date => some (date, rest)) = _
  rw [known]
  rfl

/-- The first moment of 1970, with a fraction of a second of one zero or more. -/
def firstText (count : Nat) : List Char :=
  "1970-01-01".toList ++ 'T' :: midnightText count

/-- Midnight of the first day may be written with any number of zeros. -/
theorem Timestamp.ofText?_firstText (count : Nat) :
    ofText? (firstText count) = some { date := .first } := by
  have mark (rest : List Char) : takeMark? ['T', 't', ' ', '_'] ('T' :: rest) = some rest := rfl
  have read : ofParts? (firstText count) = some { date := .first } := by
    unfold ofParts? firstText
    rw [takeDate?_first]
    simp only [mark, TimeOfDay.ofText?_midnightText, Option.bind_eq_bind, Option.bind_some,
      Option.pure_def, List.isEmpty_cons, Bool.false_eq_true, if_false]
  unfold ofText?
  rw [read, Option.some_or]

/-- What is written so is no date by itself, since a time follows. -/
theorem Date.ofText?_firstText (count : Nat) : ofText? (firstText count) = none := by
  unfold ofText? firstText
  rw [takeDate?_first]
  rfl

/-! ### Identifiers -/

/-- Groups of digits with hyphens between them have the length of all. -/
theorem length_of_hyphenatedDigits? {sizes : List Nat} {digits : List Char}
    (read : hyphenatedDigits? sizes text = some digits) :
    text.length + 1 = sizes.foldr (· + 1 + ·) 0 := by
  fun_induction hyphenatedDigits? sizes text generalizing digits with
  | case1 => cases read
  | case2 text => simp
  | case3 size text other => cases read
  | case4 text size sizes nonempty rest found hypothesis =>
    obtain ⟨others, readOthers, -⟩ := Option.map_eq_some_iff.mp read
    have tail := hypothesis readOthers
    have dropped := congrArg List.length found
    rw [List.length_drop, List.length_cons] at dropped
    rw [List.foldr_cons]
    omega
  | case5 => cases read

/-- An identifier is written without hyphens, with them, in braces, or behind a resource name. -/
theorem length_of_canonicalUuid? {canonical : List Char}
    (read : canonicalUuid? text = some canonical) :
    text.length = 32 ∨ text.length = 36 ∨ text.length = 38 ∨ text.length = 45 := by
  unfold canonicalUuid? at read
  dsimp only at read
  split at read
  · next plain => exact .inl plain
  · obtain ⟨digits, found, -⟩ := Option.bind_eq_some_iff.mp read
    have bare := length_of_hyphenatedDigits? found
    have length : (bareUuid text).length = 36 := by
      simpa [uuidGroups] using bare
    unfold bareUuid at length
    dsimp only at length
    split at length
    · rw [List.length_dropLast, List.length_tail] at length
      omega
    split at length
    · next isName =>
      have short := (List.isPrefixOf_iff_prefix.mp isName).length_le
      rw [List.length_drop] at length
      have scheme : "urn:uuid:".toList.length = 9 := rfl
      omega
    · omega

/-! ### Addresses -/

namespace Address

/-- An address has a scheme of a letter at least, and a colon. -/
theorem two_le_length {scheme : List Char} (read : scheme? text = some (scheme, rest)) :
    2 ≤ text.length := by
  unfold scheme? at read
  dsimp only at read
  split at read
  · next first others colon begins follows =>
    have taken := congrArg List.length begins
    have dropped := congrArg List.length follows
    rw [List.length_drop, List.length_cons] at dropped
    rw [List.length_cons] at taken
    omega
  · cases read

/-- Cleaning an address lengthens nothing. -/
theorem length_cleaned_le (text : List Char) : (cleaned text).length ≤ text.length := by
  have trimmed (text : List Char) : (text.dropWhile isTrimmed).length ≤ text.length :=
    (List.dropWhile_sublist _).length_le
  calc (cleaned text).length
      ≤ ((text.dropWhile isTrimmed).reverse.dropWhile isTrimmed).reverse.length :=
        List.length_filter_le _ _
    _ = ((text.dropWhile isTrimmed).reverse.dropWhile isTrimmed).length := List.length_reverse
    _ ≤ (text.dropWhile isTrimmed).reverse.length := trimmed _
    _ = (text.dropWhile isTrimmed).length := List.length_reverse
    _ ≤ text.length := trimmed text

/-- Nothing is trimmed off a text without characters that are trimmed. -/
theorem dropWhile_isTrimmed (solid : ∀ c ∈ text, isTrimmed c = false) :
    text.dropWhile isTrimmed = text := by
  cases text with
  | nil => rfl
  | cons c text => simp [solid c (List.mem_cons_self ..)]

/-- A text without blanks and control characters is clean. -/
theorem cleaned_of_solid (solid : ∀ c ∈ text, isTrimmed c = false) : cleaned text = text := by
  have reversed : ∀ c ∈ text.reverse, isTrimmed c = false :=
    fun c member => solid c (List.mem_reverse.mp member)
  unfold cleaned
  rw [dropWhile_isTrimmed solid, dropWhile_isTrimmed reversed, List.reverse_reverse]
  apply List.filter_eq_self.mpr
  intro c member
  have isSolid := solid c member
  simp only [Bool.and_eq_true, bne_iff_ne]
  refine ⟨⟨?_, ?_⟩, ?_⟩ <;> rintro rfl <;> cases isSolid

/-- An address of an unknown scheme needs no host. -/
theorem isSome_afterScheme? {scheme : String} (other : webSchemes.lookup scheme = none)
    (hostless : text.head? ≠ some '/') : (afterScheme? scheme text).isSome = true := by
  unfold afterScheme?
  rw [other]
  dsimp only
  split
  · exact absurd rfl hostless
  · rfl

end Address

/-- An address has at least two characters. -/
theorem two_le_length_of_canonicalAddress? {canonical : List Char}
    (read : canonicalAddress? text = some canonical) : 2 ≤ text.length := by
  obtain ⟨⟨scheme, rest⟩, found, -⟩ := Option.bind_eq_some_iff.mp read
  exact Nat.le_trans (Address.two_le_length found) (Address.length_cleaned_le text)

/-- A scheme of one letter with letters behind its colon, as many as one likes. -/
def letterAddress (count : Nat) : List Char :=
  'a' :: ':' :: List.replicate count 'x'

/-- An address may have any greater length. -/
theorem isSome_canonicalAddress? (count : Nat) :
    (canonicalAddress? (letterAddress count)).isSome = true := by
  have solid : ∀ c ∈ letterAddress count, Address.isTrimmed c = false := by
    intro c member
    rcases List.mem_cons.mp member with rfl | member
    · rfl
    rcases List.mem_cons.mp member with rfl | letter
    · rfl
    rw [List.eq_of_mem_replicate letter]
    rfl
  have split : Address.scheme? (letterAddress count) = some (['a'], List.replicate count 'x') := rfl
  have hostless : (List.replicate count 'x').head? ≠ some '/' := by
    simp [List.head?_replicate]
  obtain ⟨address, read⟩ := Option.isSome_iff_exists.mp
    (@Address.isSome_afterScheme? _ (String.ofList ['a']) (by decide) hostless)
  simp only [canonicalAddress?, Address.cleaned_of_solid solid, split, Option.bind_eq_bind,
    Option.bind_some, read]
  rfl

end Format

namespace TextFormat

variable {format : TextFormat} {text : List Char}

/-- A text that gives a result is in the format. -/
theorem reads_of_isSome (read : (Row.canonicalText format text).result?.isSome = true) :
    format.Reads text := by
  unfold Reads
  cases checked : Row.canonicalText format text with
  | accepted canonical => exact ⟨canonical, rfl⟩
  | refused issues =>
    rw [checked] at read
    cases read

/-- No text of a format is shorter than its shortest ones. -/
theorem shortest_le (reads : format.Reads text) : format.shortest ≤ text.length := by
  obtain ⟨canonical, accepted⟩ := reads
  unfold Row.canonicalText at accepted
  cases format with
  | date =>
    cases text with
    | nil => cases accepted
    | cons c text => exact Nat.succ_pos _
  | datetime =>
    cases text with
    | nil => cases accepted
    | cons c text => exact Nat.succ_pos _
  | time =>
    cases read : Format.TimeOfDay.ofText? text with
    | none => rw [read] at accepted; cases accepted
    | some time => exact Format.TimeOfDay.five_le_length read
  | uuid =>
    cases read : Format.canonicalUuid? text with
    | none => rw [read] at accepted; cases accepted
    | some canonical =>
      have := Format.length_of_canonicalUuid? read
      show 32 ≤ text.length
      omega
  | url =>
    cases read : Format.canonicalAddress? text with
    | none => rw [read] at accepted; cases accepted
    | some canonical => exact Format.two_le_length_of_canonicalAddress? read

/-- No text of a format is longer than its longest ones, if it has any. -/
theorem le_longest (reads : format.Reads text) {length : Nat}
    (longest : format.longest? = some length) : text.length ≤ length := by
  cases format with
  | uuid =>
    cases longest
    obtain ⟨canonical, accepted⟩ := reads
    unfold Row.canonicalText at accepted
    cases read : Format.canonicalUuid? text with
    | none => rw [read] at accepted; cases accepted
    | some canonical =>
      have := Format.length_of_canonicalUuid? read
      omega
  | _ => cases longest

/-- Some text of a format has the shortest length. -/
theorem exists_shortest (format : TextFormat) :
    ∃ text, format.Reads text ∧ text.length = format.shortest := by
  cases format with
  | date => exact ⟨['0'], reads_of_isSome (by decide +kernel), rfl⟩
  | datetime => exact ⟨['0'], reads_of_isSome (by decide +kernel), rfl⟩
  | time => exact ⟨"00:00".toList, reads_of_isSome (by decide +kernel), rfl⟩
  | uuid => exact ⟨List.replicate 32 '0', reads_of_isSome (by decide +kernel), rfl⟩
  | url => exact ⟨"a:".toList, reads_of_isSome (by decide +kernel), rfl⟩

/-- Some text of a format has the longest length, if there is one. -/
theorem exists_longest {length : Nat} (longest : format.longest? = some length) :
    ∃ text, format.Reads text ∧ text.length = length := by
  cases format with
  | uuid =>
    cases longest
    exact ⟨"urn:uuid:00000000-0000-0000-0000-000000000000".toList,
      reads_of_isSome (by decide +kernel), rfl⟩
  | _ => cases longest

/-- A text is in a format if what it reads as can be kept. -/
theorem reads_of_kept {α : Type} {isKept : α → Bool} {canonical : α → List Char}
    {problem : Problem} {read : α}
    (checked : Row.canonicalText format text = Row.kept isKept canonical problem read)
    (keeps : isKept read = true) : format.Reads text := by
  rw [Reads, checked, Row.kept, if_pos keeps]
  exact Checked.isAccepted_accepted _

/-- Midnight of the first day is a timestamp. -/
theorem reads_firstText_datetime (count : Nat) : datetime.Reads (Format.firstText count) := by
  refine @reads_of_kept _ _ _ (·.date.isKept) Format.Timestamp.text .datetimeNotKept
    { date := .first } ?_ rfl
  unfold Row.canonicalText
  rw [Format.Timestamp.ofText?_firstText]
  rfl

/-- Midnight of the first day is a date, too. -/
theorem reads_firstText_date (count : Nat) : date.Reads (Format.firstText count) := by
  refine @reads_of_kept _ _ _ (·.isKept) Format.Date.text .dateNotKept .first ?_ rfl
  unfold Row.canonicalText
  rw [Format.Timestamp.ofText?_firstText, Format.Date.ofText?_firstText]
  rfl

/-- Midnight is a time. -/
theorem reads_midnightText (count : Nat) : time.Reads (Format.midnightText count) := by
  unfold Reads Row.canonicalText
  rw [Format.TimeOfDay.ofText?_midnightText]
  exact Checked.isAccepted_accepted _

/-- An address of any greater length is a web address. -/
theorem reads_letterAddress (count : Nat) : url.Reads (Format.letterAddress count) := by
  obtain ⟨address, read⟩ := Option.isSome_iff_exists.mp (Format.isSome_canonicalAddress? count)
  unfold Reads Row.canonicalText
  rw [read]
  exact Checked.isAccepted_accepted _

/-- A format that has no longest text has texts of more characters than any number. -/
theorem exists_longer (endless : format.longest? = none) (length : Nat) :
    ∃ text, format.Reads text ∧ length < text.length := by
  have midnight : length < (Format.midnightText length).length := by
    unfold Format.midnightText
    rw [List.length_append, List.length_replicate]
    exact Nat.lt_of_lt_of_le (Nat.lt_succ_self length) (Nat.le_add_left ..)
  have moment : length < (Format.firstText length).length := by
    unfold Format.firstText
    rw [List.length_append, List.length_cons]
    exact Nat.lt_of_lt_of_le midnight (Nat.le_add_left_of_le (Nat.le_succ _))
  have address : length < (Format.letterAddress length).length := by
    unfold Format.letterAddress
    rw [List.length_cons, List.length_cons, List.length_replicate]
    exact Nat.lt_add_of_pos_right Nat.zero_lt_two
  cases format with
  | date => exact ⟨_, reads_firstText_date length, moment⟩
  | datetime => exact ⟨_, reads_firstText_datetime length, moment⟩
  | time => exact ⟨_, reads_midnightText length, midnight⟩
  | uuid => cases endless
  | url => exact ⟨_, reads_letterAddress length, address⟩

/-- Limits hold for all texts of a format exactly if they hold for its shortest and its longest
texts; a format without longest texts is within no upper limit. -/
theorem isWithin_iff {min max : Option Int} :
    (∀ text, format.Reads text → IsWithin min max text.length) ↔
      (∀ limit ∈ min, limit ≤ format.shortest) ∧
        ∀ limit ∈ max, ∃ length ∈ format.longest?, (length : Int) ≤ limit := by
  constructor
  · intro within
    refine ⟨fun limit least => ?_, fun limit greatest => ?_⟩
    · obtain ⟨text, reads, length⟩ := format.exists_shortest
      exact length ▸ (within text reads).1 limit least
    · cases longest : format.longest? with
      | none =>
        obtain ⟨text, reads, longer⟩ := exists_longer longest limit.toNat
        have := (within text reads).2 limit greatest
        omega
      | some length =>
        obtain ⟨text, reads, rfl⟩ := exists_longest longest
        exact ⟨_, rfl, (within text reads).2 limit greatest⟩
  · rintro ⟨least, greatest⟩ text reads
    refine ⟨fun limit given => ?_, fun limit given => ?_⟩
    · have := least limit given
      have := shortest_le reads
      omega
    · obtain ⟨length, longest, below⟩ := greatest limit given
      have := le_longest reads longest
      omega

end TextFormat

end TableSchema
