/-
This file holds the plainest documents. Each line gives a bare key a value, with
one blank on either side of the equals sign; the value is a number in digits or
a name in double quotes in which nothing has to be escaped. Such a document says
what it seems to say: it is read as the keys with their values, in the order of
the lines, provided that no key occurs twice.
-/
import LiveFleet.Proofs.Toml.Numerals

namespace LiveFleet.Toml

/-! ### Values -/

/-- A value that can be written without further ado. -/
inductive Plain where
  | count (number : Nat)
  | name (content : String)

namespace Plain

/-- What is written. -/
def value : Plain → Value
  | count number => .integer number
  | name content => .text content

/-- How it is written. -/
def chars : Plain → List Char
  | count number => numeral number
  | name content => '"' :: (content.toList ++ ['"'])

/-- A document can hold the number; a name needs no escapes. -/
def IsWritable : Plain → Prop
  | count number => number ≤ largestInteger
  | name content => ∀ character ∈ content.toList,
      isPrintable character ∧ character ≠ '"' ∧ character ≠ '\\'

end Plain

theorem skipBlanks_of_visible {character : Char} {text : List Char}
    (visible : isBlank character = false) : skipBlanks (character :: text) = character :: text :=
  List.dropWhile_cons_of_neg (by simp [visible])

theorem quoted_plain {content rest : List Char}
    (plain : ∀ character ∈ content, isPrintable character ∧ character ≠ '"' ∧ character ≠ '\\') :
    quoted (content ++ '"' :: rest) = some (content, rest) := by
  induction content with
  | nil => rfl
  | cons character content later =>
    obtain ⟨printable, no_quote, no_escape⟩ := plain character List.mem_cons_self
    have remaining := later fun other member => plain other (List.mem_cons_of_mem _ member)
    rw [List.cons_append, quoted, remaining]
    · simp [printable, no_escape, consRead]
    · exact no_quote
    · exact fun _ _ _ _ _ same => absurd same no_escape
    · exact fun _ _ _ _ _ _ _ _ _ same => absurd same no_escape
    · exact fun _ _ same => absurd same no_escape

theorem string?_of_first {first : Char} {rest : List Char} (double : first ≠ '"')
    (single : first ≠ '\'') : string? (first :: rest) = none := by
  unfold string?
  split
  all_goals simp_all

/-- Three quotes in a row would begin a string of several lines; a name of one line has none. -/
theorem string?_quoted {text content rest : List Char} (closed : quoted text = some (content, rest))
    (single : ∀ others, text ≠ '"' :: '"' :: others) :
    string? ('"' :: text) = some (.ofList content, rest) := by
  unfold string?
  split
  case h_1 others same => exact absurd (List.cons.inj same).2 (single others)
  case h_2 others same => rw [← (List.cons.inj same).2, closed, Option.map_some]
  all_goals simp_all

theorem string?_name {content : String} {rest : List Char}
    (writable : (Plain.name content).IsWritable) :
    string? ((Plain.name content).chars ++ '\n' :: rest) = some (content, '\n' :: rest) := by
  have closed : quoted (content.toList ++ '"' :: '\n' :: rest) =
      some (content.toList, '\n' :: rest) := quoted_plain writable
  have single (others : List Char) :
      content.toList ++ '"' :: '\n' :: rest ≠ '"' :: '"' :: others := fun same => by
    rcases content_toList : content.toList with _ | ⟨first, more⟩
    · rw [content_toList] at same
      simp at same
    · rw [content_toList] at same
      refine (writable first ?_).2.1 (List.cons.inj same).1
      rw [content_toList]
      exact List.mem_cons_self
  have read := string?_quoted closed single
  rw [String.ofList_toList] at read
  rwa [Plain.chars, List.cons_append, List.append_assoc, List.singleton_append]

theorem plainValue?_plain {plain : Plain} {rest : List Char} (writable : plain.IsWritable) :
    plainValue? (plain.chars ++ '\n' :: rest) = some (plain.value, '\n' :: rest) := by
  cases plain with
  | count number =>
    obtain ⟨first, others, same, digit, -⟩ := numeral_eq_cons number
    have no_string : string? (numeral number ++ '\n' :: rest) = none := by
      rw [same]
      exact string?_of_first (ne_of_property digit (by decide)) (ne_of_property digit (by decide))
    have read : scalar? (numeral number ++ '\n' :: rest) = some (.integer number, '\n' :: rest) :=
      scalar?_numeral writable (by decide)
    simp only [plainValue?, Plain.chars, no_string, read, Plain.value]
  | name content => simp only [plainValue?, string?_name writable, Plain.value]

theorem isBlank_of_ne {character : Char} (space : character ≠ ' ') (tab : character ≠ '\t') :
    isBlank character = false := by
  simp [isBlank, space, tab]

/-- A plain value begins with a digit or a quote. -/
theorem Plain.chars_eq_cons (plain : Plain) :
    ∃ first rest, plain.chars = first :: rest ∧
      first ≠ '[' ∧ first ≠ '\x7b' ∧ isBlank first = false := by
  cases plain with
  | count number =>
    obtain ⟨first, rest, same, digit, -⟩ := numeral_eq_cons number
    have other {character : Char} (no : character.isDigit = false) : first ≠ character :=
      ne_of_property digit no
    exact ⟨first, rest, same, other (by decide), other (by decide),
      isBlank_of_ne (other (by decide)) (other (by decide))⟩
  | name content => exact ⟨_, _, rfl, by decide, by decide, by decide⟩

theorem value?_of_first {depth : Nat} {first : Char} {rest : List Char} (no_array : first ≠ '[')
    (no_table : first ≠ '\x7b') : value? depth (first :: rest) = plainValue? (first :: rest) := by
  unfold value?
  split
  all_goals simp_all

theorem value?_plain {depth : Nat} {plain : Plain} {rest : List Char}
    (writable : plain.IsWritable) :
    value? depth (skipBlanks (' ' :: (plain.chars ++ '\n' :: rest))) =
      some (plain.value, '\n' :: rest) := by
  obtain ⟨first, others, same, no_array, no_table, visible⟩ := plain.chars_eq_cons
  have behind : skipBlanks (' ' :: (plain.chars ++ '\n' :: rest)) =
      plain.chars ++ '\n' :: rest := by
    rw [same]
    exact skipBlanks_of_visible visible
  rw [behind, ← plainValue?_plain writable, same]
  exact value?_of_first no_array no_table

/-! ### Lines -/

/-- A line that gives a key a value. -/
structure Line where
  key : String
  plain : Plain

namespace Line

/-- The characters of a line, with its end. -/
def chars (line : Line) : List Char :=
  line.key.toList ++ ' ' :: '=' :: ' ' :: (line.plain.chars ++ ['\n'])

/-- What the line adds to a document. -/
def entry (line : Line) : String × Value := (line.key, line.plain.value)

/-- The key can stand without quotes, and the value is plain. -/
structure IsWritable (line : Line) : Prop where
  named : line.key ≠ ""
  bare : ∀ character ∈ line.key.toList, isBareKey character
  plain : line.plain.IsWritable

end Line

variable {line : Line} {rest : List Char}

theorem Line.chars_append (line : Line) (rest : List Char) :
    line.chars ++ rest =
      line.key.toList ++ ' ' :: '=' :: ' ' :: (line.plain.chars ++ '\n' :: rest) := by
  simp [Line.chars]

theorem skipBlanks_of_bare {first : Char} {text : List Char} (bare : isBareKey first) :
    skipBlanks (first :: text) = first :: text :=
  skipBlanks_of_visible
    (isBlank_of_ne (ne_of_property bare (by decide)) (ne_of_property bare (by decide)))

theorem Line.IsWritable.key_eq_cons (writable : line.IsWritable) :
    ∃ first others, isBareKey first ∧ line.key.toList = first :: others := by
  rcases same : line.key.toList with _ | ⟨first, others⟩
  · exact absurd (String.toList_eq_nil_iff.mp same) writable.named
  · exact ⟨first, others, writable.bare first (by rw [same]; exact List.mem_cons_self), rfl⟩

theorem Line.IsWritable.chars_append_eq_cons (writable : line.IsWritable) (rest : List Char) :
    ∃ first others, isBareKey first ∧ line.chars ++ rest = first :: others := by
  obtain ⟨first, others, bare, same⟩ := writable.key_eq_cons
  exact ⟨first, _, bare, by rw [Line.chars_append, same, List.cons_append]⟩

theorem keyPart?_bare (writable : line.IsWritable) :
    keyPart? (line.key.toList ++ ' ' :: rest) = some (line.key, ' ' :: rest) := by
  obtain ⟨first, others, bare, same⟩ := writable.key_eq_cons
  have name : (line.key.toList ++ ' ' :: rest).takeWhile isBareKey = line.key.toList := by
    rw [List.takeWhile_append_of_pos writable.bare, List.takeWhile_cons_of_neg (by decide),
      List.append_nil]
  have behind : (line.key.toList ++ ' ' :: rest).dropWhile isBareKey = ' ' :: rest := by
    rw [List.dropWhile_append_of_pos writable.bare, List.dropWhile_cons_of_neg (by decide)]
  have no_quote {quote : Char} {more : List Char} (no : isBareKey quote = false) :
      line.key.toList ++ ' ' :: rest ≠ quote :: more := fun equal => by
    rw [same] at equal
    exact ne_of_property bare no (List.cons.inj equal).1
  unfold keyPart?
  split
  case h_1 equal => exact absurd equal (no_quote (by decide))
  case h_2 equal => exact absurd equal (no_quote (by decide))
  case h_3 =>
    simp only [name, behind, String.ofList_toList]
    rw [if_neg (by simp [same])]

theorem key?_bare {parts : Nat} (writable : line.IsWritable) :
    key? (parts + 1) (line.key.toList ++ ' ' :: '=' :: rest) =
      some (([], line.key), '=' :: rest) := by
  obtain ⟨first, others, bare, same⟩ := writable.key_eq_cons
  have front : skipBlanks (line.key.toList ++ ' ' :: '=' :: rest) =
      line.key.toList ++ ' ' :: '=' :: rest := by
    rw [same]
    exact skipBlanks_of_bare bare
  have behind : skipBlanks (' ' :: '=' :: rest) = '=' :: rest := rfl
  simp only [key?, front, keyPart?_bare writable, behind, Option.bind_eq_bind, Option.bind_some]
  rfl

/-- The statement of a line. -/
def Line.statement (line : Line) : Statement := .assign [] line.key line.plain.value

theorem statement?_line (writable : line.IsWritable) :
    statement? (line.chars ++ rest) = some (line.statement, rest) := by
  obtain ⟨first, others, bare, same⟩ := writable.chars_append_eq_cons rest
  have no_header {more : List Char} : line.chars ++ rest ≠ '[' :: more := fun equal =>
    ne_of_property bare (by decide) (List.cons.inj (same.symm.trans equal)).1
  unfold statement?
  split
  case h_1 equal => exact absurd equal no_header
  case h_2 equal => exact absurd equal no_header
  case h_3 =>
    rw [Line.chars_append, deepest, key?_bare writable]
    simp only [Option.bind_eq_bind, Option.bind_some, value?_plain writable.plain, Option.pure_def]
    rfl

/-- A line with a statement is not skipped. -/
theorem lineEnd?_of_bare {first : Char} {text : List Char} (bare : isBareKey first) :
    lineEnd? (first :: text) = none := by
  have other {character : Char} {more : List Char} (no : isBareKey character = false)
      (equal : first :: text = character :: more) : False :=
    ne_of_property bare no (List.cons.inj equal).1
  have no_comment : skipComment (first :: text) = first :: text := by
    rw [skipComment]
    exact fun _ => other (by decide)
  rw [lineEnd?, skipBlanks_of_bare bare, no_comment]
  simp only
  rw [newline?]
  · exact fun _ => other (by decide)
  · exact fun _ => other (by decide)

/-! ### Documents -/

theorem statements?_lines {lines : List Line} {bound : Nat}
    (writable : ∀ line ∈ lines, line.IsWritable) (enough : lines.length < bound) :
    statements? bound (lines.flatMap Line.chars) = some (lines.map Line.statement) := by
  induction lines generalizing bound with
  | nil =>
    obtain ⟨bound, rfl⟩ := Nat.exists_eq_add_one_of_ne_zero (Nat.ne_zero_of_lt enough)
    rfl
  | cons line lines later =>
    obtain ⟨bound, rfl⟩ := Nat.exists_eq_add_one_of_ne_zero (Nat.ne_zero_of_lt enough)
    have remaining : statements? bound (lines.flatMap Line.chars) =
        some (lines.map Line.statement) :=
      later (fun other member => writable other (List.mem_cons_of_mem _ member))
        (Nat.lt_of_succ_lt_succ enough)
    have statement : statement? (line.chars ++ lines.flatMap Line.chars) =
        some (line.statement, lines.flatMap Line.chars) :=
      statement?_line (writable line List.mem_cons_self)
    obtain ⟨first, others, bare, same⟩ :=
      (writable line List.mem_cons_self).chars_append_eq_cons (lines.flatMap Line.chars)
    rw [same] at statement
    simp only [List.flatMap_cons, same, statements?, skipBlanks_of_bare bare,
      lineEnd?_of_bare bare, statement, remaining, Option.bind_eq_bind, Option.bind_some,
      Option.pure_def, List.map_cons]

theorem carryOut?_line (entries : Entries) (line : Line) :
    Draft.carryOut? { header := [], entries } line.statement =
      (entries.add? line.key line.plain.value).map fun entries => { header := [], entries } := by
  cases added : entries.add? line.key line.plain.value <;>
    simp [Draft.carryOut?, Line.statement, Entries.assignIn?, Entries.changeAt, Entries.assign?,
      added]

/-- Lines of keys that are new, and differ, are added at the end. -/
theorem foldlM_carryOut?_lines (entries : Entries) {lines : List Line}
    (distinct : (entries.map Prod.fst ++ lines.map Line.key).Nodup) :
    (lines.map Line.statement).foldlM Draft.carryOut? { header := [], entries } =
      some { header := [], entries := entries ++ lines.map Line.entry } := by
  induction lines generalizing entries with
  | nil => simp
  | cons line lines later =>
    have new : entries.lookup line.key = none := by
      rw [List.lookup_eq_none_iff]
      intro entry member
      have differs := (List.nodup_append.mp distinct).2.2 entry.1 (List.mem_map_of_mem member)
        line.key List.mem_cons_self
      simpa using differs.symm
    have added : entries.add? line.key line.plain.value = some (entries ++ [line.entry]) := by
      rw [Entries.add?, new]; rfl
    have remaining := later (entries ++ [line.entry]) (by simpa [Line.entry] using distinct)
    rw [List.map_cons, List.foldlM_cons, carryOut?_line, added, Option.map_some,
      Option.bind_eq_bind, Option.bind_some, remaining]
    simp

theorem skipByteOrderMark_lines {lines : List Line} (writable : ∀ line ∈ lines, line.IsWritable) :
    skipByteOrderMark (lines.flatMap Line.chars) = lines.flatMap Line.chars := by
  cases lines with
  | nil => rfl
  | cons line lines =>
    obtain ⟨first, others, bare, same⟩ :=
      (writable line List.mem_cons_self).chars_append_eq_cons (lines.flatMap Line.chars)
    rw [List.flatMap_cons, same, skipByteOrderMark]
    exact fun _ equal => ne_of_property bare (by decide) (List.cons.inj equal).1

/-- A document of plain lines says what its lines say. -/
theorem read?_lines {lines : List Line} {document : String}
    (text : document.toList = lines.flatMap Line.chars)
    (writable : ∀ line ∈ lines, line.IsWritable) (distinct : (lines.map Line.key).Nodup) :
    read? document = some (lines.map Line.entry) := by
  have enough : lines.length < (lines.flatMap Line.chars).length + 1 := by
    have each : ∀ size ∈ lines.map fun line => line.chars.length, 1 ≤ size := by
      intro size member
      obtain ⟨line, -, rfl⟩ := List.mem_map.mp member
      rw [Line.chars, List.length_append, List.length_cons]
      omega
    have total := List.length_le_sum_of_one_le _ each
    rw [List.length_map, ← List.length_flatMap] at total
    omega
  have carried := foldlM_carryOut?_lines [] (by simpa using distinct)
  simp only [read?, text, skipByteOrderMark_lines writable, statements?_lines writable enough,
    carried, Option.bind_eq_bind, Option.bind_some, Option.pure_def, List.nil_append]

end LiveFleet.Toml
