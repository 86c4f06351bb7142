/-
This file holds the tokens of TOML: blanks, comments and line ends, bare keys,
the four kinds of strings, and the words that stand for numbers, truth values
and dates. A reader takes the characters of a text and gives what it has read
together with the characters behind it, or nothing if the text is not well
formed.
-/
import LiveFleet.Toml.Value

namespace LiveFleet.Toml

/-! ### Blanks, comments and line ends -/

/-- A blank within a line. -/
def isBlank (character : Char) : Bool := character = ' ' || character = '\t'

/-- The text behind the blanks. -/
def skipBlanks (text : List Char) : List Char := text.dropWhile isBlank

/-- A character that may stand in a comment: a tab, or no control character. -/
def isPrintable (character : Char) : Bool :=
  character = '\t' || (' ' ≤ character && character ≠ '\x7f')

/-- The text behind a line end, which is a line feed with or without a carriage return. -/
def newline? : List Char → Option (List Char)
  | '\n' :: rest => some rest
  | '\r' :: '\n' :: rest => some rest
  | _ => none

/-- The text behind a comment, if one begins here. -/
def skipComment : List Char → List Char
  | '#' :: rest => rest.dropWhile isPrintable
  | text => text

/-- The text behind the rest of a line, which holds nothing but blanks and a comment. -/
def lineEnd? (text : List Char) : Option (List Char) :=
  match skipComment (skipBlanks text) with
  | [] => some []
  | rest => newline? rest

/-- The text behind blanks, comments and line ends. A comment must be followed by a line end. The
number bounds the lines. -/
def skipLines : Nat → List Char → Option (List Char)
  | 0, text => some text
  | lines + 1, text =>
    match skipBlanks text with
    | '#' :: rest => do skipLines lines (← newline? (rest.dropWhile isPrintable))
    | rest =>
      match newline? rest with
      | some rest => skipLines lines rest
      | none => some rest

/-! ### Keys -/

/-- A character of a key without quotes: an ASCII letter, a digit, a dash or an underscore. -/
def isBareKey (character : Char) : Bool :=
  character.isAlphanum || character = '-' || character = '_'

/-! ### Strings -/

/-- The value of a hexadecimal digit. -/
def hexDigit? (character : Char) : Option Nat :=
  if '0' ≤ character && character ≤ '9' then some (character.toNat - '0'.toNat)
  else if 'a' ≤ character && character ≤ 'f' then some (character.toNat - 'a'.toNat + 10)
  else if 'A' ≤ character && character ≤ 'F' then some (character.toNat - 'A'.toNat + 10)
  else none

/-- The character whose number is written with the given hexadecimal digits. Surrogates are no
characters. -/
def escapedChar? (digits : List Char) : Option Char := do
  let values ← digits.mapM hexDigit?
  let number := values.foldl (fun number digit => 16 * number + digit) 0
  if number < 0xd800 || (0xdfff < number && number < 0x110000) then some (Char.ofNat number)
  else none

/-- The character that a backslash and a letter stand for. -/
def simpleEscape? : Char → Option Char
  | 'b' => some '\x08'
  | 't' => some '\t'
  | 'n' => some '\n'
  | 'f' => some '\x0c'
  | 'r' => some '\r'
  | '"' => some '"'
  | '\\' => some '\\'
  | _ => none

/-- What is read, and the text behind it. -/
abbrev Read (Result : Type) := Option (Result × List Char)

/-- Put a character in front of what is read. -/
def consRead (character : Char) (read : Read (List Char)) : Read (List Char) :=
  read.map fun (content, rest) => (character :: content, rest)

/-- The rest of a string in double quotes. -/
def quoted : List Char → Read (List Char)
  | '"' :: rest => some ([], rest)
  | '\\' :: 'u' :: a :: b :: c :: d :: rest =>
    (escapedChar? [a, b, c, d]).bind fun character => consRead character (quoted rest)
  | '\\' :: 'U' :: a :: b :: c :: d :: e :: f :: g :: h :: rest =>
    (escapedChar? [a, b, c, d, e, f, g, h]).bind fun character =>
      consRead character (quoted rest)
  | '\\' :: letter :: rest =>
    (simpleEscape? letter).bind fun character => consRead character (quoted rest)
  | character :: rest =>
    if isPrintable character && character ≠ '\\' then consRead character (quoted rest) else none
  | [] => none

/-- The rest of a string in single quotes, in which a backslash stands for itself. -/
def literal : List Char → Read (List Char)
  | '\'' :: rest => some ([], rest)
  | character :: rest =>
    if isPrintable character then consRead character (literal rest) else none
  | [] => none

/-- A backslash before this text joins lines: there is nothing but blanks before the line end. -/
def joinsLines (text : List Char) : Bool := (newline? (skipBlanks text)).isSome

/-- The rest of a string in three double quotes. It may span lines, a backslash at the end of a line
joins it with the next visible character, and up to two quotes may stand before the closing ones.
While lines are being joined, blanks and line ends are skipped. -/
def quotedLines (joining : Bool) : List Char → Read (List Char)
  | '"' :: '"' :: '"' :: '"' :: '"' :: rest => some (['"', '"'], rest)
  | '"' :: '"' :: '"' :: '"' :: rest => some (['"'], rest)
  | '"' :: '"' :: '"' :: rest => some ([], rest)
  | '\r' :: '\n' :: rest =>
    if joining then quotedLines true rest else consRead '\n' (quotedLines false rest)
  | '\n' :: rest =>
    if joining then quotedLines true rest else consRead '\n' (quotedLines false rest)
  | '\\' :: 'u' :: a :: b :: c :: d :: rest =>
    (escapedChar? [a, b, c, d]).bind fun character =>
      consRead character (quotedLines false rest)
  | '\\' :: 'U' :: a :: b :: c :: d :: e :: f :: g :: h :: rest =>
    (escapedChar? [a, b, c, d, e, f, g, h]).bind fun character =>
      consRead character (quotedLines false rest)
  | '\\' :: letter :: rest =>
    if joinsLines (letter :: rest) then quotedLines true (letter :: rest)
    else (simpleEscape? letter).bind fun character =>
      consRead character (quotedLines false rest)
  | character :: rest =>
    if joining && isBlank character then quotedLines true rest
    else if isPrintable character && character ≠ '\\' then
      consRead character (quotedLines false rest)
    else none
  | [] => none

/-- The rest of a string in three single quotes. -/
def literalLines : List Char → Read (List Char)
  | '\'' :: '\'' :: '\'' :: '\'' :: '\'' :: rest => some (['\'', '\''], rest)
  | '\'' :: '\'' :: '\'' :: '\'' :: rest => some (['\''], rest)
  | '\'' :: '\'' :: '\'' :: rest => some ([], rest)
  | '\r' :: '\n' :: rest => consRead '\n' (literalLines rest)
  | '\n' :: rest => consRead '\n' (literalLines rest)
  | character :: rest =>
    if isPrintable character then consRead character (literalLines rest) else none
  | [] => none

/-- The text behind a line end that directly follows the opening of a string of several lines. -/
def skipFirstNewline (text : List Char) : List Char := (newline? text).getD text

/-- A string of any kind. -/
def string? : List Char → Read String
  | '"' :: '"' :: '"' :: rest =>
    (quotedLines false (skipFirstNewline rest)).map fun (content, rest) => (.ofList content, rest)
  | '"' :: rest => (quoted rest).map fun (content, rest) => (.ofList content, rest)
  | '\'' :: '\'' :: '\'' :: rest =>
    (literalLines (skipFirstNewline rest)).map fun (content, rest) => (.ofList content, rest)
  | '\'' :: rest => (literal rest).map fun (content, rest) => (.ofList content, rest)
  | _ => none

/-! ### Words -/

/-- A character of a number, a truth value or a date. -/
def isWord (character : Char) : Bool :=
  character.isAlphanum || character = '+' || character = '-' || character = '.' ||
    character = ':' || character = '_'

/-- Digits in which single underscores may stand between two digits, without the underscores. -/
def plainDigits? (isDigit : Char → Bool) : List Char → Option (List Char)
  | [] => none
  | [last] => if isDigit last then some [last] else none
  | digit :: '_' :: rest =>
    if isDigit digit then (plainDigits? isDigit rest).map (digit :: ·) else none
  | digit :: rest =>
    if isDigit digit then (plainDigits? isDigit rest).map (digit :: ·) else none

/-- The number that digits of the given base stand for. -/
def digitsValue (base : Nat) (digits : List Char) : Nat :=
  digits.foldl (fun number digit => base * number + (hexDigit? digit).getD 0) 0

/-- A whole number in decimal notation, without a sign and without a needless zero in front. -/
def decimal? (word : List Char) : Option Nat := do
  let digits ← plainDigits? Char.isDigit word
  if word.length ≠ 1 && word.head? = some '0' then none else some (digitsValue 10 digits)

/-- The sign in front of a word, and the word without it. -/
def signed : List Char → Int × List Char
  | '-' :: word => (-1, word)
  | '+' :: word => (1, word)
  | word => (1, word)

/-- A digit of the given base. -/
def isDigitOf (base : Nat) (character : Char) : Bool :=
  (hexDigit? character).any fun digit => digit < base

/-- A whole number in a base other than ten. -/
def based? (base : Nat) (word : List Char) : Option Int :=
  (plainDigits? (isDigitOf base) word).map fun digits => digitsValue base digits

/-- A whole number of any size. -/
def wholeNumber? : List Char → Option Int
  | '0' :: 'x' :: word => based? 16 word
  | '0' :: 'o' :: word => based? 8 word
  | '0' :: 'b' :: word => based? 2 word
  | word => (decimal? (signed word).2).map fun number => (signed word).1 * number

/-- The largest integer that a document can hold, `2 ^ 63 - 1`. -/
def largestInteger : Nat := 9223372036854775807

/-- A whole number that fits into 64 bits with a sign. -/
def integer? (word : List Char) : Option Int := do
  let number ← wholeNumber? word
  if -largestInteger - 1 ≤ number && number ≤ largestInteger then some number else none

/-- The exponent behind the letter that marks it, which may have a sign and zeros in front. -/
def exponent? (word : List Char) : Option Int :=
  (plainDigits? Char.isDigit (signed word).2).map fun digits =>
    (signed word).1 * digitsValue 10 digits

/-- The decimal number `digits * 10 ^ exponent` is smaller than what doubles can express. A number
of that size, rounded, would be infinite. -/
def isExpressible (digits : Nat) (exponent : Int) : Bool :=
  if digits = 0 then true
  else
    let places := exponent + (toString digits).length
    if 310 < places then false
    else if places < 300 then true
    else !(Float.ofScientific digits (exponent < 0) exponent.natAbs).isInf

/-- A number with a fraction or an exponent, or one of the special numbers. The number itself is of
no use here; it must only be well formed, and not too large. -/
def isFloat (word : List Char) : Bool :=
  let (sign, unsigned) := signed word
  if unsigned = ['i', 'n', 'f'] || unsigned = ['n', 'a', 'n'] then true
  else
    let isMark := fun character => character = 'e' || character = 'E'
    let mantissa := unsigned.takeWhile fun character => !isMark character
    let scale := unsigned.dropWhile fun character => !isMark character
    let whole := mantissa.takeWhile (· ≠ '.')
    let fraction := mantissa.dropWhile (· ≠ '.')
    let exponent : Option Int :=
      match scale with
      | [] => if fraction.isEmpty then none else some 0
      | _ :: digits => exponent? digits
    let places : Option (List Char) :=
      match fraction with
      | [] => some []
      | _ :: digits => plainDigits? Char.isDigit digits
    match decimal? whole, places, exponent with
    | some _, some places, some exponent =>
      let digits := digitsValue 10 (whole.filter Char.isDigit ++ places)
      sign = -1 || isExpressible digits (exponent - places.length)
    | _, _, _ => false

/-- A number of two digits that lies in the given bounds. -/
def isBetween (low high : Nat) (tens ones : Char) : Bool :=
  tens.isDigit && ones.isDigit &&
    (low ≤ digitsValue 10 [tens, ones] && digitsValue 10 [tens, ones] ≤ high)

/-- The number of days of a month. -/
def monthLength (year month : Nat) : Nat :=
  if month = 2 then
    if year % 4 = 0 && (year % 100 ≠ 0 || year % 400 = 0) then 29 else 28
  else if month = 4 || month = 6 || month = 9 || month = 11 then 30
  else 31

/-- A date, and what follows it. -/
def date? : List Char → Option (List Char)
  | a :: b :: c :: d :: '-' :: e :: f :: '-' :: g :: h :: rest =>
    if [a, b, c, d].all Char.isDigit && isBetween 1 12 e f &&
        isBetween 1 (monthLength (digitsValue 10 [a, b, c, d]) (digitsValue 10 [e, f])) g h
    then some rest
    else none
  | _ => none

/-- The fraction of a second, if one begins here, and what follows it. -/
def secondFraction? : List Char → Option (List Char)
  | '.' :: digit :: rest => if digit.isDigit then some (rest.dropWhile Char.isDigit) else none
  | '.' :: [] => none
  | rest => some rest

/-- A time of day, and what follows it. A minute may have a leap second. -/
def time? : List Char → Option (List Char)
  | a :: b :: ':' :: c :: d :: ':' :: e :: f :: rest =>
    if isBetween 0 23 a b && isBetween 0 59 c d && isBetween 0 60 e f then secondFraction? rest
    else none
  | _ => none

/-- What follows a time of day with a date: nothing, or the distance from universal time. -/
def isOffset : List Char → Bool
  | [] => true
  | ['Z'] => true
  | ['z'] => true
  | sign :: a :: b :: ':' :: c :: d :: [] =>
    (sign = '+' || sign = '-') && isBetween 0 23 a b && isBetween 0 59 c d
  | _ => false

/-- A time of day with or without an offset. -/
def isClockTime (word : List Char) : Bool :=
  match time? word with
  | some rest => isOffset rest
  | none => false

/-- A date, a time of day, or both in one word. -/
def isDateTime (word : List Char) : Bool :=
  match date? word with
  | some [] => true
  | some (mark :: rest) => (mark = 'T' || mark = 't') && isClockTime rest
  | none => time? word = some []

/-- The value that a word stands for. -/
def word? (word : List Char) : Option Value :=
  if word = "true".toList then some (.boolean true)
  else if word = "false".toList then some (.boolean false)
  else
    match integer? word with
    | some number => some (.integer number)
    | none =>
      if isDateTime word then some (.dateTime (.ofList word))
      else if isFloat word then some (.float (.ofList word))
      else none

/-- A number, a truth value or a date. A time of day may follow its date behind one blank. -/
def scalar? (text : List Char) : Read Value :=
  let word := text.takeWhile isWord
  let rest := text.dropWhile isWord
  match date? word, rest with
  | some [], ' ' :: digit :: more =>
    if digit.isDigit then
      let time := (digit :: more).takeWhile isWord
      if isClockTime time then
        some (.dateTime (.ofList (word ++ ' ' :: time)), (digit :: more).dropWhile isWord)
      else none
    else some (.dateTime (.ofList word), rest)
  | _, _ => (word? word).map fun value => (value, rest)

end LiveFleet.Toml
