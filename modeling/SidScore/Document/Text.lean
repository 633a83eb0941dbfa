import SidScore.Decimal.Shortest
import SidScore.Document
import SidScore.Word

/-!
# Documents as text

Documents are spelled in JSON.  A number is whole if it has neither a fraction nor an exponent and
fits into 64 bits, signed or unsigned; any other number is real and read to the nearest one.
Whatever is no document gives nothing.

Reading takes the text from the front: each reader gives what it has read and what is left.
-/

namespace SidScore.Document

/-- A reader gives a value and the rest of the text, or nothing. -/
abbrev Reader (α : Type) := List Char → Option (α × List Char)

/-! ## Reading the parts -/

/-- The text without the blanks before it. -/
def skipBlanks (chars : List Char) : List Char :=
  chars.dropWhile fun c => c == ' ' || c == '\t' || c == '\n' || c == '\r'

/-- The text behind a word that it starts with. -/
def dropWord? : List Char → List Char → Option (List Char)
  | [], chars => some chars
  | c :: word, d :: chars => if c = d then dropWord? word chars else none
  | _ :: _, [] => none

/-- The value of a hexadecimal digit. -/
def hexDigit? (c : Char) : Option Nat :=
  if '0' ≤ c ∧ c ≤ '9' then some (c.toNat - '0'.toNat)
  else if 'a' ≤ c ∧ c ≤ 'f' then some (c.toNat - 'a'.toNat + 10)
  else if 'A' ≤ c ∧ c ≤ 'F' then some (c.toNat - 'A'.toNat + 10)
  else none

/-- The value of four hexadecimal digits. -/
def hexValue? (digits : List Char) : Option Nat :=
  digits.foldlM (fun value c => (hexDigit? c).map (value * 16 + ·)) 0

/-- The character that two halves of a pair stand for. -/
def pairedChar? (high low : Nat) : Option Char :=
  if 0xD800 ≤ high ∧ high < 0xDC00 ∧ 0xDC00 ≤ low ∧ low < 0xE000 then
    some (Char.ofNat (0x10000 + (high - 0xD800) * 0x400 + (low - 0xDC00)))
  else none

/-- The character that one letter behind a backslash stands for. -/
def escapedChar? : Char → Option Char
  | '"' => some '"'
  | '\\' => some '\\'
  | '/' => some '/'
  | 'b' => some '\x08'
  | 'f' => some '\x0c'
  | 'n' => some '\n'
  | 'r' => some '\r'
  | 't' => some '\t'
  | _ => none

/-- Reads the rest of a quoted text.  `done` is what was read before, backwards. -/
def readQuoted (done : List Char) : Reader String
  | '"' :: rest => some (String.ofList done.reverse, rest)
  | '\\' :: 'u' :: a :: b :: c :: d :: '\\' :: 'u' :: e :: f :: g :: h :: rest => do
    let first ← hexValue? [a, b, c, d]
    if 0xD800 ≤ first ∧ first < 0xE000 then
      let second ← hexValue? [e, f, g, h]
      let paired ← pairedChar? first second
      readQuoted (paired :: done) rest
    else readQuoted (Char.ofNat first :: done) ('\\' :: 'u' :: e :: f :: g :: h :: rest)
  | '\\' :: 'u' :: a :: b :: c :: d :: rest => do
    let code ← hexValue? [a, b, c, d]
    if 0xD800 ≤ code ∧ code < 0xE000 then none
    else readQuoted (Char.ofNat code :: done) rest
  | '\\' :: c :: rest => do
    let escaped ← escapedChar? c
    readQuoted (escaped :: done) rest
  | c :: rest => if c.toNat < 0x20 then none else readQuoted (c :: done) rest
  | [] => none

/-- The value of decimal digits. -/
def decimalValue (digits : List Char) : Nat :=
  digits.foldl (fun value c => value * 10 + (c.toNat - '0'.toNat)) 0

/-- Splits off the decimal digits at the front. -/
def splitDigits (chars : List Char) : List Char × List Char :=
  (chars.takeWhile Char.isDigit, chars.dropWhile Char.isDigit)

/-- Splits off a fraction: its digits, none if there is no point. -/
def readFraction : Reader (List Char)
  | '.' :: chars =>
    match splitDigits chars with
    | ([], _) => none
    | split => some split
  | chars => some ([], chars)

/-- Splits off the exponent behind its letter. -/
def readExponent (chars : List Char) : Option (Int × List Char) :=
  let (negative, chars) := match chars with
    | '-' :: rest => (true, rest)
    | '+' :: rest => (false, rest)
    | chars => (false, chars)
  match splitDigits chars with
  | ([], _) => none
  | (digits, rest) =>
    let value : Int := decimalValue digits
    some (if negative then -value else value, rest)

/-- The nearest real number to `mantissa` times ten to the `scale`. -/
def scaled (mantissa : Nat) (scale : Int) : Float :=
  if scale < 0 then Float.ofScientific mantissa true scale.natAbs
  else Float.ofScientific mantissa false scale.natAbs

/-- The number without fraction and exponent.  Minus zero is real. -/
def wholeNumber (negative : Bool) (n : Nat) : Document :=
  if negative then
    if 0 < n ∧ n ≤ UInt64.size / 2 then integer (-(n : Int)) else real (-scaled n 0)
  else if n < UInt64.size then integer n
  else real (scaled n 0)

/-- The digits are those of a number's whole part: there is one, and none is a leading zero. -/
def isWholePart : List Char → Bool
  | [] => false
  | '0' :: _ :: _ => false
  | _ => true

/-- Reads a number without its sign. -/
def readUnsigned (negative : Bool) : Reader Document := fun chars => do
  let (whole, chars) := splitDigits chars
  if isWholePart whole then
    let (fraction, chars) ← readFraction chars
    let mantissa := decimalValue (whole ++ fraction)
    let signed (scale : Int) : Document :=
      let size := scaled mantissa (scale - fraction.length)
      real (if negative then -size else size)
    match chars with
    | 'e' :: rest | 'E' :: rest =>
      let (exponent, rest) ← readExponent rest
      pure (signed exponent, rest)
    | _ =>
      if fraction.isEmpty then pure (wholeNumber negative mantissa, chars)
      else pure (signed 0, chars)
  else none

/-- Reads a number. -/
def readNumber : Reader Document
  | '-' :: chars => readUnsigned true chars
  | chars => readUnsigned false chars

/-- Reads a value that is a fixed word. -/
def readWord (chars : List Char) : Option (Document × List Char) :=
  ((dropWord? "true".toList chars).map (bool true, ·))
    <|> ((dropWord? "false".toList chars).map (bool false, ·))
    <|> ((dropWord? "null".toList chars).map (null, ·))

/-! ## Reading documents -/

mutual

/-- Reads a document, at most `fuel` levels deep and long. -/
def readValue : Nat → Reader Document
  | 0, _ => none
  | fuel + 1, chars =>
    match skipBlanks chars with
    | '"' :: rest => (readQuoted [] rest).map fun (s, rest) => (.text s, rest)
    | '[' :: rest =>
      match skipBlanks rest with
      | ']' :: rest => some (list [], rest)
      | rest => readItems fuel [] rest
    | '\x7b' :: rest =>
      match skipBlanks rest with
      | '\x7d' :: rest => some (record [], rest)
      | rest => readFields fuel [] rest
    | rest => readWord rest <|> readNumber rest

/-- Reads the items of a list from the next one on.  `done` lists those before, backwards. -/
def readItems : Nat → List Document → Reader Document
  | 0, _, _ => none
  | fuel + 1, done, chars => do
    let (item, chars) ← readValue fuel chars
    match skipBlanks chars with
    | ',' :: rest => readItems fuel (item :: done) rest
    | ']' :: rest => pure (list (item :: done).reverse, rest)
    | _ => none

/-- Reads the fields of a record from the next one on.  `done` lists those before, backwards. -/
def readFields : Nat → List (String × Document) → Reader Document
  | 0, _, _ => none
  | fuel + 1, done, chars =>
    match skipBlanks chars with
    | '"' :: rest => do
      let (name, rest) ← readQuoted [] rest
      match skipBlanks rest with
      | ':' :: rest =>
        let (value, rest) ← readValue fuel rest
        match skipBlanks rest with
        | ',' :: rest => readFields fuel ((name, value) :: done) rest
        | '\x7d' :: rest => pure (record ((name, value) :: done).reverse, rest)
        | _ => none
      | _ => none
    | _ => none

end

/-- The document that a text spells.  No document has more levels and parts than its text has
characters, so the fuel suffices. -/
def ofText? (source : String) : Option Document :=
  let chars := source.toList
  match readValue (2 * chars.length + 2) chars with
  | some (document, rest) => if (skipBlanks rest).isEmpty then some document else none
  | none => none

/-! ## Writing -/

/-- A character within quotes. -/
def escape (c : Char) : String :=
  if c = '"' then "\\\""
  else if c = '\\' then "\\\\"
  else if c.toNat < 0x20 then "\\u00" ++ hexByte (UInt8.ofNat c.toNat)
  else c.toString

/-- A text in quotes. -/
def quote (value : String) : String :=
  "\"" ++ value.foldl (fun done c => done ++ escape c) "" ++ "\""

/-- A real number: the fewest digits that read back as it, and as a real one.  A value that is no
number is nothing. -/
def realText (value : Float) : String :=
  if value.isFinite then
    let digits := Decimal.shortest value
    if digits.contains '.' then digits else digits ++ ".0"
  else "null"

mutual

/-- The text of a document behind what is written before it. -/
def writeTo (done : String) : Document → String
  | null => done ++ "null"
  | bool value => done ++ (if value then "true" else "false")
  | integer value => done ++ toString value
  | real value => done ++ realText value
  | text value => done ++ quote value
  | list items => writeItems (done ++ "[") true items ++ "]"
  | record fields => writeFields (done ++ "\x7b") true fields ++ "\x7d"

/-- The items of a list, divided by commas. -/
def writeItems (done : String) (isFirst : Bool) : List Document → String
  | [] => done
  | item :: items =>
    writeItems (writeTo (if isFirst then done else done ++ ",") item) false items

/-- The fields of a record, divided by commas. -/
def writeFields (done : String) (isFirst : Bool) : List (String × Document) → String
  | [] => done
  | (name, value) :: fields =>
    writeFields (writeTo ((if isFirst then done else done ++ ",") ++ quote name ++ ":") value)
      false fields

end

/-- The text of a document. -/
def toText (document : Document) : String :=
  writeTo "" document

end SidScore.Document
