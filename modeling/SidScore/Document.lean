/-!
# Documents

The value that a structured text holds: nothing, a truth value, a number, a text, a list or a
record of named fields.  Whole numbers are kept apart from real ones, because some fields admit
only the former.

Options and timelines are read from documents and timelines are written to them; how a document is
spelled as text is not settled here.

A record of fixed fields may leave their names away: the list of the values, in the order of the
fields, says the same.  `record?` puts the names back, so that a reader sees records only.
-/

namespace SidScore

/-- A structured value. -/
inductive Document where
  /-- No value. -/
  | null
  /-- A truth value. -/
  | bool (value : Bool)
  /-- A whole number. -/
  | integer (value : Int)
  /-- A real number. -/
  | real (value : Float)
  /-- A text. -/
  | text (value : String)
  /-- A list. -/
  | list (items : List Document)
  /-- Named fields. -/
  | record (fields : List (String × Document))
  deriving Inhabited

namespace Document

/-- The field of a name, in a record that has it. -/
def field? : Document → String → Option Document
  | record fields, name => (fields.find? fun field => field.1 == name).map Prod.snd
  | _, _ => none

/-- A number of a type that has fewer values than the whole numbers. -/
def ofNat (n : Nat) : Document :=
  integer n

/-- What is there, or nothing. -/
def ofOption {α : Type} (f : α → Document) : Option α → Document
  | some value => f value
  | none => null

/-! ## Reading

Each reader gives nothing for a document of another shape or out of range. -/

/-- A truth value. -/
def bool? : Document → Option Bool
  | bool value => some value
  | _ => none

/-- A whole number from zero up to, but not including, `bound`. -/
def natBelow? (bound : Nat) : Document → Option Nat
  | integer (.ofNat n) => if n < bound then some n else none
  | _ => none

/-- A number, whole or not. -/
def float? : Document → Option Float
  | integer n => some (Float.ofInt n)
  | real x => some x
  | _ => none

/-- A text. -/
def text? : Document → Option String
  | text value => some value
  | _ => none

/-- The items of a list. -/
def list? : Document → Option (List Document)
  | list items => some items
  | _ => none

/-- A record's field that has to be there and readable. -/
def required? {α : Type} (document : Document) (name : String) (read : Document → Option α) :
    Option α :=
  document.field? name >>= read

/-- A record's field that may be missing, but has to be readable if it is there. -/
def defaulted? {α : Type} (document : Document) (name : String) (default : α)
    (read : Document → Option α) : Option α :=
  match document.field? name with
  | some value => read value
  | none => some default

/-- A value that may be nothing. -/
def nullable? {α : Type} (read : Document → Option α) : Document → Option (Option α)
  | null => some none
  | document => (read document).map some

/-- The word of a choice between words: a text, or a record whose only field has the word for its
name and holds nothing. -/
def word? : Document → Option String
  | text word => some word
  | record [(word, null)] => some word
  | _ => none

/-- A record.  A list stands for one as well: its items are then the values of the fields `names`,
in this order.  It has no items beyond them, and at least the first `least`. -/
def record? (least : Nat) (names : List String) : Document → Option Document
  | record fields => some (record fields)
  | list items =>
    if least ≤ items.length ∧ items.length ≤ names.length then some (record (names.zip items))
    else none
  | _ => none

end Document

end SidScore
