import ObjectStore.Number.Basic
import ObjectStore.SharedAccess.Flags
import ObjectStore.Stream
import ObjectStore.Text.Quoted
import ObjectStore.Time.DateTime

/-!
Values that callers hand over or get back where several types are allowed: header and query values,
bodies, options and the content of errors. Each has a text and a quoted form.
-/

namespace ObjectStore

inductive Value where
  | null
  | bool (b : Bool)
  | number (n : Number)
  | text (s : String)
  | bytes (content : List UInt8)
  /-- Bytes that may still change. They have a length and are not accepted as content. -/
  | byteArray (content : List UInt8)
  | list (items : List Value)
  | tuple (items : List Value)
  | dict (entries : List (String × Value))
  | moment (t : Time.DateTime)
  | date (d : Time.Date)
  | flags (f : SharedAccess.Flags)
  | stream (s : Stream)

namespace Value

instance : Inhabited Value := ⟨null⟩

def int (n : Int) : Value :=
  number (.int n)

def ofOption (f : α → Value) : Option α → Value
  | some a => f a
  | none => null

def ofText? (s : Option String) : Value :=
  ofOption text s

def isNull : Value → Bool
  | null => true
  | _ => false

/-- Truth values are whole numbers too. -/
def isInteger : Value → Bool
  | bool _ | number (.int _) => true
  | _ => false

/-- Values that count as given: all but nothing, zero and what is empty. -/
def truthy : Value → Bool
  | null => false
  | bool b => b
  | number (.int n) => n != 0
  | number (.float x) => x != 0
  | text s => !s.isEmpty
  | bytes content | byteArray content => !content.isEmpty
  | list items | tuple items => !items.isEmpty
  | dict entries => !entries.isEmpty
  | moment _ | date _ | flags _ | stream _ => true

def boolText (b : Bool) : String :=
  if b then "True" else "False"

def commaJoin (texts : List String) : String :=
  String.intercalate ", " texts

/-- The items of a tuple; a single one is followed by a comma. -/
def tupleText : List String → String
  | [one] => "(" ++ one ++ ",)"
  | texts => "(" ++ commaJoin texts ++ ")"

mutual

/-- The form a value has inside other values and in descriptions of faults. -/
def quoted : Value → String
  | null => "None"
  | bool b => boolText b
  | number n => n.text
  | text s => Text.quote s
  | bytes content => Text.quoteBytes content
  | byteArray content => Text.quoteByteArray content
  | list items => "[" ++ commaJoin (quotedItems items) ++ "]"
  | tuple items => tupleText (quotedItems items)
  | dict entries => "\x7b" ++ commaJoin (quotedEntries entries) ++ "\x7d"
  | moment t => t.quoted
  | date d => d.quoted
  | flags f => f.text
  | stream _ => "stream"

def quotedItems : List Value → List String
  | [] => []
  | item :: rest => item.quoted :: quotedItems rest

def quotedEntries : List (String × Value) → List String
  | [] => []
  | (name, value) :: rest => (Text.quote name ++ ": " ++ value.quoted) :: quotedEntries rest

end

def toText : Value → String
  | text s => s
  | moment t => t.fullText " "
  | date d => d.text
  | value => value.quoted

def number? : Value → Option Number
  | number n => some n
  | bool b => some (.int (if b then 1 else 0))
  | _ => none

mutual

/-- Whether two values are equal. Numbers and truth values are compared as numbers, and times with an
offset by the instants they name. -/
def same : Value → Value → Bool
  | null, null => true
  | text a, text b => a == b
  | bytes a, bytes b => a == b
  | tuple a, tuple b => sameItems a b
  | date a, date b => a == b
  | moment a, moment b =>
    a.offset.isSome == b.offset.isSome && a.instant == b.instant
  | a, b =>
    match a.number?, b.number? with
    | some x, some y => x.compare? y == some .eq
    | _, _ => false

def sameItems : List Value → List Value → Bool
  | [], [] => true
  | a :: more, b :: others => a.same b && sameItems more others
  | _, _ => false

end

def count? : Value → Option Nat
  | text s => some s.length
  | bytes content | byteArray content => some content.length
  | list items | tuple items => some items.length
  | dict entries => some entries.length
  | _ => none

/-- Where a stream is, if it tells. -/
def position? : Value → Option Nat
  | stream s => s.tell?
  | _ => none

def streamTypeName : Stream.Kind → String
  | .memory => "BytesIO"
  | .file => "BufferedReader"
  | .bare => "object"
  | _ => "stream"

def typeName : Value → String
  | null => "NoneType"
  | bool _ => "bool"
  | number (.int _) => "int"
  | number (.float _) => "float"
  | text _ => "str"
  | bytes _ => "bytes"
  | byteArray _ => "bytearray"
  | list _ => "list"
  | tuple _ => "tuple"
  | dict _ => "dict"
  | moment _ => "datetime"
  | date _ => "date"
  | flags f => f.kind.typeName
  | stream s => streamTypeName s.kind

/-- The name of the type of a value after that of its module, as faults about operations call it. -/
def fullTypeName (value : Value) : String :=
  match value with
  | moment _ | date _ => "datetime." ++ value.typeName
  | stream ⟨.memory, _, _⟩ | stream ⟨.file, _, _⟩ => "_io." ++ value.typeName
  | _ => value.typeName

mutual

/-- The type that keeps a value from being looked up in a set: values that can change cannot be. -/
def unhashable? : Value → Option String
  | byteArray _ => some "bytearray"
  | list _ => some "list"
  | dict _ => some "dict"
  | tuple items => unhashableItem? items
  | _ => none

def unhashableItem? : List Value → Option String
  | [] => none
  | item :: rest => item.unhashable?.orElse fun _ => unhashableItem? rest

end

end Value

end ObjectStore
