import ObjectStore.Fields
import ObjectStore.Text.Digit
import ObjectStore.Text.Percent
import ObjectStore.Value.Basic

/-!
JSON documents as values. Names may be repeated, and the last value counts; numbers may be
undefined or infinite; strings hold no control characters.
-/

namespace ObjectStore.Document.Json

def isSpace (c : Char) : Bool :=
  c == ' ' || c == '\t' || c == '\n' || c == '\r'

def skipSpace (cs : List Char) : List Char :=
  cs.dropWhile isSpace

def hexNumber? (cs : List Char) : Option Nat :=
  cs.foldl (fun n c => do some (16 * (← n) + (← Text.hexValue? c))) (some 0)

def codeUnit? (cs : List Char) : Option (Nat × List Char) :=
  if 4 ≤ (cs.take 4).length then (hexNumber? (cs.take 4)).map (·, cs.drop 4) else none

def lowUnit? : List Char → Option (Nat × List Char)
  | '\\' :: 'u' :: rest =>
    match codeUnit? rest with
    | some (low, rest) => if 0xDC00 ≤ low && low < 0xE000 then some (low, rest) else none
    | none => none
  | _ => none

/-- The character an escape stands for; half of a pair alone stands for none. -/
def escape? : List Char → Option (Char × List Char)
  | '\x22' :: rest => some ('\x22', rest)
  | '\\' :: rest => some ('\\', rest)
  | '/' :: rest => some ('/', rest)
  | 'b' :: rest => some ('\x08', rest)
  | 'f' :: rest => some ('\x0c', rest)
  | 'n' :: rest => some ('\n', rest)
  | 'r' :: rest => some ('\r', rest)
  | 't' :: rest => some ('\t', rest)
  | 'u' :: rest =>
    match codeUnit? rest with
    | none => none
    | some (unit, rest) =>
      if 0xD800 ≤ unit && unit < 0xDC00 then
        match lowUnit? rest with
        | some (low, rest) =>
          some (Char.ofNat (0x10000 + (unit - 0xD800) * 1024 + (low - 0xDC00)), rest)
        | none => some (Text.Utf8.replacement, rest)
      else if 0xDC00 ≤ unit && unit < 0xE000 then some (Text.Utf8.replacement, rest)
      else some (Char.ofNat unit, rest)
  | _ => none

/-- The rest of a string; `done` holds what was read, last character first. -/
def readString? : Nat → List Char → List Char → Option (String × List Char)
  | 0, _, _ => none
  | fuel + 1, done, cs =>
    match cs with
    | [] => none
    | '\x22' :: rest => some (String.ofList done.reverse, rest)
    | '\\' :: rest =>
      match escape? rest with
      | some (c, rest) => readString? fuel (c :: done) rest
      | none => none
    | c :: rest => if c.toNat < 0x20 then none else readString? fuel (c :: done) rest

def isDigit (c : Char) : Bool :=
  c.isDigit

def digits? (cs : List Char) : Option (List Char × List Char) :=
  let taken := cs.takeWhile isDigit
  if taken.isEmpty then none else some (taken, cs.dropWhile isDigit)

/-- Digits of a whole number; a zero in front stands alone. -/
def wholeDigits? : List Char → Option (List Char × List Char)
  | '0' :: rest => some (['0'], rest)
  | cs => digits? cs

/-- The digits after a point, if the point is followed by any. -/
def fractionDigits : List Char → List Char × List Char
  | '.' :: rest => (digits? rest).getD ([], '.' :: rest)
  | cs => ([], cs)

/-- A power of ten, if its mark is followed by digits. -/
def powerOfTen (cs : List Char) : Option Int × List Char :=
  match cs with
  | mark :: rest =>
    if mark == 'e' || mark == 'E' then
      let (negative, afterSign) := match rest with
        | '-' :: more => (true, more)
        | '+' :: more => (false, more)
        | _ => (false, rest)
      match digits? afterSign with
      | some (digits, after) =>
        let n : Nat := digits.foldl (fun n c => 10 * n + (c.toNat - 48)) 0
        (some (if negative then -(n : Int) else n), after)
      | none => (none, cs)
    else (none, cs)
  | [] => (none, cs)

def decimal (negative : Bool) (digits : List Char) (power : Int) : Float :=
  let mantissa := digits.foldl (fun n c => 10 * n + (c.toNat - 48)) 0
  let top : Int := power + Int.ofNat digits.length
  let x : Float :=
    if mantissa = 0 ∨ top < -400 then 0
    else if 400 < power then 1 / 0
    else Float.ofScientific mantissa (power < 0) power.natAbs
  if negative then -x else x

def readNumber? (negative : Bool) (cs : List Char) : Option (Value × List Char) := do
  let (whole, rest) ← wholeDigits? cs
  let (fraction, rest) := fractionDigits rest
  let (power, rest) := powerOfTen rest
  if fraction.isEmpty && power.isNone then
    let n ← (Text.readNat whole).toOption
    some (.int (if negative then -(n : Int) else n), rest)
  else
    some (.number (.float
      (decimal negative (whole ++ fraction) (power.getD 0 - fraction.length))), rest)

def dropText? (word : String) (cs : List Char) : Option (List Char) :=
  if word.toList.isPrefixOf cs then some (cs.drop word.length) else none

def words : List (String × Value) :=
  [("null", .null), ("true", .bool true), ("false", .bool false),
   ("NaN", .number (.float (0 / 0))), ("Infinity", .number (.float (1 / 0))),
   ("-Infinity", .number (.float (-1 / 0)))]

def readWord? (cs : List Char) : Option (Value × List Char) :=
  words.findSome? fun (word, value) => (dropText? word cs).map (value, ·)

inductive Flaw where
  | malformed
  /-- The document is nested too deeply; the word says what was opened last. -/
  | tooDeep (opened : String)

def need : Option α → Except Flaw α
  | some a => .ok a
  | none => .error .malformed

/-- How many arrays and objects may be open at once. -/
def mostOpen : Nat := 980

/-- Room for what is opened: how many more may be opened inside. -/
def enter (opened : String) : Nat → Except Flaw Nat
  | 0 => .error (.tooDeep opened)
  | room + 1 => .ok room

mutual

def readValue : Nat → Nat → List Char → Except Flaw (Value × List Char)
  | 0, _, _ => .error .malformed
  | fuel + 1, room, cs =>
    match cs with
    | '\x22' :: rest => do
      let (s, rest) ← need (readString? (rest.length + 1) [] rest)
      return (.text s, rest)
    | '\x7b' :: rest => do
      let room ← enter "object" room
      match skipSpace rest with
      | '\x7d' :: rest => return (.dict [], rest)
      | rest =>
        let (fields, rest) ← readMembers fuel room Fields.empty rest
        return (.dict fields.entries, rest)
    | '[' :: rest => do
      let room ← enter "array" room
      match skipSpace rest with
      | ']' :: rest => return (.list [], rest)
      | rest =>
        let (items, rest) ← readItems fuel room rest
        return (.list items, rest)
    | '-' :: rest => need ((readNumber? true rest).orElse fun _ => readWord? cs)
    | _ => need ((readNumber? false cs).orElse fun _ => readWord? cs)

def readMembers : Nat → Nat → Fields Value → List Char → Except Flaw (Fields Value × List Char)
  | 0, _, _, _ => .error .malformed
  | fuel + 1, room, fields, cs =>
    match cs with
    | '\x22' :: rest => do
      let (name, rest) ← need (readString? (rest.length + 1) [] rest)
      match skipSpace rest with
      | ':' :: rest =>
        let (value, rest) ← readValue fuel room (skipSpace rest)
        match skipSpace rest with
        | ',' :: rest => readMembers fuel room (fields.set name value) (skipSpace rest)
        | '\x7d' :: rest => return (fields.set name value, rest)
        | _ => .error .malformed
      | _ => .error .malformed
    | _ => .error .malformed

def readItems : Nat → Nat → List Char → Except Flaw (List Value × List Char)
  | 0, _, _ => .error .malformed
  | fuel + 1, room, cs => do
    let (value, rest) ← readValue fuel room cs
    match skipSpace rest with
    | ',' :: rest =>
      let (items, rest) ← readItems fuel room (skipSpace rest)
      return (value :: items, rest)
    | ']' :: rest => return ([value], rest)
    | _ => .error .malformed

end

/-- A document is one value with blanks around it. -/
def parse (s : String) : Except Flaw Value := do
  let cs := s.toList
  let (value, rest) ← readValue (2 * cs.length + 1) mostOpen (skipSpace cs)
  if (skipSpace rest).isEmpty then return value else .error .malformed

end ObjectStore.Document.Json
