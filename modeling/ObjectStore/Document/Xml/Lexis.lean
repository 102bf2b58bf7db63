import ObjectStore.Document.NameChars
import ObjectStore.Text.Percent
import ObjectStore.Text.Split

/-!
The smallest parts of XML documents: characters and names, quoted texts, references, and what leaves
no trace.
-/

namespace ObjectStore.Document.Xml

def isSpace (c : Char) : Bool :=
  c == ' ' || c == '\t' || c == '\n' || c == '\r'

def isAllowed (c : Char) : Bool :=
  isSpace c || (0x20 ≤ c.toNat && c.toNat ≠ 0xFFFE && c.toNat ≠ 0xFFFF)

def skipSpace (cs : List Char) : List Char :=
  cs.dropWhile isSpace

def opensWithSpace (cs : List Char) : Bool :=
  cs.head?.any isSpace

def name? (cs : List Char) : Option (List Char × List Char) :=
  match cs with
  | c :: _ => if isNameStart c then some (cs.takeWhile isNameChar, cs.dropWhile isNameChar) else none
  | [] => none

def isPlainChar (c : Char) : Bool :=
  c != ':' && isNameChar c

def plainName? (cs : List Char) : Option (List Char × List Char) :=
  match cs with
  | c :: _ =>
    if c != ':' && isNameStart c then some (cs.takeWhile isPlainChar, cs.dropWhile isPlainChar)
    else none
  | [] => none

def until? (mark : List Char) (done : List Char) : List Char → Option (List Char × List Char)
  | [] => none
  | c :: rest =>
    if mark.isPrefixOf (c :: rest) then some (done.reverse, (c :: rest).drop mark.length)
    else until? mark (c :: done) rest

def quoted? : List Char → Option (List Char × List Char)
  | '\x22' :: rest => until? ['\x22'] [] rest
  | '\x27' :: rest => until? ['\x27'] [] rest
  | _ => none

def unifyLines : List Char → List Char
  | '\r' :: '\n' :: rest => '\n' :: unifyLines rest
  | '\r' :: rest => '\n' :: unifyLines rest
  | c :: rest => c :: unifyLines rest
  | [] => []

/-- The characters that have names in every document. -/
def namedCharacters : List (List Char × Char) :=
  [("lt".toList, '<'), ("gt".toList, '>'), ("amp".toList, '&'), ("quot".toList, '\x22'),
   ("apos".toList, '\x27')]

def numberIn? (base : Nat) (cs : List Char) : Option Nat :=
  if cs.isEmpty then none
  else cs.foldl (fun n c => do
    let digit ← Text.hexValue? c
    if digit < base then some (Nat.min (base * (← n) + digit) 0x110000) else none) (some 0)

def numbered? (cs : List Char) : Option Char :=
  let code := match cs with
    | 'x' :: digits => numberIn? 16 digits
    | digits => numberIn? 10 digits
  match code with
  | some n =>
    let c := Char.ofNat n
    if c.toNat = n && n ≠ 0 && isAllowed c then some c else none
  | none => none

/-- What a reference is to: a character that stands for itself, or text that has a name. -/
inductive Reference where
  | character (c : Char)
  | entity (name : List Char)

/-- A reference after its ampersand, and what follows it. -/
def reference? (cs : List Char) : Option (Reference × List Char) := do
  let (body, rest) ← until? [';'] [] cs
  match body with
  | '#' :: number => (numbered? number).map fun c => (.character c, rest)
  | _ =>
    let (name, after) ← plainName? body
    if !after.isEmpty then none
    else match namedCharacters.lookup name with
      | some c => some (.character c, rest)
      | none => some (.entity name, rest)

/-- A comment after its opening, which holds no pair of hyphens. -/
def comment? (cs : List Char) : Option (List Char) := do
  let (body, rest) ← until? ['-', '-'] [] cs
  match rest with
  | '>' :: rest => if body.all isAllowed then some rest else none
  | _ => none

/-- An instruction after its opening, whose target is not the name of the format. -/
def instruction? (cs : List Char) : Option (List Char) := do
  let (target, after) ← plainName? cs
  let (body, rest) ← until? ['?', '>'] [] after
  let startsFit := body.isEmpty || opensWithSpace body
  if startsFit && body.all isAllowed && target.map Char.toLower != "xml".toList then some rest
  else none

/-- What follows the comments, instructions and blanks outside the root. -/
def skipMisc : Nat → List Char → List Char
  | 0, cs => cs
  | fuel + 1, cs =>
    match skipSpace cs with
    | '<' :: '!' :: '-' :: '-' :: rest =>
      match comment? rest with
      | some rest => skipMisc fuel rest
      | none => skipSpace cs
    | '<' :: '?' :: rest =>
      match instruction? rest with
      | some rest => skipMisc fuel rest
      | none => skipSpace cs
    | rest => rest

end ObjectStore.Document.Xml
