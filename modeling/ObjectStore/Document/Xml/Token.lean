import ObjectStore.Document.Xml.Lexis

/-!
The tokens of the declarations in front of the root. Blanks count only where they keep tokens apart.
-/

namespace ObjectStore.Document.Xml

inductive Token where
  | name (cs : List Char)
  | prefixed (cs : List Char)
  /-- Name characters that are no name. -/
  | word (cs : List Char)
  /-- A name that may be repeated or left out. -/
  | counted (cs : List Char)
  | literal (cs : List Char)
  | keyword (cs : List Char)
  | percent
  | comma
  | bar
  | opening
  | closing (count : Option Char)
  /-- The start of the declarations in a document type. -/
  | bracket
  | finish
deriving DecidableEq

namespace Token

/-- A blank or one of some marks follows. -/
def bounded (marks : List Char) (rest : List Char) : Bool :=
  rest.head?.any fun c => isSpace c || marks.contains c

def isCount (c : Char) : Bool :=
  c == '+' || c == '*' || c == '?'

/-- Names are told apart by their colons: none, one with something behind it, or more. -/
def ofWord (cs : List Char) : Token :=
  if !cs.head?.any isNameStart || cs.head? == some ':' then .word cs
  else match Text.cut ':' cs with
    | (_, none) => .name cs
    | (_, some after) => if after.isEmpty || after.contains ':' then .word cs else .prefixed cs

def word? (cs : List Char) : Option (Token × List Char) :=
  let token := ofWord (cs.takeWhile isNameChar)
  match cs.dropWhile isNameChar with
  | c :: rest =>
    if isCount c then
      match token with
      | .name cs | .prefixed cs => some (.counted cs, rest)
      | _ => none
    else if bounded ['>', ')', ',', '|', '[', '%'] (c :: rest) then some (token, c :: rest)
    else none
  | [] => none

def literal? (cs : List Char) : Option (Token × List Char) := do
  let (body, rest) ← quoted? cs
  if body.all isAllowed && bounded ['>', '%', '['] rest then some (.literal body, rest) else none

def next? (cs : List Char) : Option (Token × List Char) :=
  match cs with
  | '\x22' :: _ | '\x27' :: _ => literal? cs
  | '%' :: rest => if bounded ['%'] rest then some (.percent, rest) else none
  | ',' :: rest => some (.comma, rest)
  | '|' :: rest => some (.bar, rest)
  | '(' :: rest => some (.opening, rest)
  | ')' :: c :: rest =>
    if isCount c then some (.closing (some c), rest)
    else if bounded ['>', ',', '|', ')'] (c :: rest) then some (.closing none, c :: rest)
    else none
  | '#' :: rest => do
    let (cs, rest) ← plainName? rest
    if bounded [')', '>', '%', '|'] rest then some (.keyword cs, rest) else none
  | '[' :: rest => some (.bracket, rest)
  | '>' :: rest => some (.finish, rest)
  | c :: _ => if isNameChar c then word? cs else none
  | [] => none

/-- The tokens up to the end of a declaration or to a bracket, the last one, and what follows it. -/
def readAll? : Nat → List Char → Option (List Token × Token × List Char)
  | 0, _ => none
  | fuel + 1, cs => do
    let (token, rest) ← next? (skipSpace cs)
    match token with
    | .finish | .bracket => some ([], token, rest)
    | _ =>
      let (tokens, last, rest) ← readAll? fuel rest
      some (token :: tokens, last, rest)

end Token

end ObjectStore.Document.Xml
