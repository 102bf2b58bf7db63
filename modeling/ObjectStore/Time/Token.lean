import ObjectStore.Text.Digit

/-!
The tokens of a written date: words, numbers, blanks and single marks. A point or a comma inside a
number is its decimal mark, unless there are several of them or letters beside them.
-/

namespace ObjectStore.Time

abbrev Token := List Char

namespace Token

def isNumeral (c : Char) : Bool :=
  (Text.digitValue? c).isSome

/-- Letters; those beyond ASCII belong to no word that is known here. -/
def isLetter (c : Char) : Bool :=
  c.isAlpha || (0x80 ≤ c.toNat && !isNumeral c && !Text.isBlank c)

inductive Shape where
  | word
  | number
  | dottedWord
  /-- A number with a decimal mark, or numbers with points between them. -/
  | dottedNumber
deriving DecidableEq

/-- A token that is being read, its last character first. -/
structure Draft where
  shape : Shape
  lettered : Bool := false
  reversed : List Char

def Draft.push (draft : Draft) (shape : Shape) (c : Char) : Draft :=
  { draft with shape, reversed := c :: draft.reversed }

/-- The draft with one more character, unless the character starts another token. -/
def Draft.take? (draft : Draft) (c : Char) : Option Draft :=
  let pointed := draft.reversed.head? == some '.'
  match draft.shape with
  | .word =>
    if isLetter c then some (draft.push .word c)
    else if c == '.' then some ({ draft with lettered := true }.push .dottedWord c)
    else none
  | .number =>
    if isNumeral c then some (draft.push .number c)
    else if c == '.' || (c == ',' && 2 ≤ draft.reversed.length) then
      some (draft.push .dottedNumber c)
    else none
  | .dottedWord =>
    let draft := { draft with lettered := true }
    if c == '.' || isLetter c then some (draft.push .dottedWord c)
    else if isNumeral c && pointed then some (draft.push .dottedNumber c)
    else none
  | .dottedNumber =>
    if c == '.' || isNumeral c then some (draft.push .dottedNumber c)
    else if isLetter c && pointed then some (draft.push .dottedWord c)
    else none

/-- Reads on to the end of a token. The character that ends a dotted word shows that it has letters. -/
def Draft.finish (draft : Draft) : List Char → Draft × List Char
  | [] => (draft, [])
  | c :: rest =>
    match draft.take? c with
    | some draft => draft.finish rest
    | none => ({ draft with lettered := draft.lettered || draft.shape = .dottedWord }, c :: rest)

def isMark (c : Char) : Bool :=
  c == '.' || c == ','

/-- The parts of a text between its marks, the marks being parts of their own. -/
def atMarks : List Char → List Token
  | [] => []
  | c :: rest =>
    if isMark c then [c] :: atMarks rest
    else match atMarks rest with
      | part :: more => if part.any isMark then [c] :: part :: more else (c :: part) :: more
      | [] => [[c]]

def Draft.tokens (draft : Draft) : List Token :=
  let token := draft.reversed.reverse
  let dotted := draft.shape = .dottedWord || draft.shape = .dottedNumber
  let points := (token.filter (· == '.')).length
  if dotted && (draft.lettered || 1 < points || draft.reversed.head?.any isMark) then atMarks token
  else if draft.shape = .dottedNumber && points = 0 then
    [token.map fun c => if c == ',' then '.' else c]
  else [token]

/-- The tokens of a text. Every blank is a token, written as a space. -/
def readFrom : Nat → List Char → List Token
  | 0, _ => []
  | _, [] => []
  | fuel + 1, c :: rest =>
    if isLetter c || isNumeral c then
      let start : Draft := ⟨if isLetter c then .word else .number, false, [c]⟩
      let (draft, rest) := start.finish rest
      draft.tokens ++ readFrom fuel rest
    else (if Text.isBlank c then [' '] else [c]) :: readFrom fuel rest

/-- The tokens of a text, in which zero characters do not count. -/
def read (cs : List Char) : List Token :=
  readFrom cs.length (cs.filter (·.toNat != 0))

end Token

end ObjectStore.Time
