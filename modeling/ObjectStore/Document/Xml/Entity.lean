import ObjectStore.Document.Xml.Lexis

/-!
What the declarations in front of the root define: texts with names, and how the attributes of
elements are read. A text may name others, but not itself.
-/

namespace ObjectStore.Document.Xml

inductive Entity where
  | text (cs : List Char)
  /-- Kept outside of the document, or being read already: it cannot be used. -/
  | unavailable

structure AttributeRule where
  element : List Char
  name : List Char
  /-- Its value is a list of words; blanks around them do not count. -/
  tokenized : Bool
  value : Option (List Char)

structure Definitions where
  entities : List (List Char × Entity) := []
  rules : List AttributeRule := []
  /-- No declarations were missed. If some were, a name can be missing without fault. -/
  complete : Bool := true

namespace Definitions

def entity? (definitions : Definitions) (name : List Char) : Option Entity :=
  definitions.entities.lookup name

/-- The first definition of a name counts. -/
def define (definitions : Definitions) (name : List Char) (entity : Entity) : Definitions :=
  if (namedCharacters.lookup name).isSome || (definitions.entity? name).isSome then definitions
  else { definitions with entities := definitions.entities ++ [(name, entity)] }

def hide (definitions : Definitions) (name : List Char) : Definitions :=
  { definitions with
    entities := definitions.entities.map fun (n, entity) =>
      (n, if n == name then .unavailable else entity) }

/-- How deep texts with names can be inside each other. -/
def depth (definitions : Definitions) : Nat :=
  definitions.entities.length + 1

def rulesOf (definitions : Definitions) (element : List Char) : List AttributeRule :=
  definitions.rules.filter (·.element == element)

/-- The first rule for an attribute says whether it is a list of words. -/
def isTokenized (definitions : Definitions) (element name : List Char) : Bool :=
  ((definitions.rulesOf element).find? (·.name == name)).any (·.tokenized)

/-- Adds a rule. One with a value, or for an identifier, does not count beside another. -/
def addRule (definitions : Definitions) (rule : AttributeRule) (isIdentifier : Bool) :
    Definitions :=
  let known := (definitions.rulesOf rule.element).any (·.name == rule.name)
  if known && (rule.value.isSome || isIdentifier) then definitions
  else { definitions with rules := definitions.rules ++ [rule] }

end Definitions

/-- How many bytes texts with names may add to a document of a size. -/
def roomFor (size : Nat) : Nat :=
  Nat.max 8388608 (100 * size) - size

/-- The room that is left after a text was added, if it fits. -/
def spend? (cs : List Char) (room : Nat) : Option Nat :=
  let size := cs.foldl (fun n c => n + c.utf8Size) 0
  if size ≤ room then some (room - size) else none

/-- The parts of the value of an attribute. All blanks are as good as spaces. -/
def valueParts? : Nat → List Char → Option (List Reference)
  | 0, _ => none
  | _, [] => some []
  | fuel + 1, '&' :: rest => do
    let (reference, rest) ← reference? rest
    some (reference :: (← valueParts? fuel rest))
  | fuel + 1, c :: rest =>
    if c == '<' || !isAllowed c then none
    else (valueParts? fuel rest).map (.character (if isSpace c then ' ' else c) :: ·)

/-- The text that parts of a value stand for, and the room that is left. `inner` reads the texts of
names. -/
def joinParts? (inner : Definitions → Nat → List Char → Option (List Char × Nat))
    (definitions : Definitions) : Nat → List Reference → Option (List Char × Nat)
  | room, [] => some ([], room)
  | room, .character c :: rest => do
    let (cs, room) ← joinParts? inner definitions room rest
    some (c :: cs, room)
  | room, .entity name :: rest =>
    match definitions.entity? name with
    | some (.text cs) => do
      let (first, room) ← inner (definitions.hide name) (← spend? cs room) cs
      let (others, room) ← joinParts? inner definitions room rest
      some (first ++ others, room)
    | some .unavailable => none
    | none => if definitions.complete then none else joinParts? inner definitions room rest

/-- A value without references, and the room that is left. -/
def resolve? : Nat → Definitions → Nat → List Char → Option (List Char × Nat)
  | 0, _, _, _ => none
  | depth + 1, definitions, room, cs => do
    joinParts? (resolve? depth) definitions room (← valueParts? (cs.length + 1) cs)

def oneSpaced (cs : List Char) : List Char :=
  Text.join [' '] ((Text.pieces ' ' cs).filter (!·.isEmpty))

/-- The value of an attribute as it is written, and the room that is left. -/
def attributeValue? (definitions : Definitions) (room : Nat) (tokenized : Bool) (written : List Char) :
    Option (List Char × Nat) := do
  let (value, room) ← resolve? definitions.depth definitions room written
  some (if tokenized then oneSpaced value else value, room)

/-- The text that is kept for a name: numbered characters stand for themselves from now on, and names
are left as they are. -/
def entityText? : Nat → List Char → Option (List Char)
  | 0, _ => none
  | _, [] => some []
  | fuel + 1, '&' :: rest => do
    let (reference, after) ← reference? rest
    let kept := match rest, reference with
      | '#' :: _, .character c => [c]
      | _, _ => '&' :: rest.take (rest.length - after.length)
    some (kept ++ (← entityText? fuel after))
  | fuel + 1, c :: rest =>
    if c == '%' || !isAllowed c then none else (entityText? fuel rest).map (c :: ·)

end ObjectStore.Document.Xml
