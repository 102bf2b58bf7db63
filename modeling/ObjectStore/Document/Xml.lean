import ObjectStore.Document.Xml.DocumentType
import ObjectStore.Document.Xml.Namespace

/-!
XML documents as trees of elements. A document is read only if it is well-formed: tags match, names
and characters are allowed, prefixes are bound, and entities are known and hold whole elements.
Comments, instructions and the declarations in front of the root leave no trace but what they define.
-/

namespace ObjectStore.Document.Xml

/-- An element: its name with the namespace in braces, the text in front of its first child, and
its children. -/
inductive Element where
  | mk (tag : String) (text : String) (children : List Element)

namespace Element

def tag : Element → String
  | mk tag _ _ => tag

def text : Element → String
  | mk _ text _ => text

def children : Element → List Element
  | mk _ _ children => children

end Element

structure Tag where
  name : List Char
  attributes : List (List Char × List Char)
  /-- The element ends where it starts. -/
  empty : Bool

def attributes? (name : List Char) :
    Nat → List (List Char × List Char) → List Char → Option (Tag × List Char)
  | 0, _, _ => none
  | fuel + 1, found, cs =>
    match skipSpace cs with
    | '>' :: rest => some (⟨name, found.reverse, false⟩, rest)
    | '/' :: '>' :: rest => some (⟨name, found.reverse, true⟩, rest)
    | rest => do
      let (key, after) ← if opensWithSpace cs then name? rest else none
      match skipSpace after with
      | '=' :: after =>
        let (written, after) ← quoted? (skipSpace after)
        if found.any (·.1 == key) || !isQualifiedName key then none
        else attributes? name fuel ((key, written) :: found) after
      | _ => none

def tag? (cs : List Char) : Option (Tag × List Char) := do
  let (name, after) ← name? cs
  if isQualifiedName name then attributes? name (after.length + 1) [] after else none

/-- The values of attributes as they are written, and the room that is left. -/
def resolveAll? (definitions : Definitions) (element : List Char) :
    Nat → List (List Char × List Char) → Option (List (List Char × List Char) × Nat)
  | room, [] => some ([], room)
  | room, (name, written) :: rest => do
    let tokenized := definitions.isTokenized element name
    let (value, room) ← attributeValue? definitions room tokenized written
    let (others, room) ← resolveAll? definitions element room rest
    some ((name, value) :: others, room)

/-- The attributes an element has although its tag does not show them. -/
def unwritten (definitions : Definitions) (tag : Tag) : List (List Char × List Char) :=
  (definitions.rulesOf tag.name).filterMap fun rule =>
    if tag.attributes.any (·.1 == rule.name) then none else rule.value.map (rule.name, ·)

structure Frame where
  name : List Char
  tag : List Char
  scope : Scope
  /-- Last character first. -/
  text : List Char
  /-- Last child first. -/
  children : List Element

def Frame.close (frame : Frame) : Element :=
  .mk (String.ofList frame.tag) (String.ofList frame.text.reverse) frame.children.reverse

def Frame.addText (frame : Frame) (cs : List Char) : Frame :=
  if frame.children.isEmpty then { frame with text := cs.reverse ++ frame.text } else frame

def Frame.addChild (frame : Frame) (child : Element) : Frame :=
  { frame with children := child :: frame.children }

def frame? (scope : Scope) (name : List Char) (attributes : List (List Char × List Char)) :
    Option Frame := do
  let scope ← attributes.foldlM declare? scope
  let expanded ← (attributes.filter fun pair => (declared? pair.1).isNone).mapM fun pair =>
    expand? scope true pair.1
  if expanded.eraseDups.length ≠ expanded.length then none
  else some ⟨name, ← expand? scope false name, scope, [], []⟩

/-- The open elements, innermost first, and how much texts with names may still add. -/
structure Progress where
  stack : List Frame
  room : Nat

def Progress.addText (progress : Progress) (cs : List Char) : Progress :=
  match progress.stack with
  | frame :: outer => { progress with stack := frame.addText cs :: outer }
  | [] => progress

/-- What the content of an element leads to: an open element with what follows, or the finished
root with what follows. -/
inductive Reading where
  | inside (progress : Progress) (rest : List Char)
  | finished (root : Element) (rest : List Char)

def endElement (progress : Progress) (rest : List Char) : Option Reading :=
  match progress.stack with
  | [] => none
  | [frame] => some (.finished frame.close rest)
  | frame :: outer :: more =>
    some (.inside { progress with stack := outer.addChild frame.close :: more } rest)

def startElement? (definitions : Definitions) (progress : Progress) (cs : List Char) :
    Option Reading := do
  let (tag, rest) ← tag? cs
  let (attributes, room) ← resolveAll? definitions tag.name progress.room tag.attributes
  let scope := (progress.stack.head?.map (·.scope)).getD []
  let frame ← frame? scope tag.name (attributes ++ unwritten definitions tag)
  let progress := ⟨frame :: progress.stack, room⟩
  if tag.empty then endElement progress rest else some (.inside progress rest)

/-- Reads the text of a name inside the elements that are open, where they stay open. -/
abbrev Insert := Definitions → Progress → List Char → Option Progress

/-- Takes in the text of a name, which must close all elements it opens. -/
def insertEntity? (insert : Insert) (definitions : Definitions) (progress : Progress)
    (name : List Char) : Option Progress :=
  match definitions.entity? name, progress.stack with
  | some (.text cs), frame :: outer => do
    let room ← spend? cs progress.room
    match ← insert (definitions.hide name) ⟨[frame], room⟩ cs with
    | ⟨[frame], room⟩ => some ⟨frame :: outer, room⟩
    | _ => none
  | _, _ => none

def step? (insert : Insert) (definitions : Definitions) (progress : Progress) :
    List Char → Option Reading
  | '<' :: '!' :: '-' :: '-' :: rest => (comment? rest).map (.inside progress ·)
  | '<' :: '!' :: '[' :: 'C' :: 'D' :: 'A' :: 'T' :: 'A' :: '[' :: rest => do
    let (body, rest) ← until? [']', ']', '>'] [] rest
    if body.all isAllowed then some (.inside (progress.addText body) rest) else none
  | '<' :: '?' :: rest => (instruction? rest).map (.inside progress ·)
  | '<' :: '/' :: rest => do
    let (name, rest) ← name? rest
    match skipSpace rest, progress.stack with
    | '>' :: rest, frame :: _ => if frame.name == name then endElement progress rest else none
    | _, _ => none
  | '<' :: rest => startElement? definitions progress rest
  | '&' :: rest => do
    match ← reference? rest with
    | (.character c, rest) => some (.inside (progress.addText [c]) rest)
    | (.entity name, rest) =>
      some (.inside (← insertEntity? insert definitions progress name) rest)
  | ']' :: ']' :: '>' :: _ => none
  | c :: rest => if isAllowed c then some (.inside (progress.addText [c]) rest) else none
  | [] => none

/-- Reads the content of the open elements up to the end of a text. -/
def readInside? (step : Progress → List Char → Option Reading) :
    Nat → Progress → List Char → Option Progress
  | _, progress, [] => some progress
  | 0, _, _ => none
  | fuel + 1, progress, cs =>
    match step progress cs with
    | some (.inside progress rest) => readInside? step fuel progress rest
    | _ => none

/-- Reads the text of a name, in which texts of other names may be. -/
def insert? : Nat → Insert
  | 0, _, _, _ => none
  | depth + 1, definitions, progress, cs =>
    readInside? (step? (insert? depth) definitions) (cs.length + 1) progress cs

def readRoot? (definitions : Definitions) : Nat → Reading → Option (Element × List Char)
  | _, .finished root rest => some (root, rest)
  | 0, .inside _ _ => none
  | fuel + 1, .inside progress rest => do
    readRoot? definitions fuel (← step? (insert? definitions.depth) definitions progress rest)

/-- What the declaration in front of a document may say, in this order. -/
def fitsDeclaration : List (List Char × List Char) → List String → Bool
  | [], _ => true
  | _, [] => false
  | (name, value) :: more, expected :: others =>
    let isPlain (c : Char) := c.isAlphanum || c == '_' || c == '.' || c == '-'
    if name == expected.toList then
      (match expected with
        | "version" => value.all isPlain
        | "encoding" => value.head?.any Char.isAlpha && value.all isPlain
        | _ => value == "yes".toList || value == "no".toList) && fitsDeclaration more others
    else expected != "version" && fitsDeclaration ((name, value) :: more) others

/-- The declaration in front of a document after its opening: whether the document stands alone, and
what follows. -/
def declaration? (cs : List Char) : Option (Bool × List Char) := do
  let (body, rest) ← until? ['?', '>'] [] cs
  let (tag, after) ← attributes? [] (body.length + 1) [] (body ++ ['>'])
  if after.isEmpty && !tag.empty && !tag.attributes.isEmpty &&
      fitsDeclaration tag.attributes ["version", "encoding", "standalone"] then
    some (tag.attributes.lookup "standalone".toList == some "yes".toList, rest)
  else none

/-- The root of a document that has nothing but comments and instructions around it. -/
def parse? (s : String) : Option Element := do
  let cs := unifyLines s.toList
  let (standalone, cs) ← match cs with
    | '<' :: '?' :: 'x' :: 'm' :: 'l' :: c :: rest =>
      if isSpace c then declaration? (c :: rest) else some (false, cs)
    | _ => some (false, cs)
  let (definitions, cs) ← match skipMisc cs.length cs with
    | '<' :: '!' :: 'D' :: 'O' :: 'C' :: 'T' :: 'Y' :: 'P' :: 'E' :: rest =>
      documentType? standalone rest
    | rest => some ({}, rest)
  match skipMisc cs.length cs with
  | '<' :: rest =>
    let start ← startElement? definitions ⟨[], roomFor s.utf8ByteSize⟩ rest
    let (root, rest) ← readRoot? definitions (rest.length + 1) start
    if (skipMisc rest.length rest).isEmpty then some root else none
  | _ => none

end ObjectStore.Document.Xml
