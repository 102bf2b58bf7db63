import ObjectStore.Document.Xml.Entity
import ObjectStore.Document.Xml.Token

/-!
The declarations in front of the root. All of them must be well-formed; they count until a reference
to declarations that are kept elsewhere, unless the document stands alone.
-/

namespace ObjectStore.Document.Xml

structure Declared where
  standalone : Bool
  definitions : Definitions := {}
  counts : Bool := true

namespace Declared

/-- Some declarations are kept elsewhere. -/
def miss (declared : Declared) : Declared :=
  { declared with definitions := { declared.definitions with complete := declared.standalone } }

/-- A reference to declarations that are kept elsewhere. -/
def skip (declared : Declared) : Declared :=
  { declared.miss with counts := declared.standalone }

/-- Changes what is defined if declarations still count. -/
def update (declared : Declared) (f : Definitions → Option Definitions) : Option Declared :=
  if declared.counts then do
    let definitions ← f declared.definitions
    some { declared with definitions }
  else some declared

def isPublicChar (c : Char) : Bool :=
  c.isAlphanum || " \r\n-'()+,./:=?;!*#@$_%".toList.contains c

def outside? : List Token → Option (List Token)
  | .name word :: .literal first :: rest =>
    if word == "SYSTEM".toList then some rest
    else if word == "PUBLIC".toList && first.all isPublicChar then
      match rest with
      | .literal _ :: rest => some rest
      | _ => none
    else none
  | _ => none

def isQualified : Token → Bool
  | .name _ | .prefixed _ => true
  | _ => false

def qualified? : Token → Option (List Char)
  | .name cs | .prefixed cs => some cs
  | _ => none

/-- The declaration of a text with a name, or of declarations with a name, which are not used. -/
def addEntity? (declared : Declared) : List Token → Option Declared
  | [.percent, .name _, .literal value] =>
    declared.update fun definitions => do
      let _ ← entityText? (value.length + 1) value
      some definitions
  | .percent :: .name _ :: rest => do
    if (← outside? rest).isEmpty then some declared else none
  | [.name name, .literal value] =>
    declared.update fun definitions => do
      some (definitions.define name (.text (← entityText? (value.length + 1) value)))
  | .name name :: rest => do
    let defined := declared.update fun definitions => some (definitions.define name .unavailable)
    match ← outside? rest with
    | [] => defined
    | [.name word, .name _] => if word == "NDATA".toList then defined else none
    | _ => none
  | _ => none

def isNotation : List Token → Bool
  | [.name _, .name word, .literal identifier] =>
    word == "SYSTEM".toList || (word == "PUBLIC".toList && identifier.all isPublicChar)
  | [.name _, .name word, .literal identifier, .literal _] =>
    word == "PUBLIC".toList && identifier.all isPublicChar
  | _ => false

/-- The end of a group of names among text. -/
def endsMixed : List Token → Bool
  | [.closing none] => true
  | tokens => moreMixed tokens
where
  moreMixed : List Token → Bool
    | [.closing count] => count == some '*'
    | .bar :: item :: rest => isQualified item && moreMixed rest
    | _ => false

/-- The rest of a group of elements. For each group that is open it is known what stands between its
items, as soon as something does. -/
def endsGroup : List (Option Token) → Bool → List Token → Bool
  | [], itemNext, tokens => !itemNext && tokens.isEmpty
  | _, _, [] => false
  | between :: outer, true, token :: rest =>
    match token with
    | .opening => endsGroup (none :: between :: outer) true rest
    | .name _ | .prefixed _ | .counted _ => endsGroup (between :: outer) false rest
    | _ => false
  | between :: outer, false, token :: rest =>
    match token with
    | .closing _ => endsGroup outer false rest
    | .comma | .bar =>
      (between.isNone || between == some token) && endsGroup (some token :: outer) true rest
    | _ => false

def isContentModel : List Token → Bool
  | [.name word] => word == "EMPTY".toList || word == "ANY".toList
  | .opening :: .keyword word :: rest => word == "PCDATA".toList && endsMixed rest
  | .opening :: rest => endsGroup [none] true rest
  | _ => false

def isElement : List Token → Bool
  | element :: rest => isQualified element && isContentModel rest
  | [] => false

def alternatives? (fits : Token → Bool) : List Token → Option (List Token)
  | item :: .closing none :: rest => if fits item then some rest else none
  | item :: .bar :: rest => if fits item then alternatives? fits rest else none
  | _ => none

def isWord : Token → Bool
  | .name _ | .prefixed _ | .word _ => true
  | _ => false

def isPlainName : Token → Bool
  | .name _ => true
  | _ => false

/-- The types of attributes that are lists of words, or one word. -/
def wordTypes : List String :=
  ["ID", "IDREF", "IDREFS", "ENTITY", "ENTITIES", "NMTOKEN", "NMTOKENS"]

/-- The name of the type of an attribute, if it has one, and what follows the type. -/
def attributeType? : List Token → Option (String × List Token)
  | .opening :: rest => (alternatives? isWord rest).map ("", ·)
  | .name word :: rest =>
    let type := String.ofList word
    if type == "NOTATION" then
      match rest with
      | .opening :: rest => (alternatives? isPlainName rest).map (type, ·)
      | _ => none
    else if type == "CDATA" || wordTypes.contains type then some (type, rest)
    else none
  | _ => none

/-- What is written as the value of an attribute that is not given, if anything is. -/
def standardValue? : List Token → Option (Option (List Char) × List Token)
  | .literal value :: rest => some (some value, rest)
  | .keyword word :: rest =>
    if word == "IMPLIED".toList || word == "REQUIRED".toList then some (none, rest)
    else match rest with
      | .literal value :: rest => if word == "FIXED".toList then some (some value, rest) else none
      | _ => none
  | _ => none

def addAttribute? (declared : Declared) (element name : List Char) (type : String)
    (written : Option (List Char)) : Option Declared :=
  let tokenized := type != "CDATA"
  declared.update fun definitions => do
    let value ← match written with
      | some written => (attributeValue? definitions (roomFor 0) tokenized written).map (some ·.1)
      | none => some none
    some (definitions.addRule ⟨element, name, tokenized, value⟩ (type == "ID"))

def addAttributes? (element : List Char) : Nat → Declared → List Token → Option Declared
  | _, declared, [] => some declared
  | 0, _, _ => none
  | fuel + 1, declared, token :: rest => do
    let name ← qualified? token
    let (type, rest) ← attributeType? rest
    let (written, rest) ← standardValue? rest
    addAttributes? element fuel (← declared.addAttribute? element name type written) rest

def add? (declared : Declared) (kind : String) (tokens : List Token) : Option Declared :=
  match kind, tokens with
  | "ENTITY", _ => declared.addEntity? tokens
  | "ATTLIST", element :: rest => do
    addAttributes? (← qualified? element) rest.length declared rest
  | "ELEMENT", _ => if isElement tokens then some declared else none
  | "NOTATION", _ => if isNotation tokens then some declared else none
  | _, _ => none

def readAll? : Nat → Declared → List Char → Option (Declared × List Char)
  | 0, _, _ => none
  | fuel + 1, declared, cs =>
    match skipMisc cs.length cs with
    | ']' :: rest => some (declared, rest)
    | '%' :: rest => do
      let (_, rest) ← plainName? rest
      match rest with
      | ';' :: rest => readAll? fuel declared.skip rest
      | _ => none
    | '<' :: '!' :: rest => do
      let kind := rest.takeWhile Char.isUpper
      let rest := rest.drop kind.length
      let (tokens, last, after) ← Token.readAll? (rest.length + 1) rest
      if opensWithSpace rest && last = .finish then
        readAll? fuel (← declared.add? (String.ofList kind) tokens) after
      else none
    | _ => none

/-- The head of a document type: its name, and what is kept elsewhere. -/
def head? (standalone : Bool) (tokens : List Token) : Option Declared :=
  match tokens with
  | [] => none
  | name :: rest =>
    if !isQualified name then none
    else if rest.isEmpty then some { standalone }
    else do if (← outside? rest).isEmpty then some (Declared.miss { standalone }) else none

end Declared

/-- The document type after its opening, and what follows it. -/
def documentType? (standalone : Bool) (cs : List Char) : Option (Definitions × List Char) := do
  if !opensWithSpace cs then none
  let (tokens, last, rest) ← Token.readAll? (cs.length + 1) cs
  let declared ← Declared.head? standalone tokens
  if last = .finish then some (declared.definitions, rest)
  else
    let (declared, rest) ← declared.readAll? (rest.length + 1) rest
    match skipSpace rest with
    | '>' :: rest => some (declared.definitions, rest)
    | _ => none

end ObjectStore.Document.Xml
