import ObjectStore.Text.Split
import ObjectStore.Value.Basic

/-!
Log entries. Each is opened by the identity of the request it belongs to and kept on one line as far
as its texts, lists and dictionaries go.
-/

namespace ObjectStore.Log

def debug : Int := 10
def info : Int := 20
def warning : Int := 30
def error : Int := 40

def levelName (level : Int) : String :=
  match level with
  | 0 => "NOTSET"
  | 10 => "DEBUG"
  | 20 => "INFO"
  | 30 => "WARNING"
  | 40 => "ERROR"
  | 50 => "CRITICAL"
  | n => "Level " ++ toString n

def levelOf (kind : String) : Int :=
  match kind with
  | "debug" => debug
  | "info" => info
  | "warning" => warning
  | "error" => error
  | _ => 0

inductive Source where
  | signing
  | engine
  | transfer
  | other (name : String)
deriving DecidableEq

def Source.name : Source → String
  | signing => "storagecore._auth"
  | engine => "storagecore._executor"
  | transfer => "storagecore._transfer"
  | other name => name

/-- What is to be said, if anybody listens. -/
structure Line where
  level : Int
  source : Source
  text : String

structure Record where
  level : Int
  source : Source
  message : String

/-- Who listens: the level of the log, and the level and identity of the operation. -/
structure Audience where
  threshold : Option Int
  operationThreshold : Option Int
  /-- None where a line belongs to no operation. -/
  requestId : Option String

/-- A log without a level of its own keeps warnings and what is worse. -/
def effective (threshold : Int) : Int :=
  if threshold = 0 then warning else threshold

/-- Entries without a positive level are never kept. -/
def Audience.hears (audience : Audience) (level : Int) : Bool :=
  0 < level && audience.threshold.any (effective · ≤ level) &&
    audience.operationThreshold.all (· ≤ level)

def Audience.opening (audience : Audience) : String :=
  "Client-Request-ID=" ++ audience.requestId.getD "*" ++ ":"

/-- The entry a line makes, unless nobody hears it. -/
def Audience.record? (audience : Audience) (line : Line) : Option Record :=
  if audience.hears line.level then
    some ⟨line.level, line.source, audience.opening ++ " " ++ line.text⟩
  else none

/-- What is put into a pattern: a value, or a text of something else that stays as it is. -/
inductive Argument where
  | value (v : Value)
  | plain (s : String)

instance : Coe String Argument := ⟨.plain⟩

instance : Coe Value Argument := ⟨.value⟩

/-- Texts, lists and dictionaries are kept on one line. -/
def onOneLine : Value → Value
  | .text s => .text (Text.oneLine s)
  | .list items => .text (Text.oneLine (Value.list items).quoted)
  | .dict entries => .text (Text.oneLine (Value.dict entries).quoted)
  | value => value

def Argument.text : Argument → String
  | value v => (onOneLine v).toText
  | plain s => s

def wholeText? : Number → Option String
  | .int n => some (toString n)
  | .float x => (Number.truncate? x).map toString

/-- What an argument becomes in a place of a kind: its text, its quoted form or a whole number. -/
def Argument.placed? (argument : Argument) (kind : Char) : Option String :=
  match kind, argument with
  | 's', _ => some argument.text
  | 'r', value v => some (onOneLine v).quoted
  | 'd', value v | 'i', value v => v.number?.bind wholeText?
  | _, _ => none

/-- Puts arguments in the places of a pattern that are marked by a percent sign and a letter. Two
percent signs stand for one. -/
def fill : List Char → List Argument → List Char
  | '%' :: '%' :: rest, arguments => '%' :: fill rest arguments
  | '%' :: kind :: rest, argument :: more =>
    match argument.placed? kind with
    | some text => text.toList ++ fill rest more
    | none => '%' :: fill (kind :: rest) (argument :: more)
  | c :: rest, arguments => c :: fill rest arguments
  | [], _ => []

def format (pattern : String) (arguments : List Argument) : String :=
  String.ofList (fill pattern.toList arguments)

def line (level : Int) (source : Source) (pattern : String) (arguments : List Argument) : Line :=
  ⟨level, source, format pattern arguments⟩

end ObjectStore.Log
