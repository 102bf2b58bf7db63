import ObjectStore.Digest.Base64
import ObjectStore.Digest.Hmac
import ObjectStore.Digest.Md5
import ObjectStore.Fault
import ObjectStore.Text.Digit
import ObjectStore.Text.Utf8
import ObjectStore.Time.Reading

/-!
What values are turned into before they are sent or signed: numbers, times, keys and signatures.
-/

namespace ObjectStore.Value

/-- Why a text, whose quoted form is given, is no whole number. Of a long text only the start is
shown. -/
def misread (quoted : String) : Text.Misread → Fault
  | .malformed =>
    .misfit .value ("invalid literal for int() with base 10: " ++
      String.ofList (quoted.toList.take 200))
  | .tooLong digits =>
    .misfit .value ("Exceeds the limit (" ++ toString Text.maxDigits ++
      " digits) for integer string conversion: value has " ++ toString digits ++
      " digits; use sys.set_int_max_str_digits() to increase the limit")

/-- Bytes as characters; those beyond ASCII are no digits of any script. -/
def asciiText (content : List UInt8) : String :=
  String.ofList (content.map fun b => if b < 128 then Char.ofNat b.toNat else '?')

/-- The whole number a value stands for. Doubles lose their fraction, and texts are read. -/
def toInt (value : Value) : Except Fault Int :=
  match value with
  | bool b => .ok (if b then 1 else 0)
  | number (.int n) => .ok n
  | number (.float x) =>
    match Number.truncate? x with
    | some n => .ok n
    | none =>
      if x.isNaN then .error (.misfit .value "cannot convert float NaN to integer")
      else .error (.misfit .overflow "cannot convert float infinity to integer")
  | text s => (Text.readInt s).mapError (misread (Text.quote s))
  | bytes content | byteArray content =>
    (Text.readInt (asciiText content)).mapError (misread (Text.quoteBytes (content.take 200)))
  | _ =>
    .error (.misfit .type ("int() argument must be a string, a bytes-like object or a real number, " ++
      "not '" ++ value.fullTypeName ++ "'"))

def orNull (f : Value → Except Fault Value) (value : Value) : Except Fault Value :=
  if value.isNull then .ok null else f value

def toInt? (value : Value) : Except Fault Value :=
  value.orNull fun value => value.toInt.map int

def toIntText? (value : Value) : Except Fault Value :=
  value.orNull fun value => value.toInt.map fun n => text (toString n)

def toText? (value : Value) : Value :=
  if value.isNull then null else text value.toText

/-- A text, to which others can be joined. -/
def asText : Value → Except Fault String
  | text s => .ok s
  | value =>
    .error (.misfit .type
      ("can only concatenate str (not \"" ++ value.fullTypeName ++ "\") to str"))

def lacks (value : Value) (name : String) : Fault :=
  .misfit .attribute ("'" ++ value.fullTypeName ++ "' object has no attribute '" ++ name ++ "'")

def midnight (d : Time.Date) : Time.DateTime :=
  ⟨d, 0, 0, 0, 0, none⟩

def toTokenTime (value : Value) : Except Fault String :=
  match value with
  | moment t => .ok t.tokenText
  | date d => .ok (midnight d).tokenText
  | _ => .error (value.lacks "strftime")

/-- The text of a time in a header, in universal time. -/
def toHeaderTime? (value : Value) : Except Fault Value :=
  value.orNull fun value =>
    match value with
    | moment t =>
      match t.toUniversal? with
      | some u => .ok (text u.headerText)
      | none => .error (.misfit .overflow "date value out of range")
    | _ => .error (value.lacks "tzinfo")

def toBytes? : Value → Option (List UInt8)
  | text s => some (Text.Utf8.encode s.toList)
  | bytes content | byteArray content => some content
  | _ => none

def toBase64 (value : Value) : Except Fault String :=
  match value.toBytes? with
  | some content => .ok (Digest.Base64.encodeText content)
  | none =>
    .error (.misfit .type ("a bytes-like object is required, not '" ++ value.fullTypeName ++ "'"))

/-- The bytes of a key that is written in base 64. -/
def toKey (value : Value) : Except Fault (List UInt8) :=
  match value.toBytes? with
  | some content =>
    match Digest.Base64.decode? (asciiText content).toList with
    | some key => .ok key
    | none => .error Cause.invalidKey
  | none =>
    .error (.misfit .type
      ("argument should be a bytes-like object or ASCII string, not '" ++ value.typeName ++ "'"))

/-- The keyed digest of a message in base 64; no message is the empty one. -/
def signature (key : List UInt8) (message : Value) : Except Fault String :=
  match message with
  | null => .ok (Digest.Base64.encodeText (Digest.Hmac.sign key []))
  | _ =>
    match message.toBytes? with
    | some content => .ok (Digest.Base64.encodeText (Digest.Hmac.sign key content))
    | none => .error (.misfit .type "object supporting the buffer API required")

/-- Signs a message with a key that is written in base 64 or, if `encoded` is false, stands for
itself. -/
def sign (key message : Value) (encoded : Bool) : Except Fault String := do
  if encoded then
    signature (← key.toKey) message
  else
    match key.toBytes? with
    | some content => signature content message
    | none =>
      .error (.misfit .type
        ("key: expected bytes or bytearray, but got '" ++ key.typeName ++ "'"))

def md5Text (content : List UInt8) : String :=
  Digest.Base64.encodeText (Digest.Md5.hash content)

/-- The digest of bytes, or of what a stream holds from its position on. The stream is read to its
end and brought back, and one that cannot be brought back is refused. -/
def contentMd5 : Value → Except Fault String × Value
  | bytes content => (.ok (md5Text content), bytes content)
  | stream s =>
    if s.canRead then
      let (content, ended) := s.read (-1)
      if s.canSeek then (.ok (md5Text content), stream (ended.seek s.position))
      else (.error (Cause.unmeasurable "data"), stream ended)
    else (.error Cause.undigestible, stream s)
  | value => (.error Cause.undigestible, value)

/-- How many bytes or items a value has, or how many a stream has left, and the value after it was
measured. -/
def measure : Value → Option Int × Value
  | stream s =>
    let (length, measured) := s.measure
    (length, stream measured)
  | value => (value.count?.map Int.ofNat, value)

def length? (value : Value) : Option Int :=
  value.measure.1

def isReadable : Value → Bool
  | stream s => s.canRead
  | _ => false

def unreadDate : Time.Unread → Fault
  | .noDate => .misfit .value "Unknown string format"
  | .undefined => .misfit .undefined "[<class 'decimal.InvalidOperation'>]"

/-- The time that is written in a text, or in bytes. What a stream holds makes no date. -/
def readMoment (today : Time.Date) (value : Value) : Except Fault Time.DateTime :=
  let readText (s : String) := (Time.readDate today s).mapError unreadDate
  match value with
  | text s => readText s
  | bytes content | byteArray content =>
    match Text.Utf8.decode? content with
    | some cs => readText (String.ofList cs)
    | none => .error (unreadDate .noDate)
  | _ =>
    if value.isReadable then .error (unreadDate .noDate)
    else .error (.misfit .type ("Parser must be a string or character stream, not " ++ value.typeName))

/-- Content to send: bytes, or a stream they are read from. -/
def asContent (name : String) (value : Value) : Except Fault Value :=
  match value with
  | null => .ok (bytes [])
  | bytes _ => .ok value
  | _ => if value.isReadable then .ok value else .error (Cause.notContent name)

def requireGiven (name : String) (value : Value) : Except Fault Unit :=
  if value.isNull then .error (Cause.absent name) else .ok ()

def requireBytes (name : String) : Value → Except Fault Unit
  | bytes _ => .ok ()
  | _ => .error (Cause.notBytes name)

def requireReadable (name : String) (value : Value) : Except Fault Unit :=
  if value.isReadable then .ok () else .error (Cause.notReadable name)

/-- What cannot be compared with numbers is refused. -/
def unordered (value : Value) : Fault :=
  .misfit .type
    ("'<' not supported between instances of '" ++ value.fullTypeName ++ "' and 'int'")

/-- The number a value stands for; one that stands for none cannot be calculated with. -/
def toNumber (value : Value) : Except Fault Number :=
  match value.number? with
  | some n => .ok n
  | none => .error (.misfit .type ("'" ++ value.fullTypeName ++ "' is no number"))

def toSpan? (value : Value) : Except Fault (Option Number) :=
  match value, value.number? with
  | null, _ => .ok none
  | _, some n => .ok (some n)
  | _, none => .error value.unordered

/-- Negative numbers are refused; nothing is accepted. -/
def requireNotNegative (name : String) (value : Value) : Except Fault Unit :=
  match value with
  | null => .ok ()
  | _ =>
    match value.number? with
    | some n => if n.lt (.int 0) then .error (Cause.negative name) else .ok ()
    | none => .error value.unordered

end ObjectStore.Value
