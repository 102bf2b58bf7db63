import ObjectStore.Location.Basic
import ObjectStore.Value.Basic

/-!
Faults: what went wrong, of which kind it is and what it is said to be. A fault that reports on an
operation carries a status, an error code and details, and possibly the fault behind it.
-/

namespace ObjectStore

namespace Fault

inductive Kind where
  | value
  | type
  | key
  | index
  | attribute
  | overflow
  | runtime
  | nesting
  /-- A decimal operation has no result of the precision that is kept. -/
  | undefined
  | unsupported
  | system (name : String)
  | signing
  | storage
  | timedOut
  | cancelled
  | integrity
deriving DecidableEq

def Kind.name : Kind → String
  | .value => "ValueError"
  | .type => "TypeError"
  | .key => "KeyError"
  | .index => "IndexError"
  | .attribute => "AttributeError"
  | .overflow => "OverflowError"
  | .runtime => "RuntimeError"
  | .nesting => "RecursionError"
  | .undefined => "InvalidOperation"
  | .unsupported => "UnsupportedOperation"
  | .system name => name
  | .signing => "AzureSigningError"
  | .storage => "AzureStorageError"
  | .timedOut => "AzureStorageTimeoutError"
  | .cancelled => "AzureStorageCancelledError"
  | .integrity => "AzureIntegrityError"

def Kind.isStorage : Kind → Bool
  | .storage | .timedOut | .cancelled | .integrity => true
  | _ => false

/-- Kinds that blame the arguments: the request could not be prepared from them. -/
def Kind.isArgument : Kind → Bool
  | .value | .type | .unsupported | .signing => true
  | _ => false

/-- Kinds that deny that something written stands for a value, or for one that can be represented. -/
def Kind.isSenseless : Kind → Bool
  | .value | .unsupported | .overflow => true
  | _ => false

structure Report where
  message : Value
  /-- Nothing if there is none; a caller may give any value. -/
  status : Value
  code : Value
  details : Value

/-- The status of failures that were found without the service. -/
def clientStatus : Int := 306

end Fault

inductive Cause where
  | absent (name : String)
  | negative (name : String)
  | notBytes (name : String)
  | notReadable (name : String)
  | notContent (name : String)
  | unmeasurable (name : String)
  | undigestible
  | invalidKey
  | noEndpoint
  | noAccountName
  | missingAddress (location : Location)
  | unknownLocation (name : String)
  | unknownMode (name : String)
  | primaryOnly
  | secondaryOnly
  | digestWithoutRange
  | digestRangeTooLarge
  | invertedRange
  | backoffBounds (most least : String)
  | unseekableSource
  | uncountedSource
  | sourceEnded (found : Nat) (wanted : Int)
  | unconfigured (location : String)
  | negativePause
  | noAttribute (name : String)
  | service (report : Fault.Report)
  | timedOut
  | cancelled
  | digestMissing
  | digestMismatch (expected computed : String)
  | lengthMismatch (expected received : Int)
  /-- Another fault ended an attempt, or the signing of one. -/
  | wrapped (text : String)
  | unsigned (text : String)
  /-- A fault made by a caller or by another party, with what it was made from. -/
  | given (kind : Fault.Kind) (arguments : List Value)
  | reported (kind : Fault.Kind) (report : Fault.Report)
  /-- A value did not fit the operation it was used in. -/
  | misfit (kind : Fault.Kind) (text : String)

structure Fault where
  cause : Cause
  inner : Option Fault := none

namespace Cause

def kind : Cause → Fault.Kind
  | absent _ | negative _ | unmeasurable _ | undigestible | invalidKey | noEndpoint
  | missingAddress _ | unknownLocation _ | unknownMode _ | primaryOnly | secondaryOnly
  | digestWithoutRange | digestRangeTooLarge | invertedRange | backoffBounds .. | unseekableSource
  | uncountedSource | sourceEnded .. | unconfigured _ | negativePause => .value
  | notBytes _ | notReadable _ | notContent _ => .type
  | noAttribute _ => .attribute
  | noAccountName | unsigned _ => .signing
  | service _ | wrapped _ => .storage
  | timedOut => .timedOut
  | cancelled => .cancelled
  | digestMissing | digestMismatch .. | lengthMismatch .. => .integrity
  | given kind _ | reported kind _ | misfit kind _ => kind

/-- The places a system fault names: a third argument, and a fifth beside it. A blocked operation
counts with a number there instead. -/
def places (name : String) (arguments : List Value) : List Value :=
  let isCount (v : Value) := name == "BlockingIOError" && v.isInteger
  match arguments with
  | [_, _, place] | [_, _, place, _] | [_, _, place, _, .null] =>
    if place.isNull || isCount place then [] else [place]
  | [_, _, place, _, other] => if place.isNull || isCount place then [] else [place, other]
  | _ => []

/-- What a system fault says if it has a number and a text. -/
def systemMessage (name : String) (number text : Value) (arguments : List Value) : String :=
  let start := "[Errno " ++ number.toText ++ "] " ++ text.toText
  match places name arguments with
  | [] => start
  | named => start ++ ": " ++ " -> ".intercalate (named.map Value.quoted)

/-- What a list of arguments says about a fault made from them. -/
def givenMessage (kind : Fault.Kind) (arguments : List Value) : String :=
  match kind, arguments with
  | _, [] => ""
  | .key, [one] => one.quoted
  | _, [one] => one.toText
  | .system name, number :: text :: rest =>
    if rest.length ≤ 3 then systemMessage name number text arguments
    else (Value.tuple arguments).quoted
  | _, several => (Value.tuple several).quoted

def message : Cause → String
  | absent name => name ++ " should not be None."
  | negative name => name ++ " should not be negative."
  | notBytes name => name ++ " should be of type bytes."
  | notReadable name =>
    name ++ " should be a file-like/io.IOBase type stream object with a read method."
  | notContent name =>
    name ++ " should be of type bytes or a readable file-like/io.IOBase stream object."
  | unmeasurable name => name ++ " should be a seekable file-like/io.IOBase type stream object."
  | undigestible => "Data should be of type bytes or a readable file-like/io.IOBase stream object."
  | invalidKey => "The account key is not a valid base64 encoded string."
  | noEndpoint =>
    "You need to provide an account name and either an account_key or sas_token when creating " ++
      "a storage service."
  | noAccountName => "An account name is required to sign requests with a shared key."
  | missingAddress .primary =>
    "The primary URI is not specified for the requested location mode."
  | missingAddress .secondary =>
    "The secondary URI is not specified for the requested location mode."
  | unknownLocation name => "Unknown storage location: " ++ name
  | unknownMode name => "Unknown location mode: " ++ name
  | primaryOnly => "This operation can only be executed against the primary storage location."
  | secondaryOnly => "This operation can only be executed against the secondary storage location."
  | digestWithoutRange =>
    "Both end_range and start_range need to be specified for getting content MD5."
  | digestRangeTooLarge => "Getting content MD5 for a range greater than 4MB is not supported."
  | invertedRange => "end_range should not be less than start_range."
  | backoffBounds most least => "max backoff " ++ most ++ " less than min backoff " ++ least
  | unseekableSource => "stream should be seekable to be uploaded."
  | uncountedSource => "count should be specified for a stream of unknown length."
  | sourceEnded found wanted =>
    "stream ended after " ++ toString found ++ " of " ++ toString wanted ++ " bytes."
  | unconfigured location => "No endpoint is configured for the " ++ location ++ " location."
  | negativePause => "sleep length must be non-negative"
  | noAttribute name => name
  | service report | reported _ report => report.message.toText
  | timedOut =>
    "The client could not finish the operation within specified maximum execution timeout."
  | cancelled => "The operation was cancelled by the caller."
  | digestMissing =>
    "ContentMD5 header is missing in the response although transactional MD5 validation was " ++
      "requested."
  | digestMismatch expected computed =>
    "MD5 mismatch. Expected value is '" ++ expected ++ "', computed value is '" ++ computed ++ "'."
  | lengthMismatch expected received =>
    "An incorrect number of bytes was read from the connection. Expected " ++ toString expected ++
      " bytes, received " ++ toString received ++ " bytes."
  | wrapped text | unsigned text | misfit _ text => text
  | given kind arguments => givenMessage kind arguments

/-- What the fault was made from, without the places that a system fault names. -/
def arguments : Cause → List Value
  | given (.system name) arguments =>
    if (places name arguments).isEmpty then arguments else arguments.take 2
  | given _ arguments => arguments
  | service report | reported _ report => [report.message]
  | cause => [.text cause.message]

def clientReport (cause : Cause) (code : String) : Fault.Report :=
  ⟨.text cause.message, .int Fault.clientStatus, .text code, .dict []⟩

def report? : Cause → Option Fault.Report
  | service report | reported _ report => some report
  | timedOut => some (clientReport timedOut "OperationTimedOut")
  | cancelled => some (clientReport cancelled "OperationCancelled")
  | digestMissing => some (clientReport digestMissing "MissingContentMD5Header")
  | digestMismatch expected computed =>
    some (clientReport (digestMismatch expected computed) "InvalidMd5")
  | lengthMismatch expected received =>
    some (clientReport (lengthMismatch expected received) "ContentLengthMismatch")
  | wrapped text => some ⟨.text text, .null, .null, .dict []⟩
  | _ => none

/-- The text of the cause is meant for readers; texts about misfits are shown only in other texts. -/
def isWorded : Cause → Bool
  | misfit .. => false
  | _ => true

end Cause

namespace Fault

instance : Coe Cause Fault := ⟨fun cause => ⟨cause, none⟩⟩

def misfit (kind : Kind) (text : String) : Fault :=
  Cause.misfit kind text

def kind (fault : Fault) : Kind :=
  fault.cause.kind

def message (fault : Fault) : String :=
  fault.cause.message

def report? (fault : Fault) : Option Report :=
  fault.cause.report?

/-- The status; faults that report nothing have none. -/
def status (fault : Fault) : Value :=
  match fault.report? with
  | some report => report.status
  | none => .null

/-- The error code; faults that report nothing have none. -/
def code (fault : Fault) : Value :=
  match fault.report? with
  | some report => report.code
  | none => .null

/-- The kind of a fault and what it was made from. -/
def quoted (fault : Fault) : String :=
  let inside := match fault.cause.arguments with
    | [one] => "(" ++ one.quoted ++ ")"
    | several => (Value.tuple several).quoted
  fault.kind.name ++ inside

/-- The kind of a fault and the first thing it was made from. -/
def headline (fault : Fault) : String :=
  fault.kind.name ++ ": " ++
    match fault.cause.arguments with
    | first :: _ => first.toText
    | [] => ""

/-- The fault of an attempt that another fault ended. -/
def wrap (fault : Fault) : Fault :=
  ⟨.wrapped fault.headline, some fault⟩

/-- The fault of a request that could not be signed because of another fault. -/
def wrapUnsigned (fault : Fault) : Fault :=
  ⟨.unsigned fault.headline, some fault⟩

end Fault

end ObjectStore
