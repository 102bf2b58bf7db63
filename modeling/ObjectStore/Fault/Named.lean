import ObjectStore.Fault

/-!
Faults made from the name of their kind and a list of arguments.
-/

namespace ObjectStore.Fault

def systemKinds : List (String × List Int) :=
  [("BlockingIOError", [11, 114, 115]), ("BrokenPipeError", [32, 108]), ("ChildProcessError", [10]),
   ("ConnectionAbortedError", [103]), ("ConnectionRefusedError", [111]),
   ("ConnectionResetError", [104]), ("FileExistsError", [17]), ("FileNotFoundError", [2]),
   ("InterruptedError", [4]), ("IsADirectoryError", [21]), ("NotADirectoryError", [20]),
   ("PermissionError", [1, 13]), ("ProcessLookupError", [3]), ("TimeoutError", [110])]

def systemKind (number : Value) : String :=
  match number with
  | .bool true => "PermissionError"
  | .number (.int n) =>
    match systemKinds.find? fun entry => entry.2.contains n with
    | some entry => entry.1
    | none => "OSError"
  | _ => "OSError"

def argument (arguments : List Value) (i : Nat) : Value :=
  arguments.getD i .null

/-- The details of a report; none are as good as empty ones. -/
def asDetails (details : Value) : Value :=
  if details.truthy then details else .dict []

/-- The least and the greatest number of arguments a kind is made from. -/
def arity (name : String) : Nat × Option Nat :=
  match name with
  | "AzureStorageError" => (1, some 5)
  | "AzureIntegrityError" => (2, some 2)
  | "AzureStorageTimeoutError" => (0, some 1)
  | "AzureStorageCancelledError" => (0, some 0)
  | _ => (0, none)

/-- A blocked operation counts its items in the third argument, if that is a number. -/
def checkCount (arguments : List Value) : Except Fault Unit :=
  match arguments with
  | [_, _, count] | [_, _, count, _] | [_, _, count, _, _] =>
    match count with
    | .number (.float _) => .error (.misfit .type "'float' object cannot be interpreted as an integer")
    | .number (.int n) =>
      if -9223372036854775808 ≤ n && n < 9223372036854775808 then .ok ()
      else .error (.misfit .value "cannot fit 'int' into an index-sized integer")
    | _ => .ok ()
  | _ => .ok ()

/-- A system fault; one without a kind of its own takes the kind that its number stands for. -/
def system (name : String) (arguments : List Value) : Except Fault Fault := do
  let several := 2 ≤ arguments.length && arguments.length ≤ 5
  let name := if name == "OSError" && several then systemKind (argument arguments 0) else name
  if name == "BlockingIOError" then checkCount arguments
  return Cause.given (.system name) arguments

/-- The fault of a kind made from arguments, unless there are too few or too many of them. -/
def named (name : String) (arguments : List Value) : Except Fault Fault :=
  let first := argument arguments 0
  let code := argument arguments 1
  let (least, most) := arity name
  if arguments.length < least || most.any (· < arguments.length) then
    .error (.misfit .type "wrong number of arguments")
  else match name with
  | "ValueError" => .ok (Cause.given .value arguments)
  | "TypeError" => .ok (Cause.given .type arguments)
  | "KeyError" => .ok (Cause.given .key arguments)
  | "RuntimeError" => .ok (Cause.given .runtime arguments)
  | "AzureSigningError" => .ok (Cause.given .signing arguments)
  | "AzureStorageError" =>
    .ok (Cause.reported .storage ⟨first, code, argument arguments 2, asDetails (argument arguments 3)⟩)
  | "AzureIntegrityError" =>
    .ok (Cause.reported .integrity ⟨first, .int clientStatus, code, .dict []⟩)
  | "AzureStorageTimeoutError" => .ok Cause.timedOut
  | "AzureStorageCancelledError" => .ok Cause.cancelled
  | _ => system name arguments

/-- A fault of a kind made from what another says, the other being behind it. -/
def wrapAs (name : String) (fault : Fault) : Except Fault Fault := do
  return { (← named name [.text fault.headline]) with inner := some fault }

end ObjectStore.Fault
