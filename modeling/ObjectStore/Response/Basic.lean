import ObjectStore.Fields
import ObjectStore.Response.Incoming

/-!
Responses. The body is there, or it is still to be received.
-/

namespace ObjectStore

structure Response where
  status : Int
  message : Value
  /-- Named in lower case, metadata apart. -/
  headers : Fields Value
  body : Value := .null
  incoming : Option Incoming := none

namespace Response

/-- Receives the body unless it is there already. -/
def readBody (response : Response) : Except Fault Value × Response :=
  match response.body, response.incoming with
  | .null, some incoming =>
    match incoming.receive with
    | (.ok whole, incoming) =>
      let body := Value.ofOption .bytes whole
      (.ok body, { response with body, incoming := some incoming })
    | (.error fault, incoming) => (.error fault, { response with incoming := some incoming })
  | body, _ => (.ok body, response)

/-- The items of a value from one place on, up to so many of them, as a value of the same kind. -/
def part (body : Value) (start size : Nat) : Except Fault Value :=
  let cut {α : Type} (items : List α) := (items.drop start).take size
  match body with
  | .text s => .ok (.text (String.ofList (cut s.toList)))
  | .bytes content => .ok (.bytes (cut content))
  | .byteArray content => .ok (.byteArray (cut content))
  | .list items => .ok (.list (cut items))
  | .tuple items => .ok (.tuple (cut items))
  | _ => .error (.misfit .type "unhashable type: 'slice'")

def noStep : Fault :=
  .misfit .value "range() arg 3 must not be zero"

def unmeasured (body : Value) : Fault :=
  .misfit .type ("object of type '" ++ body.fullTypeName ++ "' has no len()")

/-- The parts of a body that is there. One without length is refused, and a negative size makes no
parts. -/
def parts (body : Value) (size : Int) : Except Fault (List Value) :=
  if !body.truthy then .ok []
  else match body.count? with
  | none => .error (unmeasured body)
  | some count =>
    if size = 0 then .error noStep
    else if size < 0 then .ok []
    else (slices size.toNat (List.range count)).mapM fun places =>
      part body (places.headD 0) size.toNat

/-- Takes the body in pieces of a size: what came, the fault that ended it, and what is left. What is
received is taken as a whole if the size is negative. -/
def pieces (size : Int) (response : Response) : List (List UInt8) × Option Fault × Response :=
  match response.incoming with
  | some incoming =>
    let (pieces, fault, incoming) := incoming.take size
    (pieces.filter (!·.isEmpty), fault, { response with incoming := some incoming })
  | none =>
    match response.body with
    | .bytes content =>
      if content.isEmpty || size < 0 then ([], none, response)
      else if size = 0 then ([], some noStep, response)
      else (slices size.toNat content, none, response)
    | _ => ([], none, response)

end Response

end ObjectStore
