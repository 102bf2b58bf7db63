import ObjectStore.Rehearsal.World
import ObjectStore.Signing.Authentication

/-!
Parts of an operation on their own: signing a request again and again, one request over a
connection, and a response that is taken in pieces first.
-/

namespace ObjectStore.Rehearsal

/-- Signs a request a number of times, each time what the time before made of it. -/
def signTimes (authentication : Authentication) :
    Nat → Request → List Log.Line × Except Fault Unit × Request
  | 0, request => ([], .ok (), request)
  | n + 1, request =>
    match authentication.sign request with
    | (lines, .ok signed) =>
      let (more, result) := signTimes authentication n signed
      (lines ++ more, result)
    | (lines, .error fault) => (lines, .error fault, request)

def exchange (connection : Connection Number) (request : Request) (timeout : Timeout Number)
    (streamed : Bool) (world : World) : Except Fault Response × Option (Outgoing Number) :=
  match connection.outgoing request timeout streamed with
  | .error fault => (.error fault, none)
  | .ok outgoing =>
    ((World.send outgoing world).1.bind fun reply => Connection.response reply streamed,
      some outgoing)

/-- The lengths of the pieces of a response, and what is left to read. -/
def takeLengths (size : Int) (response : Response) : Except Fault (List Nat) × Response :=
  match response.pieces size with
  | (pieces, none, rest) => (.ok (pieces.map List.length), rest)
  | (_, some fault, rest) => (.error fault, rest)

/-- The names of the headers that sessions start with. -/
def standardHeaders : List String := ["Accept", "Accept-Encoding", "Connection"]

/-- The headers of a session that a connection has taken over. -/
def headersLeft (names : List String) : List String :=
  (names.filter fun name => !Connection.unwanted.contains name).mergeSort fun a b => a ≤ b

end ObjectStore.Rehearsal
