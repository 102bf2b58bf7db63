/-!
Streams: content with a position, of which some can be measured, told and sought and others not.
-/

namespace ObjectStore

namespace Stream

inductive Kind where
  | memory
  /-- A file, whose size can be asked for without moving. -/
  | file
  | readOnly
  | bare
  | untellable
  /-- Tells its position and refuses to move. -/
  | unseekable
deriving DecidableEq

end Stream

/-- The position may lie beyond the end of the content. -/
structure Stream where
  kind : Stream.Kind
  content : List UInt8
  position : Nat

namespace Stream

def canRead (s : Stream) : Bool :=
  s.kind != .bare

def tell? (s : Stream) : Option Nat :=
  match s.kind with
  | .memory | .file | .unseekable => some s.position
  | .readOnly | .bare | .untellable => none

def canSeek (s : Stream) : Bool :=
  s.kind == .memory || s.kind == .file

/-- What is left between the position and the end. -/
def rest (s : Stream) : List UInt8 :=
  s.content.drop s.position

/-- Reads up to `count` bytes, or all of the rest if the count is negative. -/
def read (s : Stream) (count : Int) : List UInt8 × Stream :=
  let taken := if count < 0 then s.rest else s.rest.take count.toNat
  (taken, { s with position := s.position + taken.length })

def seek (s : Stream) (position : Nat) : Stream :=
  { s with position }

def seekEnd (s : Stream) : Stream :=
  s.seek s.content.length

/-- The size of the file behind a stream, wherever the stream stands. -/
def fileSize? (s : Stream) : Option Nat :=
  match s.kind with
  | .file => some s.content.length
  | _ => none

/-- How much lies between the position and the end, and the stream after it was measured. A file is
asked for its size. Another stream is moved to its end and back, and the difference of the positions
it tells is negative if it stood beyond the end. -/
def measure (s : Stream) : Option Int × Stream :=
  match s.fileSize? with
  | some size => (some size, s)
  | none =>
    match s.tell?, s.canSeek with
    | some start, true =>
      let ended := s.seekEnd
      (ended.tell?.map fun (last : Nat) => (last : Int) - start, ended.seek start)
    | _, _ => (none, s)

end Stream

end ObjectStore
