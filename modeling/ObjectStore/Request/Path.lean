import ObjectStore.Text.Blank
import ObjectStore.Text.Percent
import ObjectStore.Text.Split
import ObjectStore.Value.Basic

/-!
Paths of resources: joining their segments, and the form in which they are sent.
-/

namespace ObjectStore.Path

/-- Joins segments under a leading slash. Segments that are not given are left out, and the slashes
at the ends of a segment do not count. -/
def ofSegments (segments : List Value) : String :=
  let texts := (segments.filter Value.truthy).map fun segment =>
    Text.trim (· == '/') segment.toText.toList
  String.ofList ('/' :: Text.join ['/'] texts)

def ofText (path : String) : String :=
  ofSegments [.text path]

/-- The characters of a path that are sent as they are. -/
def safe : List Char :=
  ['/', '(', ')', '$', '=', '\x27', ',', '~']

def encode (path : String) : String :=
  Text.Percent.encode safe path

end ObjectStore.Path
