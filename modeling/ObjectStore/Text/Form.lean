import ObjectStore.Text.Percent
import ObjectStore.Text.Split

/-!
Query strings as lists of named values, read with their escapes.
-/

namespace ObjectStore.Text.Form

/-- A plus sign stands for a space. -/
def decodePart (cs : List Char) : String :=
  String.ofList (Percent.decodeChars (cs.map fun c => if c = '+' then ' ' else c))

def decodePair (cs : List Char) : String × String :=
  let (name, value) := cut '=' cs
  (decodePart name, decodePart (value.getD []))

/-- Empty pieces hold no pair; a piece without a sign of equality has an empty value. -/
def decode (s : String) : List (String × String) :=
  ((pieces '&' s.toList).filter (!·.isEmpty)).map decodePair

end ObjectStore.Text.Form
