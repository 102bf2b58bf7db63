/-!
Cutting text at a separator.
-/

namespace ObjectStore.Text

/-- What comes before the first separator and what comes after it, if there is one. -/
def cut (sep : Char) (cs : List Char) : List Char × Option (List Char) :=
  match cs.dropWhile (· != sep) with
  | [] => (cs, none)
  | _ :: rest => (cs.takeWhile (· != sep), some rest)

/-- The pieces between separators; a text without any is one piece. -/
def pieces (sep : Char) : List Char → List (List Char)
  | [] => [[]]
  | c :: rest =>
    if c = sep then [] :: pieces sep rest
    else match pieces sep rest with
      | piece :: more => (c :: piece) :: more
      | [] => [[c]]

def join (sep : List Char) (texts : List (List Char)) : List Char :=
  sep.intercalate texts

def occursIn (pattern : List Char) : List Char → Bool
  | [] => pattern.isEmpty
  | c :: rest => pattern.isPrefixOf (c :: rest) || occursIn pattern rest

def hasPrefix (start s : String) : Bool :=
  start.toList.isPrefixOf s.toList

def replaceChar (c : Char) (other : List Char) (s : String) : String :=
  String.ofList (s.toList.flatMap fun d => if d = c then other else [d])

def oneLine (s : String) : String :=
  String.ofList (s.toList.filter (· != '\n'))

end ObjectStore.Text
