import ObjectStore.Time.Token

/-!
The words of written dates, in any case of their letters.
-/

namespace ObjectStore.Time.Words

def dayWords : List (List String) :=
  [["mon", "monday"], ["tue", "tuesday"], ["wed", "wednesday"], ["thu", "thursday"],
   ["fri", "friday"], ["sat", "saturday"], ["sun", "sunday"]]

def monthWords : List (List String) :=
  [["jan", "january"], ["feb", "february"], ["mar", "march"], ["apr", "april"], ["may"],
   ["jun", "june"], ["jul", "july"], ["aug", "august"], ["sep", "sept", "september"],
   ["oct", "october"], ["nov", "november"], ["dec", "december"]]

def unitWords : List (List String) :=
  [["h", "hour", "hours"], ["m", "minute", "minutes"], ["s", "second", "seconds"]]

/-- The first and the second half of the day. -/
def halfWords : List (List String) :=
  [["am", "a"], ["pm", "p"]]

/-- Words and marks that say nothing. -/
def fillers : List String :=
  [" ", ".", ",", ";", "-", "/", "'", "at", "on", "and", "ad", "m", "t", "of", "st", "nd", "rd", "th"]

def lower (token : Token) : String :=
  String.ofList (token.map Char.toLower)

def position? (words : List (List String)) (token : Token) : Option Nat :=
  words.findIdx? (·.contains (lower token))

def weekday? : Token → Option Nat := position? dayWords

def month? (token : Token) : Option Nat :=
  (position? monthWords token).map (· + 1)

def unit? : Token → Option Nat := position? unitWords

def half? : Token → Option Nat := position? halfWords

def isFiller (token : Token) : Bool :=
  fillers.contains (lower token)

/-- Universal time in any case of the letters. -/
def isUniversal (token : Token) : Bool :=
  ["utc", "gmt", "z"].contains (lower token)

/-- What may name a zone: up to five capitals, or the small letter of universal time. -/
def mayNameZone (token : Token) : Bool :=
  token.length ≤ 5 && (token.all Char.isUpper || token == ['z'])

/-- Words that stand for numbers without end and for no number at all. -/
def isEndless (token : Token) : Bool :=
  ["nan", "inf", "infinity"].contains (lower token)

end ObjectStore.Time.Words
