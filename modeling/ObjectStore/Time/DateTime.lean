import ObjectStore.Time.Calendar

/-!
Points in time as a local date and time of day with an optional offset from universal time, and the
texts they are written as.
-/

namespace ObjectStore.Time

structure DateTime where
  date : Date
  hour : Nat
  minute : Nat
  second : Nat
  micro : Nat
  /-- Millionths of a second east of universal time; none for a time whose place is unknown. -/
  offset : Option Int
deriving DecidableEq

/-- Minutes in millionths of a second. -/
def ofMinutes (minutes : Int) : Int :=
  minutes * 60000000

def padded (width n : Nat) : String :=
  let digits := Nat.toDigits 10 n
  String.ofList (List.replicate (width - digits.length) '0' ++ digits)

/-- Whole seconds since the start of 1970, taking the fields as they are. -/
def DateTime.localSeconds (t : DateTime) : Int :=
  t.date.toDays * 86400 + (t.hour * 3600 + t.minute * 60 + t.second : Nat)

def DateTime.ofSeconds (seconds : Int) (micro : Nat) (offset : Option Int) : DateTime :=
  let days := Int.fdiv seconds 86400
  let rest := (seconds - days * 86400).toNat
  ⟨Date.ofDays days, rest / 3600, rest / 60 % 60, rest % 60, micro, offset⟩

/-- Millionths of a second since the start of 1970. A time without offset is taken to be universal. -/
def DateTime.instant (t : DateTime) : Int :=
  t.localSeconds * 1000000 + t.micro - t.offset.getD 0

def DateTime.ofInstant (instant : Int) : DateTime :=
  let seconds := Int.fdiv instant 1000000
  ofSeconds seconds (instant - seconds * 1000000).toNat (some 0)

/-- The same instant in universal time, within the years one to 9999. A time without offset is
taken to be universal already. -/
def DateTime.toUniversal? (t : DateTime) : Option DateTime :=
  match t.offset with
  | none => some t
  | some _ =>
    let u := ofInstant t.instant
    if 1 ≤ u.date.year && u.date.year ≤ 9999 then some u else none

def DateTime.clockText (t : DateTime) : String :=
  padded 2 t.hour ++ ":" ++ padded 2 t.minute ++ ":" ++ padded 2 t.second

/-- The fields in the form of token times: `2018-01-01T00:00:00Z`. The offset plays no part. -/
def DateTime.tokenText (t : DateTime) : String :=
  toString t.date.year ++ "-" ++ padded 2 t.date.month ++ "-" ++ padded 2 t.date.day ++
    "T" ++ t.clockText ++ "Z"

/-- The fields in the form of header times: `Mon, 01 Jan 2018 00:00:00 GMT`. -/
def DateTime.headerText (t : DateTime) : String :=
  t.date.dayName ++ ", " ++ padded 2 t.date.day ++ " " ++ t.date.monthName ++ " " ++
    toString t.date.year ++ " " ++ t.clockText ++ " GMT"

def Date.text (d : Date) : String :=
  padded 4 d.year.toNat ++ "-" ++ padded 2 d.month ++ "-" ++ padded 2 d.day

/-- Millionths after a mark, unless there are none. -/
def microText (micro : Nat) : String :=
  if micro = 0 then "" else "." ++ padded 6 micro

/-- Hours and minutes, and seconds if there are any. -/
def offsetText (offset : Int) : String :=
  let seconds := offset.natAbs / 1000000
  let micro := offset.natAbs % 1000000
  (if offset < 0 then "-" else "+") ++ padded 2 (seconds / 3600) ++ ":" ++
    padded 2 (seconds / 60 % 60) ++
    (if seconds % 60 = 0 && micro = 0 then "" else ":" ++ padded 2 (seconds % 60) ++ microText micro)

/-- All fields, `mark` standing between date and time of day: `2018-01-01T00:00:00+00:00`. -/
def DateTime.fullText (mark : String) (t : DateTime) : String :=
  t.date.text ++ mark ++ t.clockText ++ microText t.micro ++
    (match t.offset with
      | some offset => offsetText offset
      | none => "")

def commaJoin (numbers : List Int) : String :=
  ", ".intercalate (numbers.map toString)

def Date.quoted (d : Date) : String :=
  "datetime.date(" ++ commaJoin [d.year, d.month, d.day] ++ ")"

/-- A span of time by its days, of which only what is negative is less than none, its seconds and their
millionths. -/
def quotedSpan (span : Int) : String :=
  let seconds := Int.fdiv span 1000000
  let days := Int.fdiv seconds 86400
  let parts := [("days", days), ("seconds", seconds - days * 86400),
    ("microseconds", span - seconds * 1000000)].filter fun part => part.2 != 0
  "datetime.timedelta(" ++
    ", ".intercalate (parts.map fun part => part.1 ++ "=" ++ toString part.2) ++ ")"

def quotedOffset (offset : Int) : String :=
  if offset = 0 then "datetime.timezone.utc"
  else "datetime.timezone(" ++ quotedSpan offset ++ ")"

/-- Seconds and millionths that end a description, unless they are zero. -/
def DateTime.fraction (t : DateTime) : List Int :=
  if t.micro ≠ 0 then [t.second, t.micro] else if t.second ≠ 0 then [t.second] else []

def DateTime.quoted (t : DateTime) : String :=
  "datetime.datetime(" ++
    commaJoin ([t.date.year, t.date.month, t.date.day, t.hour, t.minute] ++ t.fraction) ++
    (match t.offset with
      | some offset => ", tzinfo=" ++ quotedOffset offset
      | none => "") ++ ")"

end ObjectStore.Time
