import ObjectStore.Text.Hex
import ObjectStore.Text.Printable

/-!
Quoted forms of text and bytes, as they appear in messages and log entries. Single quotes are used
unless the content has single quotes and no double ones.
-/

namespace ObjectStore.Text

def singleQuote : Char := '\x27'
def doubleQuote : Char := '\x22'

def quoteFor (hasSingle hasDouble : Bool) : Char :=
  if hasSingle && !hasDouble then doubleQuote else singleQuote

/-- A code point that may not stand for itself, in the shortest escape that holds it. -/
def escapeCode (n : Nat) : List Char :=
  if n = 9 then ['\\', 't']
  else if n = 10 then ['\\', 'n']
  else if n = 13 then ['\\', 'r']
  else if n < 0x100 then '\\' :: 'x' :: hexDigits 2 n
  else if n < 0x10000 then '\\' :: 'u' :: hexDigits 4 n
  else '\\' :: 'U' :: hexDigits 8 n

def quoteChar (mark c : Char) : List Char :=
  if c = mark || c = '\\' then ['\\', c]
  else if isPrintable c then [c]
  else escapeCode c.toNat

def quote (s : String) : String :=
  let cs := s.toList
  let mark := quoteFor (cs.contains singleQuote) (cs.contains doubleQuote)
  String.ofList (mark :: cs.flatMap (quoteChar mark) ++ [mark])

/-- `marked` are the characters that are escaped besides the backslash. -/
def quoteByte (marked : List Char) (b : UInt8) : List Char :=
  let c := Char.ofNat b.toNat
  if marked.contains c || c = '\\' then ['\\', c]
  else if 32 ≤ b.toNat && b.toNat < 127 then [c]
  else escapeCode b.toNat

/-- Quoted bytes; `escaped` are marks that are escaped even where they do not enclose them. -/
def quoteBytesWith (escaped : List Char) (bs : List UInt8) : String :=
  let mark := quoteFor (bs.contains 0x27) (bs.contains 0x22)
  String.ofList ('b' :: mark :: bs.flatMap (quoteByte (mark :: escaped)) ++ [mark])

def quoteBytes (bs : List UInt8) : String :=
  quoteBytesWith [] bs

/-- Bytes that can change. Single quotes in them are always escaped. -/
def quoteByteArray (bs : List UInt8) : String :=
  "bytearray(" ++ quoteBytesWith [singleQuote] bs ++ ")"

end ObjectStore.Text
