import ByteText.DefaultIgnorable
import ByteText.ExtendingMark
import ByteText.HexDigit
import ByteText.Radix
import ByteText.Unprintable

namespace ByteText.Quoted

def hex (n : Nat) : List Char :=
  (Radix.carryOut 16 n).reverse.map HexDigit.char

def isPlain (c : Char) : Bool :=
  !ExtendingMark.ranges.contains c && !DefaultIgnorable.ranges.contains c && !Unprintable.ranges.contains c

def escape (quote c : Char) : List Char :=
  if c = '\x00' then ['\\', '0']
  else if c = '\t' then ['\\', 't']
  else if c = '\r' then ['\\', 'r']
  else if c = '\n' then ['\\', 'n']
  else if c = '\\' ∨ c = quote then ['\\', c]
  else if isPlain c then [c]
  else '\\' :: 'u' :: '\x7b' :: hex c.toNat ++ ['\x7d']

def quote (mark : Char) (cs : List Char) : String :=
  String.ofList (mark :: cs.flatMap (escape mark) ++ [mark])

def char (c : Char) : String :=
  quote '\x27' [c]

def text (s : String) : String :=
  quote '\x22' s.toList

end ByteText.Quoted
