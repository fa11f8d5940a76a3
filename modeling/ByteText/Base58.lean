import ByteText.Alphabet
import ByteText.DecodeError

namespace ByteText.Base58

inductive Fault
  | foreign (character : Char) (offset : Nat)
  | nonAscii (offset : Nat)
  | noRoom
deriving DecidableEq

def toDigits (bytes : Bytes) : List (Fin 58) :=
  Radix.transfer 58 (bytes.map UInt8.toFin : List (Fin 256))

/-- Adds symbols to a number that is held in a buffer of `size` bytes, least significant first. -/
def fill (A : Alphabet) (size offset : Nat) (buffer : List (Fin 256)) : Bytes → Except Fault (List (Fin 256))
  | [] => .ok buffer
  | x :: xs =>
    if 127 < x then .error (.nonAscii offset)
    else match A.digitOf? x with
      | none => .error (.foreign (Char.ofUInt8 x) offset)
      | some d =>
        let next := Radix.mulAdd 58 buffer d.val
        if size < next.length then .error .noRoom else fill A size (offset + 1) next xs

def zeroCount (A : Alphabet) (text : Bytes) : Nat :=
  (text.takeWhile fun x => x == A.table.code (Radix.digit 58 0)).length

def read (A : Alphabet) (text : Bytes) : Except Fault Bytes :=
  match fill A text.length 0 [] text with
  | .error fault => .error fault
  | .ok buffer =>
    let padded := buffer ++ List.replicate (zeroCount A text) (Radix.digit 256 0)
    if text.length < padded.length then .error .noRoom else .ok (padded.reverse.map UInt8.ofFin)

def Fault.errorIn (s : String) : Fault → DecodeError
  | foreign character offset => .invalidCharacter character ((position? s.toList offset).getD offset)
  | nonAscii offset =>
    .invalidCharacter ((charFrom? s.toList offset).getD '\ufffd') ((position? s.toList offset).getD offset)
  | noRoom => .invalidDataLength "buffer provided to decode base58 encoded string into was too small"

def encode (A : Alphabet) (bytes : Bytes) : String :=
  A.spell (toDigits bytes)

def decode (A : Alphabet) (s : String) : Except DecodeError Bytes :=
  (read A (utf8 s)).mapError (Fault.errorIn s)

end ByteText.Base58
