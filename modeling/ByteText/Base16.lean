import ByteText.Bytes
import ByteText.DecodeError

namespace ByteText.Base16

inductive Fault
  | foreign (character : Char) (index : Nat)
  | oddLength
deriving DecidableEq

def joinPairs (index : Nat) : List Char → Except Fault Bytes
  | [] => .ok []
  | [_] => .error .oddLength
  | c :: d :: rest =>
    match HexDigit.ofChar? c, HexDigit.ofChar? d with
    | none, _ => .error (.foreign c index)
    | some _, none => .error (.foreign d (index + 1))
    | some h, some l => (joinPairs (index + 2) rest).map (HexDigit.join h l :: ·)

def joinFrom (index : Nat) (cs : List Char) : Except Fault Bytes :=
  if cs.length % 2 = 0 then joinPairs index cs else .error .oddLength

def Fault.errorIn (padding digits : Nat) : Fault → DecodeError
  | foreign character index => .invalidCharacter character (index - padding)
  | oddLength => .invalidDataLength s!"expected an even number of hex digits, got {digits}"

def foreign? (cs : List Char) : Option (Char × Nat) :=
  cs.zipIdx.find? fun (c, _) => (HexDigit.ofChar? c).isNone

def encode (bytes : Bytes) : String :=
  String.ofList (HexDigit.pairs bytes)

def decode (s : String) : Except DecodeError Bytes :=
  match foreign? s.toList with
  | some (c, i) => .error (.invalidCharacter c i)
  | none =>
    let padding := (utf8 s).length % 2
    let padded := List.replicate padding '0' ++ s.toList
    (joinFrom 0 padded).mapError (Fault.errorIn padding padded.length)

theorem joinPairs_pairs (index : Nat) (bytes : Bytes) : joinPairs index (HexDigit.pairs bytes) = .ok bytes := by
  induction bytes generalizing index with
  | nil => rfl
  | cons x xs ih =>
    have hp : HexDigit.pairs (x :: xs) =
        HexDigit.char (HexDigit.high x) :: HexDigit.char (HexDigit.low x) :: HexDigit.pairs xs := rfl
    simp [hp, joinPairs, ih, Except.map]

end ByteText.Base16
