import ByteText.Base16
import ByteText.Base58Check
import ByteText.Value

namespace ByteText.Reply

def alphabet? : Option String → Option Alphabet
  | none => some default
  | some name => Alphabet.named? name

def ofBytes (bytes : Bytes) : Value :=
  .map [("bytes", .sequence (bytes.map fun x => .integer x.toNat))]

def ofError (fields : List (String × Value)) : Value :=
  .map [("error", .map fields)]

def decodeErrorFields : DecodeError → List (String × Value)
  | e@(.invalidCharacter character index) =>
    [("kind", .text e.kind.name), ("character", .text (String.singleton character)), ("index", .integer index),
      ("message", .text e.message)]
  | e@(.invalidDataLength message) => [("kind", .text e.kind.name), ("message", .text message)]

def checkedErrorFields : CheckedDecodeError → List (String × Value)
  | .decode e => decodeErrorFields e
  | e@(.checksumMismatch expected actual) =>
    [("kind", .text "checksum_mismatch"), ("expected", .text (Base16.encode expected.toList)),
      ("actual", .text (Base16.encode actual.toList)), ("message", .text e.message)]

def unknownAlphabet : Value :=
  ofError [("kind", .text "unknown_alphabet"),
    ("message", .text "Unknown alphabet. Known alphabets: bitcoin, ripple, flickr.")]

def ofDecoded : Except DecodeError Bytes → Value
  | .ok bytes => ofBytes bytes
  | .error e => ofError (decodeErrorFields e)

def ofCheckedDecoded : Except CheckedDecodeError Bytes → Value
  | .ok bytes => ofBytes bytes
  | .error e => ofError (checkedErrorFields e)

def encode58 (name? : Option String) (bytes : Bytes) : Option String :=
  (alphabet? name?).map fun A => Base58.encode A bytes

def decode58 (name? : Option String) (s : String) : Value :=
  match alphabet? name? with
  | none => unknownAlphabet
  | some A => ofDecoded (Base58.decode A s)

def encode58Check (name? : Option String) (bytes : Bytes) : Option String :=
  (alphabet? name?).map fun A => Base58Check.encode A bytes

def decode58Check (name? : Option String) (s : String) : Value :=
  match alphabet? name? with
  | none => unknownAlphabet
  | some A => ofCheckedDecoded (Base58Check.decode A s)

def encode16 (bytes : Bytes) : String :=
  Base16.encode bytes

def decode16 (s : String) : Value :=
  ofDecoded (Base16.decode s)

def checksum16 (bytes : Bytes) : String :=
  Base16.encode (checksum bytes).toList

end ByteText.Reply
