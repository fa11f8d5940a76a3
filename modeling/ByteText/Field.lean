import ByteText.Base58Check
import ByteText.Value

namespace ByteText

inductive Field
  | plain
  | checked
deriving DecidableEq

namespace Field

inductive Error
  | notText (found : Value)
  | undecodable (error : CheckedDecodeError)

def Error.message : Error → String
  | notText found => s!"invalid type: {found.describe}, expected a string"
  | undecodable error => error.message

def encode : Field → Bytes → String
  | plain => Base58.encode default
  | checked => Base58Check.encode default

def decode : Field → String → Except CheckedDecodeError Bytes
  | plain, s => (Base58.decode default s).mapError .decode
  | checked, s => Base58Check.decode default s

def write (F : Field) (bytes : Bytes) : Value :=
  .text (F.encode bytes)

def read (F : Field) : Value → Except Error Bytes
  | .text s => (F.decode s).mapError .undecodable
  | v => .error (.notText v)

end Field

end ByteText
