import ByteText.Checksum
import ByteText.DecodeError

namespace ByteText

inductive CheckedDecodeError
  | decode (error : DecodeError)
  | checksumMismatch (expected actual : Checksum)
deriving DecidableEq

namespace CheckedDecodeError

def listing (sum : Checksum) : String :=
  "[" ++ ", ".intercalate (sum.toList.map fun x => String.ofList (HexDigit.pair x)) ++ "]"

def decodeError? : CheckedDecodeError → Option DecodeError
  | decode error => some error
  | checksumMismatch .. => none

def message : CheckedDecodeError → String
  | decode error => error.message
  | checksumMismatch expected actual =>
    s!"checksum mismatch: expected {listing expected}, found {listing actual}"

end CheckedDecodeError

end ByteText
