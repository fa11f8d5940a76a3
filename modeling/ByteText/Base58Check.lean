import ByteText.Base58
import ByteText.CheckedDecodeError

namespace ByteText.Base58Check

inductive Fault
  | symbol (fault : Base58.Fault)
  | tooShort
  | mismatch (computed stored : Checksum)
deriving DecidableEq

def sum (payload : Bytes) : Checksum :=
  ((Sha256.digest (Sha256.digest payload).toList).take 4).cast (by decide)

def verify (data : Bytes) : Except Fault Bytes :=
  if h : data.length < 4 then .error .tooShort
  else
    let payload := data.take (data.length - 4)
    let stored : Checksum := ⟨(data.drop (data.length - 4)).toArray, by simp; omega⟩
    if sum payload = stored then .ok payload else .error (.mismatch (sum payload) stored)

def read (A : Alphabet) (text : Bytes) : Except Fault Bytes :=
  match Base58.read A text with
  | .error fault => .error (.symbol fault)
  | .ok data => verify data

def byteCount (A : Alphabet) (s : String) : Nat :=
  match Base58.decode A s with
  | .error _ => 0
  | .ok data => data.length

def Fault.errorIn (A : Alphabet) (s : String) : Fault → CheckedDecodeError
  | symbol fault => .decode (fault.errorIn s)
  | tooShort => .decode (.invalidDataLength s!"expected at least 4 bytes, got {byteCount A s}")
  | mismatch computed stored => .checksumMismatch computed stored

def encode (A : Alphabet) (payload : Bytes) : String :=
  Base58.encode A (payload ++ (sum payload).toList)

def decode (A : Alphabet) (s : String) : Except CheckedDecodeError Bytes :=
  (read A (utf8 s)).mapError (Fault.errorIn A s)

end ByteText.Base58Check
