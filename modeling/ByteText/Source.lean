import ByteText.Base58Check

namespace ByteText

class ByteSource (α : Type) where
  bytes : α → Bytes

instance : ByteSource Bytes := ⟨id⟩

instance : ByteSource String := ⟨utf8⟩

instance : ByteSource Checksum := ⟨Vector.toList⟩

class TextSource (α : Type) where
  text : α → String

instance : TextSource String := ⟨id⟩

section

variable {α : Type}

def toBase58 [ByteSource α] (x : α) : String :=
  Base58.encode default (ByteSource.bytes x)

def toBase58Check [ByteSource α] (x : α) : String :=
  Base58Check.encode default (ByteSource.bytes x)

def fromBase58 [TextSource α] (x : α) : Except DecodeError Bytes :=
  Base58.decode default (TextSource.text x)

def fromBase58Check [TextSource α] (x : α) : Except CheckedDecodeError Bytes :=
  Base58Check.decode default (TextSource.text x)

end

end ByteText
