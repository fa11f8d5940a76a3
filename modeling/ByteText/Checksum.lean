import ByteText.Sha256

namespace ByteText

abbrev Checksum := Vector UInt8 4

def checksum (payload : Bytes) : Checksum :=
  let d := Sha256.digest (Sha256.digest payload).toList
  #v[d[0], d[1], d[2], d[3]]

end ByteText
