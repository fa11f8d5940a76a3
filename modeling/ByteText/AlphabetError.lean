import ByteText.Quoted

namespace ByteText

inductive AlphabetError
  | nonAscii (index : Nat)
  | duplicateCharacter (character : Char) (first second : Nat)
  | other (reason : String)
deriving DecidableEq

def AlphabetError.message : AlphabetError → String
  | nonAscii index => s!"alphabet symbol at index {index} is not ASCII"
  | duplicateCharacter character first second =>
    s!"alphabet symbol {Quoted.char character} appears at both index {first} and {second}"
  | other reason => s!"invalid alphabet: {reason}"

end ByteText
