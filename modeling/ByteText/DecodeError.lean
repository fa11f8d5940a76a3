import ByteText.Quoted

namespace ByteText

inductive DecodeError
  | invalidCharacter (character : Char) (index : Nat)
  | invalidDataLength (message : String)
deriving DecidableEq

namespace DecodeError

inductive Kind
  | invalidCharacter
  | invalidDataLength
deriving DecidableEq

namespace Kind

def name : Kind → String
  | invalidCharacter => "invalid_character"
  | invalidDataLength => "invalid_data_length"

inductive ParseError
  | unknownName
deriving DecidableEq

def ParseError.message : ParseError → String
  | unknownName => "Matching variant not found"

def parse : String → Except ParseError Kind
  | "invalid_character" => .ok invalidCharacter
  | "invalid_data_length" => .ok invalidDataLength
  | _ => .error .unknownName

end Kind

def kind : DecodeError → Kind
  | invalidCharacter .. => .invalidCharacter
  | invalidDataLength _ => .invalidDataLength

def character? : DecodeError → Option Char
  | invalidCharacter character _ => some character
  | invalidDataLength _ => none

def index? : DecodeError → Option Nat
  | invalidCharacter _ index => some index
  | invalidDataLength _ => none

def lengthMessage? : DecodeError → Option String
  | invalidCharacter .. => none
  | invalidDataLength message => some message

def message : DecodeError → String
  | invalidCharacter character index => s!"invalid character {Quoted.char character} at index {index}"
  | invalidDataLength message => message

end DecodeError

end ByteText
