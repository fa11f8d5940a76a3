import ByteText.Base16
import ByteText.Base58Check

namespace ByteText.Recipe

inductive Content
  | text (text : String)
  | bytes (bytes : Bytes)
deriving DecidableEq

structure State where
  content : Content
  alphabet : Alphabet

inductive Step
  | encode
  | encodeCheck
  | encode16
  | checksum
  | decode
  | decodeCheck
  | decode16
  | useAlphabet (choice : Alphabet.Choice)
  | prepend (text : String)
  | append (text : String)
  | replace (index : Nat) (text : String)
  | take (count : Nat)

inductive Error
  | alphabet (error : AlphabetError)
  | decode (error : CheckedDecodeError)
  | notText
deriving DecidableEq

def Error.message : Error → String
  | alphabet error => error.message
  | decode error => error.message
  | notText => "state is not UTF-8"

def Content.asBytes : Content → Bytes
  | text s => utf8 s
  | bytes b => b

def Content.asText : Content → Except Error String
  | text s => .ok s
  | bytes b => match b.text? with
    | some s => .ok s
    | none => .error .notText

def replaceAt (index : Nat) (cs : List Char) (replacement : List Char) : List Char :=
  if index < cs.length then cs.take index ++ replacement ++ cs.drop (index + 1) else cs

def State.put (s : State) (content : Content) : State :=
  { s with content := content }

def State.write (s : State) (encode : Bytes → String) : State :=
  s.put (.text (encode s.content.asBytes))

def State.read (s : State) (decode : String → Except CheckedDecodeError Bytes) : Except Error State := do
  let bytes ← (decode (← s.content.asText)).mapError .decode
  return s.put (.bytes bytes)

def State.edit (s : State) (change : String → String) : Except Error State := do
  return s.put (.text (change (← s.content.asText)))

def Step.apply (s : State) : Step → Except Error State
  | encode => .ok (s.write (Base58.encode s.alphabet))
  | encodeCheck => .ok (s.write (Base58Check.encode s.alphabet))
  | encode16 => .ok (s.write Base16.encode)
  | checksum => .ok (s.put (.bytes (ByteText.checksum s.content.asBytes).toList))
  | decode => s.read fun text => (Base58.decode s.alphabet text).mapError .decode
  | decodeCheck => s.read (Base58Check.decode s.alphabet)
  | decode16 => s.read fun text => (Base16.decode text).mapError .decode
  | useAlphabet choice => do
    let A ← choice.resolve.mapError .alphabet
    return { s with alphabet := A }
  | prepend text => s.edit (text ++ ·)
  | append text => s.edit (· ++ text)
  | replace index text => s.edit fun old => String.ofList (replaceAt index old.toList text.toList)
  | take count => s.edit fun old => String.ofList (old.toList.take count)

def State.after (s : State) (step : Step) : State :=
  match step.apply s with
  | .ok t => t
  | .error _ => s

def run : State → List Step → List (Except Error Content)
  | _, [] => []
  | s, step :: steps =>
    match step.apply s with
    | .ok t => .ok t.content :: run t steps
    | .error e => .error e :: run s steps

end ByteText.Recipe
