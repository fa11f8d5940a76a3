import ByteText.Bytes

namespace ByteText.HexDigit

def char (d : Fin 16) : Char :=
  #v['0', '1', '2', '3', '4', '5', '6', '7', '8', '9', 'a', 'b', 'c', 'd', 'e', 'f'][d]

def ofChar? (c : Char) : Option (Fin 16) :=
  if '0' ≤ c ∧ c ≤ '9' then some (Fin.ofNat 16 (c.toNat - '0'.toNat))
  else if 'a' ≤ c ∧ c ≤ 'f' then some (Fin.ofNat 16 (c.toNat - 'a'.toNat + 10))
  else if 'A' ≤ c ∧ c ≤ 'F' then some (Fin.ofNat 16 (c.toNat - 'A'.toNat + 10))
  else none

def high (x : UInt8) : Fin 16 := Fin.ofNat 16 (x.toNat / 16)

def low (x : UInt8) : Fin 16 := Fin.ofNat 16 x.toNat

def join (h l : Fin 16) : UInt8 := UInt8.ofNat (16 * h + l)

def pair (x : UInt8) : List Char := [char (high x), char (low x)]

def pairs (bytes : Bytes) : List Char := bytes.flatMap pair

@[simp] theorem ofChar?_char (d : Fin 16) : ofChar? (char d) = some d := by
  revert d; decide

@[simp] theorem join_high_low (x : UInt8) : join (high x) (low x) = x := by
  have := x.toNat_lt
  apply UInt8.toNat_inj.mp
  simp only [join, high, low, UInt8.toNat_ofNat', Fin.val_ofNat]
  omega

end ByteText.HexDigit
