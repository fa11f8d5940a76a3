namespace ByteText

abbrev Bytes := List UInt8

def utf8 (s : String) : Bytes :=
  s.toList.flatMap String.utf8EncodeChar

def Bytes.text? (bytes : Bytes) : Option String :=
  String.fromUTF8? bytes.toByteArray

def position? : List Char → Nat → Option Nat
  | _, 0 => some 0
  | [], _ + 1 => none
  | c :: cs, n + 1 => if c.utf8Size ≤ n + 1 then (position? cs (n + 1 - c.utf8Size)).map (· + 1) else none

def charFrom? : List Char → Nat → Option Char
  | cs, 0 => cs.head?
  | [], _ + 1 => none
  | c :: cs, n + 1 => if c.utf8Size ≤ n + 1 then charFrom? cs (n + 1 - c.utf8Size) else none

@[simp] theorem position?_zero (cs : List Char) : position? cs 0 = some 0 := by
  cases cs <;> rfl

theorem position?_cons (c : Char) (cs : List Char) (n : Nat) :
    position? (c :: cs) (c.utf8Size + n) = (position? cs n).map (· + 1) := by
  obtain ⟨k, hk⟩ := Nat.exists_eq_add_of_lt c.utf8Size_pos
  rw [show c.utf8Size + n = (k + n) + 1 by omega, position?, if_pos (by omega)]
  congr
  omega

theorem position?_append (cs ds : List Char) :
    position? (cs ++ ds) (cs.flatMap String.utf8EncodeChar).length = some cs.length := by
  induction cs with
  | nil => simp
  | cons c cs ih =>
    rw [List.flatMap_cons, List.length_append, String.length_utf8EncodeChar, List.cons_append, position?_cons, ih]
    simp

theorem charFrom?_eq_bind (cs : List Char) (o : Nat) : charFrom? cs o = (position? cs o).bind fun n => cs[n]? := by
  induction cs generalizing o with
  | nil => cases o <;> rfl
  | cons c cs ih =>
    cases o with
    | zero => rfl
    | succ o =>
      rw [charFrom?, position?]
      split
      · rw [ih, Option.bind_map]
        rfl
      · rfl

theorem charFrom?_append (cs ds : List Char) :
    charFrom? (cs ++ ds) (cs.flatMap String.utf8EncodeChar).length = ds.head? := by
  rw [charFrom?_eq_bind, position?_append, Option.bind_some, List.getElem?_append_right (Nat.le_refl _), Nat.sub_self,
    List.head?_eq_getElem?]

end ByteText
