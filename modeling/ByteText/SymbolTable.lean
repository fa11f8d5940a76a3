import ByteText.Bytes

namespace ByteText

structure SymbolTable where
  codes : Vector UInt8 58
  digits : Vector (Option (Fin 58)) 128

namespace SymbolTable

def empty : SymbolTable where
  codes := Vector.replicate 58 0
  digits := Vector.replicate 128 none

def code (T : SymbolTable) (d : Fin 58) : UInt8 :=
  T.codes.get d

def digitOf? (T : SymbolTable) (x : UInt8) : Option (Fin 58) :=
  T.digits[x.toNat]?.join

def add (T : SymbolTable) (d : Fin 58) (x : UInt8) : SymbolTable where
  codes := T.codes.set d.val x d.isLt
  digits := T.digits.setIfInBounds x.toNat (some d)

inductive Fault
  | duplicate (character : Char) (first second : Nat)
  | nonAscii (index : Nat)
deriving DecidableEq

def enter (codes : Vector UInt8 58) (T : SymbolTable) : List (Fin 58) → Except Fault SymbolTable
  | [] => .ok T
  | d :: ds =>
    let x := codes.get d
    if 128 ≤ x then .error (.nonAscii d.val)
    else match T.digitOf? x with
      | some first => .error (.duplicate (Char.ofUInt8 x) first.val d.val)
      | none => enter codes (T.add d x) ds

def ofCodes (codes : Vector UInt8 58) : Except Fault SymbolTable :=
  enter codes empty (List.finRange 58)

def codesOf (symbols : String) (h : (utf8 symbols).length = 58) : Vector UInt8 58 :=
  ⟨(utf8 symbols).toArray, h⟩

def build (symbols : String) (hlen : (utf8 symbols).length = 58)
    (hlegal : (ofCodes (codesOf symbols hlen)).toOption.isSome) : SymbolTable :=
  (ofCodes (codesOf symbols hlen)).toOption.get hlegal

def bitcoin : SymbolTable :=
  build "123456789ABCDEFGHJKLMNPQRSTUVWXYZabcdefghijkmnopqrstuvwxyz" (by decide) (by decide +kernel)

def ripple : SymbolTable :=
  build "rpshnaf39wBUDNEGHJKLM4PQRST7VWXYZ2bcdeCg65jkm8oFqi1tuvAxyz" (by decide) (by decide +kernel)

def flickr : SymbolTable :=
  build "123456789abcdefghijkmnopqrstuvwxyzABCDEFGHJKLMNPQRSTUVWXYZ" (by decide) (by decide +kernel)

theorem ofCodes_eq_build (symbols : String) (hlen : (utf8 symbols).length = 58)
    (hlegal : (ofCodes (codesOf symbols hlen)).toOption.isSome) :
    ofCodes (codesOf symbols hlen) = .ok (build symbols hlen hlegal) := by
  unfold build
  revert hlegal
  cases ofCodes (codesOf symbols hlen) with
  | error fault => exact fun h => nomatch h
  | ok T => exact fun _ => rfl

@[simp] theorem digitOf?_empty (x : UInt8) : empty.digitOf? x = none := by
  rw [digitOf?, empty, Vector.getElem?_replicate]
  split <;> rfl

theorem code_add (T : SymbolTable) (d e : Fin 58) (x : UInt8) :
    (T.add d x).code e = if d = e then x else T.code e := by
  change (T.codes.set d.val x d.isLt)[e.val] = if d = e then x else T.codes[e.val]
  rw [Vector.getElem_set]
  simp only [Fin.ext_iff]

theorem digitOf?_add (T : SymbolTable) (d : Fin 58) {x : UInt8} (hx : x < 128) (y : UInt8) :
    (T.add d x).digitOf? y = if x = y then some d else T.digitOf? y := by
  have hlt : x.toNat < 128 := UInt8.lt_iff_toNat_lt.mp hx
  rw [digitOf?, add, Vector.getElem?_setIfInBounds]
  by_cases h : x = y
  · subst h
    simp [hlt]
  · have hne : x.toNat ≠ y.toNat := fun he => h (UInt8.toNat_inj.mp he)
    simp [h, hne, digitOf?]

structure Holds (codes : Vector UInt8 58) (ds : List (Fin 58)) (T : SymbolTable) : Prop where
  ascii : ∀ d ∈ ds, codes.get d < 128
  code : ∀ d ∈ ds, T.code d = codes.get d
  digit : ∀ x d, T.digitOf? x = some d ↔ d ∈ ds ∧ codes.get d = x

variable {codes : Vector UInt8 58} {seen : List (Fin 58)} {T : SymbolTable}

theorem holds_empty : Holds codes [] empty where
  ascii := nofun
  code := nofun
  digit x d := by simp

theorem Holds.code_ne (hT : Holds codes seen T) {x : UInt8} (hx : T.digitOf? x = none) {d : Fin 58} (hd : d ∈ seen) :
    codes.get d ≠ x := by
  intro h
  have hs : T.digitOf? x = some d := (hT.digit x d).mpr ⟨hd, h⟩
  rw [hx] at hs
  cases hs

theorem Holds.add (hT : Holds codes seen T) {d : Fin 58} (hx : codes.get d < 128)
    (hd : T.digitOf? (codes.get d) = none) : Holds codes (seen ++ [d]) (T.add d (codes.get d)) where
  ascii e he := by
    rcases List.mem_append.mp he with he | he
    · exact hT.ascii e he
    · rwa [List.mem_singleton.mp he]
  code e he := by
    rw [code_add]
    split
    next h => rw [h]
    next h =>
      rcases List.mem_append.mp he with he | he
      · exact hT.code e he
      · exact absurd (List.mem_singleton.mp he).symm h
  digit x e := by
    rw [digitOf?_add T d hx, List.mem_append, List.mem_singleton]
    split
    next h =>
      subst h
      constructor
      · intro he
        cases he
        exact ⟨.inr rfl, rfl⟩
      · rintro ⟨he | rfl, hc⟩
        · exact absurd hc (hT.code_ne hd he)
        · rfl
    next h =>
      rw [hT.digit]
      constructor
      · exact fun ⟨he, hc⟩ => ⟨.inl he, hc⟩
      · rintro ⟨he | rfl, hc⟩
        · exact ⟨he, hc⟩
        · exact absurd hc h

theorem Holds.enter {ds : List (Fin 58)} {U : SymbolTable} (hT : Holds codes seen T)
    (h : enter codes T ds = .ok U) : Holds codes (seen ++ ds) U := by
  induction ds generalizing seen T with
  | nil =>
    cases h
    rwa [List.append_nil]
  | cons d ds ih =>
    rw [SymbolTable.enter] at h
    split at h
    next => cases h
    next hx =>
      split at h
      next => cases h
      next hd =>
        rw [← List.singleton_append, ← List.append_assoc]
        exact ih (hT.add (UInt8.not_le.mp hx) hd) h

theorem holds_of_ofCodes (h : ofCodes codes = .ok T) : Holds codes (List.finRange 58) T :=
  holds_empty.enter h

end SymbolTable

end ByteText
