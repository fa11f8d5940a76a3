import ByteText.AlphabetError
import ByteText.SymbolTable

namespace ByteText

structure Alphabet where
  codes : Vector UInt8 58
  table : SymbolTable
  built : SymbolTable.ofCodes codes = .ok table

namespace Alphabet

instance : BEq Alphabet := ⟨fun A B => A.codes == B.codes⟩

def errorOf : SymbolTable.Fault → AlphabetError
  | .duplicate character first second => .duplicateCharacter character first second
  | .nonAscii index => .nonAscii index

def ofBytes (codes : Vector UInt8 58) : Except AlphabetError Alphabet :=
  match h : SymbolTable.ofCodes codes with
  | .error fault => .error (errorOf fault)
  | .ok T => .ok ⟨codes, T, h⟩

def builtin (codes : Vector UInt8 58) (table : SymbolTable) (built : SymbolTable.ofCodes codes = .ok table) :
    Alphabet :=
  ⟨codes, table, built⟩

def bitcoin : Alphabet :=
  builtin ⟨(utf8 "123456789ABCDEFGHJKLMNPQRSTUVWXYZabcdefghijkmnopqrstuvwxyz").toArray, by decide⟩ .bitcoin
    (SymbolTable.ofCodes_eq_build _ _ _)

def ripple : Alphabet :=
  builtin ⟨(utf8 "rpshnaf39wBUDNEGHJKLM4PQRST7VWXYZ2bcdeCg65jkm8oFqi1tuvAxyz").toArray, by decide⟩ .ripple
    (SymbolTable.ofCodes_eq_build _ _ _)

def flickr : Alphabet :=
  builtin ⟨(utf8 "123456789abcdefghijkmnopqrstuvwxyzABCDEFGHJKLMNPQRSTUVWXYZ").toArray, by decide⟩ .flickr
    (SymbolTable.ofCodes_eq_build _ _ _)

instance : Inhabited Alphabet := ⟨bitcoin⟩

def named? : String → Option Alphabet
  | "bitcoin" => some bitcoin
  | "ripple" => some ripple
  | "flickr" => some flickr
  | _ => none

def code (A : Alphabet) (d : Fin 58) : UInt8 :=
  A.codes.get d

def symbol (A : Alphabet) (d : Fin 58) : Char :=
  Char.ofUInt8 (A.code d)

def zero (A : Alphabet) : Char :=
  A.symbol 0

def spell (A : Alphabet) (digits : List (Fin 58)) : String :=
  String.ofList (digits.map fun d => Char.ofUInt8 (A.table.code d))

def symbols (A : Alphabet) : String :=
  (Bytes.text? A.codes.toList).getD ""

def digit? (A : Alphabet) (c : Char) : Option (Fin 58) :=
  (List.finRange 58).find? fun d => A.symbol d == c

def digitOf? (A : Alphabet) (x : UInt8) : Option (Fin 58) :=
  A.table.digitOf? x

def debugText (A : Alphabet) : String :=
  s!"Alphabet({Quoted.text A.symbols})"

inductive Choice
  | ready (A : Alphabet)
  | custom (codes : Vector UInt8 58)

def Choice.codes : Choice → Vector UInt8 58
  | ready A => A.codes
  | custom codes => codes

def Choice.resolve : Choice → Except AlphabetError Alphabet
  | ready A => .ok A
  | custom codes => ofBytes codes

theorem holds_table (A : Alphabet) : A.table.Holds A.codes (List.finRange 58) :=
  SymbolTable.holds_of_ofCodes A.built

theorem eq_of_codes_eq {A B : Alphabet} (h : A.codes = B.codes) : A = B := by
  have ht : A.table = B.table := by
    have hb := A.built
    rw [h, B.built] at hb
    exact (Except.ok.inj hb).symm
  cases A
  cases B
  cases h
  cases ht
  rfl

instance : LawfulBEq Alphabet where
  eq_of_beq h := eq_of_codes_eq (eq_of_beq h)
  rfl := beq_self_eq_true (Alphabet.codes _)

theorem code_lt (A : Alphabet) (d : Fin 58) : A.code d < 128 :=
  A.holds_table.ascii d (List.mem_finRange d)

theorem code_table (A : Alphabet) (d : Fin 58) : A.table.code d = A.code d :=
  A.holds_table.code d (List.mem_finRange d)

theorem digitOf?_eq_some_iff (A : Alphabet) (x : UInt8) (d : Fin 58) : A.digitOf? x = some d ↔ A.code d = x := by
  rw [digitOf?, A.holds_table.digit, code, and_iff_right (List.mem_finRange d)]

theorem code_inj (A : Alphabet) {d e : Fin 58} : A.code d = A.code e ↔ d = e := by
  refine ⟨fun h => ?_, fun h => h ▸ rfl⟩
  have hd : A.digitOf? (A.code e) = some d := (A.digitOf?_eq_some_iff _ _).mpr h
  have he : A.digitOf? (A.code e) = some e := (A.digitOf?_eq_some_iff _ _).mpr rfl
  exact Option.some.inj (hd.symm.trans he)

theorem spell_eq_ofList (A : Alphabet) (ds : List (Fin 58)) : A.spell ds = String.ofList (ds.map A.symbol) := by
  simp only [spell, code_table]
  rfl

theorem symbol_inj (A : Alphabet) {d e : Fin 58} : A.symbol d = A.symbol e ↔ d = e := by
  refine ⟨fun h => A.code_inj.mp ?_, fun h => h ▸ rfl⟩
  have hv : (A.code d).toUInt32 = (A.code e).toUInt32 := congrArg Char.val h
  exact UInt8.toNat_inj.mp (by simpa using congrArg UInt32.toNat hv)

theorem digit?_eq_some_iff (A : Alphabet) (c : Char) (d : Fin 58) : A.digit? c = some d ↔ A.symbol d = c := by
  constructor
  · intro h
    simpa using List.find?_some h
  · intro h
    cases hf : A.digit? c with
    | some e =>
      have he : A.symbol e = c := by simpa using List.find?_some hf
      rw [A.symbol_inj.mp (h.trans he.symm)]
    | none =>
      have hn := List.find?_eq_none.mp hf d (List.mem_finRange d)
      simp [h] at hn

end Alphabet

end ByteText
