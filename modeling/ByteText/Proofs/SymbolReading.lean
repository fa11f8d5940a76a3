import ByteText.Base58
import Mathlib

namespace ByteText

theorem map_eq_ok_iff {ε α β : Type} {f : α → β} {x : Except ε α} {y : β} :
    x.map f = .ok y ↔ ∃ a, x = .ok a ∧ f a = y := by
  cases x <;> simp [Except.map]

theorem map_eq_error_iff {ε α β : Type} {f : α → β} {x : Except ε α} {e : ε} : x.map f = .error e ↔ x = .error e := by
  cases x <;> simp [Except.map]

theorem mapError_eq_ok_iff {ε ε' α : Type} {f : ε → ε'} {x : Except ε α} {a : α} :
    x.mapError f = .ok a ↔ x = .ok a := by
  cases x <;> simp [Except.mapError]

theorem mapError_eq_error_iff {ε ε' α : Type} {f : ε → ε'} {x : Except ε α} {e : ε'} :
    x.mapError f = .error e ↔ ∃ d, x = .error d ∧ f d = e := by
  cases x <;> simp [Except.mapError]

theorem toByteArray_utf8 (s : String) : (utf8 s).toByteArray = s.toByteArray := by
  rw [← String.utf8Encode_toList]
  rfl

theorem utf8_inj {s t : String} : utf8 s = utf8 t ↔ s = t := by
  refine ⟨fun h => ?_, fun h => h ▸ rfl⟩
  rw [← String.toByteArray_inj, ← toByteArray_utf8 s, h, toByteArray_utf8 t]

theorem text?_utf8 (s : String) : Bytes.text? (utf8 s) = some s := by
  rw [Bytes.text?, toByteArray_utf8, String.fromUTF8?, dif_pos s.isValidUTF8]
  rfl

theorem utf8EncodeChar_of_ascii {c : Char} (h : c.toNat ≤ 127) : String.utf8EncodeChar c = [UInt8.ofNat c.toNat] := by
  unfold String.utf8EncodeChar
  exact if_pos h

namespace Alphabet

theorem toNat_code_lt (A : Alphabet) (d : Fin 58) : (A.code d).toNat < 128 :=
  UInt8.lt_iff_toNat_lt.mp (A.code_lt d)

theorem not_lt_code (A : Alphabet) (d : Fin 58) : ¬ 127 < A.code d := by
  rw [UInt8.lt_iff_toNat_lt]
  exact Nat.not_lt.mpr (Nat.le_of_lt_succ (A.toNat_code_lt d))

theorem toNat_symbol (A : Alphabet) (d : Fin 58) : (A.symbol d).toNat = (A.code d).toNat := by
  simp [symbol, Char.ofUInt8]

theorem utf8EncodeChar_symbol (A : Alphabet) (d : Fin 58) : String.utf8EncodeChar (A.symbol d) = [A.code d] := by
  have hlt : (A.symbol d).toNat < 128 := by
    rw [toNat_symbol]
    exact A.toNat_code_lt d
  rw [utf8EncodeChar_of_ascii (by omega), toNat_symbol, UInt8.ofNat_toNat]

theorem utf8_spell (A : Alphabet) (ds : List (Fin 58)) : utf8 (A.spell ds) = ds.map A.code := by
  rw [utf8, spell_eq_ofList, String.toList_ofList, List.flatMap_map]
  induction ds with
  | nil => rfl
  | cons d ds ih => rw [List.flatMap_cons, utf8EncodeChar_symbol, ih]; rfl

end Alphabet

namespace Base58

def readDigits (A : Alphabet) (offset : Nat) : Bytes → Except Fault (List (Fin 58))
  | [] => .ok []
  | x :: xs =>
    if 127 < x then .error (.nonAscii offset)
    else match A.digitOf? x with
      | none => .error (.foreign (Char.ofUInt8 x) offset)
      | some d => (readDigits A (offset + 1) xs).map (d :: ·)

def ofDigits (digits : List (Fin 58)) : Bytes :=
  (Radix.transfer 256 digits).map UInt8.ofFin

theorem readDigits_code_cons (A : Alphabet) (offset : ℕ) (d : Fin 58) (xs : Bytes) :
    readDigits A offset (A.code d :: xs) = (readDigits A (offset + 1) xs).map (d :: ·) := by
  rw [readDigits, if_neg (A.not_lt_code d), (A.digitOf?_eq_some_iff _ d).mpr rfl]

theorem readDigits_codes_append (A : Alphabet) (offset : ℕ) (ds : List (Fin 58)) (xs : Bytes) :
    readDigits A offset (ds.map A.code ++ xs) = (readDigits A (offset + ds.length) xs).map (ds ++ ·) := by
  induction ds generalizing offset with
  | nil => cases h : readDigits A offset xs <;> simp [h, Except.map]
  | cons d ds ih =>
    rw [List.map_cons, List.cons_append, readDigits_code_cons, ih, List.length_cons, Nat.add_assoc, Nat.add_comm 1]
    cases readDigits A (offset + (ds.length + 1)) xs <;> rfl

theorem eq_codes_of_readDigits {A : Alphabet} {offset : ℕ} {xs : Bytes} {ds : List (Fin 58)}
    (h : readDigits A offset xs = .ok ds) : xs = ds.map A.code := by
  induction xs generalizing offset ds with
  | nil =>
    cases h
    rfl
  | cons x xs ih =>
    rw [readDigits] at h
    split at h
    · cases h
    · split at h
      next => cases h
      next d hd =>
        obtain ⟨es, he, rfl⟩ := map_eq_ok_iff.mp h
        rw [List.map_cons, (A.digitOf?_eq_some_iff x d).mp hd, ← ih he]

theorem readDigits_eq_ok_iff (A : Alphabet) (offset : ℕ) (xs : Bytes) (ds : List (Fin 58)) :
    readDigits A offset xs = .ok ds ↔ xs = ds.map A.code := by
  refine ⟨eq_codes_of_readDigits, ?_⟩
  rintro rfl
  simpa [readDigits, Except.map] using readDigits_codes_append A offset ds []

end Base58

end ByteText
