import ByteText.Field
import ByteText.Source
import ByteText.Proofs.CheckedReading

namespace ByteText

section Source

variable {α β : Type} [ByteSource α] [TextSource β]

theorem fromBase58_eq_ok_iff (x : α) (t : β) :
    fromBase58 t = .ok (ByteSource.bytes x) ↔ TextSource.text t = toBase58 x :=
  Base58.decode_eq_ok_iff default _ _

theorem fromBase58Check_eq_ok_iff (x : α) (t : β) :
    fromBase58Check t = .ok (ByteSource.bytes x) ↔ TextSource.text t = toBase58Check x := by
  rw [fromBase58Check, Base58Check.decode_eq_ok_iff_plain, Base58.decode_eq_ok_iff, toBase58Check,
    Base58Check.encode_eq_append_checksum]

end Source

namespace Field

def typeError (found : String) : String :=
  s!"invalid type: {found}, expected a string"

inductive Refused : Field → Value → String → Prop
  | plain {s : String} {e : DecodeError} (h : Base58.decode .bitcoin s = .error e) : Refused plain (.text s) e.message
  | checked {s : String} {e : CheckedDecodeError} (h : Base58Check.decode .bitcoin s = .error e) :
    Refused checked (.text s) e.message
  | null (F : Field) : Refused F .null (typeError "null")
  | bool (F : Field) (b : Bool) : Refused F (.bool b) (typeError s!"boolean `{b}`")
  | integer (F : Field) (n : ℤ) : Refused F (.integer n) (typeError s!"integer `{n}`")
  | floating (F : Field) (x : Float) :
    Refused F (.floating x) (typeError s!"floating point `{Decimal.text Value.floatLayout x}`")
  | sequence (F : Field) (vs : List Value) : Refused F (.sequence vs) (typeError "sequence")
  | map (F : Field) (es : List (String × Value)) : Refused F (.map es) (typeError "map")

theorem decode_eq_ok_iff (F : Field) (s : String) (b : Bytes) : F.decode s = .ok b ↔ s = F.encode b := by
  cases F with
  | plain => exact mapError_eq_ok_iff.trans (Base58.decode_eq_ok_iff .bitcoin s b)
  | checked =>
    rw [decode, Base58Check.decode_eq_ok_iff_plain, Base58.decode_eq_ok_iff, encode,
      Base58Check.encode_eq_append_checksum]

theorem read_eq_ok_iff (F : Field) (v : Value) (b : Bytes) : F.read v = .ok b ↔ v = F.write b := by
  cases v with
  | text s => rw [read, mapError_eq_ok_iff, decode_eq_ok_iff, write, Value.text.injEq]
  | _ => simp [read, write]

variable {F : Field}

theorem refused_of_decode_eq_error {s : String} {e : CheckedDecodeError} (h : F.decode s = .error e) :
    Refused F (.text s) e.message := by
  cases F with
  | plain =>
    obtain ⟨d, hd, rfl⟩ := mapError_eq_error_iff.mp h
    exact .plain hd
  | checked => exact .checked h

theorem refused_of_read_eq_error {v : Value} {e : Error} (h : F.read v = .error e) : Refused F v e.message := by
  cases v with
  | text s =>
    obtain ⟨d, hd, rfl⟩ := mapError_eq_error_iff.mp h
    exact refused_of_decode_eq_error hd
  | null =>
    cases h
    exact .null F
  | bool b =>
    cases h
    exact .bool F b
  | integer n =>
    cases h
    exact .integer F n
  | floating x =>
    cases h
    exact .floating F x
  | sequence vs =>
    cases h
    exact .sequence F vs
  | map es =>
    cases h
    exact .map F es

theorem accepts_iff_written (F : Field) (v : Value) :
    (∀ b, F.read v = .ok b ↔ v = F.write b) ∧
      ((∀ b, v ≠ F.write b) → ∃ e, F.read v = .error e ∧ Refused F v e.message) := by
  refine ⟨read_eq_ok_iff F v, fun hv => ?_⟩
  cases hr : F.read v with
  | ok b => exact absurd ((read_eq_ok_iff F v b).mp hr) (hv b)
  | error e => exact ⟨e, rfl, refused_of_read_eq_error hr⟩

theorem accepts_iff_written_foreign : (∀ b, Value.text "Cn0" ≠ plain.write b) ∧
    (∃ e, plain.read (.text "Cn0") = .error e ∧ Refused plain (.text "Cn0") e.message) ∧
    (∀ b, Value.bool true ≠ checked.write b) ∧
    ∃ e, checked.read (.bool true) = .error e ∧ Refused checked (.bool true) e.message := by
  have hd : Base58.decode .bitcoin "Cn0" = .error (.invalidCharacter '0' 2) := by decide +kernel
  have hv : ∀ b, Value.text "Cn0" ≠ plain.write b := by
    intro b h
    have hb : Base58.decode .bitcoin "Cn0" = .ok b := (Base58.decode_eq_ok_iff _ _ b).mpr (Value.text.inj h)
    rw [hd] at hb
    cases hb
  have hw : ∀ b, Value.bool true ≠ checked.write b := nofun
  exact ⟨hv, (accepts_iff_written plain (.text "Cn0")).2 hv, hw, (accepts_iff_written checked (.bool true)).2 hw⟩

theorem ofNumeral_eq_integer_iff (negative : Bool) (digits : ℕ) (exponent? : Option ℤ) (n : ℤ) :
    Value.ofNumeral negative digits exponent? = .integer n ↔
      exponent? = none ∧ n = (if negative then -(digits : ℤ) else digits) ∧ -2 ^ 63 ≤ n ∧ n < 2 ^ 64 ∧
        (negative → n ≠ 0) := by
  cases exponent? with
  | some e => simp [Value.ofNumeral]
  | none =>
    cases negative with
    | true =>
      by_cases h : 0 < digits ∧ digits ≤ 9223372036854775808
      · simp [Value.ofNumeral, h]
        omega
      · simp [Value.ofNumeral, h]
        omega
    | false =>
      by_cases h : digits < 18446744073709551616
      · simp [Value.ofNumeral, h]
        omega
      · simp [Value.ofNumeral, h]
        omega

theorem read_ofNumeral (F : Field) (negative : Bool) (digits : ℕ) (exponent? : Option ℤ) :
    ∃ e, F.read (.ofNumeral negative digits exponent?) = .error e := by
  unfold Value.ofNumeral
  cases exponent? with
  | some e => exact ⟨_, rfl⟩
  | none =>
    simp only
    split_ifs
    all_goals exact ⟨_, rfl⟩

end Field

end ByteText
