import ByteText.Proofs.BufferedReading

namespace ByteText.Base58

theorem ofDigits_toDigits (b : Bytes) : ofDigits (toDigits b) = b := by
  have hb : (b.map UInt8.toFin).map UInt8.ofFin = b := by
    rw [List.map_map]
    exact List.map_id b
  rw [ofDigits, toDigits, Radix.transfer_transfer, hb]

theorem map_toFin_map_ofFin (ds : List (Fin 256)) : (ds.map UInt8.ofFin).map UInt8.toFin = ds := by
  rw [List.map_map]
  exact List.map_id ds

theorem toDigits_ofDigits (ds : List (Fin 58)) : toDigits (ofDigits ds) = ds := by
  rw [toDigits, ofDigits, map_toFin_map_ofFin, Radix.transfer_transfer]

theorem decode_eq_ok_iff (A : Alphabet) (s : String) (b : Bytes) : decode A s = .ok b ↔ s = encode A b := by
  rw [decode_eq_ok_iff_spell]
  constructor
  · rintro ⟨ds, rfl, rfl⟩
    rw [encode, toDigits_ofDigits]
  · rintro rfl
    exact ⟨toDigits b, rfl, ofDigits_toDigits b⟩

theorem decode_encode_eq_ok (A : Alphabet) (b : Bytes) : decode A (encode A b) = .ok b :=
  (decode_eq_ok_iff A _ b).mpr rfl

theorem encode_eq_of_decode {A : Alphabet} {s : String} {b : Bytes} (h : decode A s = .ok b) :
    encode A b = s ∧ ∀ t, decode A t = .ok b → t = s := by
  have hs : s = encode A b := (decode_eq_ok_iff A s b).mp h
  refine ⟨hs.symm, fun t ht => ?_⟩
  rw [hs]
  exact (decode_eq_ok_iff A t b).mp ht

theorem encode_eq_of_decode_inner_zero : decode .ripple "rrpr" = .ok [0, 0, 58] ∧
    encode .ripple [0, 0, 58] = "rrpr" ∧ ∀ t, decode .ripple t = .ok [0, 0, 58] → t = "rrpr" := by
  have h : decode .ripple "rrpr" = .ok [0, 0, 58] := by decide +kernel
  exact ⟨h, encode_eq_of_decode h⟩

end ByteText.Base58
