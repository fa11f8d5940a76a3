import ByteText.Proofs.PositionalNumeral

/-!
Five bytes have room in seven symbols and a symbol has room in a byte, so a buffer that is sized by the input holds
all of a conversion, whatever the number of leading zeros: `codecs_fit`.
-/

namespace ByteText

open Radix

namespace Base58

theorem length_encode (A : Alphabet) (b : Bytes) : (encode A b).length = (toDigits b).length := by
  rw [encode, A.spell_eq_ofList, String.length_ofList, List.length_map]

theorem length_toDigits_lt (b : Bytes) : 5 * (toDigits b).length < 7 * b.length + 5 := by
  have h := length_transfer_lt (b := 58) (show 0 < 5 by decide) (show 5 ≤ 7 by decide)
    (show 256 ^ 5 ≤ 58 ^ 7 by decide) (byteDigits b)
  rwa [byteDigits, List.length_map] at h

theorem length_le_length_encode (A : Alphabet) (b : Bytes) : b.length ≤ (encode A b).length := by
  have h := length_transfer_le (toDigits b)
  rw [← List.length_map UInt8.ofFin, ← ofDigits, ofDigits_toDigits] at h
  rwa [length_encode]

theorem length_encode_le (A : Alphabet) (b : Bytes) : (encode A b).length ≤ 8 * (b.length / 5 + 1) := by
  have h := length_toDigits_lt b
  rw [length_encode]
  omega

theorem fits_byteDigits (b : Bytes) : Fits 58 (8 * (b.length / 5 + 1)) (byteDigits b) := by
  have h : 5 * (transfer 58 (byteDigits b)).length < 7 * b.length + 5 := length_toDigits_lt b
  apply fits_of_length_le
  omega

theorem length_le_of_decode {A : Alphabet} {s : String} {d : Bytes} (h : decode A s = .ok d) : d.length ≤ s.length := by
  rw [(decode_eq_ok_iff A s d).mp h]
  exact length_le_length_encode A d

end Base58

theorem Base58Check.length_append_checksum (p : Bytes) : (p ++ (checksum p).toList).length = p.length + 4 := by
  rw [List.length_append, Vector.length_toList]

namespace Alphabet

theorem codecs_fit (A : Alphabet) :
    (∀ b, b.length ≤ (Base58.encode A b).length ∧ (Base58.encode A b).length ≤ 8 * (b.length / 5 + 1) ∧
        Fits 58 (8 * (b.length / 5 + 1)) (byteDigits b)) ∧
      (∀ p, p.length + 4 ≤ (Base58Check.encode A p).length ∧
        (Base58Check.encode A p).length ≤ 8 * ((p.length + 4) / 5 + 1) ∧
        Fits 58 (8 * ((p.length + 4) / 5 + 1)) (byteDigits (p ++ (checksum p).toList))) ∧
      (∀ s d, Base58.decode A s = .ok d → d.length ≤ s.length) ∧
      (∀ s p, Base58Check.decode A s = .ok p → p.length + 4 ≤ s.length) ∧
      ∀ s pre ds, pre <+: utf8 s → Base58.readDigits A 0 pre = .ok ds → Fits 256 (utf8 s).length ds := by
  have hencode (b : Bytes) : b.length ≤ (Base58.encode A b).length ∧
      (Base58.encode A b).length ≤ 8 * (b.length / 5 + 1) ∧ Fits 58 (8 * (b.length / 5 + 1)) (byteDigits b) :=
    ⟨Base58.length_le_length_encode A b, Base58.length_encode_le A b, Base58.fits_byteDigits b⟩
  refine ⟨hencode, fun p => ?_, fun s d => Base58.length_le_of_decode, fun s p h => ?_, fun s pre ds hpre h => ?_⟩
  · rw [Base58Check.encode_eq_append_checksum, ← Base58Check.length_append_checksum]
    exact hencode (p ++ (checksum p).toList)
  · rw [← Base58Check.length_append_checksum]
    exact Base58.length_le_of_decode ((Base58Check.decode_eq_ok_iff_plain A s p).mp h)
  · exact Base58.fits_of_readDigits h hpre.length_le

theorem codecs_fit_leading_zeros :
    (Base58.decode .ripple "rrpr" = .ok [0, 0, 58] ∧ [(0 : UInt8), 0, 58].length ≤ "rrpr".length) ∧
      (Base58Check.decode .bitcoin "3QJmnh" = .ok [] ∧ ([] : Bytes).length + 4 ≤ "3QJmnh".length) ∧
      utf8 "rrp" <+: utf8 "rrp0" ∧ Base58.readDigits .ripple 0 (utf8 "rrp") = .ok [0, 0, 1] ∧
      Fits 256 (utf8 "rrp0").length ([0, 0, 1] : List (Fin 58)) := by
  have hplain : Base58.decode .ripple "rrpr" = .ok [0, 0, 58] := by decide +kernel
  have hchecked : Base58Check.decode .bitcoin "3QJmnh" = .ok [] := by decide +kernel
  have hpre : utf8 "rrp" <+: utf8 "rrp0" := by decide
  have hread : Base58.readDigits .ripple 0 (utf8 "rrp") = .ok [0, 0, 1] := by decide +kernel
  exact ⟨⟨hplain, (codecs_fit .ripple).2.2.1 _ _ hplain⟩, ⟨hchecked, (codecs_fit .bitcoin).2.2.2.1 _ _ hchecked⟩,
    hpre, hread, (codecs_fit .ripple).2.2.2.2 _ _ _ hpre hread⟩

end Alphabet

end ByteText
