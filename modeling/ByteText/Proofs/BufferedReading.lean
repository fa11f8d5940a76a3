import ByteText.Proofs.NumeralLength
import ByteText.Proofs.SymbolReading

namespace ByteText.Base58

open Radix

theorem length_transfer_le (ds : List (Fin 58)) : (transfer 256 ds).length ≤ ds.length := by
  have h := length_transfer_lt (b := 256) (show 0 < 1 by decide) le_rfl (show 58 ^ 1 ≤ 256 ^ 1 by decide) ds
  omega

theorem fits_of_readDigits {A : Alphabet} {xs : Bytes} {ds : List (Fin 58)} (h : readDigits A 0 xs = .ok ds) {size : ℕ}
    (hsize : xs.length ≤ size) : Fits 256 size ds := by
  have hds : xs.length = ds.length := by rw [eq_codes_of_readDigits h, List.length_map]
  have hle := length_transfer_le ds
  apply fits_of_length_le
  omega

theorem mulAdd_reverse_rebase (ds : List (Fin 58)) (d : Fin 58) :
    mulAdd 58 (rebase 256 ds).reverse d.val = (rebase 256 (ds ++ [d])).reverse := by
  simp [rebase]

theorem fill_eq_map_readDigits {A : Alphabet} {size : ℕ} (offset : ℕ) (seen : List (Fin 58)) (xs : Bytes)
    (hfits : ∀ ys ds, ys <+: xs → readDigits A offset ys = .ok ds → (rebase 256 (seen ++ ds)).length ≤ size) :
    fill A size offset (rebase 256 seen).reverse xs =
      (readDigits A offset xs).map fun ds => (rebase 256 (seen ++ ds)).reverse := by
  induction xs generalizing offset seen with
  | nil => simp [fill, readDigits, Except.map]
  | cons x xs ih =>
    rw [fill]
    by_cases hx : 127 < x
    · rw [readDigits, if_pos hx, if_pos hx]
      rfl
    · rw [if_neg hx]
      cases hd : A.digitOf? x with
      | none =>
        rw [readDigits, if_neg hx, hd]
        rfl
      | some d =>
        obtain rfl := (A.digitOf?_eq_some_iff x d).mp hd
        have hroom : (rebase 256 (seen ++ [d])).length ≤ size := by
          apply hfits [A.code d] [d] (List.prefix_append [A.code d] xs)
          rw [readDigits_code_cons]
          rfl
        have hrest : ∀ ys ds, ys <+: xs → readDigits A (offset + 1) ys = .ok ds →
            (rebase 256 (seen ++ [d] ++ ds)).length ≤ size := by
          intro ys ds hys h
          rw [List.append_assoc]
          apply hfits (A.code d :: ys) (d :: ds) ((List.prefix_cons_inj _).mpr hys)
          rw [readDigits_code_cons, h]
          rfl
        simp only [mulAdd_reverse_rebase, List.length_reverse]
        rw [if_neg (Nat.not_lt.mpr hroom), ih (offset + 1) (seen ++ [d]) hrest, readDigits_code_cons]
        cases readDigits A (offset + 1) xs <;> simp [Except.map]

theorem zeroCount_codes (A : Alphabet) (ds : List (Fin 58)) :
    zeroCount A (ds.map A.code) = (ds.takeWhile fun d => d.val == 0).length := by
  have hzero (d : Fin 58) : (A.code d == A.table.code (digit 58 0)) = (d.val == 0) := by
    rw [A.code_table, Bool.eq_iff_iff, beq_iff_eq, beq_iff_eq, A.code_inj, Fin.ext_iff]
    rfl
  rw [zeroCount, List.takeWhile_map, List.length_map]
  simp only [Function.comp_def, hzero]

theorem read_eq_map_readDigits (A : Alphabet) (text : Bytes) : read A text = (readDigits A 0 text).map ofDigits := by
  have hfits {ys : Bytes} {ds : List (Fin 58)} (hys : ys <+: text) (h : readDigits A 0 ys = .ok ds) :
      Fits 256 text.length ds := fits_of_readDigits h hys.length_le
  have hfill : fill A text.length 0 [] text = (readDigits A 0 text).map fun ds => (rebase 256 ds).reverse :=
    fill_eq_map_readDigits 0 [] text fun ys ds hys h => (hfits hys h).reading ds List.prefix_rfl
  rw [read, hfill]
  cases hr : readDigits A 0 text with
  | error fault => rfl
  | ok ds =>
    have hroom : (transfer 256 ds).length ≤ text.length := (hfits List.prefix_rfl hr).done
    have hpadded : (rebase 256 ds).reverse ++ List.replicate (zeroCount A text) (digit 256 0) =
        (transfer 256 ds).reverse := by
      rw [eq_codes_of_readDigits hr, zeroCount_codes, transfer, List.reverse_append, List.reverse_replicate]
    simp only [Except.map, hpadded, List.length_reverse, List.reverse_reverse]
    rw [if_neg (Nat.not_lt.mpr hroom), ofDigits]

theorem readDigits_ne_noRoom (A : Alphabet) (offset : ℕ) (xs : Bytes) : readDigits A offset xs ≠ .error .noRoom := by
  induction xs generalizing offset with
  | nil =>
    intro h
    cases h
  | cons x xs ih =>
    intro h
    rw [readDigits] at h
    split at h
    · cases h
    · split at h
      next => cases h
      next => exact ih (offset + 1) (map_eq_error_iff.mp h)

theorem read_ne_noRoom (A : Alphabet) (text : Bytes) : read A text ≠ .error .noRoom := by
  rw [read_eq_map_readDigits, Ne, map_eq_error_iff]
  exact readDigits_ne_noRoom A 0 text

theorem decode_eq_ok_iff_spell (A : Alphabet) (s : String) (b : Bytes) :
    decode A s = .ok b ↔ ∃ ds, s = A.spell ds ∧ ofDigits ds = b := by
  simp only [decode, read_eq_map_readDigits, mapError_eq_ok_iff, map_eq_ok_iff, readDigits_eq_ok_iff, ← A.utf8_spell,
    utf8_inj]

end ByteText.Base58
