import ByteText.Radix
import Mathlib

namespace ByteText.Radix

variable {a b : ℕ}

theorem value_eq_ofDigits (ds : List (Fin b)) : value ds = Nat.ofDigits b (ds.reverse.map Fin.val) := by
  induction ds using List.reverseRecOn with
  | nil => rfl
  | append_singleton ds d ih =>
    rw [value_concat, ih, List.reverse_append, List.reverse_singleton, List.singleton_append, List.map_cons,
      Nat.ofDigits_cons, Nat.mul_comm, Nat.add_comm]

variable [Base a] [Base b]

theorem value_zeros_append (k : ℕ) (ds : List (Fin b)) :
    value (List.replicate k (digit b 0) ++ ds) = value ds := by
  simp only [value_eq_ofDigits, List.reverse_append, List.reverse_replicate, List.map_append, List.map_replicate,
    val_digit, Nat.zero_mod, Nat.ofDigits_append_replicate_zero]

theorem digits_value {ds : List (Fin b)} (hd : Minimal ds) : Nat.digits b (value ds) = ds.reverse.map Fin.val := by
  rw [value_eq_ofDigits]
  apply Nat.digits_ofDigits b Base.one_lt
  · simp
  · intro hne
    cases ds with
    | nil => simp at hne
    | cons d ds =>
      have hd0 : d.val ≠ 0 := hd d rfl
      simpa using hd0

theorem Minimal.eq_of_value_eq {ds es : List (Fin b)} (hd : Minimal ds) (he : Minimal es)
    (h : value ds = value es) : ds = es := by
  have hdigits : ds.reverse.map Fin.val = es.reverse.map Fin.val := by
    rw [← digits_value hd, ← digits_value he, h]
  exact List.reverse_injective (List.map_injective_iff.mpr Fin.val_injective hdigits)

theorem rebase_eq_iff (ds : List (Fin a)) (es : List (Fin b)) :
    rebase b ds = es ↔ Minimal es ∧ value es = value ds := by
  constructor
  · rintro rfl
    exact ⟨minimal_rebase ds, value_rebase ds⟩
  · rintro ⟨he, hv⟩
    exact (minimal_rebase ds).eq_of_value_eq he ((value_rebase ds).trans hv.symm)

theorem eq_digit_zero {d : Fin b} (hd : d.val = 0) : d = digit b 0 := by
  apply Fin.ext
  rw [hd, val_digit, Nat.zero_mod]

theorem exists_eq_zeros_append (ds : List (Fin b)) :
    ∃ k es, Minimal es ∧ ds = List.replicate k (digit b 0) ++ es := by
  induction ds with
  | nil => exact ⟨0, [], nofun, rfl⟩
  | cons d ds ih =>
    by_cases hd : d.val = 0
    · obtain ⟨k, es, he, rfl⟩ := ih
      exact ⟨k + 1, es, he, by rw [eq_digit_zero hd, List.replicate_succ, List.cons_append]⟩
    · exact ⟨0, d :: ds, by simpa [Minimal] using hd, rfl⟩

theorem takeWhile_zeros_append {es : List (Fin b)} (he : Minimal es) (k : ℕ) :
    (List.replicate k (digit b 0) ++ es).takeWhile (fun d => d.val == 0) = List.replicate k (digit b 0) := by
  have hes : es.takeWhile (fun d => d.val == 0) = [] := by
    cases es with
    | nil => rfl
    | cons e es =>
      have he0 : e.val ≠ 0 := he e rfl
      simp [he0]
  rw [List.takeWhile_append_of_pos (by simp), hes, List.append_nil]

theorem transfer_zeros_append {ds : List (Fin a)} (hd : Minimal ds) (k : ℕ) :
    transfer b (List.replicate k (digit a 0) ++ ds) =
      List.replicate k (digit b 0) ++ rebase b (List.replicate k (digit a 0) ++ ds) := by
  rw [transfer, takeWhile_zeros_append hd, List.length_replicate]

theorem rebase_zeros_append (k : ℕ) (ds : List (Fin a)) :
    rebase b (List.replicate k (digit a 0) ++ ds) = rebase b ds := by
  rw [rebase_eq_iff, value_zeros_append]
  exact ⟨minimal_rebase ds, value_rebase ds⟩

theorem transfer_transfer (ds : List (Fin a)) : transfer a (transfer b ds) = ds := by
  obtain ⟨k, es, he, rfl⟩ := exists_eq_zeros_append ds
  -- The zeros agree, so what is left is that `es` is the minimal numeral of its value.
  have hback : rebase a (rebase b es) = es := (rebase_eq_iff _ es).mpr ⟨he, (value_rebase es).symm⟩
  rw [transfer_zeros_append he, rebase_zeros_append, transfer_zeros_append (minimal_rebase es), rebase_zeros_append,
    hback]

end ByteText.Radix
