import ByteText.Proofs.NumeralUniqueness

namespace ByteText.Radix

variable {a b : ℕ} [Base b]

theorem length_le_length_mulAdd (factor : ℕ) (ds : List (Fin b)) (carry : ℕ) :
    ds.length ≤ (mulAdd factor ds carry).length := by
  induction ds generalizing carry with
  | nil => exact Nat.zero_le _
  | cons d ds ih => simpa [mulAdd] using ih _

theorem length_rebase_le_append (ds es : List (Fin a)) : (rebase b ds).length ≤ (rebase b (ds ++ es)).length := by
  induction es using List.reverseRecOn with
  | nil => rw [List.append_nil]
  | append_singleton es e ih =>
    apply ih.trans
    rw [← List.append_assoc]
    simpa [rebase] using length_le_length_mulAdd a ((ds ++ es).foldl (fun acc d => mulAdd a acc d.val) []) e.val

/-- A change of base never holds more than `size` digits, not while it reads and not with the leading zeros at its
end. -/
structure Fits (b : ℕ) [Base b] (size : ℕ) (ds : List (Fin a)) : Prop where
  reading : ∀ pre, pre <+: ds → (rebase b pre).length ≤ size
  done : (transfer b ds).length ≤ size

theorem fits_of_length_le {size : ℕ} {ds : List (Fin a)} (h : (transfer b ds).length ≤ size) : Fits b size ds where
  reading := by
    rintro pre ⟨post, rfl⟩
    have hpre : (rebase b pre).length ≤ (rebase b (pre ++ post)).length := length_rebase_le_append pre post
    rw [transfer, List.length_append] at h
    omega
  done := h

theorem value_lt_pow (ds : List (Fin b)) : value ds < b ^ ds.length := by
  have h : Nat.ofDigits b (ds.reverse.map Fin.val) < b ^ (ds.reverse.map Fin.val).length := by
    apply Nat.ofDigits_lt_base_pow_length Base.one_lt
    simp
  simpa [value_eq_ofDigits] using h

theorem Minimal.pow_le_value {ds : List (Fin b)} (hd : Minimal ds) {n : ℕ} (hn : n < ds.length) : b ^ n ≤ value ds := by
  apply (Nat.lt_digits_length_iff Base.one_lt _).mp
  simpa [digits_value hd] using hn

variable [Base a]

theorem length_rebase_lt {p q : ℕ} (hp : 0 < p) (hpow : a ^ p ≤ b ^ q) (ds : List (Fin a)) :
    p * (rebase b ds).length < q * ds.length + p := by
  cases hn : (rebase b ds).length with
  | zero => omega
  | succ n =>
    by_contra h
    have hexp : q * ds.length ≤ n * p := by linarith
    have hlow : b ^ n ≤ value ds := by
      rw [← value_rebase (b := b) ds]
      apply (minimal_rebase ds).pow_le_value
      omega
    have hlt : b ^ (q * ds.length) < b ^ (q * ds.length) :=
      calc b ^ (q * ds.length) ≤ b ^ (n * p) := Nat.pow_le_pow_right (Base.pos b) hexp
        _ = (b ^ n) ^ p := pow_mul b n p
        _ ≤ value ds ^ p := Nat.pow_le_pow_left hlow p
        _ < (a ^ ds.length) ^ p := Nat.pow_lt_pow_left (value_lt_pow ds) hp.ne'
        _ = (a ^ p) ^ ds.length := pow_right_comm a ds.length p
        _ ≤ (b ^ q) ^ ds.length := Nat.pow_le_pow_left hpow ds.length
        _ = b ^ (q * ds.length) := (pow_mul b q ds.length).symm
    exact lt_irrefl _ hlt

theorem length_transfer_lt {p q : ℕ} (hp : 0 < p) (hpq : p ≤ q) (hpow : a ^ p ≤ b ^ q) (ds : List (Fin a)) :
    p * (transfer b ds).length < q * ds.length + p := by
  obtain ⟨k, es, he, rfl⟩ := exists_eq_zeros_append ds
  have hes := length_rebase_lt hp hpow es
  have hk := Nat.mul_le_mul_right k hpq
  rw [transfer_zeros_append he, rebase_zeros_append]
  simp only [List.length_append, List.length_replicate, Nat.mul_add]
  omega

end ByteText.Radix
