namespace ByteText.Radix

class Base (b : Nat) : Prop where
  one_lt : 1 < b

instance base16 : Base 16 := ⟨by decide⟩

instance base58 : Base 58 := ⟨by decide⟩

instance base256 : Base 256 := ⟨by decide⟩

theorem Base.pos (b : Nat) [Base b] : 0 < b :=
  Nat.lt_trans Nat.zero_lt_one Base.one_lt

variable {a b : Nat}

def value (digits : List (Fin b)) : Nat :=
  digits.foldl (fun n d => n * b + d.val) 0

def Minimal (digits : List (Fin b)) : Prop :=
  ∀ d ∈ digits.head?, d.val ≠ 0

@[simp] theorem value_nil : value ([] : List (Fin b)) = 0 := rfl

@[simp] theorem value_concat (ds : List (Fin b)) (d : Fin b) : value (ds ++ [d]) = value ds * b + d.val := by
  simp [value]

variable [Base b]

def digit (b : Nat) [Base b] (n : Nat) : Fin b :=
  ⟨n % b, Nat.mod_lt n (Base.pos b)⟩

def carryOut (b : Nat) [Base b] (carry : Nat) : List (Fin b) :=
  if 0 < carry then digit b carry :: carryOut b (carry / b) else []
termination_by carry
decreasing_by exact Nat.div_lt_self ‹_› Base.one_lt

/-- Multiplies a numeral, least significant digit first, and adds a carry. -/
def mulAdd (factor : Nat) : List (Fin b) → Nat → List (Fin b)
  | [], carry => carryOut b carry
  | d :: ds, carry => digit b (d.val * factor + carry) :: mulAdd factor ds ((d.val * factor + carry) / b)

def rebase (b : Nat) [Base b] (digits : List (Fin a)) : List (Fin b) :=
  (digits.foldl (fun acc d => mulAdd a acc d.val) []).reverse

def transfer (b : Nat) [Base b] (digits : List (Fin a)) : List (Fin b) :=
  List.replicate (digits.takeWhile fun d => d.val == 0).length (digit b 0) ++ rebase b digits

@[simp] theorem val_digit (n : Nat) : (digit b n).val = n % b := rfl

theorem value_reverse_carryOut (carry : Nat) : value (carryOut b carry).reverse = carry := by
  induction carry using Nat.strongRecOn with
  | _ carry ih =>
    rw [carryOut]
    by_cases h : 0 < carry
    · simp [h, ih _ (Nat.div_lt_self h Base.one_lt), Nat.div_add_mod']
    · simp [h]; omega

theorem value_reverse_mulAdd (factor : Nat) (ds : List (Fin b)) (carry : Nat) :
    value (mulAdd factor ds carry).reverse = value ds.reverse * factor + carry := by
  induction ds generalizing carry with
  | nil => simp [mulAdd, value_reverse_carryOut]
  | cons d ds ih =>
    have h := Nat.div_add_mod' (d.val * factor + carry) b
    simp only [mulAdd, List.reverse_cons, value_concat, ih, val_digit, Nat.add_mul]
    rw [Nat.mul_right_comm]
    omega

theorem value_rebase (ds : List (Fin a)) : value (rebase b ds) = value ds := by
  suffices h : ∀ acc : List (Fin b), value (ds.foldl (fun acc d => mulAdd a acc d.val) acc).reverse =
      ds.foldl (fun n d => n * a + d.val) (value acc.reverse) by
    simpa [rebase, value] using h []
  induction ds with
  | nil => simp
  | cons d ds ih =>
    intro acc
    rw [List.foldl_cons, ih, value_reverse_mulAdd, List.foldl_cons]

theorem digit_ne_zero_of_carryOut_eq_nil {n : Nat} (hn : 0 < n) (h : carryOut b (n / b) = []) :
    (digit b n).val ≠ 0 := by
  have hq : n / b = 0 := by simpa [h] using (value_reverse_carryOut (b := b) (n / b)).symm
  have hlt : n < b := by
    have := Base.pos b
    rcases Nat.div_eq_zero_iff.mp hq with h0 | h0 <;> omega
  rw [val_digit, Nat.mod_eq_of_lt hlt]
  omega

theorem getLast?_carryOut (carry : Nat) : ∀ d ∈ (carryOut b carry).getLast?, d.val ≠ 0 := by
  induction carry using Nat.strongRecOn with
  | _ carry ih =>
    rw [carryOut]
    split
    next h =>
      rw [List.getLast?_cons]
      cases hd : (carryOut b (carry / b)).getLast? with
      | some d => simpa [hd] using ih (carry / b) (Nat.div_lt_self h Base.one_lt)
      | none =>
        have hn := digit_ne_zero_of_carryOut_eq_nil (b := b) h (List.getLast?_eq_none_iff.mp hd)
        simpa using hn
    next => simp

theorem getLast?_mulAdd {factor : Nat} (hf : 0 < factor) {ds : List (Fin b)}
    (hd : ∀ d ∈ ds.getLast?, d.val ≠ 0) (carry : Nat) : ∀ d ∈ (mulAdd factor ds carry).getLast?, d.val ≠ 0 := by
  induction ds generalizing carry with
  | nil => exact getLast?_carryOut carry
  | cons d ds ih =>
    have ht : ∀ e ∈ ds.getLast?, e.val ≠ 0 := by
      intro e he
      apply hd
      rw [List.getLast?_cons, Option.mem_def.mp he]
      rfl
    rw [mulAdd, List.getLast?_cons]
    cases he : (mulAdd factor ds ((d.val * factor + carry) / b)).getLast? with
    | some e => simpa [he] using ih ht ((d.val * factor + carry) / b)
    | none =>
      have hn := List.getLast?_eq_none_iff.mp he
      cases ds with
      | cons e es => simp [mulAdd] at hn
      | nil =>
        have hd0 : d.val ≠ 0 := hd d rfl
        have hp : 0 < d.val * factor := Nat.mul_pos (by omega) hf
        have h0 := digit_ne_zero_of_carryOut_eq_nil (b := b) (by omega) hn
        simpa using h0

theorem minimal_rebase [Base a] (ds : List (Fin a)) : Minimal (rebase b ds) := by
  suffices h : ∀ acc : List (Fin b), (∀ d ∈ acc.getLast?, d.val ≠ 0) →
      ∀ d ∈ (ds.foldl (fun acc d => mulAdd a acc d.val) acc).getLast?, d.val ≠ 0 by
    simpa [Minimal, rebase] using h [] (by simp)
  induction ds with
  | nil => exact fun _ h => h
  | cons d ds ih => exact fun acc h => ih _ (getLast?_mulAdd (Base.pos a) h _)

end ByteText.Radix
