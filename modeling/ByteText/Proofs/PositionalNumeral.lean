import ByteText.Proofs.SymbolExchange

namespace ByteText

def Leads {α : Type} (x : α) (k : ℕ) (xs : List α) : Prop :=
  xs.take k = List.replicate k x ∧ xs[k]? ≠ some x

instance {α : Type} [DecidableEq α] (x : α) (k : ℕ) (xs : List α) : Decidable (Leads x k xs) :=
  inferInstanceAs (Decidable (_ ∧ _))

theorem leads_map_iff {α β : Type} {f : α → β} (hf : Function.Injective f) {x : α} {k : ℕ} {xs : List α} :
    Leads (f x) k (xs.map f) ↔ Leads x k xs := by
  have htake : (xs.map f).take k = List.replicate k (f x) ↔ xs.take k = List.replicate k x := by
    rw [← List.map_take, ← List.map_replicate, (List.map_injective_iff.mpr hf).eq_iff]
  have hnext : (xs.map f)[k]? = some (f x) ↔ xs[k]? = some x := by
    rw [List.getElem?_map, ← Option.map_some, (Option.map_injective hf).eq_iff]
  rw [Leads, Leads, htake, Ne, hnext]

namespace Radix

structure IsNumeral {b : ℕ} (n : ℕ) (ds : List (Fin b)) : Prop where
  value_eq : value ds = n
  head_ne_zero : ∀ d ∈ ds.head?, d.val ≠ 0
  eq_nil : n = 0 → ds = []
  length_le : ∀ es : List (Fin b), value es = n → ds.length ≤ es.length

variable {a b : ℕ} [Base a] [Base b]

theorem Minimal.length_le {ds es : List (Fin b)} (hd : Minimal ds) (h : value es = value ds) :
    ds.length ≤ es.length := by
  obtain ⟨k, fs, hf, rfl⟩ := exists_eq_zeros_append es
  rw [value_zeros_append] at h
  rw [hf.eq_of_value_eq hd h, List.length_append]
  exact Nat.le_add_left _ _

theorem isNumeral_rebase (ds : List (Fin a)) : IsNumeral (value ds) (rebase b ds) := by
  have hmin : Minimal (rebase b ds) := minimal_rebase ds
  have hlen : ∀ es : List (Fin b), value es = value ds → (rebase b ds).length ≤ es.length := by
    intro es h
    apply hmin.length_le
    rw [h, value_rebase]
  refine ⟨value_rebase ds, hmin, fun h0 => ?_, hlen⟩
  exact List.eq_nil_of_length_eq_zero (Nat.le_zero.mp (hlen [] h0.symm))

theorem minimal_drop {k : ℕ} {ds : List (Fin b)} (h : ds[k]? ≠ some (digit b 0)) : Minimal (ds.drop k) := by
  intro d hd hd0
  rw [List.head?_drop, Option.mem_def] at hd
  apply h
  rw [hd, eq_digit_zero hd0]

theorem transfer_eq_of_leads {k : ℕ} {ds : List (Fin a)} (h : Leads (digit a 0) k ds) :
    transfer b ds = List.replicate k (digit b 0) ++ rebase b ds := by
  have hds : ds = List.replicate k (digit a 0) ++ ds.drop k := by rw [← h.1, List.take_append_drop]
  rw [hds]
  exact transfer_zeros_append (minimal_drop h.2) k

end Radix

open Radix

def byteDigits (bytes : Bytes) : List (Fin 256) :=
  bytes.map UInt8.toFin

namespace Base58

theorem encode_eq_zeros_append_numeral (A : Alphabet) {k : ℕ} {b : Bytes} (hk : Leads 0 k b) :
    ∃ ds : List (Fin 58), IsNumeral (value (byteDigits b)) ds ∧
      encode A b = String.ofList (List.replicate k A.zero ++ ds.map A.symbol) := by
  have hinj : Function.Injective UInt8.toFin := fun _ _ => UInt8.toFin_inj.mp
  have hzeros : Leads (digit 256 0) k (byteDigits b) := (leads_map_iff hinj).mpr hk
  have hdigits : toDigits b = List.replicate k 0 ++ rebase 58 (byteDigits b) := transfer_eq_of_leads hzeros
  refine ⟨rebase 58 (byteDigits b), isNumeral_rebase _, ?_⟩
  rw [encode, A.spell_eq_ofList, hdigits, List.map_append, List.map_replicate]
  rfl

theorem encode_eq_zeros_append_numeral_ripple : Leads (0 : UInt8) 2 [0, 0, 58] ∧
    ∃ ds : List (Fin 58), IsNumeral (value (byteDigits [0, 0, 58])) ds ∧
      encode .ripple [0, 0, 58] =
        String.ofList (List.replicate 2 Alphabet.ripple.zero ++ ds.map Alphabet.ripple.symbol) := by
  have hk : Leads (0 : UInt8) 2 [0, 0, 58] := by decide
  exact ⟨hk, encode_eq_zeros_append_numeral .ripple hk⟩

theorem decode_eq_zeros_append_numeral (A : Alphabet) {k : ℕ} {s : String}
    (hs : ∀ c ∈ s.toList, c ∈ A.symbols.toList) (hk : Leads A.zero k s.toList) :
    ∃ ds : List (Fin 58), ∃ r : Bytes, s.toList.map A.digit? = ds.map some ∧
      IsNumeral (value ds) (byteDigits r) ∧ decode A s = .ok (List.replicate k 0 ++ r) := by
  obtain ⟨ds, rfl⟩ := A.exists_eq_spell hs
  have hsymbols : (A.spell ds).toList = ds.map A.symbol := by rw [A.spell_eq_ofList, String.toList_ofList]
  have hinj : Function.Injective A.symbol := fun _ _ => A.symbol_inj.mp
  have hzeros : Leads (digit 58 0) k ds := by
    rw [hsymbols] at hk
    exact (leads_map_iff hinj).mp hk
  refine ⟨ds, (rebase 256 ds).map UInt8.ofFin, ?_, ?_, ?_⟩
  · rw [hsymbols, List.map_map]
    apply List.map_congr_left
    intro d _
    exact (A.digit?_eq_some_iff _ d).mpr rfl
  · rw [byteDigits, map_toFin_map_ofFin]
    exact isNumeral_rebase ds
  · rw [decode_spell, ofDigits, transfer_eq_of_leads hzeros, List.map_append, List.map_replicate]
    rfl

theorem decode_eq_zeros_append_numeral_inner_zero : (∀ c ∈ "rrpr".toList, c ∈ Alphabet.ripple.symbols.toList) ∧
    Leads Alphabet.ripple.zero 2 "rrpr".toList ∧
    ∃ ds : List (Fin 58), ∃ r : Bytes, "rrpr".toList.map Alphabet.ripple.digit? = ds.map some ∧
      IsNumeral (value ds) (byteDigits r) ∧ decode .ripple "rrpr" = .ok (List.replicate 2 0 ++ r) := by
  have hall : "rrpr".toList.all (Alphabet.ripple.symbols.toList.contains ·) := by decide +kernel
  have hs : ∀ c ∈ "rrpr".toList, c ∈ Alphabet.ripple.symbols.toList := by
    simpa only [List.all_eq_true, List.contains_iff_mem] using hall
  have hk : Leads Alphabet.ripple.zero 2 "rrpr".toList := by decide +kernel
  exact ⟨hs, hk, decode_eq_zeros_append_numeral .ripple hs hk⟩

end Base58

end ByteText
