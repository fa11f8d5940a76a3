import ByteText.Base16
import ByteText.Proofs.ForeignCharacter

namespace ByteText

theorem length_utf8_of_ascii {s : String} (h : ∀ c ∈ s.toList, c.toNat < 128) : (utf8 s).length = s.length := by
  rw [utf8, List.length_flatMap, ← String.length_toList]
  have hone : s.toList.map (fun c => (String.utf8EncodeChar c).length) = s.toList.map fun _ => 1 := by
    apply List.map_congr_left
    intro c hc
    rw [utf8EncodeChar_of_ascii (Nat.le_of_lt_succ (h c hc))]
    rfl
  rw [hone]
  simp

namespace HexDigit

variable {c : Char}

theorem isSome_ofChar?_iff (c : Char) : (ofChar? c).isSome ↔ c.isHexDigit := by
  simp only [ofChar?, Char.isHexDigit, Char.isDigit, Char.le_def]
  split_ifs <;> simp_all

theorem ofChar?_eq_none_iff (c : Char) : ofChar? c = none ↔ ¬ c.isHexDigit := by
  rw [← isSome_ofChar?_iff, Option.not_isSome_iff_eq_none]

theorem toNat_lt_of_isHexDigit (h : c.isHexDigit) : c.toNat < 128 := by
  simp only [Char.isHexDigit, Char.isDigit, Bool.or_eq_true, Bool.and_eq_true, decide_eq_true_eq, ge_iff_le,
    UInt32.le_iff_toNat_le] at h
  change (48 ≤ c.toNat ∧ c.toNat ≤ 57 ∨ 97 ≤ c.toNat ∧ c.toNat ≤ 102) ∨ 65 ≤ c.toNat ∧ c.toNat ≤ 70 at h
  omega

theorem isHexDigit_char (d : Fin 16) : (char d).isHexDigit := by
  simp [← isSome_ofChar?_iff]

theorem ofChar?_ofNat_eq_some_iff (n : Fin 128) (d : Fin 16) :
    ofChar? (Char.ofNat n) = some d ↔ (Char.ofNat n).toLower = char d := by
  revert n d
  decide +kernel

theorem ofChar?_eq_some_iff (c : Char) (d : Fin 16) : ofChar? c = some d ↔ c.toLower = char d := by
  by_cases hc : c.toNat < 128
  · rw [← Char.ofNat_toNat c]
    exact ofChar?_ofNat_eq_some_iff ⟨c.toNat, hc⟩ d
  · have hu : ¬ c.isUpper := by
      rw [Char.isUpper, decide_eq_true_eq, ge_iff_le, UInt32.le_iff_toNat_le, UInt32.le_iff_toNat_le]
      change ¬ (65 ≤ c.toNat ∧ c.toNat ≤ 90)
      omega
    rw [Char.toLower_eq_of_not_isUpper hu]
    constructor
    · intro h
      have hs : (ofChar? c).isSome := by simp [h]
      exact absurd (toNat_lt_of_isHexDigit ((isSome_ofChar?_iff c).mp hs)) hc
    · rintro rfl
      exact absurd (toNat_lt_of_isHexDigit (isHexDigit_char d)) hc

theorem high_join (h l : Fin 16) : high (join h l) = h := by
  apply Fin.ext
  simp only [high, join, Fin.val_ofNat, UInt8.toNat_ofNat']
  omega

theorem low_join (h l : Fin 16) : low (join h l) = l := by
  apply Fin.ext
  simp only [low, join, Fin.val_ofNat, UInt8.toNat_ofNat']
  omega

theorem pairs_cons (x : UInt8) (xs : Bytes) : pairs (x :: xs) = char (high x) :: char (low x) :: pairs xs := rfl

theorem eq_pairs_iff (c d : Char) (cs : List Char) (b : Bytes) :
    c :: d :: cs = pairs b ↔ ∃ h l xs, c = char h ∧ d = char l ∧ cs = pairs xs ∧ b = join h l :: xs := by
  constructor
  · intro hb
    cases b with
    | nil => simp [pairs] at hb
    | cons x xs =>
      simp only [pairs_cons, List.cons.injEq] at hb
      exact ⟨high x, low x, xs, hb.1, hb.2.1, hb.2.2, by rw [join_high_low]⟩
  · rintro ⟨h, l, xs, rfl, rfl, rfl, rfl⟩
    rw [pairs_cons, high_join, low_join]

theorem length_pairs (b : Bytes) : (pairs b).length = 2 * b.length := by
  induction b with
  | nil => rfl
  | cons x xs ih =>
    simp only [pairs_cons, List.length_cons, ih]
    omega

theorem isHexDigit_of_mem_pairs {b : Bytes} (h : c ∈ pairs b) : c.isHexDigit := by
  obtain ⟨x, -, hx⟩ := List.mem_flatMap.mp h
  simp only [pair, List.mem_cons, List.not_mem_nil, or_false] at hx
  rcases hx with rfl | rfl
  · exact isHexDigit_char _
  · exact isHexDigit_char _

end HexDigit

namespace Base16

open HexDigit

variable {s : String} {cs : List Char}

theorem joinPairs_cons_cons_eq_ok_iff (index : ℕ) (c d : Char) (cs : List Char) (b : Bytes) :
    joinPairs index (c :: d :: cs) = .ok b ↔
      ∃ h l xs, ofChar? c = some h ∧ ofChar? d = some l ∧ joinPairs (index + 2) cs = .ok xs ∧ b = join h l :: xs := by
  rw [joinPairs]
  cases hc : ofChar? c with
  | none => simp
  | some h =>
    cases hd : ofChar? d with
    | none => simp
    | some l =>
      rw [map_eq_ok_iff]
      simp [eq_comm]

theorem joinPairs_eq_ok_iff (index : ℕ) (cs : List Char) (b : Bytes) :
    joinPairs index cs = .ok b ↔ cs.map Char.toLower = pairs b := by
  induction cs using List.twoStepInduction generalizing index b with
  | nil => cases b <;> simp [joinPairs, pairs, pair]
  | singleton c => cases b <;> simp [joinPairs, pairs, pair]
  | cons_cons c d cs ih =>
    rw [joinPairs_cons_cons_eq_ok_iff, List.map_cons, List.map_cons, eq_pairs_iff]
    simp only [ofChar?_eq_some_iff, ih]

theorem joinFrom_eq_ok_iff (index : ℕ) (cs : List Char) (b : Bytes) :
    joinFrom index cs = .ok b ↔ cs.map Char.toLower = pairs b := by
  rw [joinFrom]
  split
  next => exact joinPairs_eq_ok_iff index cs b
  next hodd =>
    refine iff_of_false nofun fun h => hodd ?_
    rw [← List.length_map Char.toLower, h, length_pairs]
    exact Nat.mul_mod_right 2 b.length

theorem exists_joinPairs_eq_ok (index : ℕ) (hcs : ∀ c ∈ cs, c.isHexDigit) (he : Even cs.length) :
    ∃ b, joinPairs index cs = .ok b := by
  induction cs using List.twoStepInduction generalizing index with
  | nil => exact ⟨[], rfl⟩
  | singleton c => simp at he
  | cons_cons c d cs ih =>
    have hc : (ofChar? c).isSome := (isSome_ofChar?_iff c).mpr (hcs c (by simp))
    have hd : (ofChar? d).isSome := (isSome_ofChar?_iff d).mpr (hcs d (by simp))
    have he' : Even cs.length := by simpa [Nat.even_add_one] using he
    obtain ⟨h, hc⟩ := Option.isSome_iff_exists.mp hc
    obtain ⟨l, hd⟩ := Option.isSome_iff_exists.mp hd
    obtain ⟨xs, hxs⟩ := ih (index + 2) (fun e he => hcs e (by simp [he])) he'
    exact ⟨join h l :: xs, (joinPairs_cons_cons_eq_ok_iff index c d cs _).mpr ⟨h, l, xs, hc, hd, hxs, rfl⟩⟩

theorem exists_joinFrom_eq_ok (index : ℕ) (hcs : ∀ c ∈ cs, c.isHexDigit) (he : Even cs.length) :
    ∃ b, joinFrom index cs = .ok b := by
  rw [joinFrom, if_pos (Nat.even_iff.mp he)]
  exact exists_joinPairs_eq_ok index hcs he

def padded (s : String) : List Char :=
  List.replicate ((utf8 s).length % 2) '0' ++ s.toList

def normal (s : String) : String :=
  if Even s.length then s.toLower else "0" ++ s.toLower

def IsHex (s : String) : Prop :=
  ∀ c ∈ s.toList, c.isHexDigit

instance (s : String) : Decidable (IsHex s) :=
  decidable_of_iff (s.toList.all Char.isHexDigit) List.all_eq_true

theorem IsHex.padded_eq (hs : IsHex s) : padded s = if Even s.length then s.toList else '0' :: s.toList := by
  rw [padded, length_utf8_of_ascii fun c hc => toNat_lt_of_isHexDigit (hs c hc)]
  split_ifs with he
  · rw [Nat.even_iff.mp he]
    rfl
  · rw [Nat.not_even_iff.mp he]
    rfl

theorem IsHex.even_length_padded (hs : IsHex s) : Even (padded s).length := by
  rw [hs.padded_eq]
  split_ifs with he
  · rwa [String.length_toList]
  · rwa [List.length_cons, String.length_toList, Nat.even_add_one]

theorem IsHex.map_toLower_padded (hs : IsHex s) : (padded s).map Char.toLower = (normal s).toList := by
  rw [hs.padded_eq, normal]
  split_ifs
  · simp [String.toLower]
  · simp [String.toLower]

theorem IsHex.joinFrom_padded_eq_ok_iff (hs : IsHex s) (b : Bytes) :
    joinFrom 0 (padded s) = .ok b ↔ encode b = normal s := by
  rw [joinFrom_eq_ok_iff, hs.map_toLower_padded, encode, ← String.toList_inj, String.toList_ofList]
  exact eq_comm

theorem IsHex.exists_joinFrom_padded (hs : IsHex s) : ∃ b, joinFrom 0 (padded s) = .ok b := by
  apply exists_joinFrom_eq_ok 0 _ hs.even_length_padded
  intro c hc
  rcases List.mem_append.mp hc with hc | hc
  · rw [List.eq_of_mem_replicate hc]
    rfl
  · exact hs c hc

theorem foreign?_eq_some_iff (cs : List Char) (c : Char) (i : ℕ) :
    foreign? cs = some (c, i) ↔ FirstForeign ofChar? cs c i := by
  rw [foreign?, List.find?_eq_some_iff_getElem]
  simp only [List.length_zipIdx, List.getElem_zipIdx, Nat.zero_add, Prod.mk.injEq, Option.isNone_iff_eq_none,
    Bool.not_eq_true']
  constructor
  · rintro ⟨hc, j, hj, ⟨hcj, rfl⟩, hbefore⟩
    have hget : cs[j]? = some c := List.getElem?_eq_some_iff.mpr ⟨hj, hcj⟩
    refine ⟨⟨⟨c, hget, hc⟩, ?_⟩, hget⟩
    rintro k ⟨d, hd, hnone⟩
    by_contra hk
    obtain ⟨hlen, hdk⟩ := List.getElem?_eq_some_iff.mp hd
    have hsome := hbefore k (by omega)
    rw [hdk, hnone] at hsome
    cases hsome
  · intro h
    obtain ⟨hi, hc⟩ := List.getElem?_eq_some_iff.mp h.char_eq
    refine ⟨h.digit?_eq_none, i, hi, ⟨hc, rfl⟩, fun j hj => ?_⟩
    have hmem : cs[j] ∈ cs.take i := List.mem_take_iff_getElem.mpr ⟨j, by omega, rfl⟩
    simpa using h.isSome_of_mem_take _ hmem

theorem foreign?_eq_none_iff (s : String) : foreign? s.toList = none ↔ IsHex s := by
  simp only [IsHex, ← isSome_ofChar?_iff]
  constructor
  · intro h
    by_contra hs
    obtain ⟨c, i, hc⟩ := exists_firstForeign hs
    rw [(foreign?_eq_some_iff _ c i).mpr hc] at h
    cases h
  · intro hs
    cases hf : foreign? s.toList with
    | none => rfl
    | some f =>
      have hc := (foreign?_eq_some_iff _ f.1 f.2).mp hf
      have hsome := hs f.1 (List.mem_of_getElem? hc.char_eq)
      rw [hc.digit?_eq_none] at hsome
      cases hsome

theorem IsHex.decode_eq (hs : IsHex s) : decode s =
    (joinFrom 0 (padded s)).mapError (Fault.errorIn ((utf8 s).length % 2) (padded s).length) := by
  rw [decode, (foreign?_eq_none_iff s).mpr hs]
  rfl

theorem IsHex.decode_eq_ok_iff_joinFrom (hs : IsHex s) (b : Bytes) :
    decode s = .ok b ↔ joinFrom 0 (padded s) = .ok b := by
  rw [hs.decode_eq, mapError_eq_ok_iff]

theorem IsHex.decode_eq_ok_iff (hs : IsHex s) (b : Bytes) : decode s = .ok b ↔ encode b = normal s := by
  rw [hs.decode_eq_ok_iff_joinFrom, hs.joinFrom_padded_eq_ok_iff]

theorem IsHex.exists_decode_eq_ok (hs : IsHex s) : ∃ b, decode s = .ok b := by
  obtain ⟨b, hb⟩ := hs.exists_joinFrom_padded
  exact ⟨b, (hs.decode_eq_ok_iff_joinFrom b).mpr hb⟩

theorem isHex_encode (b : Bytes) : IsHex (encode b) := by
  intro c hc
  rw [encode, String.toList_ofList] at hc
  exact isHexDigit_of_mem_pairs hc

theorem normal_encode (b : Bytes) : normal (encode b) = encode b := by
  have hlower : (pairs b).map Char.toLower = pairs b := (joinPairs_eq_ok_iff 0 _ b).mp (joinPairs_pairs 0 b)
  have he : Even (encode b).length := by
    rw [encode, String.length_ofList, length_pairs]
    exact even_two_mul b.length
  rw [normal, if_pos he, encode, ← String.toList_inj]
  simp [String.toLower, hlower]

theorem decode_encode_eq (b : Bytes) : decode (encode b) = .ok b :=
  ((isHex_encode b).decode_eq_ok_iff b).mpr (normal_encode b).symm

theorem encode_injective : Function.Injective encode := by
  intro b c h
  have hb := decode_encode_eq b
  rw [h, decode_encode_eq] at hb
  exact (Except.ok.inj hb).symm

theorem decode_reads_normal_form :
    (∀ b, decode (encode b) = .ok b) ∧
      (∀ s, IsHex s → ∃ b, decode s = .ok b ∧ encode b = normal s) ∧
      ∀ s t, IsHex s → IsHex t → (decode s = decode t ↔ normal s = normal t) := by
  refine ⟨decode_encode_eq, fun s hs => ?_, fun s t hs ht => ?_⟩
  · obtain ⟨b, hb⟩ := hs.exists_decode_eq_ok
    exact ⟨b, hb, (hs.decode_eq_ok_iff b).mp hb⟩
  · obtain ⟨b, hb⟩ := hs.exists_decode_eq_ok
    obtain ⟨c, hc⟩ := ht.exists_decode_eq_ok
    rw [hb, hc, ← (hs.decode_eq_ok_iff b).mp hb, ← (ht.decode_eq_ok_iff c).mp hc, encode_injective.eq_iff,
      Except.ok.injEq]

theorem decode_reads_normal_form_mixed_case : IsHex "aBC" ∧ IsHex "0AbC" ∧
    (∃ b, decode "aBC" = .ok b ∧ encode b = normal "aBC") ∧
    (decode "aBC" = decode "0AbC" ↔ normal "aBC" = normal "0AbC") := by
  have hs : IsHex "aBC" := by decide
  have ht : IsHex "0AbC" := by decide
  exact ⟨hs, ht, decode_reads_normal_form.2.1 _ hs, decode_reads_normal_form.2.2 _ _ hs ht⟩

theorem decode_of_firstForeign {c : Char} {i : ℕ} (h : FirstForeign ofChar? s.toList c i) :
    decode s = .error (.invalidCharacter c i) := by
  rw [decode, (foreign?_eq_some_iff _ c i).mpr h]

theorem decode_eq_error_iff (s : String) (e : DecodeError) :
    decode s = .error e ↔ ∃ c i, FirstForeign ofChar? s.toList c i ∧ e = .invalidCharacter c i := by
  apply eq_error_iff_firstForeign
  · intro hs
    simp only [isSome_ofChar?_iff] at hs
    exact IsHex.exists_decode_eq_ok hs
  · exact fun c i => decode_of_firstForeign

theorem exists_decode_eq_error_iff (s : String) : (∃ e, decode s = .error e) ↔ ¬ IsHex s := by
  constructor
  · rintro ⟨e, he⟩ hs
    obtain ⟨b, hb⟩ := hs.exists_decode_eq_ok
    rw [he] at hb
    cases hb
  · intro hs
    simp only [IsHex, ← isSome_ofChar?_iff] at hs
    obtain ⟨c, i, hc⟩ := exists_firstForeign hs
    exact ⟨_, decode_of_firstForeign hc⟩

theorem firstForeign_iff (cs : List Char) (c : Char) (i : ℕ) :
    FirstForeign ofChar? cs c i ↔ IsLeast {j | ∃ d, cs[j]? = some d ∧ ¬ d.isHexDigit} i ∧ cs[i]? = some c := by
  have hset : {j | ForeignAt ofChar? cs j} = {j | ∃ d, cs[j]? = some d ∧ ¬ d.isHexDigit} := by
    simp only [ForeignAt, ofChar?_eq_none_iff]
  rw [← hset]
  exact ⟨fun h => ⟨h.least, h.char_eq⟩, fun h => ⟨h.1, h.2⟩⟩

theorem decode_refuses_first_nondigit (s : String) :
    ((∃ e, decode s = .error e) ↔ ∃ c ∈ s.toList, ¬ c.isHexDigit) ∧
      (∀ c i, decode s = .error (.invalidCharacter c i) ↔
        IsLeast {j | ∃ d, s.toList[j]? = some d ∧ ¬ d.isHexDigit} i ∧ s.toList[i]? = some c) ∧
      (∀ message, decode s ≠ .error (.invalidDataLength message)) ∧
      (foreign? s.toList = none → ∃ b, joinFrom 0 (padded s) = .ok b ∧ decode s = .ok b) := by
  refine ⟨?_, fun c i => ?_, fun message h => ?_, fun h => ?_⟩
  · rw [exists_decode_eq_error_iff, IsHex]
    push Not
    rfl
  · rw [decode_eq_error_iff, ← firstForeign_iff]
    constructor
    · rintro ⟨d, j, hd, he⟩
      cases he
      exact hd
    · exact fun h => ⟨c, i, h, rfl⟩
  · obtain ⟨c, i, -, he⟩ := (decode_eq_error_iff s _).mp h
    cases he
  · have hs : IsHex s := (foreign?_eq_none_iff s).mp h
    obtain ⟨b, hb⟩ := hs.exists_joinFrom_padded
    exact ⟨b, hb, (hs.decode_eq_ok_iff_joinFrom b).mpr hb⟩

theorem decode_refuses_first_nondigit_odd : foreign? "aBC".toList = none ∧
    ∃ b, joinFrom 0 (padded "aBC") = .ok b ∧ decode "aBC" = .ok b := by
  have h : foreign? "aBC".toList = none := by decide
  exact ⟨h, (decode_refuses_first_nondigit "aBC").2.2.2 h⟩

end Base16

end ByteText
