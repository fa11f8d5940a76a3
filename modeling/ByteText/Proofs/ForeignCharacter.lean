import ByteText.Proofs.SymbolExchange

namespace ByteText

section Position

variable {α : Type} {digit? : Char → Option α} {cs : List Char} {c : Char} {i : ℕ}

def ForeignAt (digit? : Char → Option α) (cs : List Char) (i : ℕ) : Prop :=
  ∃ c, cs[i]? = some c ∧ digit? c = none

structure FirstForeign (digit? : Char → Option α) (cs : List Char) (c : Char) (i : ℕ) : Prop where
  least : IsLeast {j | ForeignAt digit? cs j} i
  char_eq : cs[i]? = some c

theorem FirstForeign.digit?_eq_none (h : FirstForeign digit? cs c i) : digit? c = none := by
  obtain ⟨d, hd, hnone⟩ := h.least.1
  rwa [Option.some.inj (h.char_eq.symm.trans hd)]

theorem FirstForeign.isSome_of_mem_take (h : FirstForeign digit? cs c i) : ∀ d ∈ cs.take i, (digit? d).isSome := by
  intro d hd
  obtain ⟨j, hj⟩ := List.mem_iff_getElem?.mp hd
  have hlt : j < i := by
    have hlen := (List.getElem?_eq_some_iff.mp hj).1
    rw [List.length_take] at hlen
    omega
  rw [List.getElem?_take_of_lt hlt] at hj
  by_contra hnone
  have hle : i ≤ j := h.least.2 ⟨d, hj, Option.not_isSome_iff_eq_none.mp hnone⟩
  omega

theorem FirstForeign.exists_eq_append (h : FirstForeign digit? cs c i) :
    ∃ pre post, cs = pre ++ c :: post ∧ pre.length = i ∧ ∀ d ∈ pre, (digit? d).isSome := by
  obtain ⟨hi, hc⟩ := List.getElem?_eq_some_iff.mp h.char_eq
  refine ⟨cs.take i, cs.drop (i + 1), ?_, ?_, h.isSome_of_mem_take⟩
  · rw [← hc, List.getElem_cons_drop, List.take_append_drop]
  · rw [List.length_take]
    omega

theorem exists_firstForeign (h : ¬ ∀ c ∈ cs, (digit? c).isSome) : ∃ c i, FirstForeign digit? cs c i := by
  have hne : {j | ForeignAt digit? cs j}.Nonempty := by
    push Not at h
    obtain ⟨c, hc, hnone⟩ := h
    obtain ⟨j, hj⟩ := List.mem_iff_getElem?.mp hc
    exact ⟨j, c, hj, by simpa using hnone⟩
  have hleast := isLeast_csInf hne
  obtain ⟨c, hc, -⟩ := hleast.1
  exact ⟨c, _, hleast, hc⟩

theorem eq_error_iff_firstForeign {β : Type} {r : Except DecodeError β}
    (hok : (∀ c ∈ cs, (digit? c).isSome) → ∃ b, r = .ok b)
    (hfirst : ∀ c i, FirstForeign digit? cs c i → r = .error (.invalidCharacter c i)) (e : DecodeError) :
    r = .error e ↔ ∃ c i, FirstForeign digit? cs c i ∧ e = .invalidCharacter c i := by
  constructor
  · intro h
    have hs : ¬ ∀ c ∈ cs, (digit? c).isSome := by
      intro hall
      obtain ⟨b, hb⟩ := hok hall
      rw [h] at hb
      cases hb
    obtain ⟨c, i, hc⟩ := exists_firstForeign hs
    rw [hfirst c i hc] at h
    exact ⟨c, i, hc, (Except.error.inj h).symm⟩
  · rintro ⟨c, i, hc, rfl⟩
    exact hfirst c i hc

end Position

section Utf8

variable {c : Char}

theorem exists_utf8EncodeChar_eq_cons (h : 127 < c.toNat) :
    ∃ x xs, String.utf8EncodeChar c = x :: xs ∧ 127 < x := by
  have hlead {n : ℕ} (h127 : 127 < n) (hn : n < 256) : (127 : UInt8) < UInt8.ofNat n :=
    (UInt8.ofNat_lt_iff_lt (by decide) hn).mpr h127
  have hc : ¬ c.val.toNat ≤ 127 := Nat.not_le.mpr h
  unfold String.utf8EncodeChar
  simp only [hc, if_false]
  split_ifs
  all_goals exact ⟨_, _, rfl, hlead (by omega) (by omega)⟩

theorem ofUInt8_ofNat_toNat (h : c.toNat ≤ 127) : Char.ofUInt8 (UInt8.ofNat c.toNat) = c := by
  apply Char.toNat_inj.mp
  change (UInt8.ofNat c.toNat).toUInt32.toNat = c.toNat
  rw [UInt8.toNat_toUInt32, UInt8.toNat_ofNat', Nat.mod_eq_of_lt (by omega)]

end Utf8

namespace Alphabet

variable (A : Alphabet)

theorem isSome_digit?_iff (c : Char) : (A.digit? c).isSome ↔ c ∈ A.symbols.toList := by
  simp only [Option.isSome_iff_exists, digit?_eq_some_iff, mem_symbols_iff]

theorem digitOf?_eq_none {c : Char} (h : c.toNat ≤ 127) (hc : A.digit? c = none) :
    A.digitOf? (UInt8.ofNat c.toNat) = none := by
  cases hd : A.digitOf? (UInt8.ofNat c.toNat) with
  | none => rfl
  | some d =>
    have hcode : A.code d = UInt8.ofNat c.toNat := (A.digitOf?_eq_some_iff _ d).mp hd
    have hsymbol : A.symbol d = c := by rw [symbol, hcode, ofUInt8_ofNat_toNat h]
    rw [(A.digit?_eq_some_iff c d).mpr hsymbol] at hc
    cases hc

theorem flatMap_symbols (ds : List (Fin 58)) : (ds.map A.symbol).flatMap String.utf8EncodeChar = ds.map A.code := by
  rw [← A.utf8_spell, utf8, spell_eq_ofList, String.toList_ofList]

end Alphabet

namespace Base58

section

variable {s : String} {pre post : List Char}

theorem errorIn_foreign_append (hs : s.toList = pre ++ post) (c : Char) :
    (Fault.foreign c (pre.flatMap String.utf8EncodeChar).length).errorIn s = .invalidCharacter c pre.length := by
  rw [Fault.errorIn, hs, position?_append, Option.getD_some]

theorem errorIn_nonAscii_append {c : Char} (hs : s.toList = pre ++ c :: post) :
    (Fault.nonAscii (pre.flatMap String.utf8EncodeChar).length).errorIn s = .invalidCharacter c pre.length := by
  rw [Fault.errorIn, hs, position?_append, charFrom?_append]
  rfl

end

variable {A : Alphabet} {s : String} {c : Char} {i : ℕ}

theorem readDigits_foreign (hc : A.digit? c = none) (offset : ℕ) (xs : Bytes) :
    readDigits A offset (String.utf8EncodeChar c ++ xs) = .error (.foreign c offset) ∨
      readDigits A offset (String.utf8EncodeChar c ++ xs) = .error (.nonAscii offset) := by
  by_cases h : c.toNat ≤ 127
  · left
    have hascii : ¬ 127 < UInt8.ofNat c.toNat := by
      rw [UInt8.lt_ofNat_iff (by change c.toNat < 256; omega)]
      exact Nat.not_lt.mpr h
    rw [utf8EncodeChar_of_ascii h, List.singleton_append, readDigits, if_neg hascii, A.digitOf?_eq_none h hc]
    simp only [ofUInt8_ofNat_toNat h]
  · right
    obtain ⟨x, ys, hx, hlead⟩ := exists_utf8EncodeChar_eq_cons (Nat.not_le.mp h)
    rw [hx, List.cons_append, readDigits, if_pos hlead]

theorem decode_of_firstForeign (h : FirstForeign A.digit? s.toList c i) :
    decode A s = .error (.invalidCharacter c i) := by
  obtain ⟨pre, post, hs, rfl, hpre⟩ := h.exists_eq_append
  -- Each symbol before the foreign character is one byte, so offsets and positions agree up to there.
  obtain ⟨ds, rfl⟩ := A.exists_eq_map_symbol fun d hd => (A.isSome_digit?_iff d).mp (hpre d hd)
  have hread : readDigits A 0 (utf8 s) = (readDigits A ((ds.map A.symbol).flatMap String.utf8EncodeChar).length
      (String.utf8EncodeChar c ++ post.flatMap String.utf8EncodeChar)).map (ds ++ ·) := by
    rw [utf8, hs, List.flatMap_append, List.flatMap_cons, A.flatMap_symbols, readDigits_codes_append, List.length_map,
      Nat.zero_add]
  rw [decode, read_eq_map_readDigits, hread]
  rcases readDigits_foreign h.digit?_eq_none ((ds.map A.symbol).flatMap String.utf8EncodeChar).length
    (post.flatMap String.utf8EncodeChar) with hfault | hfault
  · rw [hfault]
    exact congrArg Except.error (errorIn_foreign_append hs c)
  · rw [hfault]
    exact congrArg Except.error (errorIn_nonAscii_append hs)

theorem exists_decode_eq_ok_iff (A : Alphabet) (s : String) :
    (∃ b, decode A s = .ok b) ↔ ∀ c ∈ s.toList, (A.digit? c).isSome := by
  simp only [A.isSome_digit?_iff]
  constructor
  · rintro ⟨b, hb⟩ c hc
    obtain ⟨ds, rfl, -⟩ := (decode_eq_ok_iff_spell A s b).mp hb
    rw [A.spell_eq_ofList, String.toList_ofList] at hc
    obtain ⟨d, -, rfl⟩ := List.mem_map.mp hc
    exact (A.mem_symbols_iff _).mpr ⟨d, rfl⟩
  · intro hs
    obtain ⟨ds, rfl⟩ := A.exists_eq_spell hs
    exact ⟨_, decode_spell A ds⟩

theorem decode_eq_error_iff (A : Alphabet) (s : String) (e : DecodeError) :
    decode A s = .error e ↔ ∃ c i, FirstForeign A.digit? s.toList c i ∧ e = .invalidCharacter c i :=
  eq_error_iff_firstForeign (exists_decode_eq_ok_iff A s).mpr (fun _ _ => decode_of_firstForeign) e

theorem decode_refuses_first_foreign (A : Alphabet) (s : String) :
    ((∃ b, decode A s = .ok b) ↔ ∀ c ∈ s.toList, (A.digit? c).isSome) ∧
      (∀ c i, decode A s = .error (.invalidCharacter c i) ↔ FirstForeign A.digit? s.toList c i) ∧
      read A (utf8 s) ≠ .error .noRoom ∧ ∀ message, decode A s ≠ .error (.invalidDataLength message) := by
  refine ⟨exists_decode_eq_ok_iff A s, fun c i => ?_, read_ne_noRoom A (utf8 s), fun message h => ?_⟩
  · rw [decode_eq_error_iff]
    constructor
    · rintro ⟨d, j, hd, he⟩
      cases he
      exact hd
    · exact fun h => ⟨c, i, h, rfl⟩
  · obtain ⟨c, i, -, he⟩ := (decode_eq_error_iff A s _).mp h
    cases he

end Base58

end ByteText
