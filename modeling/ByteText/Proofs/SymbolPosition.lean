import ByteText.Proofs.ForeignCharacter
import ByteText.Proofs.TableFault

namespace ByteText.Alphabet

variable (A : Alphabet)

theorem toList_symbols : A.symbols.toList = (List.finRange 58).map A.symbol := by
  rw [symbols_eq_spell, spell_eq_ofList, String.toList_ofList]

theorem nodup_symbols : A.symbols.toList.Nodup := by
  rw [toList_symbols]
  apply (List.nodup_finRange 58).map
  exact fun _ _ => A.symbol_inj.mp

theorem toNat_lt_of_mem_symbols {c : Char} (hc : c ∈ A.symbols.toList) : c.toNat < 128 := by
  obtain ⟨d, rfl⟩ := (A.mem_symbols_iff c).mp hc
  rw [toNat_symbol]
  exact A.toNat_code_lt d

theorem digit?_eq_none_of_le {c : Char} (hc : 128 ≤ c.toNat) : A.digit? c = none := by
  by_contra h
  have hmem : c ∈ A.symbols.toList := (A.isSome_digit?_iff c).mp (Option.isSome_iff_ne_none.mpr h)
  have hlt := A.toNat_lt_of_mem_symbols hmem
  omega

theorem digit?_eq_some_iff_getElem? (c : Char) (d : Fin 58) :
    A.digit? c = some d ↔ A.symbols.toList[d.val]? = some c := by
  rw [digit?_eq_some_iff, getElem?_toList_symbols, Option.some.injEq]

theorem map_val_digit?_eq_some_iff (c : Char) (d : ℕ) :
    (A.digit? c).map Fin.val = some d ↔ d < 58 ∧ A.symbols.toList[d]? = some c := by
  rw [Option.map_eq_some_iff]
  constructor
  · rintro ⟨e, he, rfl⟩
    exact ⟨e.isLt, (A.digit?_eq_some_iff_getElem? c e).mp he⟩
  · rintro ⟨hd, hc⟩
    exact ⟨⟨d, hd⟩, (A.digit?_eq_some_iff_getElem? c ⟨d, hd⟩).mpr hc, rfl⟩

theorem utf8_symbols : utf8 A.symbols = A.codes.toList := by
  rw [symbols_eq_spell, utf8_spell, toList_codes]

theorem ofBytes_utf8_symbols :
    ∃ h : (utf8 A.symbols).toArray.size = 58, ofBytes ⟨(utf8 A.symbols).toArray, h⟩ = .ok A := by
  rw [utf8_symbols]
  exact ⟨by simp, (ofBytes_eq_ok_iff A).mpr (by simp [← Vector.toList_inj])⟩

theorem symbols_list_digits :
    (Bytes.text? A.codes.toList = some A.symbols ∧ A.symbols.length = 58 ∧ A.symbols.toList.Nodup ∧
        ∀ c ∈ A.symbols.toList, c.toNat < 128) ∧
      (∀ c (d : ℕ), (A.digit? c).map Fin.val = some d ↔ d < 58 ∧ A.symbols.toList[d]? = some c) ∧
      (∀ c : Char, 128 ≤ c.toNat → A.digit? c = none) ∧
      (∀ c, A.digit? c = some 0 ↔ c = A.zero) ∧
      ∃ h : (utf8 A.symbols).toArray.size = 58, ofBytes ⟨(utf8 A.symbols).toArray, h⟩ = .ok A := by
  refine ⟨⟨?_, ?_, A.nodup_symbols, fun c => A.toNat_lt_of_mem_symbols⟩, A.map_val_digit?_eq_some_iff,
    fun c => A.digit?_eq_none_of_le, fun c => ?_, A.ofBytes_utf8_symbols⟩
  · rw [← utf8_symbols, text?_utf8]
  · rw [← String.length_toList, toList_symbols, List.length_map, List.length_finRange]
  · rw [digit?_eq_some_iff]
    exact eq_comm

-- The low byte of this character is the code of the symbol `1`.
theorem symbols_list_digits_dotless : 128 ≤ 'ı'.toNat ∧ bitcoin.digit? 'ı' = none := by
  have h : 128 ≤ 'ı'.toNat := by decide
  exact ⟨h, bitcoin.symbols_list_digits.2.2.1 'ı' h⟩

end ByteText.Alphabet
