import ByteText.Proofs.CheckedReading

namespace ByteText

namespace Alphabet

theorem toList_codes (A : Alphabet) : A.codes.toList = (List.finRange 58).map A.code := by
  apply List.ext_getElem
  · simp
  · intro i hi hj
    rw [Vector.getElem_toList, List.getElem_map, List.getElem_finRange]
    rfl

theorem symbols_eq_spell (A : Alphabet) : A.symbols = A.spell (List.finRange 58) := by
  rw [symbols, toList_codes, ← utf8_spell, text?_utf8, Option.getD_some]

theorem getElem?_toList_symbols (A : Alphabet) (d : Fin 58) : A.symbols.toList[d.val]? = some (A.symbol d) := by
  simp [symbols_eq_spell, spell_eq_ofList]

theorem eq_of_symbols_eq {A B : Alphabet} (h : A.symbols = B.symbols) : A = B := by
  have hu : utf8 A.symbols = utf8 B.symbols := by rw [h]
  rw [symbols_eq_spell, symbols_eq_spell, utf8_spell, utf8_spell, ← toList_codes, ← toList_codes] at hu
  exact eq_of_codes_eq (Vector.toList_inj.mp hu)

theorem eq_of_spell_eq {A B : Alphabet} (h : ∀ d, A.spell [d] = B.spell [d]) : A = B := by
  have hs : A.symbol = B.symbol := by
    funext d
    simpa [spell_eq_ofList] using h d
  apply eq_of_symbols_eq
  rw [symbols_eq_spell, symbols_eq_spell, spell_eq_ofList, spell_eq_ofList, hs]

variable (A B : Alphabet)

def exchange (c : Char) : Char :=
  ((A.digit? c).bind fun d => B.symbols.toList[d.val]?).getD c

theorem exchange_symbol (d : Fin 58) : A.exchange B (A.symbol d) = B.symbol d := by
  have hd : A.digit? (A.symbol d) = some d := (A.digit?_eq_some_iff _ d).mpr rfl
  rw [exchange, hd, Option.bind_some, getElem?_toList_symbols, Option.getD_some]

theorem map_exchange_spell (ds : List (Fin 58)) : (A.spell ds).map (A.exchange B) = B.spell ds := by
  apply String.toList_inj.mp
  simp [spell_eq_ofList, exchange_symbol]

theorem mem_symbols_iff (c : Char) : c ∈ A.symbols.toList ↔ ∃ d, A.symbol d = c := by
  simp [symbols_eq_spell, spell_eq_ofList]

theorem exists_eq_map_symbol {cs : List Char} (hs : ∀ c ∈ cs, c ∈ A.symbols.toList) :
    ∃ ds : List (Fin 58), cs = ds.map A.symbol := by
  have hrange : cs ∈ Set.range (List.map A.symbol) := by
    rw [Set.range_list_map]
    intro c hc
    exact (A.mem_symbols_iff c).mp (hs c hc)
  obtain ⟨ds, hds⟩ := hrange
  exact ⟨ds, hds.symm⟩

theorem exists_eq_spell {s : String} (hs : ∀ c ∈ s.toList, c ∈ A.symbols.toList) : ∃ ds, s = A.spell ds := by
  obtain ⟨ds, hds⟩ := A.exists_eq_map_symbol hs
  exact ⟨ds, by rw [spell_eq_ofList, ← hds, String.ofList_toList]⟩

end Alphabet

variable {A B : Alphabet}

namespace Base58

theorem decode_spell (A : Alphabet) (ds : List (Fin 58)) : decode A (A.spell ds) = .ok (ofDigits ds) :=
  (decode_eq_ok_iff_spell A _ _).mpr ⟨ds, rfl, rfl⟩

theorem encode_ofDigits (A : Alphabet) (ds : List (Fin 58)) : encode A (ofDigits ds) = A.spell ds := by
  rw [encode, toDigits_ofDigits]

theorem encode_exchange (A B : Alphabet) (b : Bytes) : encode B b = (encode A b).map (A.exchange B) := by
  rw [encode, encode, A.map_exchange_spell]

theorem decode_exchange (B : Alphabet) {s : String} (hs : ∀ c ∈ s.toList, c ∈ A.symbols.toList) :
    decode B (s.map (A.exchange B)) = decode A s := by
  obtain ⟨ds, rfl⟩ := A.exists_eq_spell hs
  rw [A.map_exchange_spell, decode_spell, decode_spell]

theorem eq_of_encode_eq (h : ∀ b, encode A b = encode B b) : A = B := by
  apply Alphabet.eq_of_spell_eq
  intro d
  rw [← encode_ofDigits, ← encode_ofDigits, h]

theorem eq_of_decode_eq (h : ∀ s, decode A s = decode B s) : A = B := by
  apply Alphabet.eq_of_spell_eq
  intro d
  have hd : decode B (A.spell [d]) = .ok (ofDigits [d]) := by rw [← h, decode_spell]
  rw [(decode_eq_ok_iff B _ _).mp hd, encode_ofDigits]

end Base58

theorem Base58Check.decode_congr {s t : String} (h : Base58.decode A s = Base58.decode B t) :
    decode A s = decode B t := by
  rw [decode_eq_iff_checked, h, ← decode_eq_iff_checked]

namespace Alphabet

theorem codecs_exchange (A B : Alphabet) :
    (∀ b, Base58.encode B b = (Base58.encode A b).map (A.exchange B)) ∧
      (∀ b, Base58Check.encode B b = (Base58Check.encode A b).map (A.exchange B)) ∧
      ∀ s : String, (∀ c ∈ s.toList, c ∈ A.symbols.toList) →
        Base58.decode B (s.map (A.exchange B)) = Base58.decode A s ∧
          Base58Check.decode B (s.map (A.exchange B)) = Base58Check.decode A s := by
  refine ⟨Base58.encode_exchange A B, fun p => Base58.encode_exchange A B _, fun s hs => ?_⟩
  have hd := Base58.decode_exchange B hs
  exact ⟨hd, Base58Check.decode_congr hd⟩

theorem codecs_exchange_ripple_bitcoin : (∀ c ∈ "rrpr".toList, c ∈ ripple.symbols.toList) ∧
    Base58.decode .bitcoin ("rrpr".map (ripple.exchange .bitcoin)) = Base58.decode .ripple "rrpr" ∧
    Base58Check.decode .bitcoin ("rrpr".map (ripple.exchange .bitcoin)) = Base58Check.decode .ripple "rrpr" := by
  have hall : "rrpr".toList.all (ripple.symbols.toList.contains ·) := by decide +kernel
  have hs : ∀ c ∈ "rrpr".toList, c ∈ ripple.symbols.toList := by
    simpa only [List.all_eq_true, List.contains_iff_mem] using hall
  exact ⟨hs, (codecs_exchange .ripple .bitcoin).2.2 _ hs⟩

theorem beq_iff_codecs_eq (A B : Alphabet) :
    (A == B ↔ ∀ b, Base58.encode A b = Base58.encode B b) ∧
      (A == B ↔ ∀ s, Base58.decode A s = Base58.decode B s) := by
  rw [beq_iff_eq]
  constructor
  · exact ⟨fun h b => by rw [h], Base58.eq_of_encode_eq⟩
  · exact ⟨fun h s => by rw [h], Base58.eq_of_decode_eq⟩

end Alphabet

end ByteText
