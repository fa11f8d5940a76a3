import ByteText.Reply
import ByteText.Proofs.CellHost
import ByteText.Proofs.HostReading

/-!
Replies lose nothing. A host reads off each reply what the codec answered and can tell different answers apart:
`seesCodecs_of_faithful`.
-/

namespace ByteText

section Index

variable {s : String} {d : DecodeError} {i : ℕ}

theorem FirstForeign.lt_length {α : Type} {digit? : Char → Option α} {c : Char}
    (h : FirstForeign digit? s.toList c i) : i < s.length := by
  rw [← String.length_toList]
  exact (List.getElem?_eq_some_iff.mp h.char_eq).1

theorem Base58.index_lt_of_decode {A : Alphabet} (h : decode A s = .error d) (hi : d.index? = some i) :
    i < s.length := by
  obtain ⟨c, j, hj, rfl⟩ := (decode_eq_error_iff A s d).mp h
  cases hi
  exact hj.lt_length

theorem Base58Check.index_lt_of_decode {A : Alphabet} {e : CheckedDecodeError} (h : decode A s = .error e)
    (hd : e.decodeError? = some d) (hi : d.index? = some i) : i < s.length := by
  have hc := (decode_eq_iff_checked A s _).mp h
  generalize hp : Base58.decode A s = plain at hc
  cases hc with
  | undecoded e =>
    cases hd
    exact Base58.index_lt_of_decode hp hi
  | short =>
    cases hd
    cases hi
  | altered => cases hd

theorem Base16.index_lt_of_decode (h : decode s = .error d) (hi : d.index? = some i) : i < s.length := by
  obtain ⟨c, j, hj, rfl⟩ := (decode_eq_error_iff s d).mp h
  cases hi
  exact hj.lt_length

end Index

namespace Reply

inductive Names : Option String → Alphabet → Prop
  | absent : Names none .bitcoin
  | bitcoin : Names (some "bitcoin") .bitcoin
  | ripple : Names (some "ripple") .ripple
  | flickr : Names (some "flickr") .flickr

def Unknown (name? : Option String) : Prop :=
  ∃ name, name? = some name ∧ name ∉ ["bitcoin", "ripple", "flickr"]

theorem alphabet?_of_names {name? : Option String} {A : Alphabet} (h : Names name? A) : alphabet? name? = some A := by
  cases h <;> rfl

theorem alphabet?_eq_none_iff (name? : Option String) : alphabet? name? = none ↔ Unknown name? := by
  cases name? with
  | none => simp [alphabet?, Unknown]
  | some name =>
    change Alphabet.named? name = none ↔ _
    unfold Alphabet.named?
    split
    all_goals simp_all [Unknown]

theorem exists_names {name? : Option String} (h : ¬ Unknown name?) : ∃ A, Names name? A := by
  cases name? with
  | none => exact ⟨_, .absent⟩
  | some name =>
    have hmem : name ∈ ["bitcoin", "ripple", "flickr"] := by
      by_contra hn
      exact h ⟨name, rfl, hn⟩
    simp only [List.mem_cons, List.not_mem_nil, or_false] at hmem
    rcases hmem with rfl | rfl | rfl
    · exact ⟨_, .bitcoin⟩
    · exact ⟨_, .ripple⟩
    · exact ⟨_, .flickr⟩

/-- A host can hold every position in the text. -/
def Covers (H : Host) (s : String) : Prop :=
  ∀ i < s.length, H.holds i

section Carries

variable {H : Host}

theorem carries_ofError {fields : List (String × Value)} (h : H.Carries (.map fields)) : H.Carries (ofError fields) :=
  .map (by simp) (by simpa using h)

theorem carries_unknownAlphabet : H.Carries unknownAlphabet :=
  carries_ofError (.map (by simp) (by simp [Host.Carries.text]))

theorem carries_decodeErrorFields {d : DecodeError} (h : ∀ i, d.index? = some i → H.holds i) :
    H.Carries (.map (decodeErrorFields d)) := by
  cases d with
  | invalidCharacter c i =>
    have hi : H.Carries (.integer i) := .integer (h i rfl)
    exact .map (by simp [decodeErrorFields]) (by simp [decodeErrorFields, Host.Carries.text, hi])
  | invalidDataLength m => exact .map (by simp [decodeErrorFields]) (by simp [decodeErrorFields, Host.Carries.text])

theorem carries_checkedErrorFields {e : CheckedDecodeError}
    (h : ∀ d i, e.decodeError? = some d → d.index? = some i → H.holds i) :
    H.Carries (.map (checkedErrorFields e)) := by
  cases e with
  | decode d => exact carries_decodeErrorFields fun i => h d i rfl
  | checksumMismatch => exact .map (by simp [checkedErrorFields]) (by simp [checkedErrorFields, Host.Carries.text])

end Carries

section Faithful

variable {H : Host} (hH : H.Faithful)
include hH

theorem carries_items (b : Bytes) : H.Carries (.sequence (b.map fun c => .integer c.toNat)) := by
  refine .sequence fun v hv => ?_
  obtain ⟨c, -, rfl⟩ := List.mem_map.mp hv
  exact .integer (hH.byte c)

theorem carries_ofBytes (b : Bytes) : H.Carries (ofBytes b) :=
  .map (by simp) (by simpa using carries_items hH b)

theorem carries_ofDecoded {r : Except DecodeError Bytes} (h : ∀ d i, r = .error d → d.index? = some i → H.holds i) :
    H.Carries (ofDecoded r) := by
  cases r with
  | ok b => exact carries_ofBytes hH b
  | error d => exact carries_ofError (carries_decodeErrorFields fun i => h d i rfl)

theorem carries_ofCheckedDecoded {r : Except CheckedDecodeError Bytes}
    (h : ∀ e d i, r = .error e → e.decodeError? = some d → d.index? = some i → H.holds i) :
    H.Carries (ofCheckedDecoded r) := by
  cases r with
  | ok b => exact carries_ofBytes hH b
  | error e => exact carries_ofError (carries_checkedErrorFields fun d i => h e d i rfl)

theorem showsBytes_ofBytes (b : Bytes) : ShowsBytes H (H.give (ofBytes b)) b := by
  have hreply : H.Carries (ofBytes b) := carries_ofBytes hH b
  refine ⟨⟨_, _, hH.property?_give hreply "bytes", hH.items?_give (carries_items hH b), ?_⟩,
    hH.property?_give hreply "error"⟩
  rw [List.map_map, List.map_map]
  exact List.map_congr_left fun c _ => hH.integer?_give (hH.byte c)

theorem showsError_ofError {fields : List (String × Value)} (hreply : H.Carries (ofError fields))
    {describes : H.Handle → Prop} (hd : describes (H.give (.map fields))) :
    ShowsError H (H.give (ofError fields)) describes :=
  ⟨⟨_, hH.property?_give hreply "error", hd⟩, hH.property?_give hreply "bytes"⟩

theorem showsError_unknownAlphabet : ShowsError H (H.give unknownAlphabet) (RefusesName H) := by
  have hfields := (carries_unknownAlphabet (H := H)).of_lookup "error" rfl
  exact showsError_ofError hH carries_unknownAlphabet ⟨hH.textAt?_give hfields rfl, hH.textAt?_give hfields rfl⟩

theorem describes_decodeErrorFields {d : DecodeError} (h : H.Carries (.map (decodeErrorFields d))) :
    Describes H (H.give (.map (decodeErrorFields d))) d := by
  cases d with
  | invalidCharacter c i =>
    exact .invalidCharacter (hH.textAt?_give h rfl) (hH.textAt?_give h rfl) (hH.integerAt?_give h rfl)
      (hH.textAt?_give h rfl)
  | invalidDataLength m => exact .invalidDataLength (hH.textAt?_give h rfl) (hH.textAt?_give h rfl)

theorem describesChecked_checkedErrorFields {e : CheckedDecodeError} (h : H.Carries (.map (checkedErrorFields e))) :
    DescribesChecked H (H.give (.map (checkedErrorFields e))) e := by
  cases e with
  | decode d => exact .decode (describes_decodeErrorFields hH h)
  | checksumMismatch expected actual =>
    exact .checksumMismatch (hH.textAt?_give h rfl) (hH.textAt?_give h rfl) (hH.textAt?_give h rfl)
      (hH.textAt?_give h rfl)

theorem shows_ofDecoded {r : Except DecodeError Bytes} (hr : H.Carries (ofDecoded r)) :
    Shows H (Describes H) (H.give (ofDecoded r)) r := by
  cases r with
  | ok b => exact (showsBytes_ofBytes hH b).shows
  | error d =>
    have hd := describes_decodeErrorFields hH (hr.of_lookup "error" rfl)
    have hshows : ShowsError H (H.give (ofDecoded (.error d))) (Describes H · d) := showsError_ofError hH hr hd
    exact hshows.shows legible_describes

theorem shows_ofCheckedDecoded {r : Except CheckedDecodeError Bytes} (hr : H.Carries (ofCheckedDecoded r)) :
    Shows H (DescribesChecked H) (H.give (ofCheckedDecoded r)) r := by
  cases r with
  | ok b => exact (showsBytes_ofBytes hH b).shows
  | error e =>
    have he := describesChecked_checkedErrorFields hH (hr.of_lookup "error" rfl)
    have hshows : ShowsError H (H.give (ofCheckedDecoded (.error e))) (DescribesChecked H · e) :=
      showsError_ofError hH hr he
    exact hshows.shows legible_describesChecked

end Faithful

/-- Replies are read where the host carries them, as it does when it can hold every position in the text. -/
structure SeesCodec (H : Host) {ε : Type} (describes : H.Handle → ε → Prop)
    (encode : Option String → Bytes → Option String) (decode : Option String → String → Value)
    (write : Alphabet → Bytes → String) (read : Alphabet → String → Except ε Bytes) : Prop where
  encode_eq_none_iff : ∀ name? b, encode name? b = none ↔ Unknown name?
  decode_unknown : ∀ name?, Unknown name? → ∃ x, ShowsError H x (RefusesName H) ∧ ∀ s, H.give (decode name? s) = x
  carries : ∀ name? s, Covers H s → H.Carries (decode name? s)
  known : ∀ name?, ¬ Unknown name? → ∃ A, Names name? A ∧ (∀ b, encode name? b = some (write A b)) ∧
    ∀ s, H.Carries (decode name? s) → Shows H describes (H.give (decode name? s)) (read A s)
  decode_inj : ∀ {m? n? A B}, Names m? A → Names n? B → ∀ s t, H.Carries (decode m? s) → H.Carries (decode n? t) →
    H.give (decode m? s) = H.give (decode n? t) → read A s = read B t
  decode_encode : ∀ name?, ¬ Unknown name? → ∀ b, ∃ s, encode name? b = some s ∧
    ShowsBytes H (H.give (decode name? s)) b

section SeesCodec

variable {H : Host} (hH : H.Faithful)
include hH

theorem seesCodec_of_shows {ε : Type} {describes : H.Handle → ε → Prop}
    {encode : Option String → Bytes → Option String} {decode : Option String → String → Value}
    {write : Alphabet → Bytes → String} {read : Alphabet → String → Except ε Bytes} (reply : Except ε Bytes → Value)
    (hencode : ∀ name? b, encode name? b = (alphabet? name?).map fun A => write A b)
    (hnone : ∀ {name?}, alphabet? name? = none → ∀ s, decode name? s = unknownAlphabet)
    (hsome : ∀ {name? A}, alphabet? name? = some A → ∀ s, decode name? s = reply (read A s))
    (hok : ∀ b, reply (.ok b) = ofBytes b) (hcarries : ∀ A s, Covers H s → H.Carries (reply (read A s)))
    (hshows : ∀ r, H.Carries (reply r) → Shows H describes (H.give (reply r)) r)
    (hread : ∀ A b, read A (write A b) = .ok b) : SeesCodec H describes encode decode write read := by
  have hwrite {name? : Option String} {A : Alphabet} (hA : Names name? A) (b : Bytes) :
      encode name? b = some (write A b) := by
    rw [hencode, alphabet?_of_names hA, Option.map_some]
  have hknown {name? : Option String} {A : Alphabet} (hA : Names name? A) (s : String)
      (hs : H.Carries (decode name? s)) : Shows H describes (H.give (decode name? s)) (read A s) := by
    rw [hsome (alphabet?_of_names hA)] at hs ⊢
    exact hshows _ hs
  constructor
  case encode_eq_none_iff =>
    intro name? b
    rw [hencode, Option.map_eq_none_iff, alphabet?_eq_none_iff]
  case decode_unknown =>
    intro name? h
    refine ⟨_, showsError_unknownAlphabet hH, fun s => ?_⟩
    rw [hnone ((alphabet?_eq_none_iff name?).mpr h) s]
  case carries =>
    intro name? s hs
    cases hA : alphabet? name? with
    | none =>
      rw [hnone hA]
      exact carries_unknownAlphabet
    | some A =>
      rw [hsome hA]
      exact hcarries A s hs
  case known =>
    intro name? h
    obtain ⟨A, hA⟩ := exists_names h
    exact ⟨A, hA, hwrite hA, hknown hA⟩
  case decode_inj =>
    intro m? n? A B hA hB s t hs ht h
    have hshow := hknown hA s hs
    rw [h] at hshow
    exact hshow.result_eq (hknown hB t ht)
  case decode_encode =>
    intro name? h b
    obtain ⟨A, hA⟩ := exists_names h
    refine ⟨write A b, hwrite hA b, ?_⟩
    rw [hsome (alphabet?_of_names hA), hread, hok]
    exact showsBytes_ofBytes hH b

theorem seesCodec58 : SeesCodec H (Describes H) encode58 decode58 Base58.encode Base58.decode := by
  refine seesCodec_of_shows hH ofDecoded (fun _ _ => rfl) ?_ ?_ (fun _ => rfl) ?_ (fun _ => shows_ofDecoded hH) ?_
  · intro name? hn s
    rw [decode58, hn]
  · intro name? A hA s
    rw [decode58, hA]
  · intro A s hs
    exact carries_ofDecoded hH fun _ i hd hi => hs i (Base58.index_lt_of_decode hd hi)
  · intro A b
    exact (Base58.decode_eq_ok_iff A _ b).mpr rfl

theorem seesCodec58Check :
    SeesCodec H (DescribesChecked H) encode58Check decode58Check Base58Check.encode Base58Check.decode := by
  refine seesCodec_of_shows hH ofCheckedDecoded (fun _ _ => rfl) ?_ ?_ (fun _ => rfl) ?_
    (fun _ => shows_ofCheckedDecoded hH) ?_
  · intro name? hn s
    rw [decode58Check, hn]
  · intro name? A hA s
    rw [decode58Check, hA]
  · intro A s hs
    exact carries_ofCheckedDecoded hH fun _ _ i he hd hi => hs i (Base58Check.index_lt_of_decode he hd hi)
  · intro A p
    rw [Base58Check.decode_eq_ok_iff_plain, Base58.decode_eq_ok_iff, Base58Check.encode_eq_append_checksum]

theorem carries_decode16 {s : String} (hs : Covers H s) : H.Carries (decode16 s) :=
  carries_ofDecoded hH fun _ i hd hi => hs i (Base16.index_lt_of_decode hd hi)

theorem decode16_inj {s t : String} (hs : H.Carries (decode16 s)) (ht : H.Carries (decode16 t))
    (h : H.give (decode16 s) = H.give (decode16 t)) : Base16.decode s = Base16.decode t := by
  have hshow := shows_ofDecoded hH hs
  have hgive : H.give (ofDecoded (Base16.decode s)) = H.give (ofDecoded (Base16.decode t)) := h
  rw [hgive] at hshow
  exact hshow.result_eq (shows_ofDecoded hH ht)

theorem showsBytes_decode16 {s : String} {b : Bytes} (h : Base16.decode s = .ok b) :
    ShowsBytes H (H.give (decode16 s)) b := by
  rw [decode16, h]
  exact showsBytes_ofBytes hH b

theorem showsBytes_checksum16 (b : Bytes) : ShowsBytes H (H.give (decode16 (checksum16 b))) (checksum b).toList :=
  showsBytes_decode16 hH (Base16.decode_encode_eq (checksum b).toList)

end SeesCodec

theorem seesCodecs_of_faithful {H : Host} (hH : H.Faithful) :
    SeesCodec H (Describes H) encode58 decode58 Base58.encode Base58.decode ∧
      SeesCodec H (DescribesChecked H) encode58Check decode58Check Base58Check.encode Base58Check.decode ∧
      (∀ s, Covers H s → H.Carries (decode16 s)) ∧
      (∀ s, H.Carries (decode16 s) → Shows H (Describes H) (H.give (decode16 s)) (Base16.decode s)) ∧
      (∀ s t, H.Carries (decode16 s) → H.Carries (decode16 t) → H.give (decode16 s) = H.give (decode16 t) →
        Base16.decode s = Base16.decode t) ∧
      ∀ b, ShowsBytes H (H.give (decode16 (encode16 b))) b :=
  ⟨seesCodec58 hH, seesCodec58Check hH, fun _ => carries_decode16 hH, fun _ => shows_ofDecoded hH,
    fun _ _ => decode16_inj hH, fun b => showsBytes_decode16 hH (Base16.decode_encode_eq b)⟩

theorem seesCodecs_cells : Cell.host.Faithful ∧ Unknown (some "monero") ∧ Names (some "ripple") .ripple ∧
    (∀ s : String, s.length ≤ 2 ^ 53 → Covers Cell.host s) ∧
    SeesCodec Cell.host (Describes Cell.host) encode58 decode58 Base58.encode Base58.decode ∧
    SeesCodec Cell.host (DescribesChecked Cell.host) encode58Check decode58Check Base58Check.encode
      Base58Check.decode ∧
    (∀ s, Covers Cell.host s → Cell.host.Carries (decode16 s)) ∧
    (∀ s, Cell.host.Carries (decode16 s) →
      Shows Cell.host (Describes Cell.host) (Cell.host.give (decode16 s)) (Base16.decode s)) ∧
    (∀ s t, Cell.host.Carries (decode16 s) → Cell.host.Carries (decode16 t) →
      Cell.host.give (decode16 s) = Cell.host.give (decode16 t) → Base16.decode s = Base16.decode t) ∧
    ∀ b, ShowsBytes Cell.host (Cell.host.give (decode16 (encode16 b))) b :=
  ⟨Cell.faithful_host, ⟨"monero", rfl, by decide⟩, .ripple, fun _ hs _ hi => lt_of_lt_of_le hi hs,
    seesCodecs_of_faithful Cell.faithful_host⟩

end Reply

end ByteText
