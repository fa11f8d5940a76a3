import ByteText.Host
import ByteText.Proofs.HexReading
import Mathlib

namespace ByteText.Reply

variable (H : Host)

structure ShowsBytes (x : H.Handle) (b : Bytes) : Prop where
  bytes : ∃ y ys, H.property? x "bytes" = some y ∧ H.items? y = some ys ∧
    ys.map H.integer? = b.map fun c => some (c.toNat : ℤ)
  error : H.property? x "error" = none

structure ShowsError (x : H.Handle) (describes : H.Handle → Prop) : Prop where
  error : ∃ y, H.property? x "error" = some y ∧ describes y
  bytes : H.property? x "bytes" = none

structure RefusesName (y : H.Handle) : Prop where
  kind : H.textAt? y "kind" = some "unknown_alphabet"
  message : H.textAt? y "message" = some "Unknown alphabet. Known alphabets: bitcoin, ripple, flickr."

inductive Describes (y : H.Handle) : DecodeError → Prop
  | invalidCharacter {c : Char} {i : ℕ} (kind : H.textAt? y "kind" = some "invalid_character")
    (character : H.textAt? y "character" = some (String.singleton c)) (index : H.integerAt? y "index" = some (i : ℤ))
    (message : H.textAt? y "message" = some s!"invalid character {Quoted.char c} at index {i}") :
    Describes y (.invalidCharacter c i)
  | invalidDataLength {m : String} (kind : H.textAt? y "kind" = some "invalid_data_length")
    (message : H.textAt? y "message" = some m) : Describes y (.invalidDataLength m)

inductive DescribesChecked (y : H.Handle) : CheckedDecodeError → Prop
  | decode {d : DecodeError} (h : Describes H y d) : DescribesChecked y (.decode d)
  | checksumMismatch {e a : Checksum} (kind : H.textAt? y "kind" = some "checksum_mismatch")
    (expected : H.textAt? y "expected" = some (Base16.encode e.toList))
    (actual : H.textAt? y "actual" = some (Base16.encode a.toList))
    (message : H.textAt? y "message" = some
      s!"checksum mismatch: expected {CheckedDecodeError.listing e}, found {CheckedDecodeError.listing a}") :
    DescribesChecked y (.checksumMismatch e a)

structure Shows {ε : Type} (describes : H.Handle → ε → Prop) (x : H.Handle) (result : Except ε Bytes) : Prop where
  bytes : ∀ b, ShowsBytes H x b ↔ result = .ok b
  error : ∀ e, ShowsError H x (describes · e) ↔ result = .error e
  known : ¬ ShowsError H x (RefusesName H)

structure Legible {ε : Type} (describes : H.Handle → ε → Prop) : Prop where
  eq : ∀ {y d e}, describes y d → describes y e → d = e
  known : ∀ {y e}, describes y e → ¬ RefusesName H y

variable {H} {x y : H.Handle}

theorem Describes.kind_eq {d : DecodeError} (h : Describes H y d) : H.textAt? y "kind" = some d.kind.name := by
  cases h with
  | invalidCharacter kind => exact kind
  | invalidDataLength kind => exact kind

theorem Describes.kind_ne {d : DecodeError} (h : Describes H y d) {kind : String}
    (hkind : ∀ k : DecodeError.Kind, k.name ≠ kind) : H.textAt? y "kind" ≠ some kind := by
  rw [h.kind_eq]
  exact fun he => hkind d.kind (Option.some.inj he)

theorem legible_describes : Legible H (Describes H) where
  known h hu := h.kind_ne (by rintro ⟨⟩ <;> decide) hu.kind
  eq {y d e} hd he := by
    cases hd with
    | invalidCharacter kind character index =>
      cases he with
      | invalidCharacter kind' character' index' =>
        have hc := Option.some.inj (character.symm.trans character')
        have hi := Option.some.inj (index.symm.trans index')
        have hcs := congrArg String.toList hc
        simp only [String.toList_singleton, List.singleton_inj] at hcs
        rw [hcs, Int.ofNat.inj hi]
      | invalidDataLength kind' => exact absurd (kind.symm.trans kind') (by decide)
    | invalidDataLength kind message =>
      cases he with
      | invalidCharacter kind' => exact absurd (kind.symm.trans kind') (by decide)
      | invalidDataLength kind' message' => rw [Option.some.inj (message.symm.trans message')]

theorem legible_describesChecked : Legible H (DescribesChecked H) where
  known h hu := by
    cases h with
    | decode h => exact legible_describes.known h hu
    | checksumMismatch kind => exact absurd (kind.symm.trans hu.kind) (by decide)
  eq {y d e} hd he := by
    cases hd with
    | decode hd =>
      cases he with
      | decode he => rw [legible_describes.eq hd he]
      | checksumMismatch kind => exact absurd kind (hd.kind_ne (by rintro ⟨⟩ <;> decide))
    | checksumMismatch kind expected actual =>
      cases he with
      | decode he => exact absurd kind (he.kind_ne (by rintro ⟨⟩ <;> decide))
      | checksumMismatch kind' expected' actual' =>
        have hexpected := Base16.encode_injective (Option.some.inj (expected.symm.trans expected'))
        have hactual := Base16.encode_injective (Option.some.inj (actual.symm.trans actual'))
        rw [Vector.toList_inj.mp hexpected, Vector.toList_inj.mp hactual]

theorem ShowsBytes.eq {b c : Bytes} (hb : ShowsBytes H x b) (hc : ShowsBytes H x c) : b = c := by
  obtain ⟨y, ys, hy, hys, hb⟩ := hb.bytes
  obtain ⟨z, zs, hz, hzs, hc⟩ := hc.bytes
  obtain rfl := Option.some.inj (hy.symm.trans hz)
  obtain rfl := Option.some.inj (hys.symm.trans hzs)
  have hinj : Function.Injective fun c : UInt8 => some (c.toNat : ℤ) := by
    intro c d h
    exact UInt8.toNat_inj.mp (Int.ofNat.inj (Option.some.inj h))
  exact List.map_injective_iff.mpr hinj (hb.symm.trans hc)

theorem ShowsBytes.not_showsError {b : Bytes} (hb : ShowsBytes H x b) (describes : H.Handle → Prop) :
    ¬ ShowsError H x describes := by
  intro he
  obtain ⟨y, hy, -⟩ := he.error
  rw [hb.error] at hy
  cases hy

variable {ε : Type} {describes : H.Handle → ε → Prop}

theorem ShowsBytes.shows {b : Bytes} (hb : ShowsBytes H x b) : Shows H describes x (.ok b) where
  bytes c := ⟨fun hc => by rw [hb.eq hc], fun h => Except.ok.inj h ▸ hb⟩
  error e := ⟨fun he => absurd he (hb.not_showsError _), nofun⟩
  known := hb.not_showsError _

theorem ShowsError.shows {e : ε} (he : ShowsError H x (describes · e)) (hl : Legible H describes) :
    Shows H describes x (.error e) where
  bytes b := ⟨fun hb => absurd he (hb.not_showsError _), nofun⟩
  error d := by
    constructor
    · intro hd
      obtain ⟨y, hy, he⟩ := he.error
      obtain ⟨z, hz, hd⟩ := hd.error
      obtain rfl := Option.some.inj (hy.symm.trans hz)
      rw [hl.eq he hd]
    · intro h
      exact Except.error.inj h ▸ he
  known := by
    intro hu
    obtain ⟨y, hy, he⟩ := he.error
    obtain ⟨z, hz, hu⟩ := hu.error
    obtain rfl := Option.some.inj (hy.symm.trans hz)
    exact hl.known he hu

theorem Shows.result_eq {r q : Except ε Bytes} (hr : Shows H describes x r) (hq : Shows H describes x q) : r = q := by
  cases q with
  | ok b => exact (hr.bytes b).mp ((hq.bytes b).mpr rfl)
  | error e => exact (hr.error e).mp ((hq.error e).mpr rfl)

end ByteText.Reply
