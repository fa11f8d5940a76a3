import ByteText.Proofs.QuotedReading
import ByteText.Proofs.SymbolPosition

namespace ByteText

namespace AlphabetError

theorem message_nonAscii (i : ℕ) :
    (nonAscii i).message = "alphabet symbol at index " ++ i.repr ++ " is not ASCII" := rfl

theorem message_duplicateCharacter (c : Char) (i j : ℕ) : (duplicateCharacter c i j).message =
    "alphabet symbol " ++ Quoted.char c ++ " appears at both index " ++ i.repr ++ " and " ++ j.repr := rfl

theorem message_other (reason : String) : (other reason).message = "invalid alphabet: " ++ reason := rfl

/-- The seventeenth character of a message, the first at which all forms differ. -/
def formMark : AlphabetError → Char
  | nonAscii _ => 'a'
  | duplicateCharacter .. => '\x27'
  | other _ => ':'

theorem getElem?_message (e : AlphabetError) : e.message.toList[16]? = some e.formMark := by
  cases e with
  | nonAscii i => simp [message_nonAscii, formMark]
  | duplicateCharacter c i j => simp [message_duplicateCharacter, Quoted.char, Quoted.toList_quote, formMark]
  | other reason => simp [message_other, formMark]

theorem eq_of_message_duplicateCharacter_eq {c d : Char} {i j k l : ℕ}
    (h : (duplicateCharacter c i j).message = (duplicateCharacter d k l).message) : c = d ∧ i = k ∧ j = l := by
  have hlist := congrArg String.toList h
  simp only [message_duplicateCharacter, String.toList_append, List.append_assoc] at hlist
  obtain ⟨hc, hfirst⟩ := Quoted.prefixFree_char (List.append_cancel_left hlist)
  have hand : " and ".toList = ' ' :: ['a', 'n', 'd', ' '] := by decide
  have hsecond := List.append_cancel_left hfirst
  rw [hand, ← List.append_assoc, ← List.append_assoc] at hsecond
  obtain ⟨hi, hj⟩ := prefixFree_repr_append (by decide) _ hsecond
  exact ⟨hc, hi, repr_toList_injective hj⟩

theorem message_injective : Function.Injective message := by
  intro e f h
  have hmark : e.formMark = f.formMark := by
    apply Option.some.inj
    rw [← getElem?_message, h, getElem?_message]
  cases e with
  | nonAscii i =>
    cases f with
    | nonAscii j =>
      rw [message_nonAscii, message_nonAscii, String.append_left_inj, String.append_right_inj, Nat.repr_inj] at h
      rw [h]
    | duplicateCharacter => simp [formMark] at hmark
    | other => simp [formMark] at hmark
  | duplicateCharacter c i j =>
    cases f with
    | duplicateCharacter d k l =>
      obtain ⟨rfl, rfl, rfl⟩ := eq_of_message_duplicateCharacter_eq h
      rfl
    | nonAscii => simp [formMark] at hmark
    | other => simp [formMark] at hmark
  | other reason =>
    cases f with
    | other reason' =>
      rw [message_other, message_other, String.append_right_inj] at h
      rw [h]
    | nonAscii => simp [formMark] at hmark
    | duplicateCharacter => simp [formMark] at hmark

end AlphabetError

theorem DecodeError.Kind.parse_eq_ok_iff (name : String) (k : Kind) : parse name = .ok k ↔ name = k.name := by
  unfold parse
  split
  · cases k <;> simp [Kind.name]
  · cases k <;> simp [Kind.name]
  · cases k <;> simp_all [Kind.name]

namespace CheckedDecodeError

theorem message_invalidCharacter (c : Char) (i : ℕ) : (decode (.invalidCharacter c i)).message =
    "invalid character " ++ Quoted.char c ++ " at index " ++ i.repr := rfl

theorem message_invalidDataLength (m : String) : (decode (.invalidDataLength m)).message = m := rfl

theorem message_checksumMismatch (expected actual : Checksum) : (checksumMismatch expected actual).message =
    "checksum mismatch: expected " ++ listing expected ++ ", found " ++ listing actual := rfl

theorem prefixFree_listing : PrefixFree fun sum => (listing sum).toList := by
  have hpairs (sum : Checksum) :
      (", ".intercalate (sum.toList.map fun x => String.ofList (HexDigit.pair x))).toList =
        ", ".toList.intercalate (sum.toList.map HexDigit.pair) := by
    rw [String.toList_intercalate, List.map_map]
    have hword : (String.toList ∘ fun x => String.ofList (HexDigit.pair x)) = HexDigit.pair := by
      funext x
      exact String.toList_ofList
    rw [hword]
  intro x y us vs h
  simp only [listing, String.toList_append, hpairs, List.append_assoc] at h
  have hlen : x.toList.length = y.toList.length := by rw [Vector.length_toList, Vector.length_toList]
  obtain ⟨hxy, htail⟩ := HexDigit.prefixFree_pair.intercalate _ hlen (List.append_cancel_left h)
  exact ⟨Vector.toList_inj.mp hxy, List.append_cancel_left htail⟩

inductive Reported : CheckedDecodeError → Prop
  | foreign (c : Char) (i : ℕ) : Reported (decode (.invalidCharacter c i))
  | short (n : ℕ) : Reported (decode (.invalidDataLength s!"expected at least 4 bytes, got {n}"))
  | altered (expected actual : Checksum) : Reported (checksumMismatch expected actual)

theorem reported_of_decode {A : Alphabet} {s : String} {e : CheckedDecodeError}
    (h : Base58Check.decode A s = .error e) : Reported e := by
  have hc := (Base58Check.decode_eq_iff_checked A s _).mp h
  generalize hp : Base58.decode A s = plain at hc
  cases hc with
  | undecoded d =>
    obtain ⟨c, i, -, rfl⟩ := (Base58.decode_eq_error_iff A s d).mp hp
    exact .foreign c i
  | short => exact .short _
  | altered => exact .altered _ _

def formMark : CheckedDecodeError → Char
  | decode (.invalidCharacter ..) => 'i'
  | decode (.invalidDataLength _) => 'e'
  | checksumMismatch .. => 'c'

theorem Reported.head?_message {e : CheckedDecodeError} (he : Reported e) :
    e.message.toList.head? = some e.formMark := by
  cases he with
  | foreign c i => simp [message_invalidCharacter, formMark]
  | short n =>
    change ("expected at least 4 bytes, got " ++ n.repr).toList.head? = some 'e'
    simp
  | altered x y => simp [message_checksumMismatch, formMark]

theorem eq_of_message_invalidCharacter_eq {c d : Char} {i j : ℕ}
    (h : (decode (.invalidCharacter c i)).message = (decode (.invalidCharacter d j)).message) : c = d ∧ i = j := by
  have hlist := congrArg String.toList h
  simp only [message_invalidCharacter, String.toList_append, List.append_assoc] at hlist
  obtain ⟨hc, hindex⟩ := Quoted.prefixFree_char (List.append_cancel_left hlist)
  exact ⟨hc, repr_toList_injective (List.append_cancel_left hindex)⟩

theorem eq_of_message_checksumMismatch_eq {x y x' y' : Checksum}
    (h : (checksumMismatch x y).message = (checksumMismatch x' y').message) : x = x' ∧ y = y' := by
  have hlist := congrArg String.toList h
  simp only [message_checksumMismatch, String.toList_append, List.append_assoc] at hlist
  obtain ⟨hx, hfound⟩ := prefixFree_listing (List.append_cancel_left hlist)
  exact ⟨hx, prefixFree_listing.injective (List.append_cancel_left hfound)⟩

theorem Reported.eq_of_message_eq {e f : CheckedDecodeError} (he : Reported e) (hf : Reported f)
    (h : e.message = f.message) : e = f := by
  have hmark : e.formMark = f.formMark := by
    apply Option.some.inj
    rw [← he.head?_message, h, hf.head?_message]
  cases he with
  | foreign c i =>
    cases hf with
    | foreign d j =>
      obtain ⟨rfl, rfl⟩ := eq_of_message_invalidCharacter_eq h
      rfl
    | short => simp [formMark] at hmark
    | altered => simp [formMark] at hmark
  | short m =>
    cases hf with
    | short n =>
      rw [message_invalidDataLength, message_invalidDataLength] at h
      rw [h]
    | foreign => simp [formMark] at hmark
    | altered => simp [formMark] at hmark
  | altered x y =>
    cases hf with
    | altered x' y' =>
      obtain ⟨rfl, rfl⟩ := eq_of_message_checksumMismatch_eq h
      rfl
    | foreign => simp [formMark] at hmark
    | short => simp [formMark] at hmark

end CheckedDecodeError

theorem Alphabet.debugText_injective : Function.Injective Alphabet.debugText := by
  intro A B h
  have htext : "Alphabet(" ++ Quoted.text A.symbols ++ ")" = "Alphabet(" ++ Quoted.text B.symbols ++ ")" := h
  rw [String.append_left_inj, String.append_right_inj] at htext
  exact Alphabet.eq_of_symbols_eq (Quoted.text_injective htext)

theorem texts_determine_values :
    (∀ {A B : Alphabet} {s t : String} {e f : CheckedDecodeError}, Base58Check.decode A s = .error e →
        Base58Check.decode B t = .error f → e.message = f.message → e = f) ∧
      Function.Injective AlphabetError.message ∧ Function.Injective Alphabet.debugText := by
  refine ⟨fun he hf => ?_, AlphabetError.message_injective, Alphabet.debugText_injective⟩
  exact (CheckedDecodeError.reported_of_decode he).eq_of_message_eq (CheckedDecodeError.reported_of_decode hf)

theorem texts_determine_values_combining : ∃ e f, Base58Check.decode .bitcoin "1\u0301" = .error e ∧
    Base58Check.decode .ripple "r\u0301" = .error f ∧
    e.message = "invalid character '\\u\x7b301\x7d' at index 1" ∧ e.message = f.message ∧ e = f := by
  have he : Base58Check.decode .bitcoin "1\u0301" = .error (.decode (.invalidCharacter '\u0301' 1)) := by
    decide +kernel
  have hf : Base58Check.decode .ripple "r\u0301" = .error (.decode (.invalidCharacter '\u0301' 1)) := by
    decide +kernel
  exact ⟨_, _, he, hf, by decide +kernel, rfl, texts_determine_values.1 he hf rfl⟩

end ByteText
