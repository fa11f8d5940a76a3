import ByteText.Base58Check
import ByteText.Proofs.Base58RoundTrip

namespace ByteText.Base58Check

inductive Checked : Except DecodeError Bytes → Except CheckedDecodeError Bytes → Prop
  | undecoded (e : DecodeError) : Checked (.error e) (.error (.decode e))
  | short {data : Bytes} (h : data.length < 4) :
    Checked (.ok data) (.error (.decode (.invalidDataLength s!"expected at least 4 bytes, got {data.length}")))
  | altered {payload : Bytes} {stored : Checksum} (h : stored ≠ checksum payload) :
    Checked (.ok (payload ++ stored.toList)) (.error (.checksumMismatch (checksum payload) stored))
  | intact (payload : Bytes) : Checked (.ok (payload ++ (checksum payload).toList)) (.ok payload)

theorem checked_ok_iff (plain : Except DecodeError Bytes) (p : Bytes) :
    Checked plain (.ok p) ↔ plain = .ok (p ++ (checksum p).toList) := by
  constructor
  · intro h
    cases h
    rfl
  · rintro rfl
    exact .intact p

theorem sum_eq_checksum (payload : Bytes) : sum payload = checksum payload := by
  have htake (d : Vector UInt8 32) : (d.take 4).cast (by decide) = #v[d[0], d[1], d[2], d[3]] := by
    apply Vector.ext
    intro i hi
    rw [Vector.getElem_cast, Vector.getElem_take]
    interval_cases i <;> rfl
  exact htake (Sha256.digest (Sha256.digest payload).toList)

theorem encode_eq_append_checksum (A : Alphabet) (payload : Bytes) :
    encode A payload = Base58.encode A (payload ++ (checksum payload).toList) := by
  rw [encode, sum_eq_checksum]

theorem verify_append (payload : Bytes) (stored : Checksum) :
    verify (payload ++ stored.toList) =
      if checksum payload = stored then .ok payload else .error (.mismatch (checksum payload) stored) := by
  have hlen : (payload ++ stored.toList).length - 4 = payload.length := by simp
  have htake : (payload ++ stored.toList).take ((payload ++ stored.toList).length - 4) = payload := by
    rw [hlen, List.take_left]
  have hdrop : (payload ++ stored.toList).drop ((payload ++ stored.toList).length - 4) = stored.toList := by
    rw [hlen, List.drop_left]
  rw [verify, dif_neg (by simp)]
  simp only [htake, hdrop, sum_eq_checksum]
  rfl

theorem exists_eq_append_checksum {data : Bytes} (h : 4 ≤ data.length) :
    ∃ payload : Bytes, ∃ stored : Checksum, data = payload ++ stored.toList := by
  have hlen : (data.drop (data.length - 4)).toArray.size = 4 := by simp; omega
  exact ⟨data.take (data.length - 4), ⟨_, hlen⟩, (List.take_append_drop _ data).symm⟩

variable {A : Alphabet} {s : String}

theorem decode_of_plain_error {e : DecodeError} (h : Base58.decode A s = .error e) :
    decode A s = .error (.decode e) := by
  rw [Base58.decode] at h
  rw [decode, read]
  cases hr : Base58.read A (utf8 s) with
  | error fault =>
    rw [hr] at h
    cases h
    rfl
  | ok data =>
    rw [hr] at h
    cases h

theorem decode_of_plain_ok {data : Bytes} (h : Base58.decode A s = .ok data) :
    decode A s = (verify data).mapError (Fault.errorIn A s) := by
  rw [decode, read, mapError_eq_ok_iff.mp h]

theorem decode_of_plain_short {data : Bytes} (h : Base58.decode A s = .ok data) (hd : data.length < 4) :
    decode A s = .error (.decode (.invalidDataLength s!"expected at least 4 bytes, got {data.length}")) := by
  have hc : byteCount A s = data.length := by rw [byteCount, h]
  have hv : verify data = .error .tooShort := by rw [verify, dif_pos hd]
  rw [decode_of_plain_ok h, hv, ← hc]
  rfl

theorem decode_of_plain_append {payload : Bytes} {stored : Checksum}
    (h : Base58.decode A s = .ok (payload ++ stored.toList)) :
    decode A s =
      if checksum payload = stored then .ok payload else .error (.checksumMismatch (checksum payload) stored) := by
  rw [decode_of_plain_ok h, verify_append]
  split <;> rfl

theorem decode_eq_iff_checked (A : Alphabet) (s : String) (r : Except CheckedDecodeError Bytes) :
    decode A s = r ↔ Checked (Base58.decode A s) r := by
  generalize hp : Base58.decode A s = plain
  constructor
  · rintro rfl
    cases plain with
    | error e =>
      rw [decode_of_plain_error hp]
      exact .undecoded e
    | ok data =>
      by_cases hd : data.length < 4
      · rw [decode_of_plain_short hp hd]
        exact .short hd
      · obtain ⟨payload, stored, rfl⟩ := exists_eq_append_checksum (Nat.le_of_not_lt hd)
        rw [decode_of_plain_append hp]
        split
        next hs => exact hs ▸ .intact payload
        next hs => exact .altered (Ne.symm hs)
  · intro h
    cases h with
    | undecoded e => exact decode_of_plain_error hp
    | short hd => exact decode_of_plain_short hp hd
    | altered hs => rw [decode_of_plain_append hp, if_neg (Ne.symm hs)]
    | intact payload => rw [decode_of_plain_append hp, if_pos rfl]

theorem decode_eq_ok_iff_plain (A : Alphabet) (s : String) (p : Bytes) :
    decode A s = .ok p ↔ Base58.decode A s = .ok (p ++ (checksum p).toList) :=
  (decode_eq_iff_checked A s _).trans (checked_ok_iff _ p)

theorem checked_refines_plain (A : Alphabet) :
    (∀ p, Base58.decode A (encode A p) = .ok (p ++ (checksum p).toList)) ∧
      ∀ s r, decode A s = r ↔ Checked (Base58.decode A s) r :=
  ⟨fun p => (Base58.decode_eq_ok_iff A _ _).mpr (encode_eq_append_checksum A p), decode_eq_iff_checked A⟩

theorem decode_eq_ok_iff_eq_encode (A : Alphabet) (s : String) (p : Bytes) :
    decode A s = .ok p ↔ s = encode A p := by
  rw [decode_eq_iff_checked, checked_ok_iff, Base58.decode_eq_ok_iff, encode_eq_append_checksum]

end ByteText.Base58Check
