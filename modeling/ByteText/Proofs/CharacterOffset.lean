import ByteText.Proofs.ForeignCharacter

namespace ByteText

section Offset

variable {cs : List Char} {n o : ℕ}

def byteOffset (cs : List Char) (n : ℕ) : ℕ :=
  ((cs.take n).flatMap String.utf8EncodeChar).length

theorem byteOffset_cons_succ (c : Char) (cs : List Char) (n : ℕ) :
    byteOffset (c :: cs) (n + 1) = c.utf8Size + byteOffset cs n := by
  rw [byteOffset, List.take_succ_cons, List.flatMap_cons, List.length_append, String.length_utf8EncodeChar, byteOffset]

theorem eq_byteOffset_of_position? (h : position? cs o = some n) : n ≤ cs.length ∧ o = byteOffset cs n := by
  induction cs generalizing o n with
  | nil =>
    cases o with
    | zero =>
      cases h
      exact ⟨le_rfl, rfl⟩
    | succ o => cases h
  | cons c cs ih =>
    cases o with
    | zero =>
      cases h
      exact ⟨Nat.zero_le _, rfl⟩
    | succ o =>
      rw [position?] at h
      split at h
      next hsize =>
        obtain ⟨m, hm, rfl⟩ := Option.map_eq_some_iff.mp h
        obtain ⟨hle, ho⟩ := ih hm
        refine ⟨Nat.succ_le_succ hle, ?_⟩
        rw [byteOffset_cons_succ, ← ho]
        omega
      next => cases h

theorem position?_eq_none (h : ∀ n ≤ cs.length, o ≠ byteOffset cs n) : position? cs o = none := by
  cases hp : position? cs o with
  | none => rfl
  | some n =>
    obtain ⟨hn, ho⟩ := eq_byteOffset_of_position? hp
    exact absurd ho (h n hn)

end Offset

namespace Base58

theorem errorIn_byteOffset (s : String) (n : ℕ) (c : Char) (hc : s.toList[n]? = some c) :
    (Fault.nonAscii (byteOffset s.toList n)).errorIn s = .invalidCharacter c n ∧
      ∀ x, (Fault.foreign x (byteOffset s.toList n)).errorIn s = .invalidCharacter x n := by
  obtain ⟨hn, hget⟩ := List.getElem?_eq_some_iff.mp hc
  have hlen : (s.toList.take n).length = n := List.length_take_of_le hn.le
  have hs : s.toList = s.toList.take n ++ c :: s.toList.drop (n + 1) := by
    rw [← hget, List.getElem_cons_drop, List.take_append_drop]
  constructor
  · have h := errorIn_nonAscii_append hs
    rwa [hlen] at h
  · intro x
    have h := errorIn_foreign_append hs x
    rwa [hlen] at h

theorem errorIn_byteOffset_wide : "aé€😀ß".toList[4]? = some 'ß' ∧ byteOffset "aé€😀ß".toList 4 = 10 ∧
    (Fault.nonAscii (byteOffset "aé€😀ß".toList 4)).errorIn "aé€😀ß" = .invalidCharacter 'ß' 4 ∧
    ∀ x, (Fault.foreign x (byteOffset "aé€😀ß".toList 4)).errorIn "aé€😀ß" = .invalidCharacter x 4 := by
  have hc : "aé€😀ß".toList[4]? = some 'ß' := by decide
  exact ⟨hc, by decide, errorIn_byteOffset "aé€😀ß" 4 'ß' hc⟩

theorem errorIn_of_forall_ne_byteOffset {s : String} {o : ℕ} (ho : ∀ n ≤ s.toList.length, o ≠ byteOffset s.toList n) :
    (Fault.nonAscii o).errorIn s = .invalidCharacter '\ufffd' o ∧
      ∀ x, (Fault.foreign x o).errorIn s = .invalidCharacter x o := by
  have hp : position? s.toList o = none := position?_eq_none ho
  have hc : charFrom? s.toList o = none := by rw [charFrom?_eq_bind, hp, Option.bind_none]
  constructor
  · rw [Fault.errorIn, hp, hc, Option.getD_none, Option.getD_none]
  · intro x
    rw [Fault.errorIn, hp, Option.getD_none]

end Base58

end ByteText
