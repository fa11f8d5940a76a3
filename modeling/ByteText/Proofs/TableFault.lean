import ByteText.Alphabet
import Mathlib

namespace ByteText

namespace SymbolTable

def FaultAt (codes : Vector UInt8 58) (j : Fin 58) : Prop :=
  128 ≤ codes.get j ∨ ∃ i < j, codes.get i = codes.get j

inductive FirstFault (codes : Vector UInt8 58) : AlphabetError → Prop
  | nonAscii {j : Fin 58} (least : IsLeast {k | FaultAt codes k} j) (high : 128 ≤ codes.get j) :
    FirstFault codes (.nonAscii j)
  | duplicate {i j : Fin 58} (least : IsLeast {k | FaultAt codes k} j) (lt : i < j)
    (repeats : codes.get i = codes.get j) (unique : ∀ k < j, codes.get k = codes.get j → k = i) :
    FirstFault codes (.duplicateCharacter (Char.ofUInt8 (codes.get j)) i j)

variable {codes : Vector UInt8 58}

theorem not_faultAt_iff : (∀ j, ¬ FaultAt codes j) ↔ (∀ d, codes.get d < 128) ∧ Function.Injective codes.get := by
  constructor
  · intro h
    refine ⟨fun d => UInt8.not_le.mp fun hd => h d (.inl hd), fun i j hij => ?_⟩
    rcases lt_trichotomy i j with hlt | heq | hlt
    · exact absurd (.inr ⟨i, hlt, hij⟩) (h j)
    · exact heq
    · exact absurd (.inr ⟨j, hlt, hij.symm⟩) (h i)
  · rintro ⟨hascii, hinj⟩ j (hj | ⟨i, hlt, hij⟩)
    · exact UInt8.not_le.mpr (hascii j) hj
    · exact hlt.ne (hinj hij)

theorem FirstFault.exists_faultAt {e : AlphabetError} (h : FirstFault codes e) : ∃ j, FaultAt codes j := by
  cases h with
  | nonAscii least => exact ⟨_, least.1⟩
  | duplicate least => exact ⟨_, least.1⟩

theorem not_high_of_repeats {i j : Fin 58} (least : IsLeast {k | FaultAt codes k} j) (lt : i < j)
    (repeats : codes.get i = codes.get j) : ¬ 128 ≤ codes.get j := by
  intro high
  rw [← repeats] at high
  exact not_le.mpr lt (least.2 (.inl high))

theorem FirstFault.eq {e f : AlphabetError} (he : FirstFault codes e) (hf : FirstFault codes f) : e = f := by
  cases he with
  | nonAscii least high =>
    cases hf with
    | nonAscii least' => rw [least.unique least']
    | duplicate least' lt repeats =>
      rw [least.unique least'] at high
      exact absurd high (not_high_of_repeats least' lt repeats)
  | duplicate least lt repeats unique =>
    cases hf with
    | nonAscii least' high =>
      rw [least'.unique least] at high
      exact absurd high (not_high_of_repeats least lt repeats)
    | duplicate least' lt' repeats' =>
      cases least.unique least'
      rw [unique _ lt' repeats']

section Enter

variable {seen : List (Fin 58)} {T : SymbolTable}

theorem Holds.eq_of_get_eq (hT : Holds codes seen T) {i j : Fin 58} (hi : i ∈ seen) (hj : j ∈ seen)
    (h : codes.get i = codes.get j) : i = j := by
  have hdi : T.digitOf? (codes.get j) = some i := (hT.digit _ i).mpr ⟨hi, h⟩
  have hdj : T.digitOf? (codes.get j) = some j := (hT.digit _ j).mpr ⟨hj, rfl⟩
  exact Option.some.inj (hdi.symm.trans hdj)

theorem Holds.isLeast (hT : Holds codes seen T) {j : Fin 58} (hseen : ∀ k, k ∈ seen ↔ k < j)
    (hj : FaultAt codes j) : IsLeast {k | FaultAt codes k} j := by
  refine ⟨hj, fun k hk => ?_⟩
  by_contra hkj
  have hlt : k < j := not_le.mp hkj
  have hks : k ∈ seen := (hseen k).mpr hlt
  rcases hk with hk | ⟨i, hi, hc⟩
  · exact UInt8.not_le.mpr (hT.ascii k hks) hk
  · have his : i ∈ seen := (hseen i).mpr (hi.trans hlt)
    exact hi.ne (hT.eq_of_get_eq his hks hc)

theorem mem_iff_lt_of_append_cons {n : ℕ} {ks js : List (Fin n)} {j : Fin n}
    (h : ks ++ j :: js = List.finRange n) (k : Fin n) : k ∈ ks ↔ k < j := by
  have hsorted := List.pairwise_lt_finRange n
  rw [← h, List.pairwise_append] at hsorted
  obtain ⟨-, hafter, hbefore⟩ := hsorted
  constructor
  · intro hk
    exact hbefore k hk j List.mem_cons_self
  · intro hlt
    have hmem := List.mem_finRange k
    rw [← h, List.mem_append, List.mem_cons] at hmem
    rcases hmem with hk | rfl | hk
    · exact hk
    · exact absurd hlt (lt_irrefl _)
    · exact absurd hlt (lt_asymm (List.rel_of_pairwise_cons hafter hk))

theorem firstFault_of_enter {ds : List (Fin 58)} {f : Fault} (hT : Holds codes seen T)
    (hds : seen ++ ds = List.finRange 58) (h : enter codes T ds = .error f) :
    FirstFault codes (Alphabet.errorOf f) := by
  induction ds generalizing seen T with
  | nil => cases h
  | cons d ds ih =>
    have hseen := mem_iff_lt_of_append_cons hds
    rw [enter] at h
    split at h
    next hx =>
      cases h
      exact .nonAscii (hT.isLeast hseen (.inl hx)) hx
    next hx =>
      split at h
      next i hi =>
        cases h
        obtain ⟨his, hc⟩ := (hT.digit _ i).mp hi
        have hlt : i < d := (hseen i).mp his
        refine .duplicate (hT.isLeast hseen (.inr ⟨i, hlt, hc⟩)) hlt hc fun k hk hkd => ?_
        exact hT.eq_of_get_eq ((hseen k).mpr hk) his (hkd.trans hc.symm)
      next hd =>
        apply ih (hT.add (UInt8.not_le.mp hx) hd) _ h
        rw [List.append_assoc, List.singleton_append, hds]

end Enter

end SymbolTable

namespace Alphabet

variable {codes : Vector UInt8 58}

theorem ofBytes_eq_error_iff (e : AlphabetError) :
    ofBytes codes = .error e ↔ ∃ f, SymbolTable.ofCodes codes = .error f ∧ errorOf f = e := by
  unfold ofBytes
  split
  next f hf => simp [hf]
  next T hT => simp [hT]

theorem ofBytes_eq_ok_iff (A : Alphabet) : ofBytes codes = .ok A ↔ A.codes = codes := by
  constructor
  · intro h
    unfold ofBytes at h
    split at h
    next => cases h
    next =>
      cases h
      rfl
  · rintro rfl
    unfold ofBytes
    split
    next e he =>
      rw [A.built] at he
      cases he
    next => exact congrArg Except.ok (eq_of_codes_eq rfl)

theorem resolve_eq_ok_iff (choice : Choice) (A : Alphabet) : choice.resolve = .ok A ↔ A.codes = choice.codes := by
  cases choice with
  | ready B =>
    rw [Choice.resolve, Except.ok.injEq]
    exact ⟨fun h => h ▸ rfl, fun h => eq_of_codes_eq h.symm⟩
  | custom codes => exact ofBytes_eq_ok_iff A

theorem not_faultAt_codes (A : Alphabet) (j : Fin 58) : ¬ SymbolTable.FaultAt A.codes j := by
  revert j
  rw [SymbolTable.not_faultAt_iff]
  exact ⟨A.code_lt, fun _ _ => A.code_inj.mp⟩

theorem firstFault_of_ofBytes {e : AlphabetError} (h : ofBytes codes = .error e) : SymbolTable.FirstFault codes e := by
  obtain ⟨f, hf, rfl⟩ := (ofBytes_eq_error_iff e).mp h
  exact SymbolTable.firstFault_of_enter SymbolTable.holds_empty (List.nil_append _) hf

theorem exists_ofBytes_eq_ok_iff :
    (∃ A, ofBytes codes = .ok A) ↔ ∀ j, ¬ SymbolTable.FaultAt codes j := by
  constructor
  · rintro ⟨A, hA⟩
    rw [← (ofBytes_eq_ok_iff A).mp hA]
    exact A.not_faultAt_codes
  · intro hlegal
    cases hr : ofBytes codes with
    | ok A => exact ⟨A, rfl⟩
    | error e =>
      obtain ⟨j, hj⟩ := (firstFault_of_ofBytes hr).exists_faultAt
      exact absurd hj (hlegal j)

theorem ofBytes_eq_error_iff_firstFault (e : AlphabetError) :
    ofBytes codes = .error e ↔ SymbolTable.FirstFault codes e := by
  constructor
  · exact firstFault_of_ofBytes
  · intro he
    cases hr : ofBytes codes with
    | ok A =>
      obtain ⟨j, hj⟩ := he.exists_faultAt
      exact absurd hj (exists_ofBytes_eq_ok_iff.mp ⟨A, hr⟩ j)
    | error f => rw [(firstFault_of_ofBytes hr).eq he]

theorem ofBytes_refuses_first_fault (codes : Vector UInt8 58) :
    ((∃ A, ofBytes codes = .ok A) ↔ (∀ d, codes.get d < 128) ∧ Function.Injective codes.get) ∧
      (∀ A, ofBytes codes = .ok A ↔ A.codes = codes) ∧
      (∀ e, ofBytes codes = .error e ↔ SymbolTable.FirstFault codes e) ∧
      ∀ reason, ofBytes codes ≠ .error (.other reason) := by
  refine ⟨exists_ofBytes_eq_ok_iff.trans SymbolTable.not_faultAt_iff, ofBytes_eq_ok_iff,
    ofBytes_eq_error_iff_firstFault, fun reason h => ?_⟩
  cases firstFault_of_ofBytes h

end Alphabet

end ByteText
