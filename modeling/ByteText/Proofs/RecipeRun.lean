import ByteText.Recipe
import ByteText.Proofs.CheckedReading
import ByteText.Proofs.HexReading
import ByteText.Proofs.TableFault

namespace ByteText.Recipe

theorem bind_eq_ok_iff {ε α β : Type} {x : Except ε α} {f : α → Except ε β} {b : β} :
    x >>= f = .ok b ↔ ∃ a, x = .ok a ∧ f a = .ok b := by
  cases x <;> simp [bind, Except.bind]

variable {s t : State} {step : Step} {steps : List Step}

theorem State.after_of_ok {t : State} (h : step.apply s = .ok t) : s.after step = t := by
  rw [after, h]

theorem State.after_of_error {e : Error} (h : step.apply s = .error e) : s.after step = s := by
  rw [after, h]

theorem run_cons (s : State) (step : Step) (steps : List Step) :
    run s (step :: steps) = (step.apply s).map State.content :: run (s.after step) steps := by
  rw [run]
  cases h : step.apply s with
  | ok t => rw [State.after_of_ok h, Except.map]
  | error e => rw [State.after_of_error h, Except.map]

theorem length_run (s : State) (steps : List Step) : (run s steps).length = steps.length := by
  induction steps generalizing s with
  | nil => rfl
  | cons step steps ih => rw [run_cons, List.length_cons, List.length_cons, ih]

theorem run_append (s : State) (steps more : List Step) :
    run s (steps ++ more) = run s steps ++ run (steps.foldl State.after s) more := by
  induction steps generalizing s with
  | nil => rfl
  | cons step steps ih => rw [List.cons_append, run_cons, run_cons, ih, List.foldl_cons, List.cons_append]

theorem content_after (s : State) (step : Step) :
    (s.after step).content = ((step.apply s).map State.content).toOption.getD s.content := by
  cases h : step.apply s with
  | ok t =>
    rw [State.after_of_ok h]
    rfl
  | error e =>
    rw [State.after_of_error h]
    rfl

theorem content_foldl_after (s : State) (steps : List Step) : (steps.foldl State.after s).content =
    ((run s steps).filterMap Except.toOption).getLast?.getD s.content := by
  induction steps using List.reverseRecOn with
  | nil => rfl
  | append_singleton steps step ih =>
    rw [List.foldl_append, run_append, List.filterMap_append, List.foldl_cons, List.foldl_nil, content_after, run_cons,
      run]
    cases h : step.apply (steps.foldl State.after s) with
    | ok t => simp [Except.map, Except.toOption]
    | error e => simpa [Except.map, Except.toOption] using ih

theorem State.eq_put_of_read {decode : String → Except CheckedDecodeError Bytes} (h : s.read decode = .ok t) :
    ∃ content, t = s.put content := by
  obtain ⟨text, -, h⟩ := bind_eq_ok_iff.mp h
  obtain ⟨bytes, -, h⟩ := bind_eq_ok_iff.mp h
  cases h
  exact ⟨_, rfl⟩

theorem State.eq_put_of_edit {change : String → String} (h : s.edit change = .ok t) : ∃ content, t = s.put content := by
  obtain ⟨text, -, h⟩ := bind_eq_ok_iff.mp h
  cases h
  exact ⟨_, rfl⟩

theorem eq_put_of_apply (h : ∀ choice, step ≠ .useAlphabet choice) (ht : step.apply s = .ok t) :
    ∃ content, t = s.put content := by
  cases step with
  | encode | encodeCheck | encode16 | checksum =>
    cases ht
    exact ⟨_, rfl⟩
  | decode | decodeCheck | decode16 => exact State.eq_put_of_read ht
  | prepend | append | replace | take => exact State.eq_put_of_edit ht
  | useAlphabet choice => exact absurd rfl (h choice)

theorem alphabet_after (s : State) (h : ∀ choice, step ≠ .useAlphabet choice) :
    (s.after step).alphabet = s.alphabet := by
  cases ht : step.apply s with
  | error e => rw [State.after_of_error ht]
  | ok t =>
    obtain ⟨content, rfl⟩ := eq_put_of_apply h ht
    rw [State.after_of_ok ht]
    rfl

theorem alphabet_foldl_after (s : State) (h : ∀ step ∈ steps, ∀ choice, step ≠ .useAlphabet choice) :
    (steps.foldl State.after s).alphabet = s.alphabet := by
  induction steps generalizing s with
  | nil => rfl
  | cons step steps ih =>
    rw [List.foldl_cons, ih (s.after step) fun other ho => h other (List.mem_cons_of_mem step ho)]
    exact alphabet_after s (h step List.mem_cons_self)

theorem apply_useAlphabet_eq_ok_iff (choice : Alphabet.Choice) :
    (Step.useAlphabet choice).apply s = .ok t ↔ t.content = s.content ∧ t.alphabet.codes = choice.codes := by
  rw [Step.apply, bind_eq_ok_iff]
  simp only [mapError_eq_ok_iff, Alphabet.resolve_eq_ok_iff]
  constructor
  · rintro ⟨A, hA, h⟩
    cases h
    exact ⟨rfl, hA⟩
  · rintro ⟨hc, hA⟩
    refine ⟨t.alphabet, hA, ?_⟩
    rw [← hc]
    rfl

theorem State.read_write {encode : Bytes → String} {decode : String → Except CheckedDecodeError Bytes}
    (h : ∀ bytes, decode (encode bytes) = .ok bytes) (s : State) :
    (s.write encode).read decode = .ok (s.put (.bytes s.content.asBytes)) := by
  change (decode (encode s.content.asBytes)).mapError _ >>= _ = _
  rw [h]
  rfl

theorem after_encode_decode (s : State) : (s.after .encode).after .decode = s.put (.bytes s.content.asBytes) := by
  apply State.after_of_ok
  apply State.read_write
  intro bytes
  exact mapError_eq_ok_iff.mpr ((Base58.decode_eq_ok_iff s.alphabet _ bytes).mpr rfl)

theorem after_encodeCheck_decodeCheck (s : State) :
    (s.after .encodeCheck).after .decodeCheck = s.put (.bytes s.content.asBytes) := by
  apply State.after_of_ok
  apply State.read_write
  intro bytes
  apply (Base58Check.decode_eq_ok_iff_plain s.alphabet _ bytes).mpr
  exact (Base58.decode_eq_ok_iff s.alphabet _ _).mpr (Base58Check.encode_eq_append_checksum s.alphabet bytes)

theorem after_encode16_decode16 (s : State) :
    (s.after .encode16).after .decode16 = s.put (.bytes s.content.asBytes) := by
  apply State.after_of_ok
  apply State.read_write
  intro bytes
  exact mapError_eq_ok_iff.mpr (Base16.decode_encode_eq bytes)

end ByteText.Recipe
