import ByteText.Proofs.HexReading

namespace ByteText

def PrefixFree {α : Type} (write : α → List Char) : Prop :=
  ∀ ⦃a b : α⦄ ⦃us vs : List Char⦄, write a ++ us = write b ++ vs → a = b ∧ us = vs

namespace PrefixFree

variable {α : Type} {write : α → List Char}

theorem injective (h : PrefixFree write) : Function.Injective write := by
  intro a b he
  have hnil : write a ++ [] = write b ++ [] := by rw [he]
  exact (h hnil).1

theorem of_read {read? : List Char → Option α} (h : ∀ a us, read? (write a ++ us) = some a) : PrefixFree write := by
  intro a b us vs he
  have hab : a = b := by
    have ha := h a us
    rw [he, h b vs] at ha
    exact (Option.some.inj ha).symm
  subst hab
  exact ⟨rfl, List.append_cancel_left he⟩

theorem of_delimited (hinj : Function.Injective write) {p : Char → Bool} (hp : ∀ a, ∀ c ∈ write a, p c)
    {m : Char} (hm : ¬ p m) (ms : List Char) : PrefixFree fun a => write a ++ m :: ms := by
  have hspan (a : α) (us : List Char) : (write a ++ m :: ms ++ us).takeWhile p = write a := by
    rw [List.append_assoc, List.takeWhile_append_of_pos (hp a), List.cons_append, List.takeWhile_cons_of_neg hm,
      List.append_nil]
  intro a b us vs he
  have hab : write a = write b := by rw [← hspan a us, he, hspan]
  obtain rfl := hinj hab
  exact ⟨rfl, List.append_cancel_left he⟩

theorem between (h : PrefixFree write) (us vs : List Char) : PrefixFree fun a => us ++ write a ++ vs := by
  intro a b xs ys he
  simp only [List.append_assoc] at he
  obtain ⟨hab, htail⟩ := h (List.append_cancel_left he)
  exact ⟨hab, List.append_cancel_left htail⟩

theorem flatMap_injective (h : PrefixFree write) (hne : ∀ a, write a ≠ []) :
    Function.Injective fun as : List α => as.flatMap write := by
  intro as
  induction as with
  | nil =>
    intro bs he
    cases bs with
    | nil => rfl
    | cons b bs => exact absurd (List.append_eq_nil_iff.mp he.symm).1 (hne b)
  | cons a as ih =>
    intro bs he
    cases bs with
    | nil => exact absurd (List.append_eq_nil_iff.mp he).1 (hne a)
    | cons b bs =>
      obtain ⟨rfl, htail⟩ := h he
      rw [ih htail]

theorem intercalate (h : PrefixFree write) (mark : List Char) {as bs : List α} (hlen : as.length = bs.length)
    {us vs : List Char} (he : mark.intercalate (as.map write) ++ us = mark.intercalate (bs.map write) ++ vs) :
    as = bs ∧ us = vs := by
  induction as generalizing bs with
  | nil =>
    obtain rfl := List.length_eq_zero_iff.mp hlen.symm
    exact ⟨rfl, he⟩
  | cons a as ih =>
    cases bs with
    | nil => cases hlen
    | cons b bs =>
      have hlen' : as.length = bs.length := Nat.succ.inj hlen
      cases as with
      | nil =>
        obtain rfl := List.length_eq_zero_iff.mp hlen'.symm
        simp only [List.map_cons, List.map_nil, List.intercalate_singleton] at he
        obtain ⟨hab, hrest⟩ := h he
        exact ⟨by rw [hab], hrest⟩
      | cons a' as =>
        cases bs with
        | nil => cases hlen'
        | cons b' bs =>
          simp only [List.map_cons, List.intercalate_cons_cons, List.append_assoc] at he
          obtain ⟨hab, htail⟩ := h he
          obtain ⟨has, hrest⟩ := ih hlen' (List.append_cancel_left htail)
          exact ⟨by rw [hab, has], hrest⟩

end PrefixFree

theorem repr_toList_injective : Function.Injective fun n : ℕ => n.repr.toList := by
  intro m n h
  exact Nat.repr_inj.mp (String.toList_inj.mp h)

theorem prefixFree_repr_append {m : Char} (hm : ¬ m.isDigit) (ms : List Char) :
    PrefixFree fun n : ℕ => n.repr.toList ++ m :: ms := by
  apply PrefixFree.of_delimited repr_toList_injective _ hm
  intro n c hc
  rw [Nat.toList_repr] at hc
  exact Nat.isDigit_of_mem_toDigits (by decide) (by decide) hc

namespace HexDigit

theorem char_injective : Function.Injective char := by
  intro d e h
  have hd := ofChar?_char d
  rw [h, ofChar?_char] at hd
  exact (Option.some.inj hd).symm

theorem prefixFree_pair : PrefixFree pair := by
  intro x y us vs h
  simp only [pair, List.cons_append, List.nil_append, List.cons.injEq] at h
  obtain ⟨hhigh, hlow, hrest⟩ := h
  refine ⟨?_, hrest⟩
  rw [← join_high_low x, char_injective hhigh, char_injective hlow, join_high_low]

end HexDigit

namespace Quoted

theorem filterMap_hex (n : ℕ) : (hex n).filterMap HexDigit.ofChar? = (Radix.carryOut 16 n).reverse := by
  rw [hex, List.filterMap_map]
  have h : HexDigit.ofChar? ∘ HexDigit.char = some := funext HexDigit.ofChar?_char
  rw [h, List.filterMap_some]

theorem isHexDigit_of_mem_hex {n : ℕ} {c : Char} (h : c ∈ hex n) : c.isHexDigit := by
  obtain ⟨d, -, rfl⟩ := List.mem_map.mp h
  exact HexDigit.isHexDigit_char d

def hexValue (cs : List Char) : ℕ :=
  Radix.value ((cs.takeWhile Char.isHexDigit).filterMap HexDigit.ofChar?)

theorem hexValue_hex_append (n : ℕ) {m : Char} (hm : ¬ m.isHexDigit) (ms : List Char) :
    hexValue (hex n ++ m :: ms) = n := by
  rw [hexValue, List.takeWhile_append_of_pos fun _ => isHexDigit_of_mem_hex, List.takeWhile_cons_of_neg hm,
    List.append_nil, filterMap_hex, Radix.value_reverse_carryOut]

def first? : List Char → Option Char
  | '\\' :: '0' :: _ => some '\x00'
  | '\\' :: 't' :: _ => some '\t'
  | '\\' :: 'r' :: _ => some '\r'
  | '\\' :: 'n' :: _ => some '\n'
  | '\\' :: 'u' :: '\x7b' :: cs => some (Char.ofNat (hexValue cs))
  | '\\' :: c :: _ => some c
  | c :: _ => some c
  | [] => none

theorem first?_of_ne {c : Char} (hc : c ≠ '\\') (cs : List Char) : first? (c :: cs) = some c := by
  simp [first?, hc]

section Mark

variable {mark : Char} (hmark : mark = '\x27' ∨ mark = '\x22')
include hmark

theorem first?_escape_append (c : Char) (us : List Char) : first? (escape mark c ++ us) = some c := by
  unfold escape
  split_ifs with h0 ht hr hn hc hplain
  · rw [h0]
    rfl
  · rw [ht]
    rfl
  · rw [hr]
    rfl
  · rw [hn]
    rfl
  · rcases hc with rfl | rfl
    · rfl
    · rcases hmark with rfl | rfl
      · rfl
      · rfl
  · exact first?_of_ne (not_or.mp hc).1 us
  · change some (Char.ofNat (hexValue (hex c.toNat ++ ['\x7d'] ++ us))) = some c
    rw [List.append_assoc, List.cons_append, hexValue_hex_append c.toNat (by decide), Char.ofNat_toNat]

theorem prefixFree_escape : PrefixFree (escape mark) :=
  PrefixFree.of_read (first?_escape_append hmark)

theorem escape_ne_nil (c : Char) : escape mark c ≠ [] := by
  intro h
  have hc := first?_escape_append hmark c []
  rw [h] at hc
  cases hc

end Mark

theorem toList_quote (mark : Char) (cs : List Char) :
    (quote mark cs).toList = mark :: cs.flatMap (escape mark) ++ [mark] := String.toList_ofList

theorem prefixFree_char : PrefixFree fun c => (char c).toList := by
  have hescape : PrefixFree (escape '\x27') := prefixFree_escape (.inl rfl)
  intro b c us vs h
  simp only [char, toList_quote, List.flatMap_singleton] at h
  exact hescape.between ['\x27'] ['\x27'] h

theorem text_injective : Function.Injective text := by
  have hescape : PrefixFree (escape '\x22') := prefixFree_escape (.inr rfl)
  have hne : ∀ c, escape '\x22' c ≠ [] := escape_ne_nil (.inr rfl)
  intro s t h
  have hlist := congrArg String.toList h
  simp only [text, toList_quote, List.cons_append, List.cons.injEq, true_and, List.append_cancel_right_eq] at hlist
  exact String.toList_inj.mp (hescape.flatMap_injective hne hlist)

end Quoted

end ByteText
