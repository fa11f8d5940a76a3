import ByteText.Value

namespace ByteText

structure Host where
  Handle : Type
  null : Handle
  holds : Nat → Prop
  convert : Value → Except String Handle
  text? : Handle → Option String
  integer? : Handle → Option Int
  items? : Handle → Option (List Handle)
  property? : Handle → String → Option Handle

namespace Host

def give (H : Host) (v : Value) : H.Handle :=
  match H.convert v with
  | .ok x => x
  | .error _ => H.null

def textAt? (H : Host) (x : H.Handle) (key : String) : Option String :=
  (H.property? x key).bind H.text?

def integerAt? (H : Host) (x : H.Handle) (key : String) : Option Int :=
  (H.property? x key).bind H.integer?

inductive Carries (H : Host) : Value → Prop
  | text (s : String) : Carries H (.text s)
  | integer {n : Nat} (h : H.holds n) : Carries H (.integer n)
  | sequence {vs : List Value} (h : ∀ v ∈ vs, Carries H v) : Carries H (.sequence vs)
  | map {es : List (String × Value)} (distinct : (es.map Prod.fst).Nodup) (h : ∀ e ∈ es, Carries H e.2) :
    Carries H (.map es)

theorem Carries.of_lookup {H : Host} {es : List (String × Value)} (h : H.Carries (.map es)) (k : String) {v : Value}
    (hk : es.lookup k = some v) : H.Carries v := by
  cases h with
  | map _ h =>
    obtain ⟨before, after, rfl, -⟩ := List.lookup_eq_some_iff.mp hk
    exact h (k, v) (List.mem_append_right before List.mem_cons_self)

theorem Carries.holds {H : Host} {n : Nat} (h : H.Carries (.integer n)) : H.holds n := by
  generalize hv : Value.integer n = v at h
  cases h with
  | integer hm =>
    cases hv
    exact hm
  | _ => cases hv

/-- Texts, numbers that are held, lists and objects are converted, to something that reads as they do. -/
structure Faithful (H : Host) : Prop where
  byte : ∀ x : UInt8, H.holds x.toNat
  converts : ∀ {v}, H.Carries v → ∃ x, H.convert v = .ok x
  text : ∀ {s x}, H.convert (.text s) = .ok x → H.text? x = some s
  integer : ∀ {n : Nat} {x}, H.holds n → H.convert (.integer n) = .ok x → H.integer? x = some (n : Int)
  sequence : ∀ {vs x}, H.Carries (.sequence vs) → H.convert (.sequence vs) = .ok x → H.items? x = some (vs.map H.give)
  map : ∀ {es x}, H.Carries (.map es) → H.convert (.map es) = .ok x → ∀ k, H.property? x k = (es.lookup k).map H.give

namespace Faithful

variable {H : Host} (hH : H.Faithful) {es : List (String × Value)} {k : String}
include hH

theorem convert_eq {v : Value} (hv : H.Carries v) : H.convert v = .ok (H.give v) := by
  obtain ⟨x, hx⟩ := hH.converts hv
  rw [give, hx]

theorem text?_give (s : String) : H.text? (H.give (.text s)) = some s :=
  hH.text (hH.convert_eq (.text s))

theorem integer?_give {n : Nat} (hn : H.holds n) : H.integer? (H.give (.integer n)) = some (n : Int) :=
  hH.integer hn (hH.convert_eq (.integer hn))

theorem items?_give {vs : List Value} (hvs : H.Carries (.sequence vs)) :
    H.items? (H.give (.sequence vs)) = some (vs.map H.give) :=
  hH.sequence hvs (hH.convert_eq hvs)

theorem property?_give (hes : H.Carries (.map es)) (k : String) :
    H.property? (H.give (.map es)) k = (es.lookup k).map H.give :=
  hH.map hes (hH.convert_eq hes) k

theorem textAt?_give (hes : H.Carries (.map es)) {s : String} (hk : es.lookup k = some (.text s)) :
    H.textAt? (H.give (.map es)) k = some s := by
  rw [textAt?, hH.property?_give hes, hk]
  exact hH.text?_give s

theorem integerAt?_give (hes : H.Carries (.map es)) {n : Nat} (hk : es.lookup k = some (.integer n)) :
    H.integerAt? (H.give (.map es)) k = some (n : Int) := by
  rw [integerAt?, hH.property?_give hes, hk]
  exact hH.integer?_give (hes.of_lookup k hk).holds

end Faithful

end Host

end ByteText
