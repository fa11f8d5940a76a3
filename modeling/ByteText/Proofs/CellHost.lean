import ByteText.Host
import Mathlib

namespace ByteText

inductive Cell
  | null
  | bool (value : Bool)
  | number (value : ℤ)
  | double (value : Float)
  | text (value : String)
  | array (items : List Cell)
  | object (property? : String → Option Cell)

namespace Cell

mutual

def convert : Value → Except String Cell
  | .null => .ok .null
  | .bool b => .ok (.bool b)
  | .integer n => if n.natAbs < 2 ^ 53 then .ok (.number n) else .error s!"{n} is too large"
  | .floating x => .ok (.double x)
  | .text s => .ok (.text s)
  | .sequence vs => (convertItems vs).map .array
  | .map es => (convertEntries es).map .object

def convertItems : List Value → Except String (List Cell)
  | [] => .ok []
  | v :: vs => do
    let x ← convert v
    let xs ← convertItems vs
    return x :: xs

def convertEntries : List (String × Value) → Except String (String → Option Cell)
  | [] => .ok fun _ => none
  | (key, v) :: es => do
    let x ← convert v
    let rest ← convertEntries es
    return fun k => if k == key then some x else rest k

end

def host : Host where
  Handle := Cell
  null := .null
  holds n := n < 2 ^ 53
  convert := convert
  text?
    | .text s => some s
    | _ => none
  integer?
    | .number n => some n
    | _ => none
  items?
    | .array xs => some xs
    | _ => none
  property?
    | .object property?, k => property? k
    | _, _ => none

def ofValue (v : Value) : Cell :=
  host.give v

theorem ofValue_eq {v : Value} {x : Cell} (h : convert v = .ok x) : ofValue v = x := by
  rw [ofValue, Host.give, show host.convert v = .ok x from h]

theorem convertItems_eq {vs : List Value} (h : ∀ v ∈ vs, ∃ x, convert v = .ok x) :
    convertItems vs = .ok (vs.map ofValue) := by
  induction vs with
  | nil => rw [convertItems, List.map_nil]
  | cons v vs ih =>
    obtain ⟨x, hx⟩ := h v List.mem_cons_self
    rw [convertItems, hx, ih fun w hw => h w (List.mem_cons_of_mem v hw), List.map_cons, ofValue_eq hx]
    rfl

theorem convertEntries_eq {es : List (String × Value)} (h : ∀ e ∈ es, ∃ x, convert e.2 = .ok x) :
    convertEntries es = .ok fun k => (es.lookup k).map ofValue := by
  induction es with
  | nil => rw [convertEntries]; rfl
  | cons e es ih =>
    obtain ⟨x, hx⟩ := h e List.mem_cons_self
    rw [convertEntries, hx, ih fun f hf => h f (List.mem_cons_of_mem e hf)]
    apply congrArg Except.ok
    funext k
    rw [List.lookup_cons]
    cases k == e.1
    · rfl
    · exact congrArg some (ofValue_eq hx).symm

theorem convert_integer {n : ℕ} (hn : n < 2 ^ 53) : convert (.integer n) = .ok (.number n) := by
  rw [convert, Int.natAbs_natCast, if_pos hn]

theorem exists_convert_eq_ok {v : Value} (hv : host.Carries v) : ∃ x, convert v = .ok x := by
  induction hv with
  | text s => exact ⟨_, by rw [convert]⟩
  | integer hn => exact ⟨_, convert_integer hn⟩
  | sequence h ih => exact ⟨_, by rw [convert, convertItems_eq ih]; rfl⟩
  | map distinct h ih => exact ⟨_, by rw [convert, convertEntries_eq ih]; rfl⟩

theorem faithful_host : host.Faithful where
  byte x := lt_trans x.toNat_lt (by decide)
  converts := exists_convert_eq_ok
  text {s x} h := by
    change convert (.text s) = .ok x at h
    rw [convert] at h
    cases h
    rfl
  integer {n x} hn h := by
    change convert (.integer n) = .ok x at h
    rw [convert_integer hn] at h
    cases h
    rfl
  sequence {vs x} hvs h := by
    cases hvs with
    | sequence hvs =>
      change convert (.sequence vs) = .ok x at h
      rw [convert, convertItems_eq fun v hv => exists_convert_eq_ok (hvs v hv)] at h
      cases h
      rfl
  map {es x} hes h k := by
    cases hes with
    | map distinct hes =>
      change convert (.map es) = .ok x at h
      rw [convert, convertEntries_eq fun e he => exists_convert_eq_ok (hes e he)] at h
      cases h
      rfl

end Cell

end ByteText
