import Mathlib.Logic.Basic
import ObjectWatch.Value.Equality

/-! Equality of the values that may be keys. Numbers are equal by what they count and moments by their instant,
    so a key has a form that it shares with exactly the keys that it equals; hence equality of keys is an
    equivalence, without any assumption on them. Other values may differ from themselves: where equality of
    these has to be an equivalence, it is assumed of what is compared (`EqualOn`). -/

namespace ObjectWatch

/-- Equality of objects is an equivalence on those that satisfy `S`. -/
structure EqualOn (S : Value → Prop) : Prop where
  refl : ∀ v, S v → v.equal v = true
  symm : ∀ v w, S v → S w → v.equal w = true → w.equal v = true
  trans : ∀ u v w, S u → S v → S w → u.equal v = true → v.equal w = true → u.equal w = true

/-- What a number counts in units of the least double, or the double that is not finite. -/
def numberForm : Int ⊕ Binary64 → Int ⊕ Binary64
  | .inl i => .inl (i * Binary64.one)
  | .inr x => match x.signedUnits? with
    | some units => .inl units
    | none => .inr x

/-- The instant of a moment, by universal time if the moment tells it. -/
def Moment.instant (t : Moment) : Bool × Int :=
  match t.offset with
  | none => (false, t.clock)
  | some o => (true, t.clock - o * 60000000)

/-- What a key is compared by. -/
inductive KeyForm where
  | null
  | number (n : Int ⊕ Binary64)
  | str (s : String)
  | octets (os : List UInt8)
  | tuple (items : List KeyForm)
  | day (d : Day)
  | moment (instant : Bool × Int)
  | identity (n : Identity)
  | sealed (tag : Nat)
  /-- Of no key. -/
  | other

namespace Value

mutual

def keyForm : Value → KeyForm
  | null => .null
  | bool b => .number (numberForm (.inl (if b then 1 else 0)))
  | int i => .number (numberForm (.inl i))
  | float x => .number (numberForm (.inr x))
  | str s => .str s
  | octets os => .octets os
  | tuple items => .tuple (keyForms items)
  | day d => .day d
  | moment t => .moment t.instant
  | identity n => .identity n
  | sealed _ tag => .sealed tag
  | list _ | mapping _ | set _ | record _ | metadata .. | object .. | service .. | knot .. | enclosing _ => .other

def keyForms : List Value → List KeyForm
  | [] => []
  | v :: rest => keyForm v :: keyForms rest

end

end Value

/-! ### Numbers and moments -/

section Numbers
variable {m n : Int ⊕ Binary64} {t u : Moment}

theorem Binary64.one_ne_zero : (Binary64.one : Int) ≠ 0 := by
  have power (k : Nat) : (Nat.pow 2 k : Int) ≠ 0 :=
    Int.natCast_ne_zero.mpr (Nat.ne_of_gt (Nat.pow_pos Nat.two_pos))
  unfold Binary64.one
  apply power

theorem Binary64.equalInt_iff {x : Binary64} {i : Int} :
    x.equalInt i = true ↔ numberForm (.inl i) = numberForm (.inr x) := by
  rw [equalInt, beq_iff_eq, numberForm, numberForm]
  -- The unit is a huge number, which `simp` must not see.
  generalize i * (Binary64.one : Int) = count
  cases x.signedUnits? with
  | none => simp
  | some units => simp [eq_comm]

/-- The two zeros are one number, and a number that is none is the same as itself. -/
theorem Binary64.same_iff {x y : Binary64} :
    (x.equal y || x == y) = true ↔ numberForm (.inr x) = numberForm (.inr y) := by
  cases x with
  | finite s units =>
    cases y with
    | finite t units' =>
      cases s <;> cases t <;> simp [equal, numberForm, signedUnits?] <;> omega
    | infinite t => cases s <;> simp [equal, numberForm, signedUnits?]
    | nan payload => cases s <;> simp [equal, numberForm, signedUnits?]
  | infinite s =>
    cases y with
    | finite t units => cases t <;> simp [equal, numberForm, signedUnits?]
    | infinite t => simp [equal, numberForm, signedUnits?]
    | nan payload => simp [equal, numberForm, signedUnits?]
  | nan payload =>
    cases y with
    | finite t units => cases t <;> simp [equal, numberForm, signedUnits?]
    | infinite t => simp [equal, numberForm, signedUnits?]
    | nan payload' => simp [equal, numberForm, signedUnits?]

theorem sameNumber_iff : Value.sameNumber m n = true ↔ numberForm m = numberForm n := by
  cases m with
  | inl i =>
    cases n with
    | inl j =>
      rw [Value.sameNumber, beq_iff_eq, numberForm, numberForm, Sum.inl.injEq,
        Int.mul_eq_mul_right_iff Binary64.one_ne_zero]
    | inr y => exact Binary64.equalInt_iff
  | inr x =>
    cases n with
    | inl j => exact Binary64.equalInt_iff.trans eq_comm
    | inr y => exact Binary64.same_iff

theorem Moment.equal_iff : t.equal u = true ↔ t.instant = u.instant := by
  unfold equal instant
  cases t.offset <;> cases u.offset <;> simp

end Numbers

namespace Value

mutual

/-- Keys are equal exactly if they have one form. -/
theorem same_iff_keyForm {v w : Value} (hv : v.hashable = true) (hw : w.hashable = true) :
    same v w = true ↔ v.keyForm = w.keyForm := by
  cases v with
  | tuple xs =>
    cases w with
    | tuple ys =>
      rw [same, keyForm, keyForm, KeyForm.tuple.injEq]
      exact sameItems_iff_keyForms hv hw
    | _ => simp [same, sameAtom, number?, keyForm]
  | _ => cases w <;> simp_all [same, sameAtom, number?, keyForm, hashable, sameNumber_iff, Moment.equal_iff]

theorem sameItems_iff_keyForms {xs ys : List Value} (hxs : hashableItems xs = true) (hys : hashableItems ys = true) :
    sameItems xs ys = true ↔ keyForms xs = keyForms ys := by
  cases xs with
  | nil => cases ys <;> simp [sameItems, keyForms]
  | cons x xs =>
    cases ys with
    | nil => simp [sameItems, keyForms]
    | cons y ys =>
      obtain ⟨hx, hxs⟩ := Bool.and_eq_true_iff.mp hxs
      obtain ⟨hy, hys⟩ := Bool.and_eq_true_iff.mp hys
      rw [sameItems, Bool.and_eq_true, keyForms, keyForms, List.cons.injEq, same_iff_keyForm hx hy,
        sameItems_iff_keyForms hxs hys]

end

end Value

end ObjectWatch
