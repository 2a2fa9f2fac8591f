import ObjectWatch.Proofs.Traversal
import ObjectWatch.Value.Text

/-! Values that have a text, and those that have none. A value has one exactly if every integer in it has one, and
    an integer has one exactly if it has not too many digits. Where there is one, what the program gets is the text
    that is written out. -/

namespace ObjectWatch

theorem Decimal.fits_iff {i : Int} : fits i = true ↔ i.natAbs < Nat.pow 10 mostDigits := by
  -- The limit stays a variable here: its power is not to be computed.
  have count {n k : Nat} (hk : 0 < k) : (Nat.toDigits 10 n).length ≤ k ↔ n < Nat.pow 10 k :=
    Nat.length_toDigits_le_iff (by decide) hk
  rw [fits, decide_eq_true_iff, count (by decide)]

theorem Decimal.fits_pow_iff {n : Nat} : fits (.ofNat (Nat.pow 10 n)) = true ↔ n < mostDigits := by
  have less {m k : Nat} : Nat.pow 10 m < Nat.pow 10 k ↔ m < k := Nat.pow_lt_pow_iff_right (by decide)
  rw [fits_iff, Int.natAbs_ofNat', less]

namespace Value

/-- The least positive integer that has no text. -/
def textless : Value :=
  .int (.ofNat (Nat.pow 10 Decimal.mostDigits))

section Texts
variable {v : Value} {s : String} {items : List Value} {entries table : List (Value × Value)} {texts : List String}

theorem hasText_textless : textless.hasText = false :=
  Bool.eq_false_iff.mpr fun h => absurd (Decimal.fits_pow_iff.mp h) (Nat.lt_irrefl _)

theorem hasTextEntries_iff : hasTextEntries entries = true ↔
    ∀ e ∈ entries, e.1.hasText = true ∧ e.2.hasText = true := by
  induction entries with
  | nil => simp [hasTextEntries]
  | cons e rest ih => simp [hasTextEntries, ih]

theorem hasTextEntries_textless : hasTextEntries [(.str s, textless)] = false := by
  simp only [hasTextEntries, hasText_textless, Bool.and_false, Bool.false_and]

theorem text?_eq_ok_iff : v.text? = .ok s ↔ v.hasText = true ∧ v.text = s := by
  unfold text?
  split <;> simp_all

theorem text?_of_hasText (h : v.hasText = true) : v.text? = .ok v.text :=
  text?_eq_ok_iff.mpr ⟨h, rfl⟩

theorem text?_of_not_hasText (h : v.hasText = false) : v.text? = .error .tooManyDigits := by
  rw [text?, h]
  rfl

theorem label?_of_hasText (h : v.hasText = true) : v.label? = .ok v.label := by
  rw [label?, if_pos h]

theorem label?_of_not_hasText (h : v.hasText = false) : v.label? = .error .tooManyDigits := by
  rw [label?, h]
  rfl

theorem labelTable?_eq_ok_iff : v.labelTable? = .ok table ↔ v.entriesHaveTexts = true ∧ v.labelTable = table := by
  unfold labelTable?
  split <;> simp_all

theorem labelTable?_of_haveTexts (h : v.entriesHaveTexts = true) : v.labelTable? = .ok v.labelTable :=
  labelTable?_eq_ok_iff.mpr ⟨h, rfl⟩

theorem labelTable?_of_not_haveTexts (h : v.entriesHaveTexts = false) : v.labelTable? = .error .tooManyDigits := by
  rw [labelTable?, h]
  rfl

/-- Values all of which have texts give these, in their order. -/
theorem mapM_text?_eq_ok_iff : items.mapM text? = .ok texts ↔
    (∀ v ∈ items, v.hasText = true) ∧ items.map text = texts := by
  simp only [mapM_eq_ok_iff, text?_eq_ok_iff]
  rw [List.forall₂_and_left, ← List.forall₂_eq_eq_eq, List.forall₂_map_left_iff]

end Texts

end Value

end ObjectWatch
