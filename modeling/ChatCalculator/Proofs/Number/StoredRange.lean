/-
This file shows that every stored number that can be read at all is read as a finite double.
-/

import ChatCalculator.Proofs.Number.StoredValue

namespace ChatCalculator.StoredNumber

/-- A scaled word lies below infinity. -/
theorem finite_of_scale? {word : Nat} {exponent : Int} {pattern : Nat} (small : word ≤ wordLimit)
    (scaled : scale? word exponent = some pattern) : pattern < Binary.infinity := by
  rcases Int.lt_or_le 0 exponent with positive | nonpositive
  · have bounded : Binary.product (Binary.nearest word 1) (powerOfTen exponent.natAbs) ≤
        Binary.infinity := Nat.min_le_left _ _
    unfold scale? at scaled
    dsimp only at scaled
    rw [if_neg (by omega)] at scaled
    generalize Binary.product (Binary.nearest word 1) (powerOfTen exponent.natAbs) = product at *
    split at scaled
    · split at scaled
      · cases scaled
      · next finite =>
          cases scaled
          exact Nat.lt_of_le_of_ne bounded finite
    · split at scaled
      · cases scaled
        decide
      · cases scaled
  · obtain ⟨other, finite, found⟩ := exists_scale?_of_nonpositive small nonpositive
    cases found.symm.trans scaled
    exact finite

theorem finite_of_magnitude? {number : StoredNumber} {pattern : Nat}
    (read : number.magnitude? = some pattern) : pattern < Binary.infinity := by
  have whole := takeDigits_le (Nat.zero_le wordLimit) number.whole
  have word := takeDigits_le whole number.decimals
  unfold magnitude? at read
  dsimp only at read
  split at read
  · exact finite_of_scale? word read
  · split at read
    · exact finite_of_scale? word read
    · split at read
      · cases read
        decide
      · cases read

/-- A number that is read has a finite value. -/
theorem isFinite_of_value? {number : StoredNumber} {value : Float}
    (read : number.value? = some value) : Binary.isFinite value := by
  obtain ⟨pattern, magnitude, rfl⟩ := Option.map_eq_some_iff.mp read
  exact Binary.isFinite_ofPattern number.negative (finite_of_magnitude? magnitude)

end ChatCalculator.StoredNumber
