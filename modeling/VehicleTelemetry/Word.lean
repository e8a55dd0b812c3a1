/-!
The range of signed words of 64 bits.
-/

namespace VehicleTelemetry.Word

/-- Whether a whole number is a signed word of 64 bits. -/
def isSigned (value : Int) : Bool :=
  -9223372036854775808 ≤ value && value ≤ 9223372036854775807

theorem isSigned_iff (value : Int) :
    isSigned value ↔ -9223372036854775808 ≤ value ∧ value ≤ 9223372036854775807 := by
  simp [isSigned]

end VehicleTelemetry.Word
