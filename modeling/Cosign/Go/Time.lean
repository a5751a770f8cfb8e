import Mathlib.Data.Int.Init

/-!
# Instants at whole seconds

`time.Unix` adds the offset of 1970 to its argument without looking for overflow, so that an instant
can wrap around. No certificate is dated that far back: an instant inside a certificate's window is
the one the integer names (`Time.unixSeconds_unix`).
-/
namespace Cosign.Go

/-- An instant without a fraction of a second, as the seconds since the start of year one. -/
structure Time where
  /-- Seconds in the 64 bits of the `ext` field. -/
  seconds : Int64
  deriving DecidableEq, Repr

namespace Time

/-- Seconds from the start of year one to the Unix epoch. -/
def unixToInternal : Int64 := 62135596800

/-- `time.Unix(sec, 0)`, with the wrapping addition of the source. -/
def unix (sec : Int64) : Time := ⟨unixToInternal + sec⟩

/-- `t.Before(u)`. -/
def before (time other : Time) : Bool := time.seconds < other.seconds

/-- `t.After(u)`. -/
def after (time other : Time) : Bool := other.seconds < time.seconds

/-- Seconds of an instant since the Unix epoch, as an integer. -/
def unixSeconds (time : Time) : Int := time.seconds.toInt - 62135596800

/-- Start of year zero, before which no X.509 time can be written. -/
def earliest : Int := -31622400

/-- An instant no earlier than `earliest` did not wrap: it is the second it was built from. -/
theorem unixSeconds_unix (sec : Int64) (dated : earliest ≤ (unix sec).seconds.toInt) :
    (unix sec).unixSeconds = sec.toInt := by
  have low : -(2 ^ 63) ≤ sec.toInt := Int64.le_toInt sec
  have high : sec.toInt < 2 ^ 63 := Int64.toInt_lt sec
  have sum : (unix sec).seconds.toInt = (62135596800 + sec.toInt).bmod (2 ^ 64) := by
    simp only [unix, Int64.toInt_add]
    rfl
  have reduced := Int.bmod_def (62135596800 + sec.toInt) (2 ^ 64)
  rw [← sum] at reduced
  unfold earliest at dated
  unfold unixSeconds
  split at reduced <;> omega

end Time

end Cosign.Go
