/-!
Integers that fit machine words. A word equals the integer that it comes from; an integer outside
the range of a width has no word of that width.
-/

namespace EpisodeGuide.Word

def fitsSigned64 (i : Int) : Bool :=
  -0x8000000000000000 ≤ i && i < 0x8000000000000000

/-- The difference of two integers, or the nearest integer that fits 64 bits with a sign. -/
def saturatingSub (i j : Int) : Int :=
  max (-0x8000000000000000) (min (i - j) 0x7FFFFFFFFFFFFFFF)

def unsigned32? (i : Int) : Option UInt32 :=
  if 0 ≤ i ∧ i < UInt32.size then some (UInt32.ofNat i.toNat) else none

def unsigned64? (i : Int) : Option UInt64 :=
  if 0 ≤ i ∧ i < UInt64.size then some (UInt64.ofNat i.toNat) else none

/-- A difference that is cut off at 64 bits stays on its side of every bound within them. -/
theorem lt_saturatingSub_iff {i j bound : Int} (hlow : -0x8000000000000000 ≤ bound)
    (hhigh : bound < 0x7FFFFFFFFFFFFFFF) : bound < saturatingSub i j ↔ bound < i - j := by
  unfold saturatingSub
  omega

theorem unsigned32?_toNat (w : UInt32) : unsigned32? w.toNat = some w := by
  have h := w.toNat_lt
  simp only [unsigned32?, UInt32.size]
  rw [if_pos (by omega)]
  simp

theorem toNat_of_unsigned32? {i : Int} {w : UInt32} (h : unsigned32? i = some w) :
    (w.toNat : Int) = i := by
  unfold unsigned32? at h
  split at h
  · next hi =>
    obtain rfl := Option.some.inj h
    rw [UInt32.toNat_ofNat_of_lt' (by omega)]
    omega
  · simp at h

theorem unsigned64?_toNat (w : UInt64) : unsigned64? w.toNat = some w := by
  have h := w.toNat_lt
  simp only [unsigned64?, UInt64.size]
  rw [if_pos (by omega)]
  simp

end EpisodeGuide.Word
