import LabGrader.Judge.Retry

/-!
# Pauses in machine numbers

How the pause before a retry is come by: the factor is a single bit shifted in 32 bits, the ceiling
is cut to 64 bits, and a random number up to the ceiling is drawn, from a range that must not be
empty.
-/

namespace LabGrader

/-- Draws numbers between two others, both of which may be drawn. An empty range has none. -/
structure RandomSource where
  draw : UInt64 → UInt64 → Option UInt64
  draws : ∀ low high, low ≤ high → ∃ x, draw low high = some x ∧ low ≤ x ∧ x ≤ high
  refuses : ∀ low high, high < low → draw low high = none

namespace RandomSource

def least : RandomSource where
  draw low high := if low ≤ high then some low else none
  draws low _ h := ⟨low, if_pos h, UInt64.le_refl low, h⟩
  refuses _ _ h := if_neg (UInt64.not_le.mpr h)

def largest : RandomSource where
  draw low high := if low ≤ high then some high else none
  draws _ high h := ⟨high, if_pos h, h, UInt64.le_refl high⟩
  refuses _ _ h := if_neg (UInt64.not_le.mpr h)

end RandomSource

namespace RetryPolicy

/-- The bit at a place, if 32 bits have such a place. -/
def bit? (place : UInt32) : Option UInt32 := if place < 32 then some (1 <<< place) else none

/-- The factor in 32 bits. The place of its bit is one less than the retry, but not less than zero;
without such a place all bits are set. -/
def wordFactor (retry : UInt32) : UInt32 :=
  (bit? (if retry = 0 then 0 else retry - 1)).getD 4294967295

/-- The ceiling in whole milliseconds. Bits from the 65th on are lost. -/
def wordCeiling (p : RetryPolicy) (retry : UInt32) : UInt64 :=
  .ofNat ((p.baseDelay.times (wordFactor retry).toNat).shorter p.maxDelay).milliseconds

/-- The pause before a retry, unless nothing can be drawn. -/
def backoff (p : RetryPolicy) (source : RandomSource) (retry : UInt32) : Option Duration :=
  let ceiling := p.wordCeiling retry
  (source.draw 0 ceiling).map fun drawn => .ofMilliseconds (max drawn (min ceiling 10)).toNat

end RetryPolicy

end LabGrader
