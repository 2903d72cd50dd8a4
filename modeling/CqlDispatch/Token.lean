/-!
# Partition tokens

The position of a serialized partition key on the ring of hosts.  It is the first half of the
128-bit Murmur3 hash in its x64 form with seed zero, with one trait of the servers' partitioner:
the bytes after the last full block of sixteen are sign-extended before they are mixed in.  The
least token is reserved, so a key that hashes to it gets the greatest one instead.
-/
namespace CqlDispatch

/-- A position on the ring, a signed 64-bit number. -/
structure Token where
  value : Int64
  deriving DecidableEq, Repr, Inhabited

namespace Token

instance : LE Token := ⟨fun a b => a.value ≤ b.value⟩
instance : LT Token := ⟨fun a b => a.value < b.value⟩
instance (a b : Token) : Decidable (a ≤ b) := inferInstanceAs (Decidable (a.value ≤ b.value))
instance (a b : Token) : Decidable (a < b) := inferInstanceAs (Decidable (a.value < b.value))

/-! ## The hash -/

def c1 : UInt64 := 0x87c37b91114253d5
def c2 : UInt64 := 0x4cf5ad432745937f

/-- Rotates the bits of a word to the left, `0 < n < 64`. -/
def rotateLeft (x n : UInt64) : UInt64 := (x <<< n) ||| (x >>> (64 - n))

/-- What the first half of a block contributes. -/
def mixFirst (k : UInt64) : UInt64 := rotateLeft (k * c1) 31 * c2

/-- What the second half of a block contributes. -/
def mixSecond (k : UInt64) : UInt64 := rotateLeft (k * c2) 33 * c1

def finish (k : UInt64) : UInt64 :=
  let k := (k ^^^ (k >>> 33)) * 0xff51afd7ed558ccd
  let k := (k ^^^ (k >>> 33)) * 0xc4ceb9fe1a85ec53
  k ^^^ (k >>> 33)

structure State where
  h1 : UInt64
  h2 : UInt64
  deriving DecidableEq, Repr

/-- A word from its bytes, the first one lowest. -/
def wordOf : List UInt8 → UInt64
  | [] => 0
  | b :: rest => b.toUInt64 ||| (wordOf rest <<< 8)

def absorb (s : State) (block : List UInt8) : State :=
  let h1 := s.h1 ^^^ mixFirst (wordOf (block.take 8))
  let h1 := (rotateLeft h1 27 + s.h2) * 5 + 0x52dce729
  let h2 := s.h2 ^^^ mixSecond (wordOf (block.drop 8))
  let h2 := (rotateLeft h2 31 + h1) * 5 + 0x38495ab5
  ⟨h1, h2⟩

def absorbBlocks : Nat → State → List UInt8 → State
  | 0, s, _ => s
  | n + 1, s, data => absorbBlocks n (absorb s (data.take 16)) (data.drop 16)

/-- A byte as a signed word. -/
def signExtended (b : UInt8) : UInt64 := b.toInt8.toInt64.toUInt64

/-- The word of the tail: each byte sign-extended and shifted to its place, all combined by
exclusive or. -/
def tailWord : List UInt8 → UInt64
  | [] => 0
  | b :: rest => signExtended b ^^^ (tailWord rest <<< 8)

/-- Takes the bytes after the last full block in. -/
def absorbTail (s : State) (tail : List UInt8) : State :=
  let h2 := if 8 < tail.length then s.h2 ^^^ mixSecond (tailWord (tail.drop 8)) else s.h2
  let h1 := if 0 < tail.length then s.h1 ^^^ mixFirst (tailWord (tail.take 8)) else s.h1
  ⟨h1, h2⟩

/-- Mixes the length in and both halves together; the first half is the hash. -/
def conclude (s : State) (length : Nat) : UInt64 :=
  let h1 := s.h1 ^^^ UInt64.ofNat length
  let h2 := s.h2 ^^^ UInt64.ofNat length
  let h1 := h1 + h2
  let h2 := h2 + h1
  finish h1 + finish h2

def hash (key : List UInt8) : UInt64 :=
  let blocks := key.length / 16
  conclude (absorbTail (absorbBlocks blocks ⟨0, 0⟩ key) (key.drop (blocks * 16))) key.length

/-- The token that owns a serialized partition key. -/
def ofRoutingKey (key : List UInt8) : Token :=
  let h := (hash key).toInt64
  if h = Int64.minValue then ⟨Int64.maxValue⟩ else ⟨h⟩

theorem ofRoutingKey_ne_min (key : List UInt8) : (ofRoutingKey key).value ≠ Int64.minValue := by
  simp only [ofRoutingKey]
  split
  · decide
  · assumption

end Token

end CqlDispatch
