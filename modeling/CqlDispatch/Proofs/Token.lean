import Mathlib.Data.List.DropRight
import Mathlib.Data.Nat.Digits.Defs
import CqlDispatch.Token
/-!
# Tokens against the published hash

`Murmur3` is the hash as it is published: words are numbers modulo 2 ^ 64, whole blocks are absorbed one by one, and
the bytes left over are filled up with zeros to one more block that is mixed in without a round.  The tokens of keys
follow it wherever no byte of the rest is extended by its sign (`token_eq`): a word put together by exclusive or from
small bytes is the number that the bytes spell (`tailWord_eq`).
-/
namespace CqlDispatch

/-! ## The published hash -/

namespace Murmur3

/-- The 64-bit number that bytes spell, the first one lowest. -/
def word (bytes : List UInt8) : BitVec 64 := BitVec.ofNat 64 (Nat.ofDigits 256 (bytes.map UInt8.toNat))

def c1 : BitVec 64 := 0x87c37b91114253d5
def c2 : BitVec 64 := 0x4cf5ad432745937f

def key1 (k : BitVec 64) : BitVec 64 := (k * c1).rotateLeft 31 * c2

def key2 (k : BitVec 64) : BitVec 64 := (k * c2).rotateLeft 33 * c1

/-- Both halves of the hash with a block of sixteen bytes mixed into them. -/
def mixed (h : BitVec 64 × BitVec 64) (block : List UInt8) : BitVec 64 × BitVec 64 :=
  (h.1 ^^^ key1 (word (block.take 8)), h.2 ^^^ key2 (word (block.drop 8)))

/-- A round: a block is mixed in, then the halves are stirred into each other. -/
def round (h : BitVec 64 × BitVec 64) (block : List UInt8) : BitVec 64 × BitVec 64 :=
  let h1 := ((mixed h block).1.rotateLeft 27 + h.2) * 5 + 0x52dce729
  (h1, ((mixed h block).2.rotateLeft 31 + h1) * 5 + 0x38495ab5)

def fmix (k : BitVec 64) : BitVec 64 :=
  let k := (k ^^^ (k >>> 33)) * 0xff51afd7ed558ccd
  let k := (k ^^^ (k >>> 33)) * 0xc4ceb9fe1a85ec53
  k ^^^ (k >>> 33)

/-- The whole blocks of a key. -/
def blocks (key : List UInt8) : List (List UInt8) :=
  (List.range (key.length / 16)).map fun i => (key.drop (16 * i)).take 16

/-- The bytes behind the whole blocks, filled up to a block. -/
def rest (key : List UInt8) : List UInt8 :=
  key.rtake (key.length % 16) ++ List.replicate (16 - key.length % 16) 0

/-- The hash with seed zero, as two words. -/
def hash (key : List UInt8) : BitVec 64 × BitVec 64 :=
  let h := mixed ((blocks key).foldl round (0, 0)) (rest key)
  let h1 := h.1 ^^^ BitVec.ofNat 64 key.length
  let h2 := h.2 ^^^ BitVec.ofNat 64 key.length
  let h1 := h1 + h2
  let h2 := h2 + h1
  let h1 := fmix h1
  let h2 := fmix h2
  (h1 + h2, h2 + (h1 + h2))

/-- The first word as a signed number; the least one gives way to the greatest. -/
def token (key : List UInt8) : Int64 :=
  if Int64.ofBitVec (hash key).1 = Int64.minValue then Int64.maxValue else Int64.ofBitVec (hash key).1

/-- Published values of the hash. -/
example : hash "hello".toUTF8.toList = (0xcbd8a7b341bd9b02, 0x5b1e906a48ae1d19) := by decide +kernel

example : hash "The quick brown fox jumps over the lazy dog".toUTF8.toList =
    (0xe34bbc7bbc071b6c, 0x7a433ca9c49a9347) := by decide +kernel

end Murmur3

namespace Token

/-! ## Words -/

theorem toBitVec_rotateLeft {n : UInt64} (pos : 0 < n.toNat) (lt : n.toNat < 64) (x : UInt64) :
    (rotateLeft x n).toBitVec = x.toBitVec.rotateLeft n.toNat := by
  have hrest : (18446744073709551616 - n.toNat) % 64 = 64 - n.toNat := by omega
  simp [rotateLeft, BitVec.rotateLeft_def, Nat.mod_eq_of_lt lt, hrest]

theorem word_cons (b : UInt8) (bytes : List UInt8) :
    Murmur3.word (b :: bytes) = b.toUInt64.toBitVec ||| Murmur3.word bytes <<< 8 := by
  have hb : b.toNat < 2 ^ 8 := b.toNat_lt
  apply BitVec.eq_of_toNat_eq
  simp only [Murmur3.word, List.map_cons, Nat.ofDigits_cons]
  generalize Nat.ofDigits 256 (bytes.map UInt8.toNat) = n
  -- the byte fits into the eight bits that the shift leaves free
  have hor := Nat.shiftLeft_add_eq_or_of_lt hb (n % 2 ^ 56)
  rw [Nat.or_comm] at hor
  have hshift : (n % 2 ^ 64) <<< 8 % 2 ^ 64 = (n % 2 ^ 56) <<< 8 := by
    rw [Nat.shiftLeft_eq, Nat.shiftLeft_eq]
    omega
  simp only [BitVec.toNat_ofNat, BitVec.toNat_or, BitVec.toNat_shiftLeft, UInt64.toNat_toBitVec,
    UInt8.toNat_toUInt64, hshift, ← hor]
  rw [Nat.shiftLeft_eq]
  push_cast
  omega

theorem wordOf_eq (bytes : List UInt8) : (wordOf bytes).toBitVec = Murmur3.word bytes := by
  induction bytes with
  | nil => rfl
  | cons b bytes ih =>
    rw [word_cons, ← ih]
    simp [wordOf]

/-- A byte below the sign bit is extended by zeros. -/
theorem signExtended_of_lt {b : UInt8} (small : b < 0x80) : signExtended b = b.toUInt64 := by
  have hall : ∀ n : Fin 128, signExtended (UInt8.ofNat n) = (UInt8.ofNat n).toUInt64 := by decide
  simpa using hall ⟨b.toNat, UInt8.lt_iff_toNat_lt.1 small⟩

theorem xor_shifted (b : UInt8) (w : UInt64) : b.toUInt64 ^^^ (w <<< 8) = b.toUInt64 ||| (w <<< 8) := by
  apply UInt64.toBitVec_inj.1
  apply BitVec.eq_of_getLsbD_eq
  intro i hi
  by_cases hlow : i < 8
  · simp [hi, hlow]
  · have hzero : b.toBitVec.getLsbD i = false := BitVec.getLsbD_of_ge _ _ (Nat.le_of_not_lt hlow)
    simp [hi, hlow, hzero]

/-- **Small bytes make up the number that they spell.** -/
theorem tailWord_eq : ∀ {bytes : List UInt8}, (∀ b ∈ bytes, b < 0x80) →
    (tailWord bytes).toBitVec = Murmur3.word bytes
  | [], _ => rfl
  | b :: bytes, small => by
    obtain ⟨hb, hbytes⟩ := List.forall_mem_cons.1 small
    rw [word_cons, tailWord, signExtended_of_lt hb, xor_shifted, ← tailWord_eq hbytes]
    simp

/-- Zeros behind the bytes change nothing. -/
theorem word_append_zeros (bytes : List UInt8) (n : Nat) :
    Murmur3.word (bytes ++ List.replicate n 0) = Murmur3.word bytes := by
  simp [Murmur3.word, Nat.ofDigits_append, Nat.ofDigits_replicate_zero]

/-! ## Blocks -/

theorem mixFirst_eq (k : UInt64) : (mixFirst k).toBitVec = Murmur3.key1 k.toBitVec := by
  simp only [mixFirst, Murmur3.key1, UInt64.toBitVec_mul, toBitVec_rotateLeft (n := 31) (by decide) (by decide)]
  rfl

theorem mixSecond_eq (k : UInt64) : (mixSecond k).toBitVec = Murmur3.key2 k.toBitVec := by
  simp only [mixSecond, Murmur3.key2, UInt64.toBitVec_mul, toBitVec_rotateLeft (n := 33) (by decide) (by decide)]
  rfl

theorem finish_eq (k : UInt64) : (finish k).toBitVec = Murmur3.fmix k.toBitVec := by
  simp only [finish, Murmur3.fmix, UInt64.toBitVec_xor, UInt64.toBitVec_mul, UInt64.toBitVec_shiftRight]
  rfl

/-- Both halves as numbers. -/
def State.halves (s : State) : BitVec 64 × BitVec 64 := (s.h1.toBitVec, s.h2.toBitVec)

theorem absorb_eq (s : State) (block : List UInt8) : (absorb s block).halves = Murmur3.round s.halves block := by
  simp only [absorb, State.halves, Murmur3.round, Murmur3.mixed, UInt64.toBitVec_add, UInt64.toBitVec_mul,
    UInt64.toBitVec_xor, toBitVec_rotateLeft (n := 27) (by decide) (by decide),
    toBitVec_rotateLeft (n := 31) (by decide) (by decide), mixFirst_eq, mixSecond_eq, wordOf_eq]
  rfl

theorem absorbBlocks_eq : ∀ (n : Nat) (s : State) (data : List UInt8), (absorbBlocks n s data).halves =
    ((List.range n).map fun i => (data.drop (16 * i)).take 16).foldl Murmur3.round s.halves
  | 0, _, _ => rfl
  | n + 1, s, data => by
    rw [absorbBlocks, absorbBlocks_eq n, absorb_eq, List.range_succ_eq_map, List.map_cons, List.foldl_cons,
      List.map_map]
    simp only [List.drop_drop, Function.comp_def, Nat.mul_zero, List.drop_zero, Nat.succ_eq_add_one, Nat.mul_add,
      Nat.mul_one, Nat.add_comm 16]

/-- The rest is mixed in as one block; where a half of it is empty, nothing is. -/
theorem absorbTail_eq (s : State) {tail : List UInt8} (small : ∀ b ∈ tail, b < 0x80) (n : Nat) :
    (absorbTail s tail).halves = Murmur3.mixed s.halves (tail ++ List.replicate n 0) := by
  have htake : (tailWord (tail.take 8)).toBitVec = Murmur3.word ((tail ++ List.replicate n 0).take 8) := by
    rw [List.take_append, List.take_replicate, word_append_zeros]
    exact tailWord_eq fun b hb => small b (List.mem_of_mem_take hb)
  have hdrop : (tailWord (tail.drop 8)).toBitVec = Murmur3.word ((tail ++ List.replicate n 0).drop 8) := by
    rw [List.drop_append, List.drop_replicate, word_append_zeros]
    exact tailWord_eq fun b hb => small b (List.mem_of_mem_drop hb)
  have hfirst : mixFirst 0 = 0 := by decide
  have hsecond : mixSecond 0 = 0 := by decide
  simp only [State.halves, Murmur3.mixed, ← htake, ← hdrop, ← mixFirst_eq, ← mixSecond_eq, ← UInt64.toBitVec_xor]
  unfold absorbTail
  refine Prod.ext ?_ ?_
  · by_cases hlong : 0 < tail.length
    · simp [hlong]
    · rw [List.length_pos_iff, not_not] at hlong
      simp [hlong, tailWord, hfirst]
  · by_cases hlong : 8 < tail.length
    · simp [hlong]
    · rw [List.drop_eq_nil_of_le (Nat.le_of_not_lt hlong)]
      simp [hlong, tailWord, hsecond]

theorem tail_eq_rtake (key : List UInt8) : key.drop (key.length / 16 * 16) = key.rtake (key.length % 16) := by
  unfold List.rtake
  congr 1
  omega

theorem hash_eq {key : List UInt8} (small : ∀ b ∈ key.rtake (key.length % 16), b < 0x80) :
    (hash key).toBitVec = (Murmur3.hash key).1 := by
  have hblocks := absorbBlocks_eq (key.length / 16) ⟨0, 0⟩ key
  have htail := absorbTail_eq (absorbBlocks (key.length / 16) ⟨0, 0⟩ key) small (16 - key.length % 16)
  rw [hblocks] at htail
  unfold hash
  simp only [tail_eq_rtake]
  generalize absorbTail _ _ = s at htail ⊢
  simp only [Murmur3.hash, Murmur3.rest, Murmur3.blocks, conclude, UInt64.toBitVec_add, finish_eq,
    UInt64.toBitVec_xor, UInt64.toBitVec_ofNat']
  rw [show ((0, 0) : BitVec 64 × BitVec 64) = State.halves ⟨0, 0⟩ from rfl, ← htail]
  rfl

theorem token_eq {key : List UInt8} (small : ∀ b ∈ key.rtake (key.length % 16), b < 0x80) :
    (ofRoutingKey key).value = Murmur3.token key := by
  have hvalue : (hash key).toInt64 = Int64.ofBitVec (Murmur3.hash key).1 := by
    rw [← hash_eq small]
    rfl
  simp only [ofRoutingKey, Murmur3.token, hvalue]
  split <;> rfl

/-- **Tokens are the published hash** of their keys, wherever no byte behind the whole blocks has its sign bit set; so
they are where there is none behind them.  No token is the least number. -/
theorem token_published (key : List UInt8) :
    (ofRoutingKey key).value ≠ Int64.minValue ∧
      ((∀ b ∈ key.rtake (key.length % 16), b < 0x80) → (ofRoutingKey key).value = Murmur3.token key) ∧
      (key.length % 16 = 0 → (ofRoutingKey key).value = Murmur3.token key) := by
  refine ⟨ofRoutingKey_ne_min key, token_eq, fun hwhole => token_eq ?_⟩
  simp [hwhole, List.rtake]

/-- Five letters leave a rest of small bytes; sixteen of the greatest bytes leave no rest. -/
theorem letters_token :
    ((∀ b ∈ ([104, 101, 108, 108, 111] : List UInt8).rtake (5 % 16), b < 0x80) ∧
        (ofRoutingKey [104, 101, 108, 108, 111]).value = Murmur3.token [104, 101, 108, 108, 111]) ∧
      (List.replicate 16 255 : List UInt8).length % 16 = 0 ∧
        (ofRoutingKey (List.replicate 16 255)).value = Murmur3.token (List.replicate 16 255) := by
  have hsmall : ∀ b ∈ ([104, 101, 108, 108, 111] : List UInt8).rtake (5 % 16), b < 0x80 := by simp [List.rtake]
  have hwhole : (List.replicate 16 255 : List UInt8).length % 16 = 0 := rfl
  exact ⟨⟨hsmall, (token_published _).2.1 hsmall⟩, hwhole, (token_published _).2.2 hwhole⟩

end Token
end CqlDispatch
