/-!
# Internet addresses

IP addresses and socket addresses, their canonical text, the syntax they are read from, and the
order in which hosts are listed: every IPv4 address before every IPv6 address, then by number,
then by port.

The order is the order of one natural number, `Address.rank`, which is different for different
addresses (`Address.rank_inj`).
-/
namespace CqlDispatch

inductive Ip where
  | v4 (bits : BitVec 32)
  | v6 (bits : BitVec 128)
  deriving DecidableEq, Repr, Inhabited

structure Address where
  ip : Ip
  port : UInt16
  deriving DecidableEq, Repr, Inhabited

namespace Ip

/-- The position of an address among all addresses of both families. -/
def rank : Ip → Nat
  | .v4 b => b.toNat
  | .v6 b => 4294967296 + b.toNat

theorem rank_inj {a b : Ip} (h : a.rank = b.rank) : a = b := by
  cases a with
  | v4 x =>
    cases b with
    | v4 y => exact congrArg Ip.v4 (BitVec.eq_of_toNat_eq h)
    | v6 y => have := x.isLt; simp only [rank] at h; omega
  | v6 x =>
    cases b with
    | v4 y => have := y.isLt; simp only [rank] at h; omega
    | v6 y => exact congrArg Ip.v6 (BitVec.eq_of_toNat_eq (by simp only [rank] at h; omega))

/-! ## Text -/

def dotted (bits : Nat) : String :=
  String.intercalate "."
    ([bits / 16777216, bits / 65536 % 256, bits / 256 % 256, bits % 256].map Nat.repr)

def groups (bits : BitVec 128) : List Nat :=
  [7, 6, 5, 4, 3, 2, 1, 0].map fun i => bits.toNat / Nat.pow 65536 i % 65536

def leadingZeros : List Nat → Nat
  | 0 :: rest => leadingZeros rest + 1
  | _ => 0

def longestRun : List Nat → Nat × Nat
  | [] => (0, 0)
  | g :: rest =>
    let here := leadingZeros (g :: rest)
    let (start, length) := longestRun rest
    if length ≤ here then (0, here) else (start + 1, length)

def hexGroups (gs : List Nat) : String :=
  String.intercalate ":" (gs.map fun g => String.ofList (Nat.toDigits 16 g))

def text6 (bits : BitVec 128) : String :=
  let gs := groups bits
  if gs.take 6 = [0, 0, 0, 0, 0, 0xffff] then "::ffff:" ++ dotted (bits.toNat % 4294967296)
  else
    let (start, length) := longestRun gs
    if length < 2 then hexGroups gs
    else hexGroups (gs.take start) ++ "::" ++ hexGroups (gs.drop (start + length))

/-- The canonical text: IPv6 in lower case with the first longest run of zero groups
compressed, and a dotted tail only for an IPv4 address carried in IPv6. -/
def text : Ip → String
  | .v4 b => dotted b.toNat
  | .v6 b => text6 b

/-! ## Syntax -/

/-- A reader takes a piece off the front of the characters. -/
abbrev Reader (α : Type) := List Char → Option (α × List Char)

/-- One part of a dotted address: one to three digits, no needless zero in front, at most 255. -/
def readOctet : Reader Nat := fun cs =>
  let ds := cs.takeWhile Char.isDigit
  let n := ds.foldl (fun acc c => acc * 10 + (c.toNat - 48)) 0
  if ds.isEmpty || 3 < ds.length || (ds.head? == some '0' && 1 < ds.length) || 255 < n then none
  else some (n, cs.drop ds.length)

def readDot : Reader Unit
  | '.' :: rest => some ((), rest)
  | _ => none

def readDotted : Reader Nat := fun cs => do
  let (a, cs) ← readOctet cs
  let (_, cs) ← readDot cs
  let (b, cs) ← readOctet cs
  let (_, cs) ← readDot cs
  let (c, cs) ← readOctet cs
  let (_, cs) ← readDot cs
  let (d, cs) ← readOctet cs
  pure (((a * 256 + b) * 256 + c) * 256 + d, cs)

def isHexDigit (c : Char) : Bool := c.isDigit || ('a' ≤ c && c ≤ 'f') || ('A' ≤ c && c ≤ 'F')

def hexDigitValue (c : Char) : Nat :=
  if c.isDigit then c.toNat - 48 else if 'a' ≤ c then c.toNat - 87 else c.toNat - 55

def readGroup : Reader Nat := fun cs =>
  let ds := cs.takeWhile isHexDigit
  if ds.isEmpty || 4 < ds.length then none
  else some (ds.foldl (fun acc c => acc * 16 + hexDigitValue c) 0, cs.drop ds.length)

/-- The colon between two groups; the first group has none before it. -/
def readColon (first : Bool) : Reader Unit := fun cs =>
  if first then some ((), cs)
  else match cs with
    | ':' :: rest => some ((), rest)
    | _ => none

/-- Up to `room` groups; where two are left a dotted address may stand for them, and ends the
list.  The flag tells whether it did. -/
def readGroups (first : Bool) : Nat → List Char → List Nat × Bool × List Char
  | 0, cs => ([], false, cs)
  | room + 1, cs =>
    let tail := if room = 0 then none else (readColon first cs).bind fun (_, cs) => readDotted cs
    match tail with
    | some (n, rest) => ([n / 65536, n % 65536], true, rest)
    | none =>
      match (readColon first cs).bind fun (_, cs) => readGroup cs with
      | none => ([], false, cs)
      | some (g, rest) =>
        let (gs, tailed, rest) := readGroups false room rest
        (g :: gs, tailed, rest)

def ofGroups (gs : List Nat) : Ip := .v6 (BitVec.ofNat 128 (gs.foldl (fun acc g => acc * 65536 + g) 0))

/-- Eight groups, or fewer around one `::` that stands for at least one zero group. -/
def read6 : Reader Ip := fun cs =>
  let (front, tailed, rest) := readGroups true 8 cs
  if front.length = 8 then some (ofGroups front, rest)
  else if tailed then none
  else match rest with
    | ':' :: ':' :: rest =>
      let (back, _, rest) := readGroups true (8 - (front.length + 1)) rest
      let gap := List.replicate (8 - front.length - back.length) 0
      some (ofGroups (front ++ gap ++ back), rest)
    | _ => none

def read : Reader Ip := fun cs =>
  match readDotted cs with
  | some (n, rest) => some (.v4 (BitVec.ofNat 32 n), rest)
  | none => read6 cs

def parse? (s : String) : Option Ip :=
  match read s.toList with
  | some (ip, []) => some ip
  | _ => none

end Ip

namespace Address

def rank (a : Address) : Nat := a.ip.rank * 65536 + a.port.toNat

theorem rank_inj {a b : Address} (h : a.rank = b.rank) : a = b := by
  have ha := a.port.toNat_lt
  have hb := b.port.toNat_lt
  simp only [rank] at h
  have hip : a.ip.rank = b.ip.rank := by omega
  have hport : a.port.toNat = b.port.toNat := by omega
  cases a; cases b
  simp only [Address.mk.injEq]
  exact ⟨Ip.rank_inj hip, UInt16.toNat_inj.1 hport⟩

instance : LT Address := ⟨fun a b => a.rank < b.rank⟩

instance (a b : Address) : Decidable (a < b) := inferInstanceAs (Decidable (a.rank < b.rank))

theorem lt_iff {a b : Address} : a < b ↔ a.rank < b.rank := Iff.rfl

/-- `10.0.0.1:9042`, and brackets around an IPv6 address. -/
def text (a : Address) : String :=
  match a.ip with
  | .v4 _ => a.ip.text ++ ":" ++ Nat.repr a.port.toNat
  | .v6 _ => "[" ++ a.ip.text ++ "]:" ++ Nat.repr a.port.toNat

def readPort (cs : List Char) : Option UInt16 :=
  if cs.isEmpty || !cs.all Char.isDigit then none
  else
    let n := cs.foldl (fun acc c => acc * 10 + (c.toNat - 48)) 0
    if n < 65536 then some (UInt16.ofNat n) else none

/-- Reads what `text` writes. -/
def parse? (s : String) : Option Address :=
  match s.toList with
  | '[' :: cs =>
    match Ip.read6 cs with
    | some (ip, ']' :: ':' :: rest) => (readPort rest).map (⟨ip, ·⟩)
    | _ => none
  | cs =>
    match Ip.readDotted cs with
    | some (n, ':' :: rest) => (readPort rest).map (⟨.v4 (BitVec.ofNat 32 n), ·⟩)
    | _ => none

end Address

end CqlDispatch
