import Mathlib.Data.Finset.Dedup
import Mathlib.Data.Finset.Card
import Mathlib.Order.Bounds.Defs
import CqlDispatch.Proofs.TokenRing
/-!
# The nearest owners

The replicas of a token are the owners nearest to it on the way around the ring: each address stands
where its nearest token does (`leastDistance`), and none that is left out is nearer than one that is
listed (`replicas_nearest`).

Two facts carry this.  The walk meets tokens at growing distances, also past the end of the ring
(`around_clockwise`), so an address is first met at its nearest token (`firsts_nearest`).  And
stopping early only cuts the list of first meetings (`takeDistinct_eq`).  Where more are asked for than
there can be room for, none is listed, however few owners there are (`no_room_for_one_owner`).
-/
namespace CqlDispatch

/-- How far a token lies from another on the way around the ring, which has a place for each signed
64-bit number. -/
def Token.clockwise (t x : Token) : Nat :=
  ((x.value.toInt - t.value.toInt) % 18446744073709551616).toNat

namespace TokenRing

/-- The addresses that own a token. -/
def owners (ring : TokenRing) : Finset Address := (ring.map (·.2)).toFinset

/-- The way from a token to the nearest one of an address. -/
def leastDistance (ring : TokenRing) (t : Token) (a : Address) : Nat :=
  ((ring.filter (·.2 = a)).map fun m => t.clockwise m.1).min?.getD 0

variable {ring : TokenRing} {t : Token}

theorem mem_owners {a : Address} : a ∈ ring.owners ↔ ∃ x, (x, a) ∈ ring := by
  unfold owners
  rw [List.mem_toFinset, List.mem_map]
  constructor
  · rintro ⟨⟨x, b⟩, hm, rfl⟩
    exact ⟨x, hm⟩
  · rintro ⟨x, hm⟩
    exact ⟨(x, a), hm, rfl⟩

/-- The least distance of an owner is that of one of its tokens, and no token of it is nearer. -/
theorem leastDistance_isLeast {a : Address} (ha : a ∈ ring.owners) :
    IsLeast {d | ∃ x, (x, a) ∈ ring ∧ t.clockwise x = d} (ring.leastDistance t a) := by
  have hmem : ∀ d, d ∈ (ring.filter (·.2 = a)).map (fun m => t.clockwise m.1) ↔
      ∃ x, (x, a) ∈ ring ∧ t.clockwise x = d := by
    intro d
    simp only [List.mem_map, List.mem_filter, decide_eq_true_eq]
    constructor
    · rintro ⟨⟨x, b⟩, ⟨hm, rfl⟩, hd⟩
      exact ⟨x, hm, hd⟩
    · rintro ⟨x, hm, hd⟩
      exact ⟨(x, a), ⟨hm, rfl⟩, hd⟩
  obtain ⟨x, hx⟩ := mem_owners.1 ha
  unfold leastDistance
  cases hmin : ((ring.filter (·.2 = a)).map fun m => t.clockwise m.1).min? with
  | none =>
    have hnone := (hmem _).2 ⟨x, hx, rfl⟩
    rw [List.min?_eq_none_iff.1 hmin] at hnone
    exact absurd hnone List.not_mem_nil
  | some d =>
    obtain ⟨hd, hle⟩ := List.min?_eq_some_iff.1 hmin
    exact ⟨(hmem d).1 hd, fun e he => hle e ((hmem e).2 he)⟩

/-! ## The walk -/

/-- The ring from a token on, once around. -/
def around (ring : TokenRing) (t : Token) : TokenRing :=
  ring.filter (t ≤ ·.1) ++ ring.filter (·.1 < t)

theorem walk_eq (ring : TokenRing) (t : Token) : ring.walk t = (ring.around t).map (·.2) := rfl

theorem mem_around {m : Token × Address} : m ∈ ring.around t ↔ m ∈ ring := by
  unfold around
  rw [List.mem_append, List.mem_filter, List.mem_filter, ← and_or_left]
  refine and_iff_left ?_
  by_cases h : t ≤ m.1
  · exact .inl (decide_eq_true h)
  · exact .inr (decide_eq_true (Int64.not_le.1 h))

theorem clockwise_lt {x y : Token}
    (h : t ≤ x ∧ (x < y ∨ y < t) ∨ x < y ∧ y < t) : t.clockwise x < t.clockwise y := by
  have bounds : ∀ u : Token, -9223372036854775808 ≤ u.value.toInt ∧ u.value.toInt < 9223372036854775808 :=
    fun u => ⟨Int64.le_toInt u.value, Int64.toInt_lt u.value⟩
  have hle : t ≤ x ↔ t.value.toInt ≤ x.value.toInt := Int64.le_iff_toInt_le
  rw [hle, Token.lt_iff, Token.lt_iff] at h
  have ht := bounds t
  have hx := bounds x
  have hy := bounds y
  unfold Token.clockwise
  omega

/-- **The walk meets tokens at growing distances**, also where it starts again at the lowest one. -/
theorem around_clockwise (sorted : ring.Pairwise (·.1 < ·.1)) :
    (ring.around t).Pairwise fun m n => t.clockwise m.1 < t.clockwise n.1 := by
  have part : ∀ p : Token × Address → Bool, (ring.filter p).Pairwise (·.1 < ·.1) := fun p => sorted.filter p
  refine List.pairwise_append.2 ⟨?ahead, ?behind, ?across⟩
  case ahead =>
    refine (part _).imp_of_mem fun {m n} hm _ hlt => clockwise_lt (.inl ⟨?_, .inl hlt⟩)
    exact of_decide_eq_true (List.mem_filter.1 hm).2
  case behind =>
    refine (part _).imp_of_mem fun {m n} _ hn hlt => clockwise_lt (.inr ⟨hlt, ?_⟩)
    exact of_decide_eq_true (List.mem_filter.1 hn).2
  case across =>
    intro m hm n hn
    exact clockwise_lt (.inl ⟨of_decide_eq_true (List.mem_filter.1 hm).2,
      .inr (of_decide_eq_true (List.mem_filter.1 hn).2)⟩)

/-! ## First meetings -/

/-- **Stopping early cuts the list of first meetings.** -/
theorem takeDistinct_eq : ∀ (l : List Address) (n : Nat) (seen : List Address),
    takeDistinct n seen l = (l.filter (· ∉ seen)).eraseDups.take n
  | _, 0, _ => by rw [List.take_zero, takeDistinct]
  | [], n + 1, _ => rfl
  | a :: l, n + 1, seen => by
    unfold takeDistinct
    by_cases ha : a ∈ seen
    · rw [if_pos ha, takeDistinct_eq l, List.filter_cons_of_neg (by simpa using ha)]
    · have hrest : (l.filter (· ∉ seen)).filter (fun b => !b == a) = l.filter (· ∉ a :: seen) := by
        rw [List.filter_filter]
        refine List.filter_congr fun b _ => ?_
        by_cases hb : b = a <;> simp [hb]
      rw [if_neg ha, takeDistinct_eq l, List.filter_cons_of_pos (by simpa using ha), List.eraseDups_cons,
        List.take_succ_cons, hrest]

theorem replicas_eq (ring : TokenRing) (t : Token) (k : Nat) :
    ring.replicas t k = (ring.walk t).eraseDups.take k := by
  unfold replicas
  rw [takeDistinct_eq, List.filter_eq_self.2 fun _ _ => by simp]

/-- Of addresses that are met at growing distances, each is first met at its nearest token: every
token of a later one is farther than some token of an earlier one. -/
theorem firsts_nearest (l : TokenRing) (growing : l.Pairwise fun m n => t.clockwise m.1 < t.clockwise n.1) :
    (l.map (·.2)).eraseDups.Pairwise fun a b =>
      ∃ x, (x, a) ∈ l ∧ ∀ y, (y, b) ∈ l → t.clockwise x < t.clockwise y := by
  match l, growing with
  | [], _ => exact .nil
  | (x, a) :: l, growing =>
    obtain ⟨hfirst, hgrowing⟩ := List.pairwise_cons.1 growing
    -- What is met after the first address is the walk without its tokens.
    have hrest : (l.map (·.2)).filter (fun b => !b == a) = (l.filter fun m => !m.2 == a).map (·.2) := List.filter_map
    rw [List.map_cons, List.eraseDups_cons, hrest]
    have hleft : ∀ {y b}, b ≠ a → (y, b) ∈ (x, a) :: l → (y, b) ∈ l.filter fun m => !m.2 == a := by
      intro y b hb hm
      refine List.mem_filter.2 ⟨(List.mem_cons.1 hm).resolve_left fun he => hb (congrArg Prod.snd he), ?_⟩
      simpa using hb
    have hother : ∀ {b}, b ∈ ((l.filter fun m => !m.2 == a).map (·.2)).eraseDups → b ≠ a := by
      intro b hb
      obtain ⟨m, hm, rfl⟩ := List.mem_map.1 (List.mem_eraseDups.1 hb)
      simpa using (List.mem_filter.1 hm).2
    refine List.pairwise_cons.2 ⟨fun b hb => ⟨x, List.mem_cons_self, fun y hy => ?_⟩, ?_⟩
    · exact hfirst (y, b) (List.mem_of_mem_filter (hleft (hother hb) hy))
    · refine (firsts_nearest _ (hgrowing.filter _)).imp_of_mem fun {b c} _ hc ⟨y, hy, hnear⟩ => ?_
      exact ⟨y, List.mem_cons_of_mem _ (List.mem_of_mem_filter hy), fun z hz => hnear z (hleft (hother hc) hz)⟩
termination_by l.length
decreasing_by
  simp only [List.length_cons]
  exact Nat.lt_succ_of_le (List.length_filter_le _ _)

theorem mem_firsts {a : Address} : a ∈ (ring.walk t).eraseDups ↔ a ∈ ring.owners := by
  rw [List.mem_eraseDups, walk_eq, List.mem_map, mem_owners]
  constructor
  · rintro ⟨⟨x, b⟩, hm, rfl⟩
    exact ⟨x, mem_around.1 hm⟩
  · rintro ⟨x, hm⟩
    exact ⟨(x, a), mem_around.2 hm, rfl⟩

theorem firsts_sorted (sorted : ring.Pairwise (·.1 < ·.1)) :
    (ring.walk t).eraseDups.Pairwise fun a b => ring.leastDistance t a < ring.leastDistance t b := by
  refine (firsts_nearest _ (around_clockwise sorted)).imp_of_mem fun {a b} ha hb ⟨x, hx, hnear⟩ => ?_
  obtain ⟨-, hleast⟩ := leastDistance_isLeast (t := t) (mem_firsts.1 ha)
  obtain ⟨⟨y, hy, hdistance⟩, -⟩ := leastDistance_isLeast (t := t) (mem_firsts.1 hb)
  calc ring.leastDistance t a ≤ t.clockwise x := hleast ⟨x, mem_around.1 hx, rfl⟩
    _ < t.clockwise y := hnear y (mem_around.2 hy)
    _ = ring.leastDistance t b := hdistance

theorem firsts_nodup (sorted : ring.Pairwise (·.1 < ·.1)) : (ring.walk t).eraseDups.Nodup :=
  (firsts_sorted sorted).imp fun {a b} hlt he => by
    rw [he] at hlt
    exact Nat.lt_irrefl _ hlt

theorem length_firsts (sorted : ring.Pairwise (·.1 < ·.1)) :
    (ring.walk t).eraseDups.length = ring.owners.card := by
  rw [← List.toFinset_card_of_nodup (firsts_nodup sorted)]
  exact congrArg Finset.card (Finset.ext fun a => by rw [List.mem_toFinset, mem_firsts])

theorem replicas?_of_room {k : Nat} (room : k ≤ mostRoom) (ring : TokenRing) (t : Token) :
    ring.replicas? t k = .ok (ring.replicas t k) := if_neg (Nat.not_lt_of_le room)

theorem replicas?_of_no_room {k : Nat} (many : mostRoom < k) (ring : TokenRing) (t : Token) :
    ring.replicas? t k = .error .room := if_pos many

/-- **The replicas of a token are its nearest owners**, as many as were asked for or as there are, unless more were
asked for than there can be room for: then there is no list.  They are different from each other and stand by the
distance of their nearest token, and every owner that is left out is farther away than each of them. -/
theorem replicas_nearest (hosts : List Host) (t : Token) (k : Nat) :
    let ring := ofHosts hosts
    (mostRoom < k ∧ ring.replicas? t k = .error .room) ∨
      ∃ listed, k ≤ mostRoom ∧ ring.replicas? t k = .ok listed ∧
        listed.Nodup ∧ (∀ a ∈ listed, a ∈ ring.owners) ∧ listed.length = min k ring.owners.card ∧
        listed.Pairwise (fun a b => ring.leastDistance t a < ring.leastDistance t b) ∧
        ∀ b ∈ ring.owners, b ∉ listed → ∀ a ∈ listed, ring.leastDistance t a < ring.leastDistance t b := by
  intro ring
  rcases Nat.lt_or_ge mostRoom k with many | room
  · exact .inl ⟨many, replicas?_of_no_room many ring t⟩
  let listed := ring.replicas t k
  have hlisted : listed = (ring.walk t).eraseDups.take k := replicas_eq ring t k
  have sorted : ring.Pairwise (·.1 < ·.1) := ofHosts_sorted hosts
  have hfirsts := firsts_sorted (t := t) sorted
  have hsplit := List.take_append_drop k (ring.walk t).eraseDups
  rw [← hlisted] at hsplit
  refine .inr ⟨listed, room, replicas?_of_room room ring t, ?_, fun a ha => ?_, ?_, ?_, fun b hb hout a ha => ?_⟩
  · rw [hlisted]
    exact (firsts_nodup sorted).sublist (List.take_sublist _ _)
  · rw [hlisted] at ha
    exact mem_firsts.1 (List.mem_of_mem_take ha)
  · rw [hlisted, List.length_take, length_firsts sorted]
  · rw [hlisted]
    exact hfirsts.sublist (List.take_sublist _ _)
  · rw [← hsplit] at hfirsts
    have hplace : b ∈ listed ++ (ring.walk t).eraseDups.drop k := by
      rw [hsplit]
      exact mem_firsts.2 hb
    exact (List.pairwise_append.1 hfirsts).2.2 a ha b ((List.mem_append.1 hplace).resolve_left hout)

/-- **Of one owner there is no list where too many are asked for.** -/
theorem no_room_for_one_owner : ¬ ∀ (hosts : List Host) (t : Token) (k : Nat), ∃ listed,
    (ofHosts hosts).replicas? t k = .ok listed ∧ listed.length = min k (ofHosts hosts).owners.card := by
  intro always
  obtain ⟨listed, made, -⟩ := always [{ address := ⟨.v4 1, 0⟩, metadata := some { tokens := [⟨7⟩] } }] ⟨0⟩ 18446744073709551615
  rw [replicas?_of_no_room (by decide)] at made
  cases made

end TokenRing

end CqlDispatch
