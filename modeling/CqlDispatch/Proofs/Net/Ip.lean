import CqlDispatch.Net.Ip
import CqlDispatch.Proofs.Text.Digits
/-!
# Reading addresses back

An IP address is known from its text (`Ip.text_inj`).  The parts between the dots are the numbers of an IPv4 address;
the parts between the colons are the groups of an IPv6 address, with an empty one where zeros are left out, and as many
zeros are left out as groups are missing (`longestRun_zeros`).
-/
namespace CqlDispatch

namespace Ip

/-! ## Dots -/

theorem toList_dotted (n : Nat) : (dotted n).toList = ['.'].intercalate
    ([n / 16777216, n / 65536 % 256, n / 256 % 256, n % 256].map (Nat.toDigits 10)) := by
  simp [dotted]

theorem mem_dotted {n : Nat} {c : Char} (hc : c ∈ (dotted n).toList) : c.isDigit = true ∨ c = '.' := by
  rw [toList_dotted] at hc
  rcases mem_intercalate hc with hc | ⟨part, hpart, hc⟩
  · exact .inr (List.mem_singleton.1 hc)
  · obtain ⟨k, -, rfl⟩ := List.mem_map.1 hpart
    exact .inl (Nat.isDigit_of_mem_toDigits (by omega) (by omega) hc)

theorem dotted_inj {m n : Nat} (h : dotted m = dotted n) : m = n := by
  have hlist := congrArg (fun s : String => s.toList.splitOn '.') h
  have hfree : ∀ ks : List Nat, ∀ part ∈ ks.map (Nat.toDigits 10), '.' ∉ part := by
    intro ks part hpart hc
    obtain ⟨k, -, rfl⟩ := List.mem_map.1 hpart
    exact absurd (Nat.isDigit_of_mem_toDigits (by omega) (by omega) hc) (by decide)
  simp only [toList_dotted] at hlist
  rw [List.splitOn_intercalate _ (hfree _) (by simp), List.splitOn_intercalate _ (hfree _) (by simp)] at hlist
  have hparts := (List.map_inj_right fun _ _ => toDigits_inj (by omega) (by omega)).1 hlist
  simp only [List.cons.injEq] at hparts
  omega

/-! ## Groups -/

theorem length_groups (bits : BitVec 128) : (groups bits).length = 8 := rfl

theorem groups_inj {a b : BitVec 128} (h : groups a = groups b) : a = b := by
  have ha := a.isLt
  have hb := b.isLt
  simp [groups] at h
  apply BitVec.eq_of_toNat_eq
  omega

theorem eq_of_carried {a b : BitVec 128} (high : (groups a).take 6 = (groups b).take 6)
    (low : a.toNat % 4294967296 = b.toNat % 4294967296) : a = b := by
  have ha := a.isLt
  have hb := b.isLt
  simp [groups] at high
  apply BitVec.eq_of_toNat_eq
  omega

theorem leadingZeros_zeros : ∀ gs : List Nat, gs = List.replicate (leadingZeros gs) 0 ++ gs.drop (leadingZeros gs)
  | [] => rfl
  | 0 :: rest => by
    rw [leadingZeros, List.replicate_succ, List.cons_append, List.drop_succ_cons, ← leadingZeros_zeros rest]
  | (g + 1) :: rest => rfl

/-- What is left out is zeros. -/
theorem longestRun_zeros : ∀ gs : List Nat, gs = gs.take (longestRun gs).1 ++
    (List.replicate (longestRun gs).2 0 ++ gs.drop ((longestRun gs).1 + (longestRun gs).2))
  | [] => rfl
  | g :: rest => by
    rw [longestRun]
    dsimp only
    split
    · rw [List.take_zero, List.nil_append, Nat.zero_add]
      exact leadingZeros_zeros (g :: rest)
    · show g :: rest = g :: (rest.take _ ++ (List.replicate _ 0 ++ (g :: rest).drop (_ + 1 + _)))
      rw [Nat.add_right_comm, List.drop_succ_cons, ← longestRun_zeros rest]

/-- The groups from those in front of the zeros that are left out and those behind them. -/
theorem groups_eq_of_run (bits : BitVec 128) : ∃ front back, front = (groups bits).take (longestRun (groups bits)).1 ∧
    back = (groups bits).drop ((longestRun (groups bits)).1 + (longestRun (groups bits)).2) ∧
      groups bits = front ++ (List.replicate (8 - front.length - back.length) 0 ++ back) := by
  refine ⟨_, _, rfl, rfl, ?_⟩
  have hrun := longestRun_zeros (groups bits)
  have hlength := congrArg List.length hrun
  rw [length_groups, List.length_append, List.length_append, List.length_replicate] at hlength
  rwa [show 8 - _ - _ = (longestRun (groups bits)).2 by omega]

/-! ## Colons -/

theorem toList_hexGroups (gs : List Nat) : (hexGroups gs).toList = [':'].intercalate (gs.map (Nat.toDigits 16)) := by
  simp [hexGroups, Function.comp_def]

theorem mem_hexGroups {gs : List Nat} {c : Char} (hc : c ∈ (hexGroups gs).toList) :
    (hexValue? c).isSome = true ∨ c = ':' := by
  rw [toList_hexGroups] at hc
  rcases mem_intercalate hc with hc | ⟨part, hpart, hc⟩
  · exact .inr (List.mem_singleton.1 hc)
  · obtain ⟨k, -, rfl⟩ := List.mem_map.1 hpart
    exact .inl (isSome_hexValue_of_mem_toDigits (by omega) (by omega) hc)

/-- The parts between the colons; without groups there is one, which is empty. -/
def parts : List Nat → List (List Char)
  | [] => [[]]
  | g :: gs => (g :: gs).map (Nat.toDigits 16)

theorem splitOn_hexGroups : ∀ gs : List Nat, (hexGroups gs).toList.splitOn ':' = parts gs
  | [] => rfl
  | g :: gs => by
    rw [toList_hexGroups, parts]
    refine List.splitOn_intercalate _ (fun part hpart hc => ?_) (by simp)
    obtain ⟨k, -, rfl⟩ := List.mem_map.1 hpart
    exact absurd (isSome_hexValue_of_mem_toDigits (by omega) (by omega) hc) (by decide)

theorem parts_inj {fs gs : List Nat} (h : parts fs = parts gs) : fs = gs := by
  have hne : ∀ k ks, [[]] ≠ (k :: ks : List Nat).map (Nat.toDigits 16) := by
    intro k ks h
    exact absurd (List.cons.inj h).1.symm Nat.toDigits_ne_nil
  cases fs with
  | nil =>
    cases gs with
    | nil => rfl
    | cons g gs => exact absurd h (hne g gs)
  | cons f fs =>
    cases gs with
    | nil => exact absurd h.symm (hne f fs)
    | cons g gs => exact (List.map_inj_right fun _ _ => toDigits_inj (by omega) (by omega)).1 h

/-- The part between two colons in a row is the first empty one behind the first part. -/
theorem parts_append_inj {fs gs fs' gs' : List Nat} (h : parts fs ++ [] :: parts gs = parts fs' ++ [] :: parts gs') :
    fs = fs' ∧ gs = gs' := by
  have hfull : ∀ ks : List Nat, ∀ part ∈ ks.map (Nat.toDigits 16), ¬(part = []) := by
    intro ks part hpart
    obtain ⟨k, -, rfl⟩ := List.mem_map.1 hpart
    exact Nat.toDigits_ne_nil
  cases fs with
  | nil =>
    cases fs' with
    | nil => exact ⟨rfl, parts_inj (by simpa [parts] using h)⟩
    | cons f' fs' => exact absurd (List.cons.inj h).1.symm Nat.toDigits_ne_nil
  | cons f fs =>
    cases fs' with
    | nil => exact absurd (List.cons.inj h).1 Nat.toDigits_ne_nil
    | cons f' fs' =>
      obtain ⟨hfront, hback⟩ := append_inj_of_stops (fun part => part = []) (hfull _) (hfull _) (by simp)
        (by simp) h
      exact ⟨(List.map_inj_right fun _ _ => toDigits_inj (by omega) (by omega)).1 hfront,
        parts_inj (List.cons.inj hback).2⟩

/-- How an IPv6 address is written: with a dotted tail, in full, or with zeros left out. -/
inductive Written (bits : BitVec 128) : Prop where
  | dotted (shown : text6 bits = "::ffff:" ++ Ip.dotted (bits.toNat % 4294967296))
      (carried : (groups bits).take 6 = [0, 0, 0, 0, 0, 0xffff])
  | full (shown : text6 bits = hexGroups (groups bits))
  | short (front back : List Nat) (shown : text6 bits = hexGroups front ++ "::" ++ hexGroups back)
      (left : groups bits = front ++ (List.replicate (8 - front.length - back.length) 0 ++ back))

theorem text6_eq (bits : BitVec 128) : text6 bits =
    if (groups bits).take 6 = [0, 0, 0, 0, 0, 0xffff] then "::ffff:" ++ Ip.dotted (bits.toNat % 4294967296)
    else if (longestRun (groups bits)).2 < 2 then hexGroups (groups bits)
    else hexGroups ((groups bits).take (longestRun (groups bits)).1) ++ "::" ++
      hexGroups ((groups bits).drop ((longestRun (groups bits)).1 + (longestRun (groups bits)).2)) := by
  unfold text6
  dsimp only

theorem written (bits : BitVec 128) : Written bits := by
  have hshown := text6_eq bits
  split at hshown
  · rename_i hcarried
    exact .dotted hshown hcarried
  · split at hshown
    · exact .full hshown
    · obtain ⟨front, back, hfront, hback, hleft⟩ := groups_eq_of_run bits
      rw [← hfront, ← hback] at hshown
      exact .short front back hshown hleft

theorem splitOn_short (front back : List Nat) :
    (hexGroups front ++ "::" ++ hexGroups back).toList.splitOn ':' = parts front ++ [] :: parts back := by
  have hcolons : (hexGroups front ++ "::" ++ hexGroups back).toList =
      (hexGroups front).toList ++ ':' :: ([] ++ ':' :: (hexGroups back).toList) := by simp
  rw [hcolons, List.splitOn_append_cons_self, List.splitOn_append_cons_self, splitOn_hexGroups, splitOn_hexGroups]
  rfl

theorem parts_groups_ne (bits : BitVec 128) (front back : List Nat) :
    parts (groups bits) ≠ parts front ++ [] :: parts back := by
  intro h
  have hempty : [] ∈ (groups bits).map (Nat.toDigits 16) := by
    show [] ∈ parts (groups bits)
    simp [h]
  obtain ⟨k, -, hk⟩ := List.mem_map.1 hempty
  exact Nat.toDigits_ne_nil hk

theorem no_point_hexGroups (gs : List Nat) : '.' ∉ (hexGroups gs).toList := by
  intro hc
  rcases mem_hexGroups hc with h | h <;> exact absurd h (by decide)

theorem no_point_short (front back : List Nat) : '.' ∉ (hexGroups front ++ "::" ++ hexGroups back).toList := by
  have hfront := no_point_hexGroups front
  have hback := no_point_hexGroups back
  simp [hfront, hback]

theorem point_dotted (n : Nat) : '.' ∈ ("::ffff:" ++ Ip.dotted n).toList := by
  simp [Ip.dotted]

theorem text6_inj {a b : BitVec 128} (h : text6 a = text6 b) : a = b := by
  have hpoint : '.' ∈ (text6 a).toList ↔ '.' ∈ (text6 b).toList := by rw [h]
  have hsplit : (text6 a).toList.splitOn ':' = (text6 b).toList.splitOn ':' := by rw [h]
  cases written a with
  | dotted ha hcarried =>
    rw [ha] at hpoint
    cases written b with
    | dotted hb hcarried' =>
      have hlist := congrArg String.toList (ha.symm.trans (h.trans hb))
      rw [String.toList_append, String.toList_append] at hlist
      exact eq_of_carried (hcarried.trans hcarried'.symm)
        (dotted_inj (String.toList_inj.1 (List.append_cancel_left hlist)))
    | full hb =>
      rw [hb] at hpoint
      exact absurd (hpoint.1 (point_dotted _)) (no_point_hexGroups _)
    | short front back hb =>
      rw [hb] at hpoint
      exact absurd (hpoint.1 (point_dotted _)) (no_point_short _ _)
  | full ha =>
    rw [ha] at hpoint hsplit
    rw [splitOn_hexGroups] at hsplit
    cases written b with
    | dotted hb hcarried' =>
      rw [hb] at hpoint
      exact absurd (hpoint.2 (point_dotted _)) (no_point_hexGroups _)
    | full hb =>
      rw [hb, splitOn_hexGroups] at hsplit
      exact groups_inj (parts_inj hsplit)
    | short front back hb =>
      rw [hb, splitOn_short] at hsplit
      exact absurd hsplit (parts_groups_ne _ _ _)
  | short front back ha hleft =>
    rw [ha] at hpoint hsplit
    rw [splitOn_short] at hsplit
    cases written b with
    | dotted hb hcarried' =>
      rw [hb] at hpoint
      exact absurd (hpoint.2 (point_dotted _)) (no_point_short _ _)
    | full hb =>
      rw [hb, splitOn_hexGroups] at hsplit
      exact absurd hsplit.symm (parts_groups_ne _ _ _)
    | short front' back' hb hleft' =>
      rw [hb, splitOn_short] at hsplit
      obtain ⟨rfl, rfl⟩ := parts_append_inj hsplit
      exact groups_inj (hleft.trans hleft'.symm)

theorem colon_text6 (bits : BitVec 128) : ':' ∈ (text6 bits).toList := by
  cases written bits with
  | dotted hb => simp [hb]
  | full hb => simp [hb, hexGroups, groups]
  | short front back hb => simp [hb]

theorem mem_text6 {bits : BitVec 128} {c : Char} (hc : c ∈ (text6 bits).toList) :
    (hexValue? c).isSome = true ∨ c = ':' ∨ c = '.' := by
  have hprefix : ∀ c ∈ "::ffff:".toList, (hexValue? c).isSome = true ∨ c = ':' ∨ c = '.' := by simp [hexValue?]
  cases written bits with
  | dotted hb =>
    rw [hb, String.toList_append] at hc
    rcases List.mem_append.1 hc with hc | hc
    · exact hprefix c hc
    · rcases mem_dotted hc with hc | hc
      · exact .inl (isSome_hexValue_of_isDigit hc)
      · exact .inr (.inr hc)
  | full hb =>
    rw [hb] at hc
    exact (mem_hexGroups hc).imp_right .inl
  | short front back hb =>
    rw [hb, String.toList_append, String.toList_append] at hc
    rcases List.mem_append.1 hc with hc | hc
    · rcases List.mem_append.1 hc with hc | hc
      · exact (mem_hexGroups hc).imp_right .inl
      · simp at hc
        exact .inr (.inl hc)
    · exact (mem_hexGroups hc).imp_right .inl

theorem mem_text {ip : Ip} {c : Char} (hc : c ∈ ip.text.toList) : (hexValue? c).isSome = true ∨ c = ':' ∨ c = '.' := by
  cases ip with
  | v4 bits => exact (mem_dotted hc).imp isSome_hexValue_of_isDigit .inr
  | v6 bits => exact mem_text6 hc

theorem text_ne_nil (ip : Ip) : ip.text.toList ≠ [] := by
  cases ip with
  | v4 bits =>
    show (dotted bits.toNat).toList ≠ []
    simp [toList_dotted, List.intercalate_cons_cons]
  | v6 bits => exact List.ne_nil_of_mem (colon_text6 bits)

theorem dotted_ne_text6 (n : Nat) (bits : BitVec 128) : dotted n ≠ text6 bits := by
  intro h
  have hcolon := colon_text6 bits
  rw [← h] at hcolon
  rcases mem_dotted hcolon with h | h <;> exact absurd h (by decide)

/-- **An address is known from its text.** -/
theorem text_inj {a b : Ip} (h : a.text = b.text) : a = b := by
  cases a with
  | v4 x =>
    cases b with
    | v4 y => exact congrArg Ip.v4 (BitVec.eq_of_toNat_eq (dotted_inj h))
    | v6 y => exact absurd h (dotted_ne_text6 _ _)
  | v6 x =>
    cases b with
    | v4 y => exact absurd h.symm (dotted_ne_text6 _ _)
    | v6 y => exact congrArg Ip.v6 (text6_inj h)

end Ip

end CqlDispatch
