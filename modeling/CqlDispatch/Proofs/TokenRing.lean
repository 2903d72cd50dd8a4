import Mathlib.Data.List.Basic
import Mathlib.Data.List.Induction
import CqlDispatch.TokenRing
import CqlDispatch.Proofs.Lookup
/-!
# Owners on the token ring

A ring is a map from tokens to owners: its tokens stand in increasing order, each of them once
(`ofHosts_sorted`).  Later hosts take tokens from earlier ones, so in the ring of hosts that stand in
the order of their addresses a token belongs to the greatest address that owns it
(`owner?_ofHosts_iff`).
-/
namespace CqlDispatch

theorem Token.lt_iff {t u : Token} : t < u ↔ t.value.toInt < u.value.toInt := Int64.lt_iff_toInt_lt

theorem Token.lt_of_not_lt {t u : Token} (hne : t ≠ u) (h : ¬ t < u) : u < t := by
  have hvalue : t.value.toInt ≠ u.value.toInt := fun he => hne (congrArg Token.mk (Int64.toInt.inj he))
  rw [Token.lt_iff] at h ⊢
  omega

namespace TokenRing

/-! ## Claims -/

theorem owner?_claim (t u : Token) (owner : Address) : ∀ ring : TokenRing,
    (ring.claim t owner).owner? u = if u = t then some owner else ring.owner? u
  | [] => lookup_cons_if t u owner []
  | (v, a) :: ring => by
    have ih := owner?_claim t u owner ring
    unfold owner? at ih ⊢
    unfold claim
    by_cases hv : t = v
    · subst hv
      rw [if_pos rfl, lookup_cons_if, lookup_cons_if]
      by_cases hu : u = t
      · rw [if_pos hu, if_pos hu]
      · rw [if_neg hu, if_neg hu, if_neg hu]
    · rw [if_neg hv]
      split
      · rw [lookup_cons_if]
      · rw [lookup_cons_if, lookup_cons_if, ih]
        by_cases hu : u = v
        · rw [if_pos hu, if_pos hu, if_neg fun hut => hv (hut.symm.trans hu)]
        · rw [if_neg hu, if_neg hu]

theorem mem_claim {t : Token} {owner : Address} {m : Token × Address} : ∀ {ring : TokenRing},
    m ∈ ring.claim t owner → m = (t, owner) ∨ m ∈ ring
  | [], hm => .inl (List.mem_singleton.1 hm)
  | (v, a) :: ring, hm => by
    unfold claim at hm
    split at hm
    · exact (List.mem_cons.1 hm).imp_right (List.mem_cons_of_mem _)
    · split at hm
      · exact List.mem_cons.1 hm
      · rcases List.mem_cons.1 hm with rfl | hm
        · exact .inr List.mem_cons_self
        · exact (mem_claim hm).imp_right (List.mem_cons_of_mem _)

theorem claim_sorted (t : Token) (owner : Address) : ∀ {ring : TokenRing},
    ring.Pairwise (·.1 < ·.1) → (ring.claim t owner).Pairwise (·.1 < ·.1)
  | [], _ => List.pairwise_singleton _ _
  | (v, a) :: ring, hring => by
    obtain ⟨hfirst, hrest⟩ := List.pairwise_cons.1 hring
    unfold claim
    by_cases hv : t = v
    · rw [if_pos hv]
      exact List.pairwise_cons.2 ⟨fun m hm => hv ▸ hfirst m hm, hrest⟩
    · rw [if_neg hv]
      split
      · rename_i htv
        refine List.pairwise_cons.2 ⟨fun m hm => ?_, hring⟩
        rcases List.mem_cons.1 hm with rfl | hm
        · exact htv
        · exact Int64.lt_trans htv (hfirst m hm)
      · rename_i htv
        refine List.pairwise_cons.2 ⟨fun m hm => ?_, claim_sorted t owner hrest⟩
        rcases mem_claim hm with rfl | hm
        · exact Token.lt_of_not_lt hv htv
        · exact hfirst m hm

/-! ## Hosts -/

theorem owner?_foldl_claim (u : Token) (owner : Address) : ∀ (tokens : List Token) (ring : TokenRing),
    (tokens.foldl (fun r t => r.claim t owner) ring).owner? u = if u ∈ tokens then some owner else ring.owner? u
  | [], _ => rfl
  | t :: tokens, ring => by
    rw [List.foldl_cons, owner?_foldl_claim u owner tokens, owner?_claim]
    by_cases hu : u = t <;> simp [hu]

theorem owner?_claimAll (ring : TokenRing) (h : Host) (u : Token) :
    (ring.claimAll h).owner? u = if u ∈ h.tokens then some h.address else ring.owner? u :=
  owner?_foldl_claim u h.address h.tokens ring

theorem claimAll_sorted {ring : TokenRing} (hring : ring.Pairwise (·.1 < ·.1)) (h : Host) :
    (ring.claimAll h).Pairwise (·.1 < ·.1) :=
  List.foldlRecOn h.tokens _ hring fun _ hr t _ => claim_sorted t h.address hr

theorem ofHosts_sorted (hosts : List Host) : (ofHosts hosts).Pairwise (·.1 < ·.1) :=
  List.foldlRecOn hosts _ .nil fun _ hr h _ => claimAll_sorted hr h

/-- A ring reads nothing of its hosts but their addresses and tokens. -/
theorem ofHosts_congr {α : Type} {f g : α → Host} {l : List α}
    (h : ∀ x ∈ l, (f x).address = (g x).address ∧ (f x).tokens = (g x).tokens) :
    ofHosts (l.map f) = ofHosts (l.map g) := by
  unfold ofHosts
  rw [List.foldl_map, List.foldl_map]
  refine List.foldl_ext _ _ _ fun ring x hx => ?_
  unfold claimAll
  rw [(h x hx).1, (h x hx).2]

/-- **A token belongs to the greatest address of the hosts that own it**, where the hosts stand in the
order of their addresses. -/
theorem owner?_ofHosts_iff {t : Token} {a : Address} (hosts : List Host)
    (sorted : hosts.Pairwise (·.address < ·.address)) :
    (ofHosts hosts).owner? t = some a ↔
      (∃ h ∈ hosts, t ∈ h.tokens ∧ h.address = a) ∧
        ∀ h ∈ hosts, t ∈ h.tokens → h.address = a ∨ h.address < a := by
  -- On the last host: it takes the token from all before it, whose addresses are lower.
  induction hosts using List.reverseRecOn with
  | nil => simp [ofHosts, owner?]
  | append_singleton hosts last ih =>
    obtain ⟨hsorted, -, hbelow⟩ := List.pairwise_append.1 sorted
    have hlast : ofHosts (hosts ++ [last]) = (ofHosts hosts).claimAll last := List.foldl_append
    rw [hlast, owner?_claimAll]
    by_cases ht : t ∈ last.tokens
    · rw [if_pos ht, Option.some.injEq]
      constructor
      · rintro rfl
        refine ⟨⟨last, by simp, ht, rfl⟩, fun h hm _ => ?_⟩
        rcases List.mem_append.1 hm with hm | hm
        · exact .inr (hbelow h hm last List.mem_cons_self)
        · exact .inl (by rw [List.mem_singleton.1 hm])
      · rintro ⟨⟨h, hm, -, rfl⟩, hgreatest⟩
        rcases List.mem_append.1 hm with hm | hm
        · refine (hgreatest last (by simp) ht).resolve_right fun hlt => ?_
          exact absurd (Nat.lt_trans hlt (hbelow h hm last List.mem_cons_self)) (Nat.lt_irrefl _)
        · rw [List.mem_singleton.1 hm]
    · rw [if_neg ht, ih hsorted]
      simp [or_and_right, exists_or, ht, or_imp, forall_and]

end TokenRing

end CqlDispatch
