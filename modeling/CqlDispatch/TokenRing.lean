import CqlDispatch.Host
/-!
# The token ring

Which host owns which token, as the list of owned tokens in increasing order.  A token that
several hosts claim belongs to the last of them.

The replicas of a token are the owners met on a walk around the ring that starts at the first
token not below it, each owner once, until there are enough.  Room for all of them is made before
the walk, so more than `mostRoom` cannot be asked for.
-/
namespace CqlDispatch

/-- Owned tokens in increasing order with their owners. -/
abbrev TokenRing := List (Token × Address)

namespace TokenRing

/-- Gives a token to an owner, whoever had it before. -/
def claim (t : Token) (owner : Address) : TokenRing → TokenRing
  | [] => [(t, owner)]
  | (u, a) :: rest =>
    if t = u then (t, owner) :: rest
    else if t < u then (t, owner) :: (u, a) :: rest
    else (u, a) :: claim t owner rest

def claimAll (ring : TokenRing) (h : Host) : TokenRing :=
  h.tokens.foldl (fun r t => r.claim t h.address) ring

/-- The ring of these hosts; later hosts take tokens from earlier ones. -/
def ofHosts (hosts : List Host) : TokenRing := hosts.foldl claimAll []

def owner? (ring : TokenRing) (t : Token) : Option Address := ring.lookup t

/-- The owners met from `t` on, once around, with repetitions. -/
def walk (ring : TokenRing) (t : Token) : List Address :=
  ((ring.filter (t ≤ ·.1)) ++ ring.filter (·.1 < t)).map (·.2)

/-- The first occurrences of up to `n` different owners. -/
def takeDistinct : Nat → List Address → List Address → List Address
  | 0, _, _ => []
  | _, _, [] => []
  | n + 1, seen, a :: rest =>
    if a ∈ seen then takeDistinct (n + 1) seen rest else a :: takeDistinct n (a :: seen) rest

/-- Up to `factor` different owners of a token, nearest first. -/
def replicas (ring : TokenRing) (t : Token) (factor : Nat) : List Address :=
  takeDistinct factor [] (ring.walk t)

/-- The longest list of addresses that there can be room for. -/
def mostRoom : Nat := 288230376151711743

/-- The replicas, where there can be room for so many. -/
def replicas? (ring : TokenRing) (t : Token) (factor : Nat) : Except Overflow (List Address) :=
  if mostRoom < factor then .error .room else .ok (ring.replicas t factor)

end TokenRing

end CqlDispatch
