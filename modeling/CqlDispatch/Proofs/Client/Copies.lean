import CqlDispatch.Proofs.Client.Hosts
import CqlDispatch.Proofs.Client.Sending
import CqlDispatch.Proofs.Request.Copies
/-!
# Further executions within a client

Under the policy of a constant delay every request of a client keeps to the delay and the limit, and its executions
share out the hosts of its plan, whatever happens to hosts, slots, attempts and other requests meanwhile
(`copies_paced`).
-/
namespace CqlDispatch

open Request (copies CopyAfter taken attempts)

/-- **How a request is hedged.**  No more executions are started than the limit says, in the order of their numbers, and
the k-th starts one delay after the one before it, so k delays after the request.  It has just been given a host of the
plan that no other is ever given, and it starts while the plan offers hosts and the request goes on.  Only executions
that were started send, to hosts they were given, and all attempts at one address are of one execution. -/
structure Request.Hedged (delay : Span) (limit : Nat) (r : Request) : Prop where
  few : copies r.trace ≤ limit
  spaced : ∀ later t k earlier, r.trace = later ++ ⟨t, .speculated k⟩ :: earlier →
    CopyAfter delay r.started earlier t k ∧ (delay.times k).HasPassed r.started t
  once : (taken r.events).Nodup
  started : ∀ later t a earlier, r.trace = later ++ ⟨t, .sent a⟩ :: earlier → a.execution ≤ copies earlier
  given : ∀ a ∈ attempts r.events, .pulled a.execution a.host ∈ r.events
  apart : ∀ a ∈ attempts r.events, ∀ b ∈ attempts r.events, a.address = b.address → a.execution = b.execution

namespace Request

variable {p : Policies} {delay : Span} {limit : Nat} {s : Shared} {r : Request} {made : Registry}

/-- Every request is hedged so from its start on. -/
theorem hedges_lasting (policy : p.speculation = .constant delay limit) :
    Lasting p fun _ g => Orderly g ∧ Hedges delay limit g where
  planless _ s statement options := ⟨⟨nofun, nofun⟩, hedges_submitted s statement options⟩
  hostless _ s statement options _ ended := ⟨⟨nofun, nofun⟩, hedges_stillborn s statement options ended⟩
  opens timed := ⟨orderly_begun .., hedges_begun policy _ _ _ _ _ timed⟩
  stride _ k stride := ⟨k.1.stride stride, k.2.stride policy k.1 stride⟩
  elsewhere := fun ⟨o, k⟩ => ⟨⟨o.known, o.apart⟩, k.counted, k.bounded, k.timer, k.spaced, k.sent, k.dry, k.ended⟩

/-- The timer gives the executions their times, and the plan gives them their hosts. -/
theorem hedged_of_hedges (supplied : Supplied made ⟨s, r, .idle⟩) (k : Hedges delay limit ⟨s, r, .idle⟩) :
    r.Hedged delay limit := by
  have members : ∀ {i h}, .pulled i h ∈ r.events → h ∈ made.topology.ids := fun pulled =>
    supplied.members _ (List.mem_append_left _ (mem_taken_of_pulled pulled))
  have once : (taken r.events).Nodup := (List.nodup_append.1 supplied.distinct).1
  have spaced := k.spaced
  refine ⟨k.counted ▸ k.bounded, fun later t n earlier hs => ?_, once, fun later t a earlier hs => ?_,
    fun a ha => (supplied.sent a ha).1, fun a ha b hb same => ?_⟩
  · rw [show r.trace = _ from hs] at spaced
    obtain ⟨copy, before⟩ := spaced.suffix
    refine ⟨copy, ?_⟩
    have elapsed := before.elapsed.next copy.paced
    rwa [← copy.number] at elapsed
  · have known := k.sent
    rw [show r.trace = _ from hs] at known
    exact known.suffix.1
  · obtain ⟨pulled, address⟩ := supplied.sent a ha
    obtain ⟨pulled', address'⟩ := supplied.sent b hb
    have host : a.host = b.host := supplied.wellFormed.address_inj (members pulled) (members pulled')
      (address.symm.trans (same.trans address'))
    exact pulled_inj once pulled (host ▸ pulled')

end Request

namespace Client

variable {c c₀ : Client}

/-- **Further executions come one at a time, each after its delay and on a host of its own.**  Under the policy of a
constant delay every request of a client on a balancer of its own is hedged, however its attempts are answered and
whatever else happens to the client. -/
theorem copies_paced {policies : Policies} {delay : Span} {limit : Nat} {defaults : QueryDefaults} {limits : Limits}
    {contacts : List Address} {report : Except Failure (List Translated)} {actions : List Action}
    (fresh : policies.balancer.Fresh) (policy : policies.speculation = .constant delay limit)
    (connected : connect policies defaults limits contacts report = .ok c₀) (ran : c₀.run? actions = some c) :
    ∀ r ∈ c.requests, r.Hedged delay limit := by
  intro r hr
  obtain ⟨made, supplied, -, hedges⟩ := supplied_run (Request.hedges_lasting policy) fresh connected ran r hr
  exact Request.hedged_of_hedges supplied hedges

/-- Up to two further executions start, five milliseconds apart. -/
def hedgedTwice : Policies := { inTurn with speculation := .constant (.ofMillis 5) 2 }

/-- The two hosts and one more. -/
def oneMorePeer : List Translated :=
  twoPeers ++ Translator.identity.answers [⟨⟨.v4 0x0a000003, 9042⟩, {}⟩]

/-- The first execution goes on to the second host, and the two that follow it find one host more. -/
def goneOnAndHedged : List Action :=
  [.submit { query := "SELECT" } { ({} : QueryDefaults).options with idempotent := true },
    .answer 0 0 (.error (.connection "reset")), .elapse 5, .speculate 0, .elapse 6, .speculate 0]

theorem third_host_hedged : ∃ c₀ c, connect hedgedTwice {} {} [] (.ok oneMorePeer) = .ok c₀ ∧
    c₀.run? goneOnAndHedged = some c ∧ ∃ r ∈ c.requests, r.Hedged (.ofMillis 5) 2 ∧
      (r.trace.filter (·.event.isCopy)).map (·.time) = [5] ∧
      (attempts r.events).map (fun a => (a.execution, a.host)) = [(1, 2), (0, 1), (0, 0)] := by
  have run : ∃ c₀ ∈ (connect hedgedTwice {} {} [] (.ok oneMorePeer)).toOption, ∃ c ∈ c₀.run? goneOnAndHedged,
      ∃ r ∈ c.requests, (r.trace.filter (·.event.isCopy)).map (·.time) = [5] ∧
        (attempts r.events).map (fun a => (a.execution, a.host)) = [(1, 2), (0, 1), (0, 0)] := by
    decide +kernel
  obtain ⟨c₀, connected, c, ran, r, hr, started, sent⟩ := run
  exact ⟨c₀, c, connect_of_mem connected, ran, r, hr,
    copies_paced (show hedgedTwice.balancer.Fresh from rfl) rfl (connect_of_mem connected) ran r hr, started, sent⟩

end Client

end CqlDispatch
