import CqlDispatch.Proofs.Request.Attempts
import CqlDispatch.Proofs.Request.Strides
/-!
# The timestamp of a request

All attempts of a request carry the one timestamp that it has from its start: the explicit one, or else
the next of the generator.  A request whose plan has no host draws none, and no stride draws any.
-/
namespace CqlDispatch
namespace Request

/-- Whether the request took its timestamp from the generator, if there is one: it took a host and was given none. -/
def draws (r : Request) : Bool := r.options.timestamp.isNone && !(taken r.events).isEmpty

/-- What a request has from its start stays, and the hosts that were taken stay taken. -/
structure Same (r r' : Request) : Prop where
  options : r'.options = r.options
  timestamp : r'.timestamp = r.timestamp
  taken : taken r.events <:+ taken r'.events

theorem Same.refl (r : Request) : Same r r := ⟨rfl, rfl, List.suffix_rfl⟩

theorem Same.trans {r r' r'' : Request} (h : Same r r') (h' : Same r' r'') : Same r r'' :=
  ⟨h'.options.trans h.options, h'.timestamp.trans h.timestamp, h.taken.trans h'.taken⟩

variable {p : Policies} {g g' : Stage}

theorem Stride.same (stride : Stride p g g') : Same g.request g'.request := by
  cases stride with
  | pulled offer => exact ⟨rfl, rfl, List.suffix_cons _ _⟩
  | copied live due offer => exact ⟨rfl, rfl, List.suffix_cons _ _⟩
  | _ => exact ⟨rfl, rfl, List.suffix_rfl⟩

theorem Strides.same (strides : Strides p g g') : Same g.request g'.request :=
  strides.keeps (I := fun g' => Same g.request g'.request) (fun same stride => same.trans stride.same) (.refl _)

theorem Stride.timestamps (stride : Stride p g g') : g'.shared.timestamps = g.shared.timestamps := by
  rw [stride.shared]

/-- Every attempt carries the timestamp of its request. -/
def Carries (r : Request) : Prop := ∀ a ∈ attempts r.events, a.timestamp = r.timestamp

theorem carries_send {r : Request} (k : Carries r) (s : Shared) (i : Nat) (c : Consistency) (h : HostId) (t : Ticket) :
    Carries (r.send s i c h t).2 := by
  intro a ha
  rcases List.mem_cons.1 ha with rfl | ha
  · rfl
  · exact k a ha

/-- **No attempt gets a timestamp of its own.** -/
theorem Stride.carries (stride : Stride p g g') (k : Carries g.request) : Carries g'.request := by
  cases stride with
  | granted up asked => exact carries_send k _ _ _ _ _
  | @resumed s r i e h a t admission live waits queued found => exact carries_send (r := r.without i) k _ _ _ _ _
  | _ => exact k

/-- A request that takes no host draws nothing and sends nothing. -/
structure Hostless (s : Shared) (out : Shared × Request) : Prop where
  hosts : taken out.2.events = []
  ended : out.2.isLive = false
  sent : attempts out.2.events = []
  timestamps : out.1.timestamps = s.timestamps

theorem startOn_stamped (p : Policies) (s : Shared) (statement : Statement) (options : ExecutionOptions) (plan : Plan) :
    let out := startOn p s statement options plan
    out.2.options = options ∧ Carries out.2 ∧ (Hostless s out ∨
      taken out.2.events ≠ [] ∧ (out.2.timestamp, out.1.timestamps) = stamp options.timestamp s.timestamps) := by
  intro out
  rcases startOn_strides p s statement options plan with ⟨rest, -, he⟩ | ⟨h, rest, next, -, -, strides⟩
  · have hout : out = _ := he
    have ended : Stride p ⟨s, stillborn s statement options rest, .idle⟩
      (.rest ((stillborn s statement options rest).finish s (.failure (.noHostAvailable [])))) := .failed rfl
    rw [hout]
    exact ⟨rfl, nofun, .inl ⟨rfl, rfl, rfl, ended.timestamps⟩⟩
  · have same := strides.same
    have carries : Carries out.2 := strides.keeps (I := fun g => Carries g.request)
      (fun k stride => stride.carries k) (nofun : Carries (begun s statement options h rest next).request)
    have shared : out.1.timestamps = (stamp options.timestamp s.timestamps).2 :=
      strides.keeps (I := fun g => g.shared.timestamps = (stamp options.timestamp s.timestamps).2)
        (fun h stride => stride.timestamps.trans h) rfl
    refine ⟨same.options, carries, .inr ⟨fun none => ?_, Prod.ext same.timestamp shared⟩⟩
    have taken : [h] <:+ taken out.2.events := same.taken
    rw [none] at taken
    cases List.eq_nil_of_suffix_nil taken

/-- **The timestamp of a request**: with no host to send to it draws none and is over, and else it has the explicit one
or the next of the generator. -/
theorem start_stamped (p : Policies) (s : Shared) (statement : Statement) (options : ExecutionOptions) :
    let out := start p s statement options
    out.2.options = options ∧ Carries out.2 ∧ (Hostless s out ∨
      taken out.2.events ≠ [] ∧ (out.2.timestamp, out.1.timestamps) = stamp options.timestamp s.timestamps) := by
  let planned : Shared := { s with cluster := (s.cluster.plan options.keyspace options).2 }
  rcases start_cases p s statement options with ⟨-, he⟩ | ⟨o, -, he⟩
  · obtain ⟨kept, carries, hostless | stamped⟩ := startOn_stamped p planned statement options
      (s.cluster.plan options.keyspace options).1
    · rw [he]
      exact ⟨kept, carries, .inl ⟨hostless.hosts, hostless.ended, hostless.sent, hostless.timestamps⟩⟩
    · rw [he]
      exact ⟨kept, carries, .inr stamped⟩
  · have lost : Stride p ⟨planned, submitted planned statement options, .idle⟩
      (.rest ((submitted planned statement options).lose planned o)) := .lost rfl
    rw [he]
    exact ⟨rfl, nofun, .inl ⟨rfl, isLive_lose _ _ _, rfl, lost.timestamps⟩⟩

/-- A move draws no timestamp, and the request keeps its own. -/
theorem move_same {s : Shared} {r : Request} {m : Move} {out : Shared × Request} (hm : r.move? p s m = some out) :
    Same r out.2 ∧ out.1.timestamps = s.timestamps :=
  ⟨(move_strides hm).same, (move_strides hm).keeps (I := fun g => g.shared.timestamps = s.timestamps)
    (fun h stride => stride.timestamps.trans h) rfl⟩

end Request

end CqlDispatch
