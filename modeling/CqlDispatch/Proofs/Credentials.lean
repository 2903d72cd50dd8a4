import Mathlib.Data.List.Basic
import CqlDispatch.Credentials
/-!
# The course of an exchange

An exchange reads a number of challenges, each of which the authenticator answers (`Answered`), and then something
decides it: one more reply, a step that fails, or the number of rounds.  `Course` has one case for each; every
exchange takes one of them (`course_authenticate`), and it is the only one there is (`Course.eq`).  So the result,
what was sent, what was read and what the authenticator was asked are all read off the course
(`takes_course`).
-/
namespace CqlDispatch

/-! ## What an authenticator does -/

namespace Authenticator

variable {σ : Type}

/-- The answers to challenges, up to one that fails. -/
def answers (a : Authenticator σ) : σ → List Bytes → List (Option Bytes)
  | _, [] => []
  | s, d :: ds =>
    match a.challenge s d with
    | (.ok token, s) => token :: a.answers s ds
    | (.error _, _) => []

/-- The initial response, and the answers to challenges after it. -/
def responses (a : Authenticator σ) (s : σ) (ds : List Bytes) : List (Option Bytes) :=
  match a.initial s with
  | (.ok token, s) => token :: a.answers s ds
  | (.error _, _) => []

inductive Call where
  | initial
  | challenge (data : Bytes)
  | success (token : Option Bytes)
  deriving DecidableEq, Repr

/-- The authenticator with a list of all it was asked. -/
def overheard (a : Authenticator σ) : Authenticator (σ × List Call) where
  initial s := ((a.initial s.1).1, (a.initial s.1).2, s.2 ++ [.initial])
  challenge s d := ((a.challenge s.1 d).1, (a.challenge s.1 d).2, s.2 ++ [.challenge d])
  success s token := ((a.success s.1 token).1, (a.success s.1 token).2, s.2 ++ [.success token])

end Authenticator

open Authenticator (Call)

abbrev AuthReplies := List (Except AuthFailure AuthReply)

namespace AuthReplies

/-- A server that only asks. -/
def asked (ds : List Bytes) : AuthReplies := ds.map fun d => .ok (.challenge d)

/-- The challenges among replies. -/
def challenges (replies : AuthReplies) : List Bytes :=
  replies.filterMap fun
    | .ok (.challenge d) => some d
    | _ => none

/-- What an authenticator is asked where it is asked for its answer to every challenge, and told of every success. -/
def handed (replies : AuthReplies) : List Call :=
  replies.filterMap fun
    | .ok (.challenge d) => some (.challenge d)
    | .ok (.success token) => some (.success token)
    | .error _ => none

theorem asked_append (ds ds' : List Bytes) : asked (ds ++ ds') = asked ds ++ asked ds' := List.map_append

theorem challenges_asked (ds : List Bytes) : challenges (asked ds) = ds := by
  simp [challenges, asked, List.filterMap_map]

theorem handed_asked (ds : List Bytes) : handed (asked ds) = ds.map .challenge := by
  simp [handed, asked, List.filterMap_map]

end AuthReplies

open AuthReplies (asked asked_append challenges handed)

/-! ## Courses -/

namespace Exchange

variable {σ : Type}

/-- The authenticator makes its initial response and answers these challenges: the responses, and the state after
them. -/
inductive Answered (a : Authenticator σ) (s : σ) : List Bytes → List (Option Bytes) → σ → Prop
  | opened {token s'} (h : a.initial s = (.ok token, s')) : Answered a s [] [token] s'
  | challenged {ds tokens s' d token s''} (before : Answered a s ds tokens s')
    (h : a.challenge s' d = (.ok token, s'')) : Answered a s (ds ++ [d]) (tokens ++ [token]) s''

/-- How an exchange goes that reads these replies. -/
inductive Course (a : Authenticator σ) (s : σ) : AuthReplies → Exchange σ → Prop
  | unopened {f s' rest} (h : a.initial s = (.error f, s')) : Course a s [] ⟨.error f, [], s', rest⟩
  | closed {ds tokens s'} (before : Answered a s ds tokens s') (room : ds.length < 64) :
    Course a s (asked ds) ⟨.error closed, tokens, s', []⟩
  | failed {ds tokens s' f rest} (before : Answered a s ds tokens s') (room : ds.length < 64) :
    Course a s (asked ds ++ [.error f]) ⟨.error f, tokens, s', rest⟩
  | accepted {ds tokens s' final result s'' rest} (before : Answered a s ds tokens s') (room : ds.length < 64)
    (h : a.success s' final = (result, s'')) :
    Course a s (asked ds ++ [.ok (.success final)]) ⟨result, tokens, s'', rest⟩
  | unanswered {ds tokens s' d f s'' rest} (before : Answered a s ds tokens s') (room : ds.length < 64)
    (h : a.challenge s' d = (.error f, s'')) :
    Course a s (asked ds ++ [.ok (.challenge d)]) ⟨.error f, tokens, s'', rest⟩
  | unfinished {ds tokens s' rest} (before : Answered a s ds tokens s') (full : ds.length = 64) :
    Course a s (asked ds) ⟨.error unfinished, tokens.dropLast, s', rest⟩

variable {a : Authenticator σ} {s : σ}

theorem Answered.length {ds : List Bytes} {tokens : List (Option Bytes)} {s' : σ} (h : Answered a s ds tokens s') :
    tokens.length = ds.length + 1 := by
  induction h with
  | opened => rfl
  | challenged _ _ ih => simp [ih]

/-- The rounds that are left take a course, whichever they are. -/
theorem course_rounds : ∀ (n : Nat) {token : Option Bytes} {sent : List (Option Bytes)} {s' : σ} {ds : List Bytes}
    (replies : AuthReplies), Answered a s ds (sent.reverse ++ [token]) s' → ds.length + n = 64 →
      ∃ read, replies = read ++ (rounds a n token sent s' replies).rest ∧
        Course a s (asked ds ++ read) (rounds a n token sent s' replies)
  | 0, token, sent, s', ds, replies, before, hn => by
    have hlast : sent.reverse = (sent.reverse ++ [token]).dropLast := by simp
    refine ⟨[], rfl, ?_⟩
    unfold rounds
    rw [List.append_nil, hlast]
    exact .unfinished before (by omega)
  | n + 1, token, sent, s', ds, replies, before, hn => by
    have room : ds.length < 64 := by omega
    rw [← List.reverse_cons] at before
    unfold rounds
    match replies with
    | [] =>
      refine ⟨[], rfl, ?_⟩
      rw [List.append_nil]
      exact .closed before room
    | .error f :: rest => exact ⟨[.error f], rfl, .failed before room⟩
    | .ok (.success final) :: rest => exact ⟨[.ok (.success final)], rfl, .accepted before room rfl⟩
    | .ok (.challenge d) :: rest =>
      simp only
      cases hc : a.challenge s' d with
      | mk answer s'' =>
        cases answer with
        | error f => exact ⟨[.ok (.challenge d)], rfl, .unanswered before room hc⟩
        | ok next =>
          obtain ⟨read, hread, course⟩ := course_rounds n rest (.challenged before hc) (by simp; omega)
          refine ⟨.ok (.challenge d) :: read, congrArg _ hread, ?_⟩
          rw [asked_append, List.append_assoc] at course
          exact course

/-- **Every exchange takes a course.** -/
theorem course_authenticate (a : Authenticator σ) (s : σ) (replies : AuthReplies) :
    ∃ read, replies = read ++ (authenticate a s replies).rest ∧ Course a s read (authenticate a s replies) := by
  unfold authenticate
  cases hi : a.initial s with
  | mk first s' =>
    cases first with
    | error f => exact ⟨[], rfl, .unopened hi⟩
    | ok token =>
      have opened : Answered a s [] (List.reverse [] ++ [token]) s' := .opened hi
      exact course_rounds 64 replies opened (Nat.zero_add _)

/-- After challenges that were answered, the rounds that are left decide. -/
theorem Answered.authenticate {ds : List Bytes} {tokens : List (Option Bytes)} {s' : σ}
    (h : Answered a s ds tokens s') : ∀ (n : Nat), ds.length + n = 64 → ∀ rest : AuthReplies,
      ∃ token sent, tokens = sent.reverse ++ [token] ∧
        CqlDispatch.authenticate a s (asked ds ++ rest) = rounds a n token sent s' rest := by
  induction h with
  | @opened token s' hi =>
    intro n hn rest
    obtain rfl : n = 64 := by simpa using hn
    refine ⟨token, [], rfl, ?_⟩
    unfold CqlDispatch.authenticate
    rw [hi]
    rfl
  | @challenged ds tokens s' d token s'' before hc ih =>
    intro n hn rest
    obtain ⟨last, sent, htokens, hrun⟩ := ih (n + 1) (by simp at hn; omega) (.ok (.challenge d) :: rest)
    refine ⟨token, last :: sent, by simp [htokens], ?_⟩
    rw [asked_append, List.append_assoc]
    refine hrun.trans ?_
    rw [rounds]
    simp only [hc]

/-- As long as there is room for a response, the next reply decides what comes of it. -/
theorem Answered.next {ds : List Bytes} {tokens : List (Option Bytes)} {s' : σ} (h : Answered a s ds tokens s')
    (room : ds.length < 64) (rest : AuthReplies) : ∃ n token sent, tokens = (token :: sent).reverse ∧
      CqlDispatch.authenticate a s (asked ds ++ rest) = rounds a (n + 1) token sent s' rest := by
  obtain ⟨n, hn⟩ := Nat.exists_eq_add_of_lt room
  obtain ⟨token, sent, htokens, hrun⟩ := h.authenticate (n + 1) (by omega) rest
  exact ⟨n, token, sent, by rw [htokens, List.reverse_cons], hrun⟩

/-- **An exchange takes no course but one.** -/
theorem Course.eq {read : AuthReplies} {e : Exchange σ} (course : Course a s read e) :
    authenticate a s (read ++ e.rest) = e := by
  cases course with
  | unopened h =>
    unfold authenticate
    rw [h]
    rfl
  | closed before room =>
    obtain ⟨n, token, sent, rfl, hrun⟩ := before.next room []
    rw [hrun, rounds]
  | @failed ds tokens s' f rest before room =>
    obtain ⟨n, token, sent, rfl, hrun⟩ := before.next room (.error f :: rest)
    rw [List.append_assoc]
    refine hrun.trans ?_
    rw [rounds]
  | @accepted ds tokens s' final result s'' rest before room h =>
    obtain ⟨n, token, sent, rfl, hrun⟩ := before.next room (.ok (.success final) :: rest)
    rw [List.append_assoc]
    refine hrun.trans ?_
    rw [rounds]
    simp only [h]
  | @unanswered ds tokens s' d f s'' rest before room h =>
    obtain ⟨n, token, sent, rfl, hrun⟩ := before.next room (.ok (.challenge d) :: rest)
    rw [List.append_assoc]
    refine hrun.trans ?_
    rw [rounds]
    simp only [h]
  | @unfinished ds tokens s' rest before full =>
    obtain ⟨token, sent, rfl, hrun⟩ := before.authenticate 0 full rest
    rw [hrun, rounds]
    simp

/-! ## The result -/

/-- One of the first replies is a success, before it are challenges that were answered, and the authenticator takes
it. -/
def Accepts (a : Authenticator σ) (s : σ) (replies : AuthReplies) : Prop :=
  ∃ ds tokens s' final rest, ds.length < 64 ∧ replies = asked ds ++ .ok (.success final) :: rest ∧
    Answered a s ds tokens s' ∧ (a.success s' final).1 = .ok ()

/-- The first error that is met, or that of rounds that were used up. -/
inductive Meets (a : Authenticator σ) (s : σ) (replies : AuthReplies) : AuthFailure → Prop
  | initial {f} (h : (a.initial s).1 = .error f) : Meets a s replies f
  | reply {ds tokens s' f rest} (before : Answered a s ds tokens s') (room : ds.length < 64)
    (h : replies = asked ds ++ .error f :: rest) : Meets a s replies f
  | challenge {ds tokens s' d f rest} (before : Answered a s ds tokens s') (room : ds.length < 64)
    (h : replies = asked ds ++ .ok (.challenge d) :: rest) (fails : (a.challenge s' d).1 = .error f) :
    Meets a s replies f
  | success {ds tokens s' final f rest} (before : Answered a s ds tokens s') (room : ds.length < 64)
    (h : replies = asked ds ++ .ok (.success final) :: rest) (fails : (a.success s' final).1 = .error f) :
    Meets a s replies f
  | closed {ds tokens s'} (before : Answered a s ds tokens s') (room : ds.length < 64)
    (h : replies = asked ds) : Meets a s replies closed
  | rounds {ds tokens s' rest} (before : Answered a s ds tokens s') (full : ds.length = 64)
    (h : replies = asked ds ++ rest) : Meets a s replies unfinished

theorem Course.accepts {read : AuthReplies} {e : Exchange σ} (course : Course a s read e) (ok : e.result = .ok ()) :
    Accepts a s (read ++ e.rest) := by
  cases course with
  | @accepted ds tokens s' final result s'' rest before room h =>
    exact ⟨ds, tokens, s', final, rest, room, by simp, before, by rw [h]; exact ok⟩
  | unopened | closed | failed | unanswered | unfinished => cases ok

theorem Course.meets {read : AuthReplies} {e : Exchange σ} {f : AuthFailure} (course : Course a s read e)
    (fails : e.result = .error f) : Meets a s (read ++ e.rest) f := by
  cases course with
  | unopened h =>
    cases fails
    exact .initial (by rw [h])
  | closed before room =>
    cases fails
    exact .closed before room (List.append_nil _)
  | failed before room =>
    cases fails
    exact .reply before room (List.append_assoc _ _ _)
  | accepted before room h => exact .success before room (List.append_assoc _ _ _) (by rw [h]; exact fails)
  | unanswered before room h =>
    cases fails
    exact .challenge before room (List.append_assoc _ _ _) (by rw [h])
  | unfinished before full =>
    cases fails
    exact .rounds before full rfl

theorem Accepts.result {replies : AuthReplies} (h : Accepts a s replies) :
    (authenticate a s replies).result = .ok () := by
  obtain ⟨ds, tokens, s', final, rest, room, rfl, before, ok⟩ := h
  have course : Course a s (asked ds ++ [.ok (.success final)]) ⟨.ok (), tokens, (a.success s' final).2, rest⟩ :=
    .accepted before room (Prod.ext ok rfl)
  rw [List.append_cons, course.eq]

theorem Meets.result {replies : AuthReplies} {f : AuthFailure} (h : Meets a s replies f) :
    (authenticate a s replies).result = .error f := by
  cases h with
  | initial h =>
    have course : Course a s [] ⟨.error f, [], (a.initial s).2, replies⟩ := .unopened (Prod.ext h rfl)
    exact congrArg Exchange.result course.eq
  | reply before room h =>
    rw [h, List.append_cons, (Course.failed before room).eq]
  | challenge before room h fails =>
    rw [h, List.append_cons, (Course.unanswered before room (Prod.ext fails rfl)).eq]
  | success before room h fails =>
    rw [h, List.append_cons, (Course.accepted before room (Prod.ext fails rfl)).eq]
  | closed before room h =>
    rw [h, ← List.append_nil (asked _), (Course.closed before room).eq]
  | rounds before full h =>
    rw [h, (Course.unfinished before full).eq]

/-! ## What is sent and what is asked -/

theorem Answered.answers {ds : List Bytes} {tokens : List (Option Bytes)} {s' : σ} (h : Answered a s ds tokens s') :
    ∀ ds', a.responses s (ds ++ ds') = tokens ++ a.answers s' ds' := by
  induction h with
  | opened hi =>
    intro ds'
    unfold Authenticator.responses
    rw [hi]
    rfl
  | challenged before hc ih =>
    intro ds'
    rw [List.append_assoc, ih, List.append_assoc]
    congr 1
    show a.answers _ (_ :: ds') = _
    rw [Authenticator.answers, hc]
    rfl

theorem Answered.responses {ds : List Bytes} {tokens : List (Option Bytes)} {s' : σ} (h : Answered a s ds tokens s') :
    a.responses s ds = tokens := by
  have hall := h.answers []
  rwa [List.append_nil, Authenticator.answers, List.append_nil] at hall

theorem Answered.overheard {ds : List Bytes} {tokens : List (Option Bytes)} {s' : σ} (h : Answered a s ds tokens s') :
    Answered a.overheard (s, []) ds tokens (s', .initial :: ds.map .challenge) := by
  induction h with
  | opened hi => exact .opened (by simp [Authenticator.overheard, hi])
  | challenged before hc ih => exact .challenged ih (by simp [Authenticator.overheard, hc])

/-- Whoever listens hears of every reply that is no error, and of nothing else. -/
theorem Course.overheard {read : AuthReplies} {e : Exchange σ} (course : Course a s read e) :
    Course a.overheard (s, []) read ⟨e.result, e.sent, (e.state, .initial :: handed read), e.rest⟩ := by
  have hasked : ∀ ds (replies : AuthReplies), handed (asked ds ++ replies) = ds.map .challenge ++ handed replies :=
    fun ds replies => by rw [← AuthReplies.handed_asked]; exact List.filterMap_append
  cases course with
  | unopened h => exact .unopened (by simp [Authenticator.overheard, h, handed])
  | closed before room =>
    rw [AuthReplies.handed_asked]
    exact .closed before.overheard room
  | failed before room =>
    rw [hasked]
    exact .failed (by simpa [handed] using before.overheard) room
  | accepted before room h =>
    rw [hasked]
    exact .accepted before.overheard room (by simp [Authenticator.overheard, h, handed])
  | unanswered before room h =>
    rw [hasked]
    exact .unanswered before.overheard room (by simp [Authenticator.overheard, h, handed])
  | unfinished before full =>
    rw [AuthReplies.handed_asked]
    exact .unfinished before.overheard full

/-- What an exchange does that reads some of the replies. -/
structure Conduct (a : Authenticator σ) (s : σ) (replies read : AuthReplies) (e : Exchange σ) : Prop where
  reads : replies = read ++ e.rest
  asks : ∀ reply ∈ read.dropLast, ∃ d, reply = .ok (.challenge d)
  sends : e.sent = (a.responses s (challenges read)).take 64
  /-- One reply for each response, unless the channel was closed after the last. -/
  replied : e.sent.length = read.length ∨
    e.rest = [] ∧ e.result = .error Exchange.closed ∧ e.sent.length = read.length + 1
  /-- What is left makes no difference. -/
  stops : e.rest ≠ [] → ∀ rest, authenticate a s (read ++ rest) = { e with rest := rest }
  calls : authenticate a.overheard (s, []) replies =
    ⟨e.result, e.sent, (e.state, .initial :: handed read), e.rest⟩

theorem Course.asks {read : AuthReplies} {e : Exchange σ} (course : Course a s read e) :
    ∀ reply ∈ read.dropLast, ∃ d, reply = .ok (.challenge d) := by
  have hasked : ∀ {ds reply}, reply ∈ asked ds → ∃ d, reply = .ok (.challenge d) := fun hm => by
    obtain ⟨d, -, rfl⟩ := List.mem_map.1 hm
    exact ⟨d, rfl⟩
  intro reply hm
  cases course with
  | unopened => cases hm
  | closed | unfinished => exact hasked (List.dropLast_subset _ hm)
  | failed | accepted | unanswered =>
    rw [List.dropLast_concat] at hm
    exact hasked hm

theorem Course.sends {read : AuthReplies} {e : Exchange σ} (course : Course a s read e) :
    e.sent = (a.responses s (challenges read)).take 64 := by
  have hasked : ∀ ds (replies : AuthReplies), challenges (asked ds ++ replies) = ds ++ challenges replies :=
    fun ds replies => (List.filterMap_append).trans (congrArg (· ++ _) (AuthReplies.challenges_asked ds))
  have hall : ∀ {ds tokens s'}, Answered a s ds tokens s' → ds.length < 64 →
      tokens = tokens.take 64 := fun before room =>
    (List.take_of_length_le (by rw [before.length]; exact room)).symm
  cases course with
  | unopened h =>
    unfold Authenticator.responses
    rw [h]
    rfl
  | closed before room =>
    rw [AuthReplies.challenges_asked, before.responses]
    exact hall before room
  | failed before room | accepted before room h =>
    rw [hasked, before.answers]
    simpa [challenges, Authenticator.answers] using hall before room
  | @unanswered ds tokens s' d f s'' rest before room h =>
    have hnone : a.answers s' [d] = [] := by rw [Authenticator.answers, h]
    rw [hasked, before.answers]
    simpa [challenges, hnone] using hall before room
  | unfinished before full =>
    rw [AuthReplies.challenges_asked, before.responses, List.dropLast_eq_take, before.length, full]

theorem Course.replied {read : AuthReplies} {e : Exchange σ} (course : Course a s read e) :
    e.sent.length = read.length ∨ e.rest = [] ∧ e.result = .error Exchange.closed ∧ e.sent.length = read.length + 1 := by
  cases course with
  | unopened => exact .inl rfl
  | closed before room => exact .inr ⟨rfl, rfl, by simp [before.length, asked]⟩
  | failed before room | accepted before room h | unanswered before room h =>
    exact .inl (by simp [before.length, asked])
  | unfinished before full => exact .inl (by simp [before.length, asked])

theorem Course.stops {read : AuthReplies} {e : Exchange σ} (course : Course a s read e) (left : e.rest ≠ [])
    (rest : AuthReplies) : authenticate a s (read ++ rest) = { e with rest := rest } := by
  have same : Course a s read { e with rest := rest } := by
    cases course with
    | unopened h => exact .unopened h
    | closed => exact absurd rfl left
    | failed before room => exact .failed before room
    | accepted before room h => exact .accepted before room h
    | unanswered before room h => exact .unanswered before room h
    | unfinished before full => exact .unfinished before full
  exact same.eq

/-- **How an exchange goes.**  It succeeds exactly where one of the first 64 replies is a success, every reply before
it a challenge that the authenticator answered, and the authenticator takes the success; else it gives the first
error that is met, or after 64 challenges that there was no success.  The replies it reads are challenges but for
the last, and what is left makes no difference.  It sends the initial response and the answers to the challenges
it reads, in order, at most 64 responses, and no more than are replied to.  The authenticator is asked for its
initial response, for an answer to every challenge that is read, and is told of the success that is read. -/
theorem takes_course (a : Authenticator σ) (s : σ) (replies : AuthReplies) :
    let e := authenticate a s replies
    (e.result = .ok () ↔ Accepts a s replies) ∧ (∀ f, e.result = .error f ↔ Meets a s replies f) ∧
      e.sent.length ≤ 64 ∧ ∃ read, Conduct a s replies read e := by
  intro e
  obtain ⟨read, hread, course⟩ := course_authenticate a s replies
  have overheard := course.overheard.eq
  refine ⟨⟨fun ok => ?_, Accepts.result⟩, fun f => ⟨fun fails => ?_, Meets.result⟩, ?_, read, ?_⟩
  · rw [hread]
    exact course.accepts ok
  · rw [hread]
    exact course.meets fails
  · show (authenticate a s replies).sent.length ≤ 64
    rw [course.sends, List.length_take]
    exact Nat.min_le_left _ _
  · exact ⟨hread, course.asks, course.sends, course.replied, course.stops, hread ▸ overheard⟩

/-- The answer to the sixty-fourth challenge is not sent, and the one after it is not read. -/
example : let e := authenticate (Credentials.authenticator ⟨"u", "p"⟩) () (asked (List.replicate 65 []))
    e.sent.length = 64 ∧ e.rest.length = 1 := by
  decide

end Exchange

end CqlDispatch
