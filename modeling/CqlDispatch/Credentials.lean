import CqlDispatch.Failure
import CqlDispatch.Text.Quoted
/-!
# Authentication

The exchange in which a server asks for credentials.  An authenticator makes the first response,
answers challenges and hears of success; a channel carries responses to the server and brings its
replies.  Both may fail at any step.  `authenticate` lets them talk until the server accepts, a
step fails, or the rounds are used up.

An `AuthProvider` makes a fresh authenticator for every connection: one that sends a user name and a
password between zero bytes, or one that fails because nothing was configured.
-/
namespace CqlDispatch

abbrev Bytes := List UInt8

inductive AuthFailure where
  | missing (endpoint : Address)
  | rejected (reason : String)
  | protocol (reason : String)
  deriving DecidableEq, Repr

namespace AuthFailure

def message : AuthFailure → String
  | missing endpoint =>
    "Host " ++ endpoint.text ++
      " requires authentication, but no authenticator found in the options"
  | rejected reason => "authentication rejected: " ++ reason
  | protocol reason => "authentication protocol error: " ++ reason

def toFailure (f : AuthFailure) : Failure := .authentication f.message

end AuthFailure

/-- An authenticator with states of type `σ`; every step gives the next state. -/
structure Authenticator (σ : Type) where
  initial : σ → Except AuthFailure (Option Bytes) × σ
  challenge : σ → Bytes → Except AuthFailure (Option Bytes) × σ
  /-- Hears of success with the final token. -/
  success : σ → Option Bytes → Except AuthFailure Unit × σ

inductive AuthReply where
  | challenge (data : Bytes)
  | success (token : Option Bytes)
  deriving DecidableEq, Repr

def maxRounds : Nat := 64

/-- An exchange that has come to an end: the result, the responses sent, in order, the
authenticator's state and the replies nobody asked for. -/
structure Exchange (σ : Type) where
  result : Except AuthFailure Unit
  sent : List (Option Bytes)
  state : σ
  rest : List (Except AuthFailure AuthReply)

namespace Exchange

def unfinished : AuthFailure :=
  .protocol ("no success after " ++ Nat.repr maxRounds ++ " challenge rounds")

def closed : AuthFailure := .protocol "closed"

/-- The rounds from a response on; `sent` is what went before, the latest first. -/
def rounds {σ : Type} (a : Authenticator σ) :
    Nat → Option Bytes → List (Option Bytes) → σ → List (Except AuthFailure AuthReply) → Exchange σ
  | 0, _, sent, state, rest => ⟨.error unfinished, sent.reverse, state, rest⟩
  | n + 1, token, sent, state, replies =>
    let sent := token :: sent
    match replies with
    | [] => ⟨.error closed, sent.reverse, state, []⟩
    | .error f :: rest => ⟨.error f, sent.reverse, state, rest⟩
    | .ok (.success final) :: rest =>
      let (result, state) := a.success state final
      ⟨result, sent.reverse, state, rest⟩
    | .ok (.challenge data) :: rest =>
      match a.challenge state data with
      | (.ok token, state) => rounds a n token sent state rest
      | (.error f, state) => ⟨.error f, sent.reverse, state, rest⟩

end Exchange

/-- Drives an exchange with a server that gives these replies and then closes the channel. -/
def authenticate {σ : Type} (a : Authenticator σ) (state : σ)
    (replies : List (Except AuthFailure AuthReply)) : Exchange σ :=
  match a.initial state with
  | (.ok token, state) => Exchange.rounds a maxRounds token [] state replies
  | (.error f, state) => ⟨.error f, [], state, replies⟩

structure Credentials where
  username : String
  password : String
  deriving DecidableEq, Repr

namespace Credentials

/-- Zero, the user name, zero, the password. -/
def token (c : Credentials) : Bytes :=
  0 :: c.username.toUTF8.toList ++ 0 :: c.password.toUTF8.toList

/-- Sends the credentials first and nothing after a challenge. -/
def authenticator (c : Credentials) : Authenticator Unit where
  initial _ := (.ok (some c.token), ())
  challenge _ _ := (.ok none, ())
  success _ _ := (.ok (), ())

def describe (c : Credentials) : String :=
  "PlainTextAuthProvider \x7b username: " ++ quoted c.username ++ ", password: \"***\" \x7d"

def describeAuthenticator (c : Credentials) : String :=
  "PlainTextAuthenticator \x7b username: " ++ quoted c.username ++ ", .. \x7d"

end Credentials

/-- Stands in where nothing was configured: it fails as soon as a server asks. -/
def noCredentials (endpoint : Address) : Authenticator Unit where
  initial _ := (.error (.missing endpoint), ())
  challenge _ _ := (.error (.missing endpoint), ())
  success _ _ := (.ok (), ())

inductive AuthProvider where
  | credentials (c : Credentials)
  /-- Nothing, so that a server that asks is refused. -/
  | nothing
  deriving DecidableEq, Repr

namespace AuthProvider

def authenticator (p : AuthProvider) (endpoint : Address) : Authenticator Unit :=
  match p with
  | credentials c => c.authenticator
  | nothing => noCredentials endpoint

def describe : AuthProvider → String
  | credentials c => c.describe
  | nothing => "NoAuthProvider"

def firstToken? (p : AuthProvider) (endpoint : Address) : Option Bytes :=
  match (p.authenticator endpoint).initial () with
  | (.ok token, _) => token
  | (.error _, _) => none

end AuthProvider

/-- Authenticator steps laid out in advance.  After its answers are used up it echoes challenges. -/
structure Rote where
  initial : Except AuthFailure (Option Bytes)
  answers : List (Except AuthFailure (Option Bytes))

def Rote.authenticator : Authenticator Rote where
  initial s := (s.initial, s)
  challenge s data :=
    match s.answers with
    | [] => (.ok (some data), s)
    | answer :: rest => (answer, { s with answers := rest })
  success s _ := (.ok (), s)

end CqlDispatch
