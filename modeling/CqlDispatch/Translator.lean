import CqlDispatch.Host
import CqlDispatch.NameMap
/-!
# Translators of addresses

From the address that the cluster advertises for a host to the one this client connects to.  A
table is looked up by IP; an address that is not in it passes unchanged, unless the table is
strict.

A translator is asked once for every peer of a report.  One that somebody else supplies may answer
otherwise each time, so that what a report brings is `Translated` peers: with every peer the answer
that was given for it.
-/
namespace CqlDispatch

inductive Translator where
  | identity
  /-- The latest entry of an IP comes first. -/
  | table (entries : List (Ip × Address)) (strict : Bool)
  | custom (f : Address → Except Failure Address)

/-- A peer with what the translator answered for it. -/
structure Translated extends Peer where
  translation : Except Failure Address

namespace Translator

/-- Sets the entry of an IP. -/
def withEntry (entries : List (Ip × Address)) (ip : Ip) (a : Address) : List (Ip × Address) :=
  (ip, a) :: entries.filter (·.1 != ip)

def tableOf (entries : List (Ip × Address)) (strict : Bool) : Translator :=
  .table (entries.foldl (fun acc e => withEntry acc e.1 e.2) []) strict

def translate (t : Translator) (a : Address) : Except Failure Address :=
  match t with
  | identity => .ok a
  | table entries strict =>
    match entries.lookup a.ip with
    | some connect => .ok connect
    | none =>
      if strict then
        .error (.connection ("no address mapping for " ++ a.ip.text ++ ":" ++ Nat.repr a.port.toNat))
      else .ok a
  | custom f => f a

def answer (t : Translator) (p : Peer) : Translated :=
  { toPeer := p, translation := t.translate p.advertised }

/-- A report all of which is answered by one rule. -/
def answers (t : Translator) (peers : List Peer) : List Translated := peers.map t.answer

def options : Translator → NameMap String
  | table entries strict =>
    [("mappings", Nat.repr entries.length), ("strict", if strict then "true" else "false")]
  | _ => []

end Translator

end CqlDispatch
