import CqlDispatch.Description.Host
import CqlDispatch.Description.Options
import CqlDispatch.Rehearsal
/-!
# Rehearsals in JSON

Scripts are described by address, each line by its delay and its failure and with the number of
times it occurs.  Scenes are described by the name of what the caller does and its particulars.
-/
namespace CqlDispatch

namespace Json

open Reading Rehearsal

def asLines (j : Json) : Reading (List Line) := do
  let line : Line :=
    { delay := (← j.allow "delay" asNat).getD 0
      failure := ← j.allow "error" asFailure
      empty := ← j.flag "empty" }
  pure (List.replicate ((← j.allow "times" asNat).getD 1) line)

def script (j : Json) (name : String) : Reading Script := do
  let entries ← j.eachNamed name (asList asLines)
  entries.mapM fun (a, lines) => do pure ((← (string a).asAddress), lines.flatten)

def asScheduledReport (j : Json) : Reading (Nat × ConnectionEvent) := do
  pure ((← j.allow "at" asNat).getD 0, ← j.want "event" asConnectionEvent)

def asStatement (j : Json) : Reading Statement := do
  pure ⟨(← j.allow "query" asString).getD "SELECT 1", ← j.each "values" asValue⟩

def asRequestCall (j : Json) : Reading Call := do
  pure {
    statement := ← j.asStatement
    options := ← j.allow "options" asOptionsDraft
    cancellable := !(← j.flag "plain")
    cancelAt := ← j.allow "cancel_at" asNat
    during := ← j.each "during" asScheduledReport }

def asScene (j : Json) : Reading Scene := do
  let name := j.want "id" asString
  match ← j.want "s" asString with
  | "execute" => .execute <$> j.asRequestCall
  | "spawn" => pure (.spawn (← name) (← j.asRequestCall))
  | "join" => .join <$> name
  | "cancel" => .cancel <$> name
  | "sleep" => .sleep <$> j.want "ms" asNat
  | "event" => do
    let after ← j.allow "then" asConnectionEvent
    pure (.reports ((← j.want "event" asConnectionEvent) :: after.toList)
      ((← j.allow "repeat" asNat).getD 1))
  | "refresh" => pure .refresh
  | "add_host" => .addHost <$> j.want "host" asAddress
  | "rf" => pure (.setReplicationFactor (← j.want "keyspace" asString) (← j.want "rf" asNat))
  | "set" =>
    pure (.replaceScripts (← j.script "scripts") (← j.script "probes") (← j.allow "peers" asPeers))
  | "shutdown" => pure .shutdown
  | _ => malformed

end Json

end CqlDispatch
