import LspClient.Client

/-!
# Managers of child processes

A supervisor is a manager together with the clients that run its sessions' servers as child processes. What a
client does is worked out when the manager starts or stops it. Servers of failed starts are dead, which shows on
their own channels when a later client waits for its server.
-/

namespace LspClient

open Child (Program LaunchError)

structure Supervisor where
  manager : Manager
  /-- The client that was made last. -/
  client : Option Client := none
  /-- Clients with abandoned servers, and the channels that they trace to. -/
  failed : List (Nat × Client) := []

namespace Supervisor

/-- The session that the next activation builds, if it comes to that. -/
def nextSession? (s : Supervisor) (h : Host) : Option Session :=
  if s.manager.state = .running then none
  else
    match s.manager.serverCommand h with
    | .ok command => some (s.manager.makeSession h command)
    | .error _ => none

def launched (s : Supervisor) : List Executable :=
  (s.client.map Client.launched).getD []

def lastEffects (s : Supervisor) : List Effect :=
  s.failed.flatMap fun f => f.2.lastLines.map (.traced f.1)

/-- Starts a session with the client that `client` makes for it. -/
def activate (s : Supervisor) (patience : Nat) (h : Host) (client : Session → Client)
    (launch : Executable → Except LaunchError Program) : Supervisor × Activation × List Effect :=
  match s.nextSession? h with
  | none =>
    let (m, result, effects) := s.manager.activate h {}
    ({ s with manager := m }, result, effects)
  | some session =>
    let made := client session
    let (c, outcome) := made.start patience launch
    let (m, result, effects) := s.manager.activate h ⟨c.trace, outcome⟩
    let failed := if c.abandoned.isEmpty then [] else [(s.manager.channels, c)]
    if made.waits launch then (⟨m, some c, failed⟩, result, s.lastEffects ++ effects)
    else (⟨m, some c, s.failed ++ failed⟩, result, effects)

/-- Waits for something else than the client's server, which goes on meanwhile. -/
def rest (s : Supervisor) (patience : Nat) : Supervisor × List Effect :=
  match s.client with
  | none => (s, [])
  | some c =>
    let rested := c.rest patience
    ({ s with client := some rested }, s.manager.traceLines (rested.trace.drop c.trace.length))

def deactivate (s : Supervisor) (patience : Nat) : Supervisor × Deactivation × List Effect :=
  match s.manager.session, s.client with
  | some _, some c =>
    let (after, outcome) := c.stop patience
    let (m, result, effects) := s.manager.deactivate ⟨after.trace.drop c.trace.length, outcome⟩
    let failed := if after.abandoned.isEmpty then [] else [(s.manager.channels - 1, after)]
    (⟨m, some after, s.failed ++ failed⟩, result, effects)
  | _, _ =>
    let (m, result, effects) := s.manager.deactivate {}
    ({ s with manager := m }, result, effects)

end Supervisor

end LspClient
