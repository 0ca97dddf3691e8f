import LspClient.Failure
import LspClient.Host
import LspClient.Session

/-!
# The session manager

The manager owns at most one session. Activating makes a trace channel and a client and waits for the client
to start; deactivating waits for it to stop. A call can also be dropped while it waits. Every call gives the
new manager, its result, and the effects that it had in their order.
-/

namespace LspClient

/-- How waiting for a client ends. -/
inductive Outcome where
  | done
  | failed (e : Failure)
  /-- The caller stopped waiting. -/
  | dropped
deriving DecidableEq, Repr

/-- What a client does while it starts or stops: the lines it traces, and how that ends. -/
structure Attempt where
  lines : List String := []
  outcome : Outcome := .done
deriving DecidableEq, Repr

/-- What happens around a manager. Channels and clients are numbered in the order they are made. -/
inductive Effect where
  | openedChannel (channel : Nat) (name : String)
  | traced (channel : Nat) (line : String)
  | created (client : Nat) (executable : Executable)
  | started (client : Nat)
  | stopped (client : Nat)
  | discarded (client : Nat)
deriving DecidableEq, Repr

inductive ActivationError where
  | unsupportedPlatform (e : Platform.Unsupported)
  | alreadyActive (state : SessionState)
  | launch (e : Failure)
deriving DecidableEq, Repr

namespace ActivationError

def failure : ActivationError → Failure
  | .unsupportedPlatform e => ⟨e.message, []⟩
  | .alreadyActive state => ⟨"client session is already " ++ state.name, []⟩
  | .launch e => e

end ActivationError

inductive Activation where
  | active
  | failed (e : ActivationError)
  | dropped
deriving DecidableEq, Repr

inductive Deactivation where
  | notStarted
  | stopped
  | failed (e : Failure)
  | dropped
deriving DecidableEq, Repr

structure LiveSession where
  session : Session
  client : Nat
deriving DecidableEq, Repr

structure Manager where
  settings : Settings := {}
  identity : Identity := Identity.default
  state : SessionState := SessionState.default
  session : Option LiveSession := none
  /-- The channel of the latest activation. -/
  channel : Option (Nat × String) := none
  /-- How many channels and clients were made. -/
  channels : Nat := 0
  clients : Nat := 0
deriving Repr

namespace Manager

/-- The command that an activation launches: the one in the environment unless it is blank, else the
configured one, else the shipped server. -/
def serverCommand (m : Manager) (h : Host) : Except Platform.Unsupported ServerLocation :=
  let named := (h.text? commandVariable).filter fun command => !Text.isBlank command.toList
  ServerLocation.resolve h.platform (named.or m.settings.serverPath) h.root

/-- Lets go of a session that an earlier activation left behind when it was dropped. -/
def discardLeftover (m : Manager) : Manager × List Effect :=
  match m.state with
  | .starting =>
    ({ m with session := none, state := .uninitialized },
      match m.session with
      | some live => [.discarded live.client]
      | none => [])
  | _ => (m, [])

def openChannel (m : Manager) : Manager × List Effect :=
  ({ m with channel := some (m.channels, traceChannelName), channels := m.channels + 1 },
    [.openedChannel m.channels traceChannelName])

def makeSession (m : Manager) (h : Host) (command : ServerLocation) : Session where
  identity := m.identity
  transport := Transport.make command h.environment m.settings.logLevel
  protocol :=
    { selector := DocumentSelector.localFiles languageId
      channel := traceChannelName
      traceLevel := m.settings.traceLevel
      workspace := h.workspace }
  mode := m.settings.mode

/-- Starts the client of a new session, where `channel` is the channel of this activation. -/
def launch (m : Manager) (channel : Nat) (session : Session) (attempt : Attempt) :
    Manager × Activation × List Effect :=
  let client := m.clients
  let m := { m with clients := client + 1, state := .starting, session := some ⟨session, client⟩ }
  let effects : List Effect :=
    [.created client session.executable, .started client] ++ attempt.lines.map (.traced channel)
  match attempt.outcome with
  | .done => ({ m with state := .running }, .active, effects)
  | .dropped => (m, .dropped, effects)
  | .failed e =>
    ({ m with state := .uninitialized, session := none }, .failed (.launch e),
      effects ++ [.traced channel ("Starting client failed: " ++ e.full), .discarded client])

/-- Starts a session; `attempt` is what its client does, if it comes to that. -/
def activate (m : Manager) (h : Host) (attempt : Attempt) : Manager × Activation × List Effect :=
  if m.state = .running then (m, .failed (.alreadyActive m.state), [])
  else
    let (m, discarded) := m.discardLeftover
    let channel := m.channels
    let (m, opened) := m.openChannel
    match m.serverCommand h with
    | .error e =>
      (m, .failed (.unsupportedPlatform e),
        discarded ++ opened ++ [.traced channel ("Cannot start " ++ m.identity.name ++ ": " ++ e.message)])
    | .ok command =>
      let (m, result, effects) := m.launch channel (m.makeSession h command) attempt
      (m, result, discarded ++ opened ++ effects)

/-- Lines on the channel of the latest activation. -/
def traceLines (m : Manager) (lines : List String) : List Effect :=
  match m.channel with
  | some (channel, _) => lines.map (.traced channel)
  | none => []

/-- Stops the session if there is one; `attempt` is what its client does to stop. -/
def deactivate (m : Manager) (attempt : Attempt) : Manager × Deactivation × List Effect :=
  match m.session with
  | none => (m, .notStarted, [])
  | some live =>
    let effects : List Effect :=
      [.stopped live.client] ++ m.traceLines attempt.lines ++ [.discarded live.client]
    let m := { m with session := none }
    match attempt.outcome with
    | .done => ({ m with state := .stopped }, .stopped, effects)
    | .failed e => ({ m with state := .stopped }, .failed e, effects)
    | .dropped => (m, .dropped, effects)

end Manager

namespace Effect

/-- The lines of each channel in the order the channels were made. -/
def channelLines (effects : List Effect) : List (List String) :=
  effects.foldl
    (fun channels effect =>
      match effect with
      | .openedChannel _ _ => channels ++ [[]]
      | .traced channel line => channels.modify channel fun lines => lines ++ [line]
      | _ => channels)
    []

/-- The invocation that the latest client was made for. -/
def lastExecutable? (effects : List Effect) : Option Executable :=
  effects.reverse.findSome? fun
    | .created _ executable => some executable
    | _ => none

def isCreated : Effect → Bool
  | .created _ _ => true
  | _ => false

def isStarted : Effect → Bool
  | .started _ => true
  | _ => false

def isStopped : Effect → Bool
  | .stopped _ => true
  | _ => false

def isDiscarded : Effect → Bool
  | .discarded _ => true
  | _ => false

end Effect

end LspClient
