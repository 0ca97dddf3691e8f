import LspClient.Connection.Basic

/-!
# The actors of a connection

One step of each actor, or `none` where it can only wait.
-/

namespace LspClient.Connection

/-! ## The reader -/

/-- Sends a reply through the channel: at once, later if the channel is full, or not at all if the writer has
stopped. -/
def sendReply (c : Connection) (reply : Json) : Connection :=
  { c with
    reader := if c.mustWait then .replying reply else .reading
    channel := c.offer (.send reply) }

/-- Lines that a notification of the server puts into the trace. -/
def notificationLines (method : String) (params : Option Json) : List String :=
  if method = "window/logMessage" ∨ method = "window/showMessage" then
    match params.bind LogMessage.ofJson? with
    | some m => [m.line]
    | none => []
  else if method = "$/logTrace" then
    match (params.bind fun p => p.get? "message").bind Json.str? with
    | some line => [line]
    | none => []
  else []

def dispatch (c : Connection) (message : Json) : Connection :=
  let c := c.addEntry .receive message
  match Incoming.classify message with
  | some (.response id body) => c.deliver id body
  | some (.request id method) => c.sendReply (Message.methodNotFound id method)
  | some (.notification method params) => { c with trace := c.trace ++ notificationLines method params }
  | none => c

def endReading (c : Connection) (line : String) : Connection :=
  { (c.addLine line).closePending with reader := .ended }

def readerStep (c : Connection) : Option Connection :=
  match c.reader with
  | .ended => none
  | .replying reply => if c.mustWait then none else some (c.sendReply reply)
  | .reading =>
    match Frame.readFrom c.inboxEnded c.inbox with
    | none => none
    | some (.message v, rest) => some ({ c with inbox := rest }.dispatch v)
    | some (.ended, rest) => some ({ c with inbox := rest }.endReading "Connection to server closed.")
    | some (.failed e, rest) =>
      some ({ c with inbox := rest }.endReading ("Connection to server failed: " ++ e.message))

/-! ## The writer -/

/-- Hands over what passes of a frame. The writer goes on with what is left, or stops if the stream has failed. -/
def transmit (c : Connection) (bytes : Bytes) : Connection :=
  match c.target.put bytes with
  | (target, .ok rest) => { c with target := target, writer := if rest = [] then .writing else .sending rest }
  | (target, .error e) =>
    { (c.addLine ("Failed to write to server: " ++ (FrameError.stream e).message)).closePending with
      target := target
      writer := .stopped }

def writerStep (c : Connection) : Option Connection :=
  match c.writer with
  | .stopped => none
  | .sending rest => if c.target.window = some 0 then none else some (c.transmit rest)
  | .writing =>
    match c.channel.next? with
    | none => none
    | some .shutdown => some { c with channel := c.channel.take, writer := .stopped }
    | some (.send frame) =>
      some { { c with channel := c.channel.take }.addEntry .send frame with
        writer := .sending (Frame.encode frame) }

/-! ## The owner's call -/

/-- The error that a body with an error member stands for. -/
def refusal (method : String) (error : Json) : CallError :=
  .refused method (((error.get? "message").bind Json.str?).getD "unknown error")
    ((error.get? "code").bind Json.int64?)

def settle (method : String) (body : Json) : Except CallError Answer :=
  match body.get? "error" with
  | some error => .error (refusal method error)
  | none => .ok (.value ((body.get? "result").getD .null))

namespace Goal

def method : Goal → String
  | .request method _ _ => method
  | .notify method _ => method
  | .handshake _ => "initialize"
  | .shutdown _ => "shutdown"

def params : Goal → Option Json
  | .request _ params _ => params
  | .notify _ params => params
  | .handshake params => some params
  | .shutdown _ => none

def timeout : Goal → Option Nat
  | .request _ _ timeout => timeout
  | .shutdown timeout => some timeout
  | _ => none

def frame (id : Nat) (goal : Goal) : Json :=
  Message.request id (Goal.method goal) (Goal.params goal)

/-- The notification that a call sends, on its own or after its request. -/
def notification : Goal → Json
  | .handshake _ => Message.notification "initialized" (some (.obj []))
  | .shutdown _ => Message.notification "exit" none
  | goal => Message.notification (Goal.method goal) (Goal.params goal)

/-- A failure as the caller sees it: a failed handshake says so first. -/
def failure (goal : Goal) (e : CallError) : Failure :=
  match goal with
  | .handshake _ => (Failure.mk e.message []).within "initialize handshake failed"
  | _ => ⟨e.message, []⟩

/-- Whether a call has something to say when its request is settled. -/
def goesOn : Goal → Except CallError Answer → Bool
  | .shutdown _, _ => true
  | .handshake _, .ok _ => true
  | _, _ => false

/-- Whether a call ends the writer. -/
def isShutdown : Goal → Bool
  | .shutdown _ => true
  | _ => false

/-- What a call returns when its notification was sent or refused. -/
def result (goal : Goal) (settled sent : Except CallError Answer) : Except Failure Answer :=
  match goal, sent with
  | .handshake _, .ok _ => settled.mapError (Goal.failure goal)
  | _, .ok _ => .ok .done
  | _, .error e => .error ⟨e.message, []⟩

end Goal

def shutdownResult : Except CallError Answer → Except CallError Answer → Except CallError Answer
  | .error e, _ => .error e
  | .ok _, .error e => .error e
  | .ok _, .ok _ => .ok .done

def afterRequest (c : Connection) (call : Call) (id : Option Nat)
    (settled : Except CallError Answer) : Connection :=
  let goesOn := Goal.goesOn call.goal settled
  { c with
    call := if goesOn then some { call with stage := .notifying settled } else none
    returned := c.returned ++
      if goesOn then [] else [⟨call.goal, id, settled.mapError (Goal.failure call.goal)⟩] }

def afterNotification (c : Connection) (call : Call) (settled sent : Except CallError Answer) : Connection :=
  let closes := Goal.isShutdown call.goal
  { c with
    call := if closes then some { call with stage := .closing (shutdownResult settled sent) } else none
    returned := c.returned ++ if closes then [] else [⟨call.goal, none, Goal.result call.goal settled sent⟩] }

def callStep (c : Connection) : Option Connection :=
  match c.call with
  | none => none
  | some call =>
    match call.stage with
    | .sending id =>
      if !c.accepts then
        some ((c.forget id).afterRequest call (some id) (.error (.closed c.name)))
      else if c.channel.isFull then none
      else
        some { c with
          channel := c.channel.push (.send (Goal.frame id call.goal))
          call := some { call with
            stage := .waiting id ((Goal.timeout call.goal).map fun limit => c.now + limit) } }
    | .waiting id deadline =>
      match call.slot with
      | .answered body => some (c.afterRequest call (some id) (settle (Goal.method call.goal) body))
      | .lost =>
        some (c.afterRequest call (some id) (.error (.hungUp c.name (Goal.method call.goal))))
      | .empty =>
        match deadline, Goal.timeout call.goal with
        | some t, some limit =>
          if t ≤ c.now then some { c with call := some { call with stage := .expired id limit } } else none
        | _, _ => none
    | .expired id limit =>
      -- An answer that comes now finds the request registered, but nobody waits for it any more.
      some ((c.forget id).afterRequest call (some id) (.error (.timedOut (Goal.method call.goal) limit)))
    | .notifying settled =>
      if !c.accepts then some (c.afterNotification call settled (.error (.closed c.name)))
      else if c.channel.isFull then none
      else
        some ({ c with channel := c.channel.push (.send (Goal.notification call.goal)) }.afterNotification
          call settled (.ok .done))
    | .closing settled =>
      if !c.accepts then some { c with call := some { call with stage := .joining settled } }
      else if c.channel.isFull then none
      else
        some { c with
          channel := c.channel.push .shutdown
          call := some { call with stage := .joining settled } }
    | .joining settled =>
      if c.accepts then none
      else
        some { c with
          reader := .ended
          usedUp := true
          call := none
          returned := c.returned ++ [⟨call.goal, none, settled.mapError (Goal.failure call.goal)⟩] }

end LspClient.Connection
