import LspClient.Proofs.RequestHistory

/-!
# What leaves a connection

The commands in the channel, the bytes written and the lines traced are the outgoing side of a connection. Here it
is said once what each event does to it: which command the event puts into the channel and which lines it adds to
the trace. Only the writer takes commands and writes bytes.

Lines are kept by what they tell, so that an entry for a message is known from a line of the server's own.
-/

namespace LspClient

def Channel.pushAll (c : Channel) (commands : List Command) : Channel :=
  { c with accepted := c.accepted ++ commands }

@[simp] theorem Channel.pushAll_nil (c : Channel) : c.pushAll [] = c := by
  simp [Channel.pushAll]

theorem Channel.pushAll_singleton (c : Channel) (command : Command) : c.pushAll [command] = c.push command := rfl

/-- A line of a trace by what it tells. -/
inductive Tracing where
  | entry (direction : Trace.Direction) (message : Json)
  | line (text : String)

namespace Tracing

def shown? (clock : String) (level : TraceLevel) : Tracing → Option String
  | .entry direction message => Trace.entry clock direction message level
  | .line text => some text

/-- The message that an entry says was sent. -/
def sent? : Tracing → Option Json
  | .entry .send message => some message
  | _ => none

end Tracing

namespace Connection

structure Outgoing where
  channel : Channel
  writer : WriterState
  target : Target
  trace : List String
  level : TraceLevel
  clock : String

namespace Outgoing

def add (o : Outgoing) (commands : List Command) (lines : List Tracing) : Outgoing :=
  { o with
    channel := o.channel.pushAll commands
    trace := o.trace ++ lines.filterMap (Tracing.shown? o.clock o.level) }

@[simp] theorem add_nil (o : Outgoing) : o.add [] [] = o := by
  simp [add]

theorem add_add (o : Outgoing) (xs ys : List Command) (ks ls : List Tracing) :
    (o.add xs ks).add ys ls = o.add (xs ++ ys) (ks ++ ls) := by
  simp [add, Channel.pushAll]

end Outgoing

def outgoing (c : Connection) : Outgoing :=
  ⟨c.channel, c.writer, c.target, c.trace, c.level, c.clock⟩

/-- A command goes into the channel if the channel takes it. -/
def entering (c : Connection) : Option Command → List Command
  | none => []
  | some command => if c.accepts && !c.channel.isFull then [command] else []

theorem writer_of_stopped {c : Connection} (h : c.accepts = false) : c.writer = .stopped := by
  simpa [accepts] using h

theorem entering_of_stopped {c : Connection} (h : c.accepts = false) (command : Option Command) :
    c.entering command = [] := by
  cases command <;> simp [entering, h]

theorem entering_of_full {c : Connection} (h : c.channel.isFull = true) (command : Option Command) :
    c.entering command = [] := by
  cases command <;> simp [entering, h]

theorem entering_of_room {c : Connection} (ha : c.accepts = true) (hf : c.channel.isFull = false)
    (command : Option Command) : c.entering command = command.toList := by
  cases command <;> simp [entering, ha, hf]

def replyTo? (message : Json) : Option Json :=
  match Incoming.classify message with
  | some (.request id method) => some (Message.methodNotFound id method)
  | _ => none

/-- The lines of its own that a message from the server puts into the trace. -/
def serverLines (message : Json) : List String :=
  match Incoming.classify message with
  | some (.notification method params) => notificationLines method params
  | _ => []

/-- The reply that the reader sends if it goes on now. -/
def reply? (c : Connection) : Option Json :=
  match c.reader, Frame.readFrom c.inboxEnded c.inbox with
  | .replying reply, _ => some reply
  | .reading, some (.message v, _) => replyTo? v
  | _, _ => none

/-- The command that a call sends if it goes on now. -/
def offered (goal : Goal) : Stage → Option Command
  | .sending id => some (.send (Goal.frame id goal))
  | .notifying _ => some (.send (Goal.notification goal))
  | .closing _ => some .shutdown
  | _ => none

def offer? (c : Connection) : Option Command :=
  c.call.bind fun call => offered call.goal call.stage

/-- What an event has to send. -/
def toSend (c : Connection) : Event → Option Command
  | .reader => c.reply?.map .send
  | .call => c.offer?
  | _ => none

def queued (c : Connection) (e : Event) : List Command :=
  c.seen e (c.entering (c.toSend e))

theorem queued_of_toSend {c : Connection} {e : Event} (h : c.toSend e = none) : c.queued e = [] := by
  rw [queued, h, entering, seen_nil]

/-- What an event has to trace. -/
def lines (c : Connection) : Event → List Tracing
  | .reader =>
    match c.reader, Frame.readFrom c.inboxEnded c.inbox with
    | .reading, some (.message v, _) => .entry .receive v :: (serverLines v).map .line
    | .reading, some (.ended, _) => [.line "Connection to server closed."]
    | .reading, some (.failed e, _) => [.line ("Connection to server failed: " ++ e.message)]
    | _, _ => []
  | .writer =>
    match c.writer, c.channel.next? with
    | .writing, some (.send frame) => [.entry .send frame]
    | .sending bytes, _ =>
      match (c.target.put bytes).2 with
      | .ok _ => []
      | .error e => [.line ("Failed to write to server: " ++ (FrameError.stream e).message)]
    | _, _ => []
  | _ => []

def traced (c : Connection) (e : Event) : List Tracing :=
  c.seen e (c.lines e)

section Adding
variable (c : Connection)

theorem outgoing_addLines (lines : List String) :
    ({ c with trace := c.trace ++ lines }).outgoing = c.outgoing.add [] (lines.map .line) := by
  simp [outgoing, Outgoing.add, List.filterMap_map, Function.comp_def, Tracing.shown?]

theorem outgoing_addEntry (direction : Trace.Direction) (message : Json) :
    (c.addEntry direction message).outgoing = c.outgoing.add [] [.entry direction message] := by
  cases h : Trace.entry c.clock direction message c.level <;>
    simp [outgoing, addEntry, Outgoing.add, Tracing.shown?, h]

theorem outgoing_push (command : Command) :
    ({ c with channel := c.channel.push command }).outgoing = c.outgoing.add [command] [] := by
  simp [outgoing, Outgoing.add, Channel.pushAll_singleton]

theorem offer_eq (command : Command) : c.offer command = c.channel.pushAll (c.entering (some command)) := by
  unfold offer entering
  split
  · rfl
  · exact (Channel.pushAll_nil _).symm

theorem outgoing_sendReply (reply : Json) :
    (c.sendReply reply).outgoing = c.outgoing.add (c.entering (some (.send reply))) [] := by
  simp [outgoing, sendReply, offer_eq, Outgoing.add]

theorem outgoing_dispatch (message : Json) :
    (c.dispatch message).outgoing =
      c.outgoing.add (c.entering ((replyTo? message).map .send))
        (.entry .receive message :: (serverLines message).map .line) := by
  have hentry := outgoing_addEntry c .receive message
  unfold dispatch replyTo? serverLines
  cases Incoming.classify message with
  | none => exact hentry
  | some incoming =>
    cases incoming with
    | response id body => exact hentry
    | request id method =>
      dsimp only
      rw [outgoing_sendReply, hentry, Outgoing.add_add]
      rfl
    | notification method params =>
      dsimp only
      rw [outgoing_addLines, hentry, Outgoing.add_add]
      rfl

end Adding

/-- All that one event can do to the outgoing side, with the commands that it queues and the lines that it traces. -/
inductive Move (o : Outgoing) : List Command → List Tracing → Outgoing → Prop where
  | adds (commands : List Command) (lines : List Tracing) (h : lines.filterMap Tracing.sent? = []) :
      Move o commands lines (o.add commands lines)
  | breaks (failure : StreamError) : Move o [] [] { o with target := o.target.close failure }
  | drains (n : Nat) : Move o [] [] { o with target := o.target.drain n }
  | takes (frame : Json) (hwriter : o.writer = .writing) (hnext : o.channel.next? = some (.send frame)) :
      Move o [] [.entry .send frame]
        { o.add [] [.entry .send frame] with channel := o.channel.take, writer := .sending (Frame.encode frame) }
  | passes (bytes rest : Bytes) (target : Target) (hwriter : o.writer = .sending bytes)
      (hwindow : o.target.window ≠ some 0) (hput : o.target.put bytes = (target, .ok rest)) :
      Move o [] [] { o with target := target, writer := if rest = [] then .writing else .sending rest }
  | fails (bytes : Bytes) (target : Target) (e : StreamError) (hwriter : o.writer = .sending bytes)
      (hwindow : o.target.window ≠ some 0) (hput : o.target.put bytes = (target, .error e)) :
      Move o [] [.line ("Failed to write to server: " ++ (FrameError.stream e).message)]
        { o.add [] [.line ("Failed to write to server: " ++ (FrameError.stream e).message)] with
          target := target, writer := .stopped }
  | ends (hwriter : o.writer = .writing) (hnext : o.channel.next? = some .shutdown) :
      Move o [] [] { o with channel := o.channel.take, writer := .stopped }

theorem Move.idle (o : Outgoing) : Move o [] [] o := by
  have h := Move.adds (o := o) [] [] rfl
  rwa [Outgoing.add_nil] at h

theorem Move.of_eq {o o' : Outgoing} {commands : List Command} {lines : List Tracing}
    (h : o' = o.add commands lines) (hlines : lines.filterMap Tracing.sent? = []) : Move o commands lines o' :=
  h ▸ .adds commands lines hlines

/-- A writer that has stopped stays so, takes nothing and writes nothing. -/
theorem Move.of_stopped {o o' : Outgoing} {commands : List Command} {lines : List Tracing}
    (h : Move o commands lines o') (hw : o.writer = .stopped) :
    o'.writer = .stopped ∧ o'.channel.taken = o.channel.taken ∧ o'.target.taken = o.target.taken := by
  cases h with
  | adds commands lines h => exact ⟨hw, rfl, rfl⟩
  | breaks failure => exact ⟨hw, rfl, rfl⟩
  | drains n => exact ⟨hw, rfl, rfl⟩
  | takes frame hwriter hnext => exact absurd (hwriter.symm.trans hw) (by simp)
  | passes bytes rest target hwriter hwindow hput => exact absurd (hwriter.symm.trans hw) (by simp)
  | fails bytes target e hwriter hwindow hput => exact absurd (hwriter.symm.trans hw) (by simp)
  | ends hwriter hnext => exact absurd (hwriter.symm.trans hw) (by simp)

theorem dispatch_move {c : Connection} {v : Json} {rest : Bytes} (hreader : c.reader = .reading)
    (hread : Frame.readFrom c.inboxEnded c.inbox = some (.message v, rest)) :
    Move c.outgoing (c.entering (c.toSend .reader)) (c.lines .reader)
      ({ c with inbox := rest }.dispatch v).outgoing := by
  have hsend : c.toSend .reader = (replyTo? v).map .send := by simp only [toSend, reply?, hreader, hread]
  have hlines : c.lines .reader = .entry .receive v :: (serverLines v).map .line := by simp only [lines, hreader, hread]
  rw [hsend, hlines]
  exact .of_eq (outgoing_dispatch { c with inbox := rest } v) (by simp [Tracing.sent?])

/-- Nothing else ever happens to the outgoing side. -/
theorem Step.move {c c' : Connection} {e : Event} (h : Step c e c') :
    Move c.outgoing (c.entering (c.toSend e)) (c.lines e) c'.outgoing := by
  have hsilent : ∀ {c' : Connection}, c'.outgoing = c.outgoing → c.entering (c.toSend .call) = [] →
      Move c.outgoing (c.entering (c.toSend .call)) (c.lines .call) c'.outgoing := by
    intro c' hsame hnone
    rw [hsame, hnone]
    exact .idle _
  have hpush : ∀ {c' : Connection} {command : Command}, c.offer? = some command → c.accepts = true →
      c.channel.isFull = false → c'.outgoing = c.outgoing.add [command] [] →
      Move c.outgoing (c.entering (c.toSend .call)) (c.lines .call) c'.outgoing := by
    intro c' command hoffer ha hf hpushed
    rw [toSend, hoffer, entering_of_room ha hf]
    exact .of_eq hpushed rfl
  cases h with
  | closeOutput failure => exact .breaks failure
  | drain n => exact .drains n
  | reply reply hreader hroom =>
    have hsend : c.toSend .reader = some (.send reply) := by simp [toSend, reply?, hreader]
    have hlines : c.lines .reader = [] := by simp [lines, hreader]
    rw [hsend, hlines]
    exact .of_eq (outgoing_sendReply c reply) rfl
  | response v rest id body hreader hread hclass =>
    have hmove := dispatch_move hreader hread
    simpa only [dispatch, hclass] using hmove
  | request v rest id method hreader hread hclass =>
    have hmove := dispatch_move hreader hread
    simpa only [dispatch, hclass] using hmove
  | notification v rest method params hreader hread hclass =>
    have hmove := dispatch_move hreader hread
    simpa only [dispatch, hclass] using hmove
  | noise v rest hreader hread hclass =>
    have hmove := dispatch_move hreader hread
    simpa only [dispatch, hclass] using hmove
  | finish rest hreader hread =>
    simp only [toSend, reply?, lines, hreader, hread]
    exact .of_eq (outgoing_addLines c ["Connection to server closed."]) rfl
  | giveUp e rest hreader hread =>
    simp only [toSend, reply?, lines, hreader, hread]
    exact .of_eq (outgoing_addLines c ["Connection to server failed: " ++ e.message]) rfl
  | take frame hwriter hnext =>
    have hlines : c.lines .writer = [.entry .send frame] := by simp only [lines, hwriter, hnext]
    have hentry := outgoing_addEntry { c with channel := c.channel.take } .send frame
    rw [hlines]
    have htaken : ({ { c with channel := c.channel.take }.addEntry .send frame with
        writer := .sending (Frame.encode frame) } : Connection).outgoing =
        { c.outgoing.add [] [.entry .send frame] with
          channel := c.channel.take, writer := .sending (Frame.encode frame) } := by
      refine (congrArg (fun o : Outgoing => { o with writer := .sending (Frame.encode frame) }) hentry).trans ?_
      simp [outgoing, Outgoing.add]
    rw [htaken]
    exact .takes (o := c.outgoing) frame hwriter hnext
  | pass bytes rest target hwriter hwindow hput =>
    have hlines : c.lines .writer = [] := by simp only [lines, hwriter, hput]
    rw [hlines]
    exact .passes (o := c.outgoing) bytes rest target hwriter hwindow hput
  | breakOff bytes target e hwriter hwindow hput =>
    have hlines : c.lines .writer = [.line ("Failed to write to server: " ++ (FrameError.stream e).message)] := by
      simp only [lines, hwriter, hput]
    have hline := outgoing_addLines c ["Failed to write to server: " ++ (FrameError.stream e).message]
    rw [hlines]
    have hfailed := Move.fails (o := c.outgoing) bytes target e hwriter hwindow hput
    rwa [← List.map_singleton (f := Tracing.line), ← hline] at hfailed
  | stop hwriter hnext =>
    have hlines : c.lines .writer = [] := by simp only [lines, hwriter, hnext]
    rw [hlines]
    exact .ends (o := c.outgoing) hwriter hnext
  | ask goal id slot hcall haccepts hroom =>
    have hoffer : c.offer? = some (.send (Goal.frame id goal)) := by simp [offer?, hcall, offered]
    exact hpush hoffer haccepts hroom (outgoing_push c _)
  | say goal settled slot hcall haccepts hroom =>
    have hoffer : c.offer? = some (.send (Goal.notification goal)) := by simp [offer?, hcall, offered]
    exact hpush hoffer haccepts hroom (outgoing_push c _)
  | close goal settled slot hcall haccepts hroom =>
    have hoffer : c.offer? = some .shutdown := by simp [offer?, hcall, offered]
    exact hpush hoffer haccepts hroom (outgoing_push c _)
  | askNobody goal id slot hcall haccepts => exact hsilent rfl (entering_of_stopped haccepts _)
  | sayToNobody goal settled slot hcall haccepts => exact hsilent rfl (entering_of_stopped haccepts _)
  | closeNothing goal settled slot hcall haccepts => exact hsilent rfl (entering_of_stopped haccepts _)
  | join goal settled slot hcall haccepts => exact hsilent rfl (entering_of_stopped haccepts _)
  | settle goal id deadline body hcall => exact hsilent rfl (by simp [toSend, offer?, hcall, offered, entering])
  | hangUp goal id deadline hcall => exact hsilent rfl (by simp [toSend, offer?, hcall, offered, entering])
  | expire goal id t limit hcall hlimit ht => exact hsilent rfl (by simp [toSend, offer?, hcall, offered, entering])
  | abandon goal id limit slot hcall => exact hsilent rfl (by simp [toSend, offer?, hcall, offered, entering])
  | _ => exact .idle _

theorem react_move (c : Connection) (e : Event) :
    Move c.outgoing (c.queued e) (c.traced e) (c.react e).outgoing := by
  rcases react_cases c e with ⟨hnone, hstays⟩ | hstep
  · rw [hstays, queued, traced, seen_of_none hnone, seen_of_none hnone]
    exact .idle _
  · rw [queued, traced, hstep.seen_eq, hstep.seen_eq]
    exact hstep.move

inductive Sender where
  | owner
  | reader
deriving DecidableEq, Repr

def Event.sender : Event → Sender
  | .reader => .reader
  | _ => .owner

/-- The commands that a run queues, each with its sender. -/
def queuings (c : Connection) : List Event → List (Sender × Command)
  | [] => []
  | e :: events => (c.queued e).map (fun command => (e.sender, command)) ++ (c.react e).queuings events

def tracings (c : Connection) : List Event → List Tracing
  | [] => []
  | e :: events => c.traced e ++ (c.react e).tracings events

theorem queuings_append (c : Connection) (xs ys : List Event) :
    c.queuings (xs ++ ys) = c.queuings xs ++ (c.follow xs).queuings ys := by
  induction xs generalizing c with
  | nil => rfl
  | cons e xs ih => simp [queuings, ih]

def commandsOf (sender : Sender) (queued : List (Sender × Command)) : List Command :=
  queued.filterMap fun entry => if entry.1 = sender then some entry.2 else none

theorem mem_commandsOf {sender : Sender} {command : Command} {queued : List (Sender × Command)}
    (h : (sender, command) ∈ queued) : command ∈ commandsOf sender queued :=
  List.mem_filterMap.2 ⟨_, h, if_pos rfl⟩

theorem commandsOf_append (sender : Sender) (xs ys : List (Sender × Command)) :
    commandsOf sender (xs ++ ys) = commandsOf sender xs ++ commandsOf sender ys :=
  List.filterMap_append

theorem commandsOf_cons (sender by_ : Sender) (command : Command) (queued : List (Sender × Command)) :
    commandsOf sender ((by_, command) :: queued) =
      (if by_ = sender then [command] else []) ++ commandsOf sender queued := by
  rw [commandsOf, List.filterMap_cons]
  by_cases h : by_ = sender <;> simp [commandsOf, h]

theorem commandsOf_map (sender by_ : Sender) (commands : List Command) :
    commandsOf sender (commands.map fun command => (by_, command)) = if by_ = sender then commands else [] := by
  rw [commandsOf, List.filterMap_map]
  by_cases h : by_ = sender
  · rw [if_pos h]
    exact (congrArg (List.filterMap · commands) (funext fun _ => if_pos h)).trans List.filterMap_some
  · rw [if_neg h, List.filterMap_eq_nil_iff]
    exact fun _ _ => if_neg h

/-- What every move keeps, with what it queues and traces, holds after every run. -/
theorem follow_outgoing {P : Outgoing → List (Sender × Command) → List Tracing → Prop}
    (step : ∀ {o o' : Outgoing} {queued : List (Sender × Command)} {lines new : List Tracing}
      {commands : List Command} (sender : Sender), P o queued lines → Move o commands new o' →
        P o' (queued ++ commands.map fun command => (sender, command)) (lines ++ new))
    (events : List Event) {c : Connection} (queued : List (Sender × Command)) (lines : List Tracing)
    (h : P c.outgoing queued lines) :
    P (c.follow events).outgoing (queued ++ c.queuings events) (lines ++ c.tracings events) := by
  induction events generalizing c queued lines with
  | nil => simpa [queuings, tracings] using h
  | cons e events ih =>
    rw [follow_cons, queuings, tracings, ← List.append_assoc, ← List.append_assoc]
    exact ih _ _ (step e.sender h (react_move c e))

theorem Move.accepted_eq {o o' : Outgoing} {commands : List Command} {lines : List Tracing}
    (h : Move o commands lines o') : o'.channel.accepted = o.channel.accepted ++ commands := by
  cases h with
  | adds commands lines hlines => rfl
  | fails bytes target e hwriter hwindow hput => rfl
  | _ => exact (List.append_nil _).symm

theorem accepted_follow (c : Connection) (events : List Event) :
    (c.follow events).channel.accepted = c.channel.accepted ++ (c.queuings events).map Prod.snd := by
  refine follow_outgoing (P := fun o queued _ => o.channel.accepted = c.channel.accepted ++ queued.map Prod.snd) ?_
    events [] [] (List.append_nil _).symm
  intro o o' queued lines new commands sender haccepted hmove
  rw [hmove.accepted_eq, haccepted, List.map_append, List.append_assoc, List.map_map, Function.comp_def, List.map_id']

end Connection

end LspClient
