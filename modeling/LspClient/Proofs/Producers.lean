import LspClient.Proofs.OwnerTurns

/-!
# Who fills the channel

Two actors put commands into the channel. The reader answers requests of the server, and its replies go out in the
order in which the requests came. The owner makes its calls one at a time, and each call sends its commands in a
fixed order; a call that fails or is dropped leaves the rest out.
-/

namespace LspClient.Connection

open scoped List

def Goal.ending : Goal → List Command
  | .shutdown _ => [.shutdown]
  | _ => []

/-- What a call sends when its request is settled. -/
def Goal.afterwards : Goal → List Command
  | .request _ _ _ => []
  | goal => .send (Goal.notification goal) :: Goal.ending goal

/-- All that a call sends if nothing keeps it from going on. -/
def Goal.commands (id : Nat) (goal : Goal) : List Command :=
  (if goal.makesRequest then [.send (Goal.frame id goal)] else []) ++ Goal.afterwards goal

/-- What a call has still to send. -/
def Goal.left (goal : Goal) : Stage → List Command
  | .sending id => .send (Goal.frame id goal) :: Goal.afterwards goal
  | .waiting _ _ => Goal.afterwards goal
  | .expired _ _ => Goal.afterwards goal
  | .notifying _ => .send (Goal.notification goal) :: Goal.ending goal
  | .closing _ => [.shutdown]
  | .joining _ => []

def Owner.left (o : Owner) : List Command :=
  match o.call with
  | some (goal, stage) => Goal.left goal stage
  | none => []

theorem Owner.settled_left (o : Owner) (goal : Goal) (id : Option Nat) (r : Except CallError Answer) :
    (o.settled goal id r).left <+ Goal.afterwards goal := by
  cases goal with
  | shutdown timeout => exact List.Sublist.refl _
  | handshake params =>
    cases r with
    | ok answer => exact List.Sublist.refl _
    | error e => exact List.nil_sublist _
  | request method params timeout => exact List.nil_sublist _
  | notify method params => exact List.nil_sublist _

theorem Owner.notified_left (o : Owner) (goal : Goal) (settled sent : Except CallError Answer) :
    (o.notified goal settled sent).left <+ Goal.ending goal := by
  cases goal with
  | shutdown timeout => exact List.Sublist.refl _
  | handshake params => cases sent <;> exact List.nil_sublist _
  | request method params timeout => cases sent <;> exact List.nil_sublist _
  | notify method params => cases sent <;> exact List.nil_sublist _

theorem CallTurn.left {c : Connection} {goal : Goal} {slot : Slot} {stage : Stage} {notes : List Note}
    {commands : List Command} {o : Owner} (h : CallTurn c goal slot stage notes commands o)
    (hleft : c.owner.left = Goal.left goal stage) :
    commands ++ o.left <+ Goal.left goal stage := by
  cases h with
  | waits => simp [hleft]
  | sends id h => exact List.Sublist.refl _
  | refused id h => exact (Owner.settled_left _ _ _ _).cons _
  | answered id deadline body h => exact Owner.settled_left _ _ _ _
  | hungUp id deadline h => exact Owner.settled_left _ _ _ _
  | expires id t limit h => exact List.Sublist.refl _
  | timedOut id limit => exact Owner.settled_left _ _ _ _
  | notifies settled h hroom => exact (Owner.notified_left _ _ _ _).cons_cons _
  | unheard settled h => exact (Owner.notified_left _ _ _ _).cons _
  | closes settled h => exact List.Sublist.refl _
  | unclosed settled h => exact List.nil_sublist _
  | returns settled h => exact List.nil_sublist _

theorem call_left (c : Connection) : c.queued .call ++ (c.react .call).owner.left <+ c.owner.left := by
  cases hc : c.call with
  | none =>
    rw [queued_call_of_none hc, react_call_of_none hc]
    exact List.Sublist.refl _
  | some call =>
    obtain ⟨goal, stage, slot⟩ := call
    have hleft : c.owner.left = Goal.left goal stage := by simp [Owner.left, owner, hc]
    rw [hleft]
    exact (call_turn hc).left hleft

/-- The call that an event begins, and the id that is next for a request then. -/
def begun (c : Connection) : Event → List (Nat × Goal)
  | .start goal => if (c.start goal).isOk then [(c.nextId, goal)] else []
  | _ => []

def calls (c : Connection) : List Event → List (Nat × Goal)
  | [] => []
  | e :: events => c.begun e ++ (c.react e).calls events

def script (calls : List (Nat × Goal)) : List Command :=
  calls.flatMap fun call => Goal.commands call.1 call.2

theorem script_append (xs ys : List (Nat × Goal)) : script (xs ++ ys) = script xs ++ script ys :=
  List.flatMap_append

theorem beginRequest_left {c : Connection} {goal : Goal} (hgoal : goal.makesRequest) :
    (c.beginRequest goal).owner.left <+ Goal.commands c.nextId goal := by
  rw [Goal.commands, if_pos hgoal, owner_beginRequest]
  split
  · exact List.Sublist.refl _
  · exact (Owner.settled_left _ _ _ _).cons _

theorem start_left (c : Connection) (goal : Goal) :
    ((c.start goal).toOption.getD c).owner.left <+ c.owner.left ++ script (c.begun (.start goal)) := by
  cases hc : c.call with
  | some call =>
    have hbusy : c.start goal = .error .busy := by simp [start, hc]
    simp [begun, script, hbusy, Except.toOption]
  | none =>
    cases hused : c.usedUp with
    | true =>
      have hgone : c.start goal = .error .gone := by simp [start, hc, hused]
      simp [begun, script, hgone, Except.toOption]
    | false =>
      refine List.Sublist.trans ?_ (List.sublist_append_right _ _)
      cases hgoal : goal.makesRequest with
      | true =>
        have hstart := start_request hgoal hc hused
        simpa [begun, script, hstart, Except.toOption, Except.isOk, Except.toBool]
          using beginRequest_left (c := c) hgoal
      | false =>
        cases goal with
        | notify method params =>
          simp [begun, script, start, hc, hused, Except.toOption, Except.isOk, Except.toBool, owner, Owner.left,
            Goal.left, Goal.commands, Goal.afterwards, hgoal]
        | _ => cases hgoal

theorem owner_silent {e : Event} (h : e.isForeign = true) (c : Connection) :
    (if e.sender = .owner then c.queued e else []) = [] := by
  cases e with
  | start goal => cases h
  | cancel => cases h
  | call => cases h
  | reader => rfl
  | _ => rw [queued_of_toSend rfl, ite_self]

/-- What the owner queues and has still to send with a call is part of what it had to send and of what the calls
begun then send. -/
theorem react_left (c : Connection) (e : Event) :
    (if e.sender = .owner then c.queued e else []) ++ (c.react e).owner.left <+
      c.owner.left ++ script (c.begun e) := by
  have hforeign : e.isForeign = true →
      (if e.sender = .owner then c.queued e else []) ++ (c.react e).owner.left <+
        c.owner.left ++ script (c.begun e) := by
    intro he
    rw [owner_silent he, react_owner he]
    exact List.sublist_append_left _ _
  cases e with
  | start goal =>
    rw [queued_of_toSend rfl, ite_self]
    exact start_left c goal
  | cancel =>
    rw [queued_of_toSend rfl, ite_self]
    exact List.nil_sublist _
  | call => exact (call_left c).trans (List.sublist_append_left _ _)
  | _ => exact hforeign rfl

/-- The commands that the owner queues are sent in the order of its calls, and of each call in its own order. -/
theorem owner_commands (events : List Event) {c : Connection} (queued : List (Sender × Command))
    (before : List (Nat × Goal)) (h : commandsOf .owner queued ++ c.owner.left <+ script before) :
    commandsOf .owner (queued ++ c.queuings events) ++ (c.follow events).owner.left <+
      script (before ++ c.calls events) := by
  induction events generalizing c queued before with
  | nil => simpa [queuings, calls] using h
  | cons e events ih =>
    rw [queuings, calls, ← List.append_assoc, ← List.append_assoc]
    apply ih
    rw [commandsOf_append, commandsOf_map, script_append, List.append_assoc]
    calc commandsOf .owner queued ++ ((if e.sender = .owner then c.queued e else []) ++ (c.react e).owner.left)
        <+ commandsOf .owner queued ++ (c.owner.left ++ script (c.begun e)) := (react_left c e).append_left _
      _ = (commandsOf .owner queued ++ c.owner.left) ++ script (c.begun e) := (List.append_assoc _ _ _).symm
      _ <+ script before ++ script (c.begun e) := h.append_right _

def waitingReply (c : Connection) : List Command :=
  match c.reader with
  | .replying reply => [.send reply]
  | _ => []

def Note.reply? : Note → Option Command
  | .dispatched message _ => (replyTo? message).map .send
  | _ => none

def replies (notes : List Note) : List Command :=
  notes.filterMap Note.reply?

/-- Only the end of the writer lets a call end the reader. -/
theorem Step.reader_eq {c c' : Connection} {e : Event} (h : Step c e c') (he : e.sender = .owner)
    (ha : c.accepts = true) : c'.reader = c.reader := by
  cases h with
  | join goal settled slot hcall haccepts => exact absurd (ha.symm.trans haccepts) (by simp)
  | reply => cases he
  | response => cases he
  | request => cases he
  | notification => cases he
  | noise => cases he
  | finish => cases he
  | giveUp => cases he
  | _ => rfl

theorem react_reader (c : Connection) {e : Event} (he : e.sender = .owner) (h : c.accepts = true) :
    (c.react e).reader = c.reader := by
  rcases react_cases c e with ⟨-, hstays⟩ | hstep
  · rw [hstays]
  · exact hstep.reader_eq he h

theorem replies_notes {e : Event} (he : e.sender = .owner) (c : Connection) : replies (c.notes e) = [] := by
  cases e with
  | start goal =>
    simp only [notes]
    split
    · split <;> rfl
    · rfl
  | cancel => cases h : c.requestId? <;> simp [notes, h, replies, Note.reply?]
  | writer =>
    simp only [notes]
    split
    · split <;> rfl
    · rfl
  | call =>
    simp only [notes]
    split
    · split <;> rfl
    all_goals rfl
  | reader => cases he
  | _ => rfl

theorem replies_observe {e : Event} (he : e.sender = .owner) (c : Connection) : replies (c.observe e) = [] := by
  unfold observe seen
  split
  · exact replies_notes he c
  · rfl

theorem sendReply_waiting {c : Connection} (h : c.accepts = true) (reply : Json) :
    c.entering (some (.send reply)) ++ (c.sendReply reply).waitingReply = [.send reply] := by
  cases hf : c.channel.isFull with
  | true => simp [entering_of_full hf, waitingReply, sendReply, mustWait, h, hf]
  | false => simp [entering_of_room h hf, waitingReply, sendReply, mustWait, hf]

/-- What the reader queues and what waits with it are the replies that waited and those called for now. -/
theorem Step.waiting {c c' : Connection} (hstep : Step c .reader c') (h : c.accepts = true) :
    c.entering (c.toSend .reader) ++ c'.waitingReply = c.waitingReply ++ replies (c.notes .reader) := by
  -- A message that is no request calls for no reply, and none waits with a reader that reads on.
  have hquiet : ∀ {v : Json} {rest : Bytes}, c.reader = .reading →
      Frame.readFrom c.inboxEnded c.inbox = some (.message v, rest) → replyTo? v = none → c'.reader = .reading →
      c.entering (c.toSend .reader) ++ c'.waitingReply = c.waitingReply ++ replies (c.notes .reader) := by
    intro v rest hreader hread hreply hreader'
    simp [toSend, reply?, entering, waitingReply, notes, replies, Note.reply?, hreader, hread, hreply, hreader']
  cases hstep with
  | reply reply hreader hroom =>
    have hsend : c.toSend .reader = some (.send reply) := by simp [toSend, reply?, hreader]
    have hnotes : c.notes .reader = [] := by simp [notes, hreader]
    have hwaiting : c.waitingReply = [.send reply] := by simp [waitingReply, hreader]
    rw [hsend, hnotes, hwaiting]
    exact sendReply_waiting h reply
  | request v rest id method hreader hread hclass =>
    have hsend : c.toSend .reader = some (.send (Message.methodNotFound id method)) := by
      simp [toSend, reply?, replyTo?, hreader, hread, hclass]
    have hreplies : replies (c.notes .reader) = [.send (Message.methodNotFound id method)] := by
      simp [notes, replies, Note.reply?, replyTo?, hreader, hread, hclass]
    have hwaiting : c.waitingReply = [] := by simp [waitingReply, hreader]
    rw [hsend, hreplies, hwaiting]
    exact sendReply_waiting (c := { c with inbox := rest }.addEntry .receive v) h _
  | response v rest id body hreader hread hclass =>
    exact hquiet hreader hread (by simp [replyTo?, hclass]) hreader
  | notification v rest method params hreader hread hclass =>
    exact hquiet hreader hread (by simp [replyTo?, hclass]) hreader
  | noise v rest hreader hread hclass =>
    exact hquiet hreader hread (by simp [replyTo?, hclass]) hreader
  | finish rest hreader hread =>
    simp [toSend, reply?, entering, waitingReply, notes, replies, Note.reply?, hreader, hread, endReading]
  | giveUp e rest hreader hread =>
    simp [toSend, reply?, entering, waitingReply, notes, replies, Note.reply?, hreader, hread, endReading]

theorem reader_waiting {c : Connection} (h : c.accepts = true) :
    c.queued .reader ++ (c.react .reader).waitingReply = c.waitingReply ++ replies (c.observe .reader) := by
  rcases react_cases c .reader with ⟨hnone, hstays⟩ | hstep
  · rw [hstays, queued, observe, seen_of_none hnone, seen_of_none hnone]
    simp [replies]
  · rw [queued, observe, hstep.seen_eq, hstep.seen_eq]
    exact hstep.waiting h

theorem react_waiting {c : Connection} (h : c.accepts = true) (e : Event) :
    (if e.sender = .reader then c.queued e else []) ++ (c.react e).waitingReply =
      c.waitingReply ++ replies (c.observe e) := by
  cases he : e.sender with
  | owner =>
    have hsame : (c.react e).waitingReply = c.waitingReply := by rw [waitingReply, react_reader c he h, waitingReply]
    rw [hsame, replies_observe he]
    simp
  | reader =>
    cases e with
    | reader => exact reader_waiting h
    | _ => cases he

theorem queued_of_stopped {c : Connection} (h : c.accepts = false) (e : Event) : c.queued e = [] := by
  rw [queued, entering_of_stopped h, seen_nil]

theorem react_stopped {c : Connection} (h : c.accepts = false) (e : Event) : (c.react e).accepts = false := by
  have hstopped : (c.react e).writer = .stopped := ((react_move c e).of_stopped (writer_of_stopped h)).1
  simp [accepts, hstopped]

/-- The replies queued so far are the first that were called for; while the writer goes on none is missing but the
one that waits for room. -/
def RepliesInTurn (c : Connection) (queued : List (Sender × Command)) (notes : List Note) : Prop :=
  commandsOf .reader queued <+: replies notes ∧
    (c.accepts = true → commandsOf .reader queued ++ c.waitingReply = replies notes)

theorem RepliesInTurn.step {c : Connection} {queued : List (Sender × Command)} {notes : List Note}
    (h : RepliesInTurn c queued notes) (e : Event) :
    RepliesInTurn (c.react e) (queued ++ (c.queued e).map fun command => (e.sender, command))
      (notes ++ c.observe e) := by
  obtain ⟨hfirst, hall⟩ := h
  have hnotes : replies (notes ++ c.observe e) = replies notes ++ replies (c.observe e) := List.filterMap_append
  rw [RepliesInTurn, commandsOf_append, commandsOf_map, hnotes]
  cases ha : c.accepts with
  | false =>
    -- Nothing is queued any more, so what was called for may go without a reply.
    rw [queued_of_stopped ha, ite_self, List.append_nil]
    refine ⟨hfirst.trans (List.prefix_append _ _), fun haccepts => ?_⟩
    rw [react_stopped ha] at haccepts
    cases haccepts
  | true =>
    -- The reply that waited is the next to be queued, before any that is called for now.
    have hnew : commandsOf .reader queued ++ (if e.sender = .reader then c.queued e else []) ++
        (c.react e).waitingReply = replies notes ++ replies (c.observe e) := by
      rw [List.append_assoc, react_waiting ha, ← List.append_assoc, hall ha]
    exact ⟨⟨_, hnew⟩, fun _ => hnew⟩

theorem reader_commands (events : List Event) {c : Connection} (queued : List (Sender × Command))
    (notes : List Note) (h : RepliesInTurn c queued notes) :
    RepliesInTurn (c.follow events) (queued ++ c.queuings events) (notes ++ c.history events) := by
  induction events generalizing c queued notes with
  | nil => simpa [queuings, history] using h
  | cons e events ih =>
    rw [follow_cons, queuings, history, ← List.append_assoc, ← List.append_assoc]
    exact ih _ _ (h.step e)

section Opened
variable (name : String) (level : TraceLevel) (clock : String) (target : Target) (events : List Event)

theorem reader_queued :
    commandsOf .reader ((opened name level clock target).queuings events) <+:
      replies ((opened name level clock target).history events) :=
  (reader_commands events [] [] ⟨List.prefix_refl _, fun _ => rfl⟩).1

theorem owner_queued :
    commandsOf .owner ((opened name level clock target).queuings events) <+
      script ((opened name level clock target).calls events) :=
  (List.sublist_append_left _ _).trans
    (owner_commands (c := opened name level clock target) events [] [] (List.Sublist.refl _))

end Opened

/-- Whether a frame calls the other side rather than answers it. -/
def isCall (frame : Json) : Bool :=
  (frame.get? "method").isSome

theorem eq_methodNotFound_of_mem_replies {frame : Json} {notes : List Note} (h : .send frame ∈ replies notes) :
    ∃ id method, frame = Message.methodNotFound id method := by
  obtain ⟨note, -, hnote⟩ := List.mem_filterMap.1 h
  cases note with
  | dispatched message registered =>
    obtain ⟨reply, hreply, heq⟩ := Option.map_eq_some_iff.1 hnote
    cases heq
    simp only [replyTo?] at hreply
    split at hreply
    · rename_i id method _
      cases hreply
      exact ⟨id, method, rfl⟩
    · cases hreply
  | _ => cases hnote

theorem isCall_of_mem_script {frame : Json} {calls : List (Nat × Goal)} (h : .send frame ∈ script calls) :
    isCall frame = true := by
  have hrequest : ∀ id goal, isCall (Goal.frame id goal) = true := fun _ _ => rfl
  have hnotification : ∀ goal, isCall (Goal.notification goal) = true := by
    intro goal
    cases goal <;> rfl
  obtain ⟨⟨id, goal⟩, -, hmem⟩ := List.mem_flatMap.1 h
  rcases List.mem_append.1 hmem with hmem | hmem
  · split at hmem
    · cases List.mem_singleton.1 hmem
      exact hrequest id goal
    · cases hmem
  · cases goal with
    | request method params timeout => cases hmem
    | notify method params =>
      cases List.mem_singleton.1 hmem
      exact hnotification _
    | handshake params =>
      cases List.mem_singleton.1 hmem
      exact hnotification _
    | shutdown timeout =>
      rcases List.mem_cons.1 hmem with hmem | hmem
      · cases hmem
        exact hnotification _
      · cases List.mem_singleton.1 hmem

end LspClient.Connection
