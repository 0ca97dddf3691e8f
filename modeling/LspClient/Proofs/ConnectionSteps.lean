import LspClient.Proofs.ConnectionRun

/-!
# What an event can do

`Step` lists all that one event can do to a connection, with what has to hold for it. It is `next?` read as a relation,
so that what is kept by every step is kept by every event. What is proved of a part of a connection, its requests or
its channel or its reader, is proved from this list.
-/

namespace LspClient

/-- All calls but notifications begin with a request. -/
def Goal.makesRequest : Goal → Bool
  | .notify _ _ => false
  | _ => true

namespace Connection

inductive Step (c : Connection) : Event → Connection → Prop where
  | notice (method : String) (params : Option Json) (hcall : c.call = none) (hused : c.usedUp = false) :
      Step c (.start (.notify method params))
        { c with call := some ⟨.notify method params, .notifying (.ok .done), .empty⟩ }
  | register (goal : Goal) (ids : List Nat) (hgoal : goal.makesRequest = true) (hcall : c.call = none)
      (hused : c.usedUp = false) (hopen : c.pending = some ids) :
      Step c (.start goal)
        { c with
          nextId := c.nextId + 1
          pending := some (ids ++ [c.nextId])
          call := some ⟨goal, .sending c.nextId, .empty⟩ }
  | turnAway (goal : Goal) (hgoal : goal.makesRequest = true) (hcall : c.call = none) (hused : c.usedUp = false)
      (hclosed : c.pending = none) :
      Step c (.start goal)
        ({ c with nextId := c.nextId + 1 }.afterRequest ⟨goal, .sending c.nextId, .empty⟩ none
          (.error (.closed c.name)))
  | cancel : Step c .cancel c.cancel
  | receive (bytes : Bytes) (hopen : c.inboxEnded = false) (hreader : c.reader ≠ .ended) :
      Step c (.receive bytes) { c with inbox := c.inbox ++ bytes }
  | closeInput : Step c .closeInput c.closeInput
  | closeOutput (failure : StreamError) : Step c (.closeOutput failure) (c.closeOutput failure)
  | drain (n : Nat) : Step c (.drain n) (c.drain n)
  | advance (ms : Nat) : Step c (.advance ms) (c.advance ms)
  -- The reader.
  | reply (reply : Json) (hreader : c.reader = .replying reply) (hroom : c.mustWait = false) :
      Step c .reader (c.sendReply reply)
  | response (v : Json) (rest : Bytes) (id : Nat) (body : Json) (hreader : c.reader = .reading)
      (hread : Frame.readFrom c.inboxEnded c.inbox = some (.message v, rest))
      (hclass : Incoming.classify v = some (.response id body)) :
      Step c .reader (({ c with inbox := rest }.addEntry .receive v).deliver id body)
  | request (v : Json) (rest : Bytes) (id : Json) (method : String) (hreader : c.reader = .reading)
      (hread : Frame.readFrom c.inboxEnded c.inbox = some (.message v, rest))
      (hclass : Incoming.classify v = some (.request id method)) :
      Step c .reader (({ c with inbox := rest }.addEntry .receive v).sendReply (Message.methodNotFound id method))
  | notification (v : Json) (rest : Bytes) (method : String) (params : Option Json) (hreader : c.reader = .reading)
      (hread : Frame.readFrom c.inboxEnded c.inbox = some (.message v, rest))
      (hclass : Incoming.classify v = some (.notification method params)) :
      Step c .reader
        { { c with inbox := rest }.addEntry .receive v with
          trace := ({ c with inbox := rest }.addEntry .receive v).trace ++ notificationLines method params }
  | noise (v : Json) (rest : Bytes) (hreader : c.reader = .reading)
      (hread : Frame.readFrom c.inboxEnded c.inbox = some (.message v, rest))
      (hclass : Incoming.classify v = none) :
      Step c .reader ({ c with inbox := rest }.addEntry .receive v)
  | finish (rest : Bytes) (hreader : c.reader = .reading)
      (hread : Frame.readFrom c.inboxEnded c.inbox = some (.ended, rest)) :
      Step c .reader ({ c with inbox := rest }.endReading "Connection to server closed.")
  | giveUp (e : FrameError) (rest : Bytes) (hreader : c.reader = .reading)
      (hread : Frame.readFrom c.inboxEnded c.inbox = some (.failed e, rest)) :
      Step c .reader ({ c with inbox := rest }.endReading ("Connection to server failed: " ++ e.message))
  -- The writer.
  | take (frame : Json) (hwriter : c.writer = .writing) (hnext : c.channel.next? = some (.send frame)) :
      Step c .writer
        { { c with channel := c.channel.take }.addEntry .send frame with writer := .sending (Frame.encode frame) }
  | pass (bytes rest : Bytes) (target : Target) (hwriter : c.writer = .sending bytes)
      (hwindow : c.target.window ≠ some 0) (hput : c.target.put bytes = (target, .ok rest)) :
      Step c .writer { c with target := target, writer := if rest = [] then .writing else .sending rest }
  | breakOff (bytes : Bytes) (target : Target) (e : StreamError) (hwriter : c.writer = .sending bytes)
      (hwindow : c.target.window ≠ some 0) (hput : c.target.put bytes = (target, .error e)) :
      Step c .writer
        { (c.addLine ("Failed to write to server: " ++ (FrameError.stream e).message)).closePending with
          target := target
          writer := .stopped }
  | stop (hwriter : c.writer = .writing) (hnext : c.channel.next? = some .shutdown) :
      Step c .writer { c with channel := c.channel.take, writer := .stopped }
  -- The owner's call.
  | ask (goal : Goal) (id : Nat) (slot : Slot) (hcall : c.call = some ⟨goal, .sending id, slot⟩)
      (haccepts : c.accepts = true) (hroom : c.channel.isFull = false) :
      Step c .call
        { c with
          channel := c.channel.push (.send (Goal.frame id goal))
          call := some ⟨goal, .waiting id ((Goal.timeout goal).map fun limit => c.now + limit), slot⟩ }
  | askNobody (goal : Goal) (id : Nat) (slot : Slot) (hcall : c.call = some ⟨goal, .sending id, slot⟩)
      (haccepts : c.accepts = false) :
      Step c .call ((c.forget id).afterRequest ⟨goal, .sending id, slot⟩ (some id) (.error (.closed c.name)))
  | settle (goal : Goal) (id : Nat) (deadline : Option Nat) (body : Json)
      (hcall : c.call = some ⟨goal, .waiting id deadline, .answered body⟩) :
      Step c .call
        (c.afterRequest ⟨goal, .waiting id deadline, .answered body⟩ (some id) (settle (Goal.method goal) body))
  | hangUp (goal : Goal) (id : Nat) (deadline : Option Nat)
      (hcall : c.call = some ⟨goal, .waiting id deadline, .lost⟩) :
      Step c .call
        (c.afterRequest ⟨goal, .waiting id deadline, .lost⟩ (some id) (.error (.hungUp c.name (Goal.method goal))))
  | expire (goal : Goal) (id t limit : Nat) (hcall : c.call = some ⟨goal, .waiting id (some t), .empty⟩)
      (hlimit : Goal.timeout goal = some limit) (ht : t ≤ c.now) :
      Step c .call { c with call := some ⟨goal, .expired id limit, .empty⟩ }
  | abandon (goal : Goal) (id limit : Nat) (slot : Slot) (hcall : c.call = some ⟨goal, .expired id limit, slot⟩) :
      Step c .call
        ((c.forget id).afterRequest ⟨goal, .expired id limit, slot⟩ (some id)
          (.error (.timedOut (Goal.method goal) limit)))
  | say (goal : Goal) (settled : Except CallError Answer) (slot : Slot)
      (hcall : c.call = some ⟨goal, .notifying settled, slot⟩) (haccepts : c.accepts = true)
      (hroom : c.channel.isFull = false) :
      Step c .call
        ({ c with channel := c.channel.push (.send (Goal.notification goal)) }.afterNotification
          ⟨goal, .notifying settled, slot⟩ settled (.ok .done))
  | sayToNobody (goal : Goal) (settled : Except CallError Answer) (slot : Slot)
      (hcall : c.call = some ⟨goal, .notifying settled, slot⟩) (haccepts : c.accepts = false) :
      Step c .call (c.afterNotification ⟨goal, .notifying settled, slot⟩ settled (.error (.closed c.name)))
  | close (goal : Goal) (settled : Except CallError Answer) (slot : Slot)
      (hcall : c.call = some ⟨goal, .closing settled, slot⟩) (haccepts : c.accepts = true)
      (hroom : c.channel.isFull = false) :
      Step c .call { c with channel := c.channel.push .shutdown, call := some ⟨goal, .joining settled, slot⟩ }
  | closeNothing (goal : Goal) (settled : Except CallError Answer) (slot : Slot)
      (hcall : c.call = some ⟨goal, .closing settled, slot⟩) (haccepts : c.accepts = false) :
      Step c .call { c with call := some ⟨goal, .joining settled, slot⟩ }
  | join (goal : Goal) (settled : Except CallError Answer) (slot : Slot)
      (hcall : c.call = some ⟨goal, .joining settled, slot⟩) (haccepts : c.accepts = false) :
      Step c .call
        { c with
          reader := .ended
          usedUp := true
          call := none
          returned := c.returned ++ [⟨goal, none, settled.mapError (Goal.failure goal)⟩] }

section Inversion
variable {c c' : Connection}

theorem step_of_start {goal : Goal} (h : (c.start goal).toOption = some c') : Step c (.start goal) c' := by
  unfold start at h
  split at h
  · cases h
  · rename_i hcall
    have hcall : c.call = none := by simpa using hcall
    split at h
    · cases h
    · rename_i hused
      have hused : c.usedUp = false := by simpa using hused
      -- What begins with a request depends on whether the table of waiting requests is open.
      have hbegins : goal.makesRequest = true → Step c (.start goal) (c.beginRequest goal) := by
        intro hgoal
        unfold beginRequest
        dsimp only
        split
        · rename_i ids hp
          exact .register goal ids hgoal hcall hused hp
        · rename_i hp
          exact .turnAway goal hgoal hcall hused hp
      cases goal with
      | notify method params =>
        cases h
        exact .notice method params hcall hused
      | request method params timeout =>
        cases h
        exact hbegins rfl
      | handshake params =>
        cases h
        exact hbegins rfl
      | shutdown timeout =>
        cases h
        exact hbegins rfl

theorem step_of_receive {bytes : Bytes} (h : (c.receive bytes).toOption = some c') : Step c (.receive bytes) c' := by
  unfold receive at h
  split at h
  · cases h
  · rename_i hopen
    split at h
    · cases h
    · rename_i hreader
      cases h
      exact .receive bytes (by simpa using hopen) hreader

theorem step_of_dispatch {v : Json} {rest : Bytes} (hreader : c.reader = .reading)
    (hread : Frame.readFrom c.inboxEnded c.inbox = some (.message v, rest)) :
    Step c .reader ({ c with inbox := rest }.dispatch v) := by
  cases hclass : Incoming.classify v with
  | none =>
    simp only [dispatch, hclass]
    exact .noise v rest hreader hread hclass
  | some incoming =>
    cases incoming with
    | response id body =>
      simp only [dispatch, hclass]
      exact .response v rest id body hreader hread hclass
    | request id method =>
      simp only [dispatch, hclass]
      exact .request v rest id method hreader hread hclass
    | notification method params =>
      simp only [dispatch, hclass]
      exact .notification v rest method params hreader hread hclass

theorem step_of_reader (h : c.readerStep = some c') : Step c .reader c' := by
  unfold readerStep at h
  split at h
  · cases h
  · rename_i reply hreader
    split at h
    · cases h
    · rename_i hroom
      cases h
      exact .reply reply hreader (by simpa using hroom)
  · rename_i hreader
    split at h
    · cases h
    · rename_i v rest hread
      cases h
      exact step_of_dispatch hreader hread
    · rename_i rest hread
      cases h
      exact .finish rest hreader hread
    · rename_i e rest hread
      cases h
      exact .giveUp e rest hreader hread

theorem step_of_writer (h : c.writerStep = some c') : Step c .writer c' := by
  unfold writerStep at h
  split at h
  · cases h
  · rename_i bytes hwriter
    split at h
    · cases h
    · rename_i hwindow
      rcases hput : c.target.put bytes with ⟨target, result⟩
      cases result with
      | ok rest =>
        simp only [transmit, hput, Option.some.injEq] at h
        exact h ▸ .pass bytes rest target hwriter hwindow hput
      | error e =>
        simp only [transmit, hput, Option.some.injEq] at h
        exact h ▸ .breakOff bytes target e hwriter hwindow hput
  · rename_i hwriter
    split at h
    · cases h
    · rename_i hnext
      cases h
      exact .stop hwriter hnext
    · rename_i frame hnext
      cases h
      exact .take frame hwriter hnext

/-- A call that has something to send sends it, waits for room or finds the writer gone. -/
theorem sent_or_refused {refused sent : Connection} {P : Prop}
    (h : (if !c.accepts then some refused else if c.channel.isFull then none else some sent) = some c')
    (hrefused : c.accepts = false → refused = c' → P)
    (hsent : c.accepts = true → c.channel.isFull = false → sent = c' → P) : P := by
  cases ha : c.accepts with
  | false =>
    simp only [ha, Bool.not_false, if_true, Option.some.injEq] at h
    exact hrefused ha h
  | true =>
    cases hf : c.channel.isFull with
    | true => simp [ha, hf] at h
    | false =>
      simp only [ha, hf, Bool.not_true, Bool.false_eq_true, if_false, Option.some.injEq] at h
      exact hsent ha hf h

theorem step_of_call (h : c.callStep = some c') : Step c .call c' := by
  unfold callStep at h
  split at h
  · cases h
  · rename_i call hcall
    obtain ⟨goal, stage, slot⟩ := call
    cases stage with
    | sending id =>
      refine sent_or_refused h (fun ha hc => ?_) fun ha hf hc => ?_
      · exact hc ▸ .askNobody goal id slot hcall ha
      · exact hc ▸ .ask goal id slot hcall ha hf
    | waiting id deadline =>
      cases slot with
      | answered body =>
        cases h
        exact .settle goal id deadline body hcall
      | lost =>
        cases h
        exact .hangUp goal id deadline hcall
      | empty =>
        dsimp only at h
        split at h
        · rename_i t limit hlimit
          split at h
          · rename_i ht
            cases h
            exact .expire goal id t limit hcall hlimit ht
          · cases h
        · cases h
    | expired id limit =>
      cases h
      exact .abandon goal id limit slot hcall
    | notifying settled =>
      refine sent_or_refused h (fun ha hc => ?_) fun ha hf hc => ?_
      · exact hc ▸ .sayToNobody goal settled slot hcall ha
      · exact hc ▸ .say goal settled slot hcall ha hf
    | closing settled =>
      refine sent_or_refused h (fun ha hc => ?_) fun ha hf hc => ?_
      · exact hc ▸ .closeNothing goal settled slot hcall ha
      · exact hc ▸ .close goal settled slot hcall ha hf
    | joining settled =>
      dsimp only at h
      split at h
      · cases h
      · rename_i ha
        cases h
        exact .join goal settled slot hcall (by simpa using ha)

theorem step_of_next? {e : Event} (h : c.next? e = some c') : Step c e c' := by
  cases e with
  | start goal => exact step_of_start h
  | cancel => exact Option.some.inj h ▸ .cancel
  | receive bytes => exact step_of_receive h
  | closeInput => exact Option.some.inj h ▸ .closeInput
  | closeOutput failure => exact Option.some.inj h ▸ .closeOutput failure
  | drain n => exact Option.some.inj h ▸ .drain n
  | advance ms => exact Option.some.inj h ▸ .advance ms
  | reader => exact step_of_reader h
  | writer => exact step_of_writer h
  | call => exact step_of_call h

end Inversion

theorem start_request {c : Connection} {goal : Goal} (hgoal : goal.makesRequest = true) (hcall : c.call = none)
    (hused : c.usedUp = false) : c.start goal = .ok (c.beginRequest goal) := by
  cases goal with
  | notify method params => cases hgoal
  | _ => simp [start, hcall, hused]

/-- Every step can be made. -/
theorem Step.next?_eq {c c' : Connection} {e : Event} (h : Step c e c') : c.next? e = some c' := by
  cases h with
  | notice method params hcall hused => simp [next?, start, hcall, hused, Except.toOption]
  | register goal ids hgoal hcall hused hopen =>
    simp [next?, start_request hgoal hcall hused, beginRequest, hopen, Except.toOption]
  | turnAway goal hgoal hcall hused hclosed =>
    simp [next?, start_request hgoal hcall hused, beginRequest, hclosed, Except.toOption]
  | receive bytes hopen hreader =>
    cases hr : c.reader with
    | ended => exact absurd hr hreader
    | _ => simp [next?, Connection.receive, hopen, hr, Except.toOption]
  | reply reply hreader hroom => simp [next?, readerStep, hreader, hroom]
  | response v rest id body hreader hread hclass => simp [next?, readerStep, hreader, hread, dispatch, hclass]
  | request v rest id method hreader hread hclass => simp [next?, readerStep, hreader, hread, dispatch, hclass]
  | notification v rest method params hreader hread hclass =>
    simp [next?, readerStep, hreader, hread, dispatch, hclass]
  | noise v rest hreader hread hclass => simp [next?, readerStep, hreader, hread, dispatch, hclass]
  | finish rest hreader hread => simp [next?, readerStep, hreader, hread]
  | giveUp e rest hreader hread => simp [next?, readerStep, hreader, hread]
  | take frame hwriter hnext => simp [next?, writerStep, hwriter, hnext]
  | pass bytes rest target hwriter hwindow hput => simp [next?, writerStep, hwriter, hwindow, transmit, hput]
  | breakOff bytes target e hwriter hwindow hput => simp [next?, writerStep, hwriter, hwindow, transmit, hput]
  | stop hwriter hnext => simp [next?, writerStep, hwriter, hnext]
  | ask goal id slot hcall haccepts hroom => simp [next?, callStep, hcall, haccepts, hroom]
  | askNobody goal id slot hcall haccepts => simp [next?, callStep, hcall, haccepts]
  | settle goal id deadline body hcall => simp [next?, callStep, hcall]
  | hangUp goal id deadline hcall => simp [next?, callStep, hcall]
  | expire goal id t limit hcall hlimit ht => simp [next?, callStep, hcall, hlimit, ht]
  | abandon goal id limit slot hcall => simp [next?, callStep, hcall]
  | say goal settled slot hcall haccepts hroom => simp [next?, callStep, hcall, haccepts, hroom]
  | sayToNobody goal settled slot hcall haccepts => simp [next?, callStep, hcall, haccepts]
  | close goal settled slot hcall haccepts hroom => simp [next?, callStep, hcall, haccepts, hroom]
  | closeNothing goal settled slot hcall haccepts => simp [next?, callStep, hcall, haccepts]
  | join goal settled slot hcall haccepts => simp [next?, callStep, hcall, haccepts]
  | _ => rfl

/-- The steps are just what the program does. -/
theorem step_iff {c c' : Connection} {e : Event} : Step c e c' ↔ c.next? e = some c' :=
  ⟨Step.next?_eq, step_of_next?⟩

/-- An event makes a step, or it changes nothing. -/
theorem react_cases (c : Connection) (e : Event) :
    (c.next? e = none ∧ c.react e = c) ∨ Step c e (c.react e) := by
  unfold react
  cases h : c.next? e with
  | none => exact .inl ⟨rfl, rfl⟩
  | some c' => exact .inr (step_iff.2 h)

/-- What an observer sees of an event: nothing if the event cannot happen. -/
def seen {α : Type} (c : Connection) (e : Event) (what : List α) : List α :=
  if (c.next? e).isSome then what else []

@[simp] theorem seen_nil {α : Type} (c : Connection) (e : Event) : c.seen e ([] : List α) = [] :=
  ite_self []

theorem seen_of_none {α : Type} {c : Connection} {e : Event} (h : c.next? e = none) (what : List α) :
    c.seen e what = [] := by
  simp [seen, h]

theorem Step.seen_eq {α : Type} {c c' : Connection} {e : Event} (h : Step c e c') (what : List α) :
    c.seen e what = what := by
  simp [seen, h.next?_eq]

end Connection

end LspClient
