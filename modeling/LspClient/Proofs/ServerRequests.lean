import LspClient.Proofs.Classification
import LspClient.Proofs.ReaderProgress

/-!
# Requests of the server

A message with an id and a method is a request of the server, whatever else it holds and whatever its id is. The client
knows no method, so the reader queues one reply to each of them, in the order in which they come, and nothing else. A
reply that finds the channel full waits, and nothing is read meanwhile. Whoever waits for an answer is left alone.
-/

namespace LspClient.Connection

/-- The reply to a request of the server: the id as it came, and the method that is not known. -/
theorem replyTo?_eq_some_iff {message reply : Json} :
    replyTo? message = some reply ↔
      ∃ id method, message.get? "id" = some id ∧ message.get? "method" = some (.str method) ∧
        reply = Message.methodNotFound id method := by
  unfold replyTo?
  constructor
  · intro h
    split at h
    · rename_i id method hclass
      cases h
      obtain ⟨hid, hmethod⟩ := Incoming.classify_eq_request_iff.mp hclass
      exact ⟨id, method, hid, hmethod, rfl⟩
    · cases h
  · rintro ⟨id, method, hid, hmethod, rfl⟩
    rw [Incoming.classify_eq_request_iff.mpr ⟨hid, hmethod⟩]

theorem replyTo?_of_response {message body : Json} {id : Nat}
    (h : Incoming.classify message = some (.response id body)) : replyTo? message = none := by
  rw [replyTo?, h]

/-- What a message from the server does to the requests of the client. -/
def Requests.route (s : Requests) (message : Json) : Requests :=
  match Incoming.classify message with
  | some (.response id body) => if id ∈ s.pending.getD [] then (s.forget id).hand [id] (.answered body) else s
  | _ => s

theorem Requests.route_of_reply {message : Json} (h : (replyTo? message).isSome) (s : Requests) :
    s.route message = s := by
  unfold route
  split
  · rename_i id body hclass
    rw [replyTo?_of_response hclass] at h
    cases h
  · rfl

theorem requests_dispatch (c : Connection) (message : Json) :
    (c.dispatch message).requests = c.requests.route message := by
  unfold dispatch Requests.route
  cases Incoming.classify message with
  | none => rfl
  | some incoming =>
    cases incoming with
    | request id method => rfl
    | notification method params => rfl
    | response id body => exact requests_deliver (c.addEntry .receive message) id body

/-- Requests of the server can be left out of a row of messages without a difference to the requests of the client. -/
theorem requests_foldl_dispatch (messages : List Json) (c : Connection) :
    (messages.foldl dispatch c).requests =
      (messages.filter fun message => (replyTo? message).isNone).foldl Requests.route c.requests := by
  induction messages generalizing c with
  | nil => rfl
  | cons message messages ih =>
    rw [List.foldl_cons, ih, requests_dispatch]
    cases hreply : replyTo? message with
    | some reply =>
      have hsome : (replyTo? message).isSome := by simp [hreply]
      simp [hreply, Requests.route_of_reply hsome]
    | none => simp [hreply]

theorem channel_dispatch {c : Connection} (haccepts : c.accepts = true) {message : Json}
    (hroom : (replyTo? message).isSome → c.channel.isFull = false) :
    (c.dispatch message).channel = c.channel.pushAll ((replyTo? message).toList.map .send) ∧
      (c.dispatch message).accepts = true := by
  have hout := outgoing_dispatch c message
  have hchannel : (c.dispatch message).channel =
      c.channel.pushAll (c.entering ((replyTo? message).map .send)) := congrArg Outgoing.channel hout
  have hwriter : (c.dispatch message).writer = c.writer := congrArg Outgoing.writer hout
  refine ⟨?_, by rwa [accepts, hwriter]⟩
  cases hreply : replyTo? message with
  | none => simpa [hreply, entering] using hchannel
  | some reply =>
    rw [hreply, entering_of_room haccepts (hroom (by simp [hreply]))] at hchannel
    exact hchannel

/-- The row of messages is dispatched while there is room for the replies. -/
theorem channel_foldl_dispatch (messages : List Json) {c : Connection} (haccepts : c.accepts = true)
    (hroom : c.channel.accepted.length - c.channel.taken + (messages.filterMap replyTo?).length ≤ Channel.capacity) :
    (messages.foldl dispatch c).channel = c.channel.pushAll ((messages.filterMap replyTo?).map .send) := by
  induction messages generalizing c with
  | nil => simp
  | cons message messages ih =>
    have hfirst : (replyTo? message).isSome → c.channel.isFull = false := by
      intro hsome
      obtain ⟨reply, hreply⟩ := Option.isSome_iff_exists.mp hsome
      rw [List.filterMap_cons_some hreply, List.length_cons] at hroom
      apply Channel.isFull_eq_false_iff.mpr
      omega
    obtain ⟨hchannel, haccepts'⟩ := channel_dispatch haccepts hfirst
    rw [List.foldl_cons, ih haccepts', hchannel]
    · cases hreply : replyTo? message <;> simp [hreply, Channel.pushAll]
    · rw [hchannel]
      cases hreply : replyTo? message with
      | none => simpa [hreply, Channel.pushAll] using hroom
      | some reply =>
        rw [List.filterMap_cons_some hreply, List.length_cons] at hroom
        simp only [Channel.pushAll, Option.toList_some, List.map_cons, List.map_nil, List.length_append,
          List.length_singleton]
        omega

/-- A reply that waits is the next thing that the reader queues. -/
theorem replying_turn {c : Connection} {reply : Json} (hreader : c.reader = .replying reply)
    (haccepts : c.accepts = true) (hroom : c.channel.isFull = false) :
    c.queued .reader = [.send reply] ∧ (c.react .reader).waitingReply = [] := by
  have hwaits : c.mustWait = false := by rw [mustWait, hroom, Bool.and_false]
  have hstep := Step.reply reply hreader hwaits
  constructor
  · have hsend : c.toSend .reader = some (.send reply) := by simp [toSend, reply?, hreader]
    rw [queued, hstep.seen_eq, hsend, entering_of_room haccepts hroom]
    rfl
  · rw [react, hstep.next?_eq]
    simp [sendReply, waitingReply, hwaits]

/-- The messages with an id and a method, and no others, are replied to: each once, in turn, with its own id. That holds
for every row of messages dispatched with room in the channel, and in every run for the messages dispatched in it, but
for a reply that still waits for room or is dropped because the writer has stopped. A message that is replied to does
nothing to the requests of the client. -/
theorem server_requests_answered :
    (∀ message reply, replyTo? message = some reply ↔
      ∃ id method, message.get? "id" = some id ∧ message.get? "method" = some (.str method) ∧
        reply = .obj
          [("error", .obj [("code", .ofInt (-32601)), ("message", .str ("Method not found: " ++ method))]),
            ("id", id), ("jsonrpc", .str "2.0")]) ∧
    (∀ (c : Connection) (messages : List Json), c.accepts = true →
      c.channel.accepted.length - c.channel.taken + (messages.filterMap replyTo?).length ≤ Channel.capacity →
        (messages.foldl dispatch c).channel = c.channel.pushAll ((messages.filterMap replyTo?).map .send)) ∧
    (∀ (c : Connection) (messages : List Json), (messages.foldl dispatch c).requests =
      (messages.filter fun message => (replyTo? message).isNone).foldl Requests.route c.requests) ∧
    ∀ (c : Connection) (events : List Event), c.waitingReply = [] →
      let due := ((dispatched (c.history events)).filterMap replyTo?).map Command.send
      let after := c.follow events
      commandsOf .reader (c.queuings events) <+: due ∧
      (after.accepts = true → commandsOf .reader (c.queuings events) ++ after.waitingReply = due) ∧
      (∀ reply, after.reader = .replying reply → after.accepts = true → after.channel.isFull = false →
        after.queued .reader = [.send reply] ∧ (after.react .reader).waitingReply = []) ∧
      ∀ e message registered, .dispatched message registered ∈ after.observe e → (replyTo? message).isSome →
        (after.react e).requests = after.requests := by
  refine ⟨fun message reply => replyTo?_eq_some_iff, ?_, ?_, ?_⟩
  · intro c messages haccepts hroom
    exact channel_foldl_dispatch messages haccepts hroom
  · intro c messages
    exact requests_foldl_dispatch messages c
  · intro c events hwaiting due after
    have hturn : RepliesInTurn c [] [] := ⟨List.prefix_refl _, fun _ => hwaiting⟩
    obtain ⟨hfirst, hall⟩ := reader_commands events [] [] hturn
    rw [List.nil_append, List.nil_append, replies_eq] at hfirst hall
    refine ⟨hfirst, hall, fun reply => replying_turn, ?_⟩
    intro e message registered hnote hreply
    obtain ⟨rest, hreact⟩ := dispatch_of_observe hnote
    rw [hreact, requests_dispatch, Requests.route_of_reply hreply]
    rfl

end LspClient.Connection
