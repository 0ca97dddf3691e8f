import LspClient.Proofs.Producers
import LspClient.Proofs.ReaderIntake

/-!
# What messages are

What a message is depends on a few of its members, and `Told` says how. The messages that the client writes are then
what they are meant to be to whoever reads them by the same rules: its requests are requests, its notifications are
notifications, and its replies are responses to the ids that they answer or nothing at all. So a reply never calls for
a reply.
-/

namespace LspClient

namespace Json

theorem word?_eq_some_iff {v : Json} {n : Nat} : v.word? = some n ↔ v = .ofNat n ∧ n < Number.wordBound := by
  constructor
  · intro h
    unfold word? at h
    split at h
    · rename_i m
      split at h
      · rename_i hlt
        cases h
        exact ⟨rfl, hlt⟩
      · cases h
    · cases h
  · rintro ⟨rfl, hlt⟩
    exact if_pos hlt

theorem str?_eq_some_iff {v : Json} {s : String} : v.str? = some s ↔ v = .str s := by
  cases v <;> simp [str?]

theorem str?_eq_none_iff {v : Json} : v.str? = none ↔ ∀ s, v ≠ .str s := by
  cases v <;> simp [str?]

/-- The text of a member that is a string. -/
theorem text_eq_some_iff {v : Json} {key s : String} :
    (v.get? key).bind str? = some s ↔ v.get? key = some (.str s) := by
  cases hmember : v.get? key with
  | none => simp
  | some member => simp [str?_eq_some_iff]

theorem text_eq_none_iff {v : Json} {key : String} :
    (v.get? key).bind str? = none ↔ ∀ s, v.get? key ≠ some (.str s) := by
  cases hmember : v.get? key with
  | none => simp
  | some member => simp [str?_eq_none_iff]

end Json

namespace Incoming

/-- What a message is, by its members. -/
inductive Told (message : Json) : Incoming → Prop where
  | response {n : Nat} (hid : message.get? "id" = some (.ofNat n)) (hword : n < Json.Number.wordBound)
      (hmethod : ∀ method, message.get? "method" ≠ some (.str method))
      (hbody : (message.get? "result").isSome ∨ (message.get? "error").isSome) : Told message (.response n message)
  | request {id : Json} {method : String} (hid : message.get? "id" = some id)
      (hmethod : message.get? "method" = some (.str method)) : Told message (.request id method)
  | notification {method : String} (hid : message.get? "id" = none)
      (hmethod : message.get? "method" = some (.str method)) :
      Told message (.notification method (message.get? "params"))

theorem told_of_classify {message : Json} {incoming : Incoming} (h : classify message = some incoming) :
    Told message incoming := by
  unfold classify at h
  dsimp only at h
  split at h
  · rename_i id hid hmethod hbody
    obtain ⟨n, hword, rfl⟩ := Option.map_eq_some_iff.mp h
    obtain ⟨rfl, hlt⟩ := Json.word?_eq_some_iff.mp hword
    exact .response hid hlt (Json.text_eq_none_iff.mp hmethod) (Bool.or_eq_true_iff.mp hbody)
  · rename_i id method _ hid hmethod
    cases h
    exact .request hid (Json.text_eq_some_iff.mp hmethod)
  · rename_i method _ hid hmethod
    cases h
    exact .notification hid (Json.text_eq_some_iff.mp hmethod)
  · cases h

theorem Told.classify {message : Json} {incoming : Incoming} (h : Told message incoming) :
    classify message = some incoming := by
  unfold Incoming.classify
  cases h with
  | response hid hword hmethod hbody =>
    have hword? := Json.word?_eq_some_iff.mpr ⟨rfl, hword⟩
    simp only [hid, Json.text_eq_none_iff.mpr hmethod, Bool.or_eq_true_iff.mpr hbody, hword?, Option.map_some]
  | request hid hmethod => simp only [hid, Json.text_eq_some_iff.mpr hmethod]
  | notification hid hmethod => simp only [hid, Json.text_eq_some_iff.mpr hmethod]

/-- With an id and a method a message is a request, whatever else it holds. -/
theorem classify_eq_request_iff {message id : Json} {method : String} :
    classify message = some (.request id method) ↔
      message.get? "id" = some id ∧ message.get? "method" = some (.str method) := by
  constructor
  · intro h
    cases told_of_classify h with
    | request hid hmethod => exact ⟨hid, hmethod⟩
  · rintro ⟨hid, hmethod⟩
    exact (Told.request hid hmethod).classify

end Incoming

namespace Message
variable (method : String) (params : Option Json)

theorem classify_request (id : Nat) :
    Incoming.classify (request id method params) = some (.request (.ofNat id) method) :=
  (Incoming.Told.request rfl rfl).classify

theorem get?_params_notification : (notification method params).get? "params" = params := by
  cases params <;> rfl

theorem classify_notification :
    Incoming.classify (notification method params) = some (.notification method params) := by
  have hid : (notification method params).get? "id" = none := by cases params <;> rfl
  have htold : Incoming.Told (notification method params) _ := .notification hid rfl
  rw [get?_params_notification] at htold
  exact htold.classify

/-- A reply is a response if its id can be one of the client's, and nothing otherwise. -/
theorem classify_methodNotFound_iff (id : Json) {incoming : Incoming} :
    Incoming.classify (methodNotFound id method) = some incoming ↔
      ∃ n, id = .ofNat n ∧ n < Json.Number.wordBound ∧ incoming = .response n (methodNotFound id method) := by
  have hid : (methodNotFound id method).get? "id" = some id := rfl
  have hmethod : (methodNotFound id method).get? "method" = none := rfl
  constructor
  · intro h
    cases Incoming.told_of_classify h with
    | @response n hid' hword _ _ =>
      cases hid.symm.trans hid'
      exact ⟨n, rfl, hword, rfl⟩
    | request _ hmethod' => cases hmethod.symm.trans hmethod'
    | notification _ hmethod' => cases hmethod.symm.trans hmethod'
  · rintro ⟨n, rfl, hword, rfl⟩
    exact (Incoming.Told.response rfl hword (by simp [hmethod]) (.inr rfl)).classify

end Message

namespace Connection

/-- The frames that a connection makes of itself, by what they are to whoever reads them. -/
inductive Utterance : Json → Option Incoming → Prop where
  | request (id : Nat) (method : String) (params : Option Json) :
      Utterance (Message.request id method params) (some (.request (.ofNat id) method))
  | notification (method : String) (params : Option Json) :
      Utterance (Message.notification method params) (some (.notification method params))
  | answer (n : Nat) (method : String) (h : n < Json.Number.wordBound) :
      Utterance (Message.methodNotFound (.ofNat n) method)
        (some (.response n (Message.methodNotFound (.ofNat n) method)))
  | unheard (id : Json) (method : String) (h : ∀ n, n < Json.Number.wordBound → id ≠ .ofNat n) :
      Utterance (Message.methodNotFound id method) none

theorem Utterance.classify {frame : Json} {incoming : Option Incoming} (h : Utterance frame incoming) :
    Incoming.classify frame = incoming := by
  cases h with
  | request id method params => exact Message.classify_request method params id
  | notification method params => exact Message.classify_notification method params
  | answer n method hword => exact (Message.classify_methodNotFound_iff method _).mpr ⟨n, rfl, hword, rfl⟩
  | unheard id method hid =>
    rw [Option.eq_none_iff_forall_ne_some]
    intro incoming hsome
    obtain ⟨n, hn, hword, -⟩ := (Message.classify_methodNotFound_iff method id).mp hsome
    exact hid n hword hn

theorem exists_utterance_methodNotFound (id : Json) (method : String) :
    ∃ incoming, Utterance (Message.methodNotFound id method) incoming := by
  cases hword : id.word? with
  | some n =>
    obtain ⟨rfl, hlt⟩ := Json.word?_eq_some_iff.mp hword
    exact ⟨_, .answer n method hlt⟩
  | none =>
    refine ⟨_, .unheard id method fun n hlt hid => ?_⟩
    rw [Json.word?_eq_some_iff.mpr ⟨hid, hlt⟩] at hword
    cases hword

theorem exists_utterance_of_mem_script {frame : Json} {calls : List (Nat × Goal)} (h : .send frame ∈ script calls) :
    ∃ incoming, Utterance frame incoming := by
  have hnotification : ∀ goal, ∃ incoming, Utterance (Goal.notification goal) incoming := by
    intro goal
    cases goal <;> exact ⟨_, .notification _ _⟩
  obtain ⟨⟨id, goal⟩, -, hmem⟩ := List.mem_flatMap.mp h
  rcases List.mem_append.mp hmem with hmem | hmem
  · split at hmem
    · cases List.mem_singleton.mp hmem
      exact ⟨_, .request id _ _⟩
    · cases hmem
  · cases goal with
    | request method params timeout => cases hmem
    | notify method params =>
      cases List.mem_singleton.mp hmem
      exact hnotification _
    | handshake params =>
      cases List.mem_singleton.mp hmem
      exact hnotification _
    | shutdown timeout =>
      rcases List.mem_cons.mp hmem with hmem | hmem
      · cases hmem
        exact hnotification _
      · cases List.mem_singleton.mp hmem

/-- Whatever a connection puts into its channel is one of its own frames. -/
theorem exists_utterance_of_accepted (name : String) (level : TraceLevel) (clock : String) (target : Target)
    (events : List Event) {frame : Json}
    (h : .send frame ∈ ((opened name level clock target).follow events).channel.accepted) :
    ∃ incoming, Utterance frame incoming := by
  rw [accepted_follow, show (opened name level clock target).channel.accepted = [] from rfl, List.nil_append] at h
  obtain ⟨⟨sender, command⟩, hmem, rfl⟩ := List.mem_map.mp h
  have hsender := mem_commandsOf hmem
  cases sender with
  | owner =>
    exact exists_utterance_of_mem_script ((owner_queued name level clock target events).subset hsender)
  | reader =>
    obtain ⟨id, method, rfl⟩ :=
      eq_methodNotFound_of_mem_replies ((reader_queued name level clock target events).subset hsender)
    exact exists_utterance_methodNotFound id method

theorem replies_eq (notes : List Note) : replies notes = ((dispatched notes).filterMap replyTo?).map .send := by
  rw [replies, dispatched, List.filterMap_filterMap, List.map_filterMap]
  congr 1
  funext note
  cases note <;> rfl

theorem replyTo?_methodNotFound (id : Json) (method : String) : replyTo? (Message.methodNotFound id method) = none := by
  unfold replyTo?
  split
  · rename_i hclass
    obtain ⟨n, -, -, hresponse⟩ := (Message.classify_methodNotFound_iff method id).mp hclass
    cases hresponse
  · rfl

/-- Every frame that a connection makes is recognised as what it is. A request and a notification keep their method,
and a notification its parameters, be they absent or null. A reply is the response to its id if that is an integer of
64 bits, and nothing otherwise. Nothing else is ever put into the channel, and a reader that gets replies only has
nothing to reply to. -/
theorem own_messages_recognised :
    (∀ id method params, Incoming.classify (Message.request id method params) =
      some (.request (.ofNat id) method)) ∧
    (∀ method params, Incoming.classify (Message.notification method params) =
      some (.notification method params)) ∧
    (∀ id method incoming, Incoming.classify (Message.methodNotFound id method) = some incoming ↔
      ∃ n, id = .ofNat n ∧ n < 0x10000000000000000 ∧ incoming = .response n (Message.methodNotFound id method)) ∧
    (∀ name level clock target events frame,
      .send frame ∈ ((opened name level clock target).follow events).channel.accepted →
        ∃ incoming, Utterance frame incoming ∧ Incoming.classify frame = incoming) ∧
    ∀ (c : Connection) events, c.waitingReply = [] →
      (∀ message ∈ dispatched (c.history events), ∃ id method, message = Message.methodNotFound id method) →
        commandsOf .reader (c.queuings events) = [] := by
  refine ⟨?_, ?_, ?_, ?_, ?_⟩
  · intro id method params
    exact Message.classify_request method params id
  · exact Message.classify_notification
  · intro id method incoming
    exact Message.classify_methodNotFound_iff method id
  · intro name level clock target events frame hframe
    obtain ⟨incoming, hsaid⟩ := exists_utterance_of_accepted name level clock target events hframe
    exact ⟨incoming, hsaid, hsaid.classify⟩
  · intro c events hwaiting hreplies
    have hturn : RepliesInTurn c [] [] := ⟨List.prefix_refl _, fun _ => hwaiting⟩
    have hnone : replies (c.history events) = [] := by
      rw [replies_eq, List.map_eq_nil_iff, List.filterMap_eq_nil_iff]
      intro message hmessage
      obtain ⟨id, method, rfl⟩ := hreplies message hmessage
      exact replyTo?_methodNotFound id method
    have hqueued := (reader_commands events [] [] hturn).1
    rw [List.nil_append, List.nil_append, hnone] at hqueued
    exact List.prefix_nil.mp hqueued

end Connection

end LspClient
