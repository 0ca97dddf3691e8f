import LspClient.Proofs.Classification

/-!
# What the trace tells of messages

An entry of the trace names the kind of its message, by rules of its own: `Tells` states them, with the member that a
verbose entry goes on with. The kind can be read off the text of the entry, whatever the method and the body are. It is
the kind by which the message is dispatched, but for requests with a null id, which the trace takes for notifications.
-/

namespace LspClient

namespace Trace

/-- The kind that an entry names, and the key and the label of the body that it shows. -/
inductive Tells (message : Json) : String → String → String → Prop where
  | request {method : String} {id : Json} (hmethod : message.get? "method" = some (.str method))
      (hid : message.get? "id" = some id) (hnull : id ≠ .null) : Tells message "request" "params" "Params"
  | notification {method : String} (hmethod : message.get? "method" = some (.str method))
      (hid : ∀ id, message.get? "id" = some id → id = .null) : Tells message "notification" "params" "Params"
  | error {error : Json} (hmethod : ∀ method, message.get? "method" ≠ some (.str method))
      (herror : message.get? "error" = some error) : Tells message "response" "error" "Error"
  | result (hmethod : ∀ method, message.get? "method" ≠ some (.str method))
      (herror : message.get? "error" = none) : Tells message "response" "result" "Result"

theorem isNull_iff {v : Json} : v.isNull = true ↔ v = .null := by
  cases v <;> simp [Json.isNull]

theorem shownId?_eq_some_iff {message id : Json} :
    shownId? message = some id ↔ message.get? "id" = some id ∧ id ≠ .null := by
  rw [shownId?, Option.filter_eq_some_iff, Bool.not_eq_true', ← Bool.not_eq_true, isNull_iff]

theorem shownId?_eq_none_iff {message : Json} :
    shownId? message = none ↔ ∀ id, message.get? "id" = some id → id = .null := by
  rw [Option.eq_none_iff_forall_ne_some]
  constructor
  · intro h id hid
    cases id with
    | null => rfl
    | _ => exact absurd (shownId?_eq_some_iff.mpr ⟨hid, by simp⟩) (h _)
  · intro h id hid
    obtain ⟨hid, hnull⟩ := shownId?_eq_some_iff.mp hid
    exact hnull (h id hid)

theorem tells_kindOf (message : Json) :
    Tells message (kindOf message).1.word (kindOf message).2.key (kindOf message).2.label := by
  unfold kindOf
  split
  · rename_i method id hmethod hid
    obtain ⟨hid, hnull⟩ := shownId?_eq_some_iff.mp hid
    exact .request (Json.text_eq_some_iff.mp hmethod) hid hnull
  · rename_i method hmethod hid
    exact .notification (Json.text_eq_some_iff.mp hmethod) (shownId?_eq_none_iff.mp hid)
  · rename_i hmethod
    split
    · rename_i herror
      obtain ⟨error, herror⟩ := Option.isSome_iff_exists.mp herror
      exact .error (Json.text_eq_none_iff.mp hmethod) herror
    · rename_i herror
      exact .result (Json.text_eq_none_iff.mp hmethod) (Option.not_isSome_iff_eq_none.mp herror)

/-- What an entry begins with, up to the kind of its message. -/
def opening (clock : String) (direction : Direction) : String :=
  "[Trace - " ++ clock ++ "] " ++ direction.verb ++ " "

/-- The word of a line that names the kind of a message. -/
def kindWord (clock : String) (direction : Direction) (line : String) : String :=
  String.ofList ((line.toList.drop (opening clock direction).toList.length).takeWhile Char.isLower)

theorem kindWord_append (clock : String) (direction : Direction) (kind : Kind) {behind : String} {c : Char}
    (hhead : behind.toList.head? = some c) (hc : c.isLower = false) :
    kindWord clock direction (opening clock direction ++ kind.word ++ behind) = kind.word := by
  have hlower : kind.word.toList.all Char.isLower = true := by cases kind <;> rfl
  have hword : ∀ c ∈ kind.word.toList, c.isLower = true := List.all_eq_true.mp hlower
  obtain ⟨rest, hrest⟩ := List.head?_eq_some_iff.mp hhead
  rw [kindWord, String.toList_append, String.toList_append, List.append_assoc, List.drop_left,
    List.takeWhile_append_of_pos hword, hrest, List.takeWhile_cons_of_neg (by simp [hc]), List.append_nil,
    String.ofList_toList]

/-- Behind the kind there is a blank or the end of the sentence. -/
theorem exists_header (clock : String) (direction : Direction) (message : Json) :
    ∃ behind c, header clock direction message = opening clock direction ++ (kindOf message).1.word ++ behind ∧
      behind.toList.head? = some c ∧ c.isLower = false := by
  unfold header opening
  cases method? message with
  | some method =>
    cases shownId? message with
    | some id =>
      refine ⟨" '" ++ method ++ "'" ++ (" (id: " ++ id.compact ++ ")") ++ ".", ' ', ?_, by simp, rfl⟩
      simp only [String.append_assoc]
    | none => exact ⟨" '" ++ method ++ "'.", ' ', by simp [String.append_assoc], by simp, rfl⟩
  | none =>
    cases shownId? message with
    | some id => exact ⟨" (id: " ++ id.compact ++ ").", ' ', by simp [String.append_assoc], by simp, rfl⟩
    | none => exact ⟨".", '.', by simp, rfl, rfl⟩

/-- The kind of a message can be read off every entry for it. -/
theorem kindWord_of_entry {clock line : String} {direction : Direction} {message : Json} {level : TraceLevel}
    (h : entry clock direction message level = some line) :
    kindWord clock direction line = (kindOf message).1.word := by
  obtain ⟨behind, c, hheader, hhead, hc⟩ := exists_header clock direction message
  cases level with
  | off => cases h
  | messages =>
    cases h
    rw [hheader]
    exact kindWord_append clock direction _ hhead hc
  | verbose =>
    cases h
    rw [hheader, String.append_assoc]
    apply kindWord_append clock direction _ _ hc
    rw [String.toList_append, List.head?_append, hhead, Option.some_or]

end Trace

/-- What an incoming message is called. -/
def Incoming.word : Incoming → String
  | .response _ _ => "response"
  | .request _ _ => "request"
  | .notification _ _ => "notification"

namespace Trace

/-- A request with a null id. -/
def Nameless (message : Json) : Prop :=
  message.get? "id" = some .null ∧ ∃ method, message.get? "method" = some (.str method)

/-- The two ways to tell what a message is differ for requests with a null id only. -/
theorem word_eq_iff {message : Json} {incoming : Incoming} (h : Incoming.classify message = some incoming)
    {kind key label : String} (htells : Tells message kind key label) :
    (kind = incoming.word ↔ ¬ Nameless message) ∧
      (Nameless message → incoming.word = "request" ∧ kind = "notification") := by
  cases Incoming.told_of_classify h with
  | response hid hword hmethod hbody =>
    have hnamed : ¬ Nameless message := fun hnull => hmethod _ hnull.2.choose_spec
    cases htells with
    | request hmethod' => exact absurd hmethod' (hmethod _)
    | notification hmethod' => exact absurd hmethod' (hmethod _)
    | error => exact ⟨iff_of_true rfl hnamed, fun hnull => absurd hnull hnamed⟩
    | result => exact ⟨iff_of_true rfl hnamed, fun hnull => absurd hnull hnamed⟩
  | @request id method hid hmethod =>
    cases htells with
    | request hmethod' hid' hnull =>
      have hnamed : ¬ Nameless message := fun hnameless => hnull (Option.some.inj (hid'.symm.trans hnameless.1))
      exact ⟨iff_of_true rfl hnamed, fun hnameless => absurd hnameless hnamed⟩
    | notification hmethod' hid' =>
      have hnameless : Nameless message := ⟨hid' id hid ▸ hid, method, hmethod⟩
      have hword : "notification" ≠ (Incoming.request id method).word := by simp [Incoming.word]
      exact ⟨iff_of_false hword (not_not_intro hnameless), fun _ => ⟨rfl, rfl⟩⟩
    | error hmethod' => exact absurd hmethod (hmethod' _)
    | result hmethod' => exact absurd hmethod (hmethod' _)
  | notification hid hmethod =>
    have hnamed : ¬ Nameless message := fun hnameless => nomatch hid.symm.trans hnameless.1
    cases htells with
    | request hmethod' hid' => cases hid.symm.trans hid'
    | notification => exact ⟨iff_of_true rfl hnamed, fun hnameless => absurd hnameless hnamed⟩
    | error hmethod' => exact absurd hmethod (hmethod' _)
    | result hmethod' => exact absurd hmethod (hmethod' _)

/-- The lines that the dispatch of a message adds to the trace begin with its entry. -/
theorem trace_of_dispatched {c : Connection} {e : Connection.Event} {message : Json} {registered : List Nat}
    (h : .dispatched message registered ∈ c.observe e) :
    (c.react e).trace =
      c.trace ++ (entry c.clock .receive message c.level).toList ++ Connection.serverLines message := by
  obtain ⟨rest, hreact⟩ := Connection.dispatch_of_observe h
  have hout := congrArg Connection.Outgoing.trace (Connection.outgoing_dispatch { c with inbox := rest } message)
  rw [hreact]
  refine hout.trans ?_
  simp only [Connection.Outgoing.add, Connection.outgoing, List.filterMap_cons, List.filterMap_map]
  cases hentry : entry c.clock .receive message c.level with
  | none => simp [Tracing.shown?, hentry, Function.comp_def]
  | some line => simp [Tracing.shown?, hentry, Function.comp_def]

/-- There is no entry at the lowest level. The verbose entry is the one of the level between, with the body behind it
if the message has the member that its kind calls for. The kind named in an entry is the one by which the message is
dispatched, unless it is a request with a null id, which every entry calls a notification. The entry is the first line
that the dispatch of a message traces. -/
theorem entries_agree_with_dispatch (clock : String) (direction : Direction) (message : Json) :
    entry clock direction message .off = none ∧
    (∃ line kind key label, entry clock direction message .messages = some line ∧ Tells message kind key label ∧
      (message.get? key = none → entry clock direction message .verbose = some line) ∧
      (∀ v, message.get? key = some v →
        entry clock direction message .verbose = some (line ++ "\n" ++ label ++ ": " ++ v.pretty)) ∧
      ∀ level shown, entry clock direction message level = some shown → kindWord clock direction shown = kind) ∧
    (∀ incoming, Incoming.classify message = some incoming → ∀ level line,
      entry clock direction message level = some line →
        (kindWord clock direction line = incoming.word ↔ ¬ Nameless message) ∧
        (Nameless message → incoming.word = "request" ∧ kindWord clock direction line = "notification")) ∧
    ∀ (c : Connection) e registered, .dispatched message registered ∈ c.observe e →
      (c.react e).trace =
        c.trace ++ (entry c.clock .receive message c.level).toList ++ Connection.serverLines message := by
  refine ⟨rfl, ⟨_, _, _, _, rfl, tells_kindOf message, ?_, ?_, ?_⟩, ?_, ?_⟩
  · intro hnone
    simp [entry, body, hnone]
  · intro v hv
    simp [entry, body, hv, String.append_assoc]
  · intro level shown hshown
    exact kindWord_of_entry hshown
  · intro incoming hclass level line hline
    rw [kindWord_of_entry hline]
    exact word_eq_iff hclass (tells_kindOf message)
  · intro c e registered hnote
    exact trace_of_dispatched hnote

end Trace

end LspClient
