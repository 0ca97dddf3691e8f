import LspClient.Proofs.ClientRun
import LspClient.Proofs.ResponseRouting
import LspClient.Proofs.WriterOutput

/-!
# The order of a conversation

A client opens with its introduction, which it confirms when the server has answered it, and closes with a goodbye
in two parts. Whatever the server does and whoever goes on when, it says these things in this order, each at most
once, and none before its time. Everything else that it sends answers a request of the server.
-/

namespace LspClient

open Connection (Owner CallTurn)

namespace Service

def introduction (params : Json) : Json := Message.request 1 "initialize" (some params)

def confirmation : Json := Message.notification "initialized" (some (.obj []))

def shutdownRequest : Json := Message.request 2 "shutdown" none

def exitNotice : Json := Message.notification "exit" none

/-- What gives a client cause to say something. -/
structure Grounds where
  /-- It was started and is to introduce itself so. -/
  told : Json → Prop
  /-- The server has answered its first request without an error. -/
  heard : Prop
  /-- It was stopped while it ran, with the table of waiting requests closed or open. -/
  asked : Bool → Prop

def grounds (s : Service) (events : List Service.Event) : Grounds where
  told params := .introduce params ∈ events
  heard := ∃ message registered body,
    .dispatched message registered ∈ s.connection.history (s.connectionEvents events) ∧
      Incoming.classify message = some (.response 1 body) ∧ body.get? "error" = none
  asked closed := ∃ before after, events = before ++ .stop :: after ∧ (s.serve before).standing = .running ∧
    (s.serve before).connection.pending.isNone = closed

structure Grounds.Grow (g g' : Grounds) : Prop where
  told : ∀ params, g.told params → g'.told params
  heard : g.heard → g'.heard
  asked : ∀ closed, g.asked closed → g'.asked closed

theorem grounds_grow (s : Service) (events : List Service.Event) (e : Service.Event) :
    (s.grounds events).Grow (s.grounds (events ++ [e])) where
  told := fun params h => List.mem_append_left _ h
  heard := by
    rintro ⟨message, registered, body, hmem, h⟩
    refine ⟨message, registered, body, ?_, h⟩
    rw [connectionEvents_concat, Connection.history_append]
    exact List.mem_append_left _ hmem
  asked := by
    rintro closed ⟨before, after, rfl, h⟩
    exact ⟨before, after ++ [e], by simp, h⟩

/-- What a client may have said on its grounds. -/
inductive Spoken (g : Grounds) : List Json → Prop where
  | nothing : Spoken g []
  | introduced {params : Json} (htold : g.told params) : Spoken g [introduction params]
  | confirmed {params : Json} (htold : g.told params) (hheard : g.heard) :
      Spoken g [introduction params, confirmation]
  | closing {params : Json} {closed : Bool} (htold : g.told params) (hheard : g.heard) (hasked : g.asked closed) :
      Spoken g [introduction params, confirmation, shutdownRequest]
  | closed {params : Json} {closed : Bool} (htold : g.told params) (hheard : g.heard) (hasked : g.asked closed) :
      Spoken g [introduction params, confirmation, shutdownRequest, exitNotice]
  | left {params : Json} (htold : g.told params) (hheard : g.heard) (hasked : g.asked true) :
      Spoken g [introduction params, confirmation, exitNotice]

/-- What the client has said when its introduction is at a stage. -/
inductive Opening (g : Grounds) (params : Json) : Stage → List Json → Prop where
  | sending : Opening g params (.sending 1) []
  | waiting (deadline : Option Nat) : Opening g params (.waiting 1 deadline) [introduction params]
  | expired (limit : Nat) : Opening g params (.expired 1 limit) [introduction params]
  | confirming (answer : Answer) (hheard : g.heard) : Opening g params (.notifying (.ok answer)) [introduction params]

inductive Goodbye (closed : Bool) : List Json → Prop where
  | nothing : Goodbye closed []
  | shutdown : Goodbye closed [shutdownRequest]
  | both : Goodbye closed [shutdownRequest, exitNotice]
  | exit (h : closed = true) : Goodbye closed [exitNotice]

/-- What the client has said of its goodbye when that is at a stage. Without the request it goes on only if the
table was closed or the writer has stopped. -/
inductive Parting (closed accepts : Bool) : Stage → List Json → Prop where
  | sending : Parting closed accepts (.sending 2) []
  | waiting (deadline : Option Nat) : Parting closed accepts (.waiting 2 deadline) [shutdownRequest]
  | expired (limit : Nat) : Parting closed accepts (.expired 2 limit) [shutdownRequest]
  | settled (r : Except CallError Answer) : Parting closed accepts (.notifying r) [shutdownRequest]
  | refused (r : Except CallError Answer) (h : closed = true ∨ accepts = false) :
      Parting closed accepts (.notifying r) []
  | closing (r : Except CallError Answer) {said : List Json} (h : Goodbye closed said) :
      Parting closed accepts (.closing r) said
  | joining (r : Except CallError Answer) {said : List Json} (h : Goodbye closed said) :
      Parting closed accepts (.joining r) said

theorem Parting.goodbye {closed accepts : Bool} {stage : Stage} {said : List Json}
    (h : Parting closed accepts stage said) : Goodbye closed said := by
  cases h with
  | sending => exact .nothing
  | waiting deadline => exact .shutdown
  | expired limit => exact .shutdown
  | settled r => exact .shutdown
  | refused r h => exact .nothing
  | closing r h => exact h
  | joining r h => exact h

theorem Spoken.of_goodbye {g : Grounds} {params : Json} {closed : Bool} (htold : g.told params) (hheard : g.heard)
    (hasked : g.asked closed) {said : List Json} (h : Goodbye closed said) :
    Spoken g ([introduction params, confirmation] ++ said) := by
  cases h with
  | nothing => exact .confirmed htold hheard
  | shutdown => exact .closing htold hheard hasked
  | both => exact .closed htold hheard hasked
  | exit h =>
    subst h
    exact .left htold hheard hasked

/-- How the standing, the owner's part and what was said belong together. -/
inductive Phase (g : Grounds) (s : Service) : List Json → Prop where
  | launched (hs : s.standing = .launched) (ho : s.connection.owner = ⟨none, 1, false, []⟩) : Phase g s []
  | starting {params : Json} {stage : Stage} {said : List Json} (hs : s.standing = .starting)
      (ho : s.connection.owner = ⟨some (.handshake params, stage), 2, false, []⟩) (htold : g.told params)
      (hsaid : Opening g params stage said) : Phase g s said
  | running {params : Json} {goal : Goal} {id : Option Nat} {answer : Answer} (hs : s.standing = .running)
      (ho : s.connection.owner = ⟨none, 2, false, [⟨goal, id, .ok answer⟩]⟩) (htold : g.told params)
      (hheard : g.heard) : Phase g s [introduction params, confirmation]
  | stopping {params : Json} {stage : Stage} {closed : Bool} {said : List Json} (hs : s.standing = .stopping)
      (ho : s.connection.owner.call = some (.shutdown Client.grace, stage)) (htold : g.told params)
      (hheard : g.heard) (hasked : g.asked closed) (hsaid : Parting closed s.connection.accepts stage said) :
      Phase g s ([introduction params, confirmation] ++ said)
  | gone {said : List Json} (hs : s.standing = .gone) (ho : s.connection.owner.call = none)
      (hsaid : Spoken g said) : Phase g s said

theorem conclude_of_call {s : Service} {goal : Goal} {stage : Stage}
    (h : s.connection.owner.call = some (goal, stage)) : s.conclude = s := by
  obtain ⟨slot, hcall⟩ := Connection.call_of_owner h
  unfold conclude
  rw [hcall]
  split
  · rename_i hnone
    cases hnone
  · rename_i hnone
    cases hnone
  · rfl

section Steps
variable {g g' : Grounds} {s s' : Service} {said : List Json}

theorem Spoken.grow (hg : g.Grow g') (h : Spoken g said) : Spoken g' said := by
  cases h with
  | nothing => exact .nothing
  | introduced htold => exact .introduced (hg.told _ htold)
  | confirmed htold hheard => exact .confirmed (hg.told _ htold) (hg.heard hheard)
  | closing htold hheard hasked => exact .closing (hg.told _ htold) (hg.heard hheard) (hg.asked _ hasked)
  | closed htold hheard hasked => exact .closed (hg.told _ htold) (hg.heard hheard) (hg.asked _ hasked)
  | left htold hheard hasked => exact .left (hg.told _ htold) (hg.heard hheard) (hg.asked _ hasked)

theorem Opening.grow (hg : g.Grow g') {params : Json} {stage : Stage} (h : Opening g params stage said) :
    Opening g' params stage said := by
  cases h with
  | sending => exact .sending
  | waiting deadline => exact .waiting deadline
  | expired limit => exact .expired limit
  | confirming answer hheard => exact .confirming answer (hg.heard hheard)

theorem Parting.stop {closed accepts accepts' : Bool} (ha : accepts = false → accepts' = false) {stage : Stage}
    (h : Parting closed accepts stage said) : Parting closed accepts' stage said := by
  cases h with
  | sending => exact .sending
  | waiting deadline => exact .waiting deadline
  | expired limit => exact .expired limit
  | settled r => exact .settled r
  | refused r h => exact .refused r (h.imp_right ha)
  | closing r h => exact .closing r h
  | joining r h => exact .joining r h

/-- What leaves the owner's part as it is keeps the phase. -/
theorem Phase.keep (h : Phase g s said) (hg : g.Grow g') (hs' : s'.standing = s.standing)
    (ho' : s'.connection.owner = s.connection.owner)
    (ha : s.connection.accepts = false → s'.connection.accepts = false) : Phase g' s' said := by
  cases h with
  | launched hs ho => exact .launched (hs'.trans hs) (ho'.trans ho)
  | starting hs ho htold hsaid =>
    exact .starting (hs'.trans hs) (ho'.trans ho) (hg.told _ htold) (hsaid.grow hg)
  | running hs ho htold hheard =>
    exact .running (hs'.trans hs) (ho'.trans ho) (hg.told _ htold) (hg.heard hheard)
  | stopping hs ho htold hheard hasked hsaid =>
    exact .stopping (hs'.trans hs) (ho' ▸ ho) (hg.told _ htold) (hg.heard hheard) (hg.asked _ hasked)
      (hsaid.stop ha)
  | gone hs ho hsaid => exact .gone (hs'.trans hs) (ho' ▸ ho) (hsaid.grow hg)

theorem Phase.spoken (h : Phase g s said) : Spoken g said := by
  cases h with
  | launched hs ho => exact .nothing
  | starting hs ho htold hsaid =>
    cases hsaid with
    | sending => exact .nothing
    | waiting deadline => exact .introduced htold
    | expired limit => exact .introduced htold
    | confirming answer hheard => exact .introduced htold
  | running hs ho htold hheard => exact .confirmed htold hheard
  | stopping hs ho htold hheard hasked hsaid => exact .of_goodbye htold hheard hasked hsaid.goodbye
  | gone hs ho hsaid => exact hsaid

theorem Phase.conclude_eq (h : Phase g s said) : s.conclude = s := by
  cases h with
  | launched hs ho => simp only [conclude, hs]
  | starting hs ho htold hsaid => exact conclude_of_call (congrArg Owner.call ho)
  | running hs ho htold hheard => simp only [conclude, hs]
  | stopping hs ho htold hheard hasked hsaid => exact conclude_of_call ho
  | gone hs ho hsaid => simp only [conclude, hs]

section Concluding
variable {c : Connection}

theorem Phase.begins {params : Json} {stage : Stage}
    (ho : c.owner = ⟨some (.handshake params, stage), 2, false, []⟩) (htold : g.told params)
    (hsaid : Opening g params stage said) : Phase g (conclude ⟨.starting, c⟩) said := by
  have h : Phase g ⟨.starting, c⟩ said := .starting rfl ho htold hsaid
  rw [h.conclude_eq]
  exact h

theorem Phase.fails {nextId : Nat} {usedUp : Bool} {goal : Goal} {id : Option Nat} {e : Failure}
    (ho : c.owner = ⟨none, nextId, usedUp, [⟨goal, id, .error e⟩]⟩) (hsaid : Spoken g said) :
    Phase g (conclude ⟨.starting, c⟩) said := by
  have hcall : c.call = none := (Connection.call_eq_none_iff c).1 (congrArg Owner.call ho)
  have hreturned : c.returned = [⟨goal, id, .error e⟩] := congrArg Owner.returned ho
  have hgone : conclude ⟨.starting, c⟩ = ⟨.gone, c⟩ := by simp [conclude, hcall, Client.outcome, hreturned]
  rw [hgone]
  exact .gone rfl (congrArg Owner.call ho) hsaid

theorem Phase.succeeds {goal : Goal} {id : Option Nat} {answer : Answer} {params : Json}
    (ho : c.owner = ⟨none, 2, false, [⟨goal, id, .ok answer⟩]⟩) (htold : g.told params) (hheard : g.heard) :
    Phase g (conclude ⟨.starting, c⟩) [introduction params, confirmation] := by
  have hcall : c.call = none := (Connection.call_eq_none_iff c).1 (congrArg Owner.call ho)
  have hreturned : c.returned = [⟨goal, id, .ok answer⟩] := congrArg Owner.returned ho
  have hrunning : conclude ⟨.starting, c⟩ = ⟨.running, c⟩ := by simp [conclude, hcall, Client.outcome, hreturned]
  rw [hrunning]
  exact .running rfl ho htold hheard

theorem Phase.parts {params : Json} {stage : Stage} {closed : Bool}
    (ho : c.owner.call = some (.shutdown Client.grace, stage)) (htold : g.told params) (hheard : g.heard)
    (hasked : g.asked closed) (hsaid : Parting closed c.accepts stage said) :
    Phase g (conclude ⟨.stopping, c⟩) ([introduction params, confirmation] ++ said) := by
  have h : Phase g ⟨.stopping, c⟩ ([introduction params, confirmation] ++ said) :=
    .stopping rfl ho htold hheard hasked hsaid
  rw [h.conclude_eq]
  exact h

theorem Phase.ends (ho : c.owner.call = none) (hsaid : Spoken g said) :
    Phase g (conclude ⟨.stopping, c⟩) said := by
  have hcall : c.call = none := (Connection.call_eq_none_iff c).1 ho
  have hgone : conclude ⟨.stopping, c⟩ = ⟨.gone, c⟩ := by simp only [conclude, hcall]
  rw [hgone]
  exact .gone rfl ho hsaid

end Concluding

theorem Phase.opening {c c' : Connection} {params : Json} {stage : Stage} {slot : Slot} {notes : List Connection.Note}
    {commands : List Command} {o : Owner} (turn : CallTurn c (.handshake params) slot stage notes commands o)
    (ho' : c'.owner = o)
    (ho : c.owner = ⟨some (.handshake params, stage), 2, false, []⟩) (htold : g.told params)
    (hheard : ∀ deadline body, stage = .waiting 1 deadline → slot = .answered body →
      body.get? "error" = none → g.heard)
    (hsaid : Opening g params stage said) :
    Phase g (conclude ⟨.starting, c'⟩) (said ++ commands.filterMap Command.frame?) := by
  cases hsaid with
  | sending =>
    cases turn with
    | waits => exact .begins (ho'.trans ho) htold .sending
    | sends id ha => exact .begins (ho'.trans (by rw [ho])) htold (.waiting _)
    | refused id ha => exact .fails (ho'.trans (by rw [ho]; rfl)) .nothing
  | waiting deadline =>
    cases turn with
    | waits => exact .begins (ho'.trans ho) htold (.waiting deadline)
    | answered id _ body hslot =>
      cases hbody : body.get? "error" with
      | some error =>
        rw [ho, Connection.settle, hbody] at ho'
        exact .fails ho' (.introduced htold)
      | none =>
        rw [ho, Connection.settle, hbody] at ho'
        exact .begins ho' htold (.confirming _ (hheard deadline body rfl hslot hbody))
    | hungUp id _ hslot => exact .fails (ho'.trans (by rw [ho]; rfl)) (.introduced htold)
    | expires id t limit hlate => exact .begins (ho'.trans (by rw [ho])) htold (.expired limit)
  | expired limit =>
    cases turn with
    | waits => exact .begins (ho'.trans ho) htold (.expired limit)
    | timedOut id _ => exact .fails (ho'.trans (by rw [ho]; rfl)) (.introduced htold)
  | confirming answer hanswered =>
    cases turn with
    | waits => exact .begins (ho'.trans ho) htold (.confirming answer hanswered)
    | notifies _ ha => exact .succeeds (ho'.trans (by rw [ho]; rfl)) htold hanswered
    | unheard _ ha => exact .fails (ho'.trans (by rw [ho]; rfl)) (.introduced htold)

theorem Phase.parting {c c' : Connection} {params : Json} {closed : Bool} {stage : Stage} {slot : Slot}
    {notes : List Connection.Note} {commands : List Command} {o : Owner}
    (turn : CallTurn c (.shutdown Client.grace) slot stage notes commands o) (ho' : c'.owner = o)
    (ho : c.owner.call = some (.shutdown Client.grace, stage)) (ha' : c.accepts = false → c'.accepts = false)
    (htold : g.told params) (hheard : g.heard) (hasked : g.asked closed)
    (hsaid : Parting closed c.accepts stage said) :
    Phase g (conclude ⟨.stopping, c'⟩)
      ([introduction params, confirmation] ++ said ++ commands.filterMap Command.frame?) := by
  have hparts : ∀ stage' said', o.call = some (.shutdown Client.grace, stage') →
      Parting closed c'.accepts stage' said' →
      Phase g (conclude ⟨.stopping, c'⟩) ([introduction params, confirmation] ++ said') := by
    intro stage' said' hcall hsaid'
    exact .parts (by rw [ho', hcall]) htold hheard hasked hsaid'
  rw [List.append_assoc]
  cases hsaid with
  | sending =>
    cases turn with
    | waits => exact hparts _ _ ho .sending
    | sends id ha => exact hparts _ _ rfl (.waiting _)
    | refused id ha => exact hparts _ _ rfl (.refused _ (.inr (ha' ha)))
  | waiting deadline =>
    cases turn with
    | waits => exact hparts _ _ ho (.waiting deadline)
    | answered id _ body hslot => exact hparts _ _ rfl (.settled _)
    | hungUp id _ hslot => exact hparts _ _ rfl (.settled _)
    | expires id t limit hlate => exact hparts _ _ rfl (.expired limit)
  | expired limit =>
    cases turn with
    | waits => exact hparts _ _ ho (.expired limit)
    | timedOut id _ => exact hparts _ _ rfl (.settled _)
  | settled r =>
    cases turn with
    | waits => exact hparts _ _ ho (.settled r)
    | notifies _ ha => exact hparts _ _ rfl (.closing _ .both)
    | unheard _ ha => exact hparts _ _ rfl (.closing _ .shutdown)
  | refused r hrefused =>
    cases turn with
    | waits => exact hparts _ _ ho (.refused r (hrefused.imp_right ha'))
    | notifies _ ha =>
      -- The channel takes the notification, so it was the table that was closed.
      have hclosed : closed = true := hrefused.resolve_right (by simp [ha])
      exact hparts _ _ rfl (.closing _ (.exit hclosed))
    | unheard _ ha => exact hparts _ _ rfl (.closing _ .nothing)
  | closing r hwords =>
    have hnone : said ++ [] = said := List.append_nil said
    cases turn with
    | waits => exact hparts _ _ ho (.closing r (hnone.symm ▸ hwords))
    | closes _ ha => exact hparts _ _ rfl (.joining r (hnone.symm ▸ hwords))
    | unclosed _ ha => exact hparts _ _ rfl (.joining r (hnone.symm ▸ hwords))
  | joining r hwords =>
    have hnone : said ++ [] = said := List.append_nil said
    cases turn with
    | waits => exact hparts _ _ ho (.joining r (hnone.symm ▸ hwords))
    | returns _ ha => exact .ends (by rw [ho']) (.of_goodbye htold hheard hasked (hnone.symm ▸ hwords))

/-- The frames that the client itself queues with an event. -/
def words (s : Service) (e : Service.Event) : List Json :=
  match s.turn? e with
  | some (_, e) => (if e.sender = .owner then s.connection.queued e else []).filterMap Command.frame?
  | none => []

theorem words_of_turn {s : Service} {e : Service.Event} {standing : Standing} {e' : Connection.Event}
    (h : s.turn? e = some (standing, e'))
    (hsilent : (if e'.sender = .owner then s.connection.queued e' else []) = []) : s.words e = [] := by
  rw [words, h]
  exact congrArg (List.filterMap Command.frame?) hsilent

theorem words_foreign {e : Connection.Event} (h : e.isForeign = true) (s : Service) : s.words (.meanwhile e) = [] := by
  have hchoice := Connection.isChoice_of_foreign h
  have hturn : s.turn? (.meanwhile e) = some (s.standing, e) := by simp [turn?, hchoice]
  exact words_of_turn hturn (Connection.owner_silent h s.connection)

theorem Phase.meanwhile_foreign (h : Phase g s said) (hg : g.Grow g') {e : Connection.Event} (he : e.isForeign = true) :
    Phase g' (s.step (.meanwhile e)) (said ++ s.words (.meanwhile e)) := by
  have hchoice := Connection.isChoice_of_foreign he
  have hkept : Phase g' ⟨s.standing, s.connection.react e⟩ said :=
    h.keep hg rfl (Connection.react_owner he s.connection) fun ha => Connection.react_stopped ha e
  rw [words_foreign he, List.append_nil, step_meanwhile s hchoice, hkept.conclude_eq]
  exact hkept

theorem Phase.meanwhile_call (h : Phase g s said) (hg : g.Grow g')
    (hheard : ∀ goal deadline body, s.connection.call = some ⟨goal, .waiting 1 deadline, .answered body⟩ →
      body.get? "error" = none → g'.heard) :
    Phase g' (s.step (.meanwhile .call)) (said ++ s.words (.meanwhile .call)) := by
  have hwords : s.words (.meanwhile .call) = (s.connection.queued .call).filterMap Command.frame? := rfl
  rw [hwords, step_meanwhile s rfl]
  -- Without a call nothing is said.
  have hsilent : s.connection.owner.call = none →
      Phase g' (conclude ⟨s.standing, s.connection.react .call⟩)
        (said ++ (s.connection.queued .call).filterMap Command.frame?) := by
    intro hnone
    have hcall : s.connection.call = none := (Connection.call_eq_none_iff _).1 hnone
    have hkept : Phase g' s said := h.keep hg rfl rfl id
    rw [Connection.queued_call_of_none hcall, Connection.react_call_of_none hcall, List.filterMap_nil,
      List.append_nil]
    exact hkept.conclude_eq.symm ▸ hkept
  cases h with
  | launched hs ho => exact hsilent (congrArg Owner.call ho)
  | running hs ho htold hheard => exact hsilent (congrArg Owner.call ho)
  | gone hs ho hsaid => exact hsilent ho
  | starting hs ho htold hsaid =>
    obtain ⟨slot, hcall⟩ := Connection.call_of_owner (congrArg Owner.call ho)
    rw [hs]
    refine .opening (Connection.call_turn hcall) rfl ho (hg.told _ htold) ?_ (hsaid.grow hg)
    rintro deadline body rfl rfl hbody
    exact hheard _ _ _ hcall hbody
  | stopping hs ho htold hheard hasked hsaid =>
    obtain ⟨slot, hcall⟩ := Connection.call_of_owner ho
    rw [hs]
    exact .parting (Connection.call_turn hcall) rfl ho (fun ha => Connection.react_stopped ha _)
      (hg.told _ htold) (hg.heard hheard) (hg.asked _ hasked) hsaid

theorem owner_react_start {c : Connection} (goal : Goal) (hgoal : goal.makesRequest) {nextId : Nat}
    {returned : List Returned} (ho : c.owner = ⟨none, nextId, false, returned⟩) :
    (c.react (.start goal)).owner =
      if c.pending.isSome then ⟨some (goal, .sending nextId), nextId + 1, false, returned⟩
      else (⟨none, nextId + 1, false, returned⟩ : Owner).settled goal none (.error (.closed c.name)) := by
  have hcall : c.call = none := (Connection.call_eq_none_iff c).1 (congrArg Owner.call ho)
  have hused : c.usedUp = false := congrArg Owner.usedUp ho
  have hnext : c.nextId = nextId := congrArg Owner.nextId ho
  have hreact : c.react (.start goal) = c.beginRequest goal := by
    rw [Connection.react, Connection.next?, Connection.start_request hgoal hcall hused]
    rfl
  rw [hreact, Connection.owner_beginRequest, ho, hnext]

theorem Phase.of_launched (h : Phase g s said) (hs : s.standing = .launched) :
    said = [] ∧ s.connection.owner = ⟨none, 1, false, []⟩ := by
  cases h with
  | launched _ ho => exact ⟨rfl, ho⟩
  | starting hs' => exact absurd (hs.symm.trans hs') (by simp)
  | running hs' => exact absurd (hs.symm.trans hs') (by simp)
  | stopping hs' => exact absurd (hs.symm.trans hs') (by simp)
  | gone hs' => exact absurd (hs.symm.trans hs') (by simp)

theorem Phase.of_running (h : Phase g s said) (hs : s.standing = .running) :
    ∃ params goal id answer, said = [introduction params, confirmation] ∧ g.told params ∧ g.heard ∧
      s.connection.owner = ⟨none, 2, false, [⟨goal, id, .ok answer⟩]⟩ := by
  cases h with
  | launched hs' => exact absurd (hs.symm.trans hs') (by simp)
  | starting hs' => exact absurd (hs.symm.trans hs') (by simp)
  | running _ ho htold hheard => exact ⟨_, _, _, _, rfl, htold, hheard, ho⟩
  | stopping hs' => exact absurd (hs.symm.trans hs') (by simp)
  | gone hs' => exact absurd (hs.symm.trans hs') (by simp)

/-- An event that cannot happen says nothing. -/
theorem Phase.ignore (h : Phase g s said) (hg : g.Grow g') {e : Service.Event} (he : s.turn? e = none) :
    Phase g' (s.step e) (said ++ s.words e) := by
  have hstep : s.step e = s := by simp only [Service.step, he]
  have hwords : s.words e = [] := by simp only [words, he]
  rw [hstep, hwords, List.append_nil]
  exact h.keep hg rfl rfl id

theorem Phase.introduce (h : Phase g s said) (hs : s.standing = .launched) {params : Json}
    (htold : g'.told params) : Phase g' (s.step (.introduce params)) (said ++ s.words (.introduce params)) := by
  obtain ⟨rfl, ho⟩ := h.of_launched hs
  have hturn : s.turn? (.introduce params) = some (.starting, .start (.handshake params)) := by
    simp only [turn?, hs]
  have hstep : s.step (.introduce params) =
      conclude ⟨.starting, s.connection.react (.start (.handshake params))⟩ := by
    simp only [Service.step, hturn]
  have hwords : s.words (.introduce params) = [] :=
    words_of_turn hturn (by rw [Connection.queued_of_toSend rfl, ite_self])
  have ho' := owner_react_start (.handshake params) rfl ho
  rw [hstep, hwords]
  split at ho'
  · exact .begins ho' htold .sending
  · exact .fails ho' .nothing

theorem Phase.stop (h : Phase g s said) (hg : g.Grow g') (hs : s.standing = .running)
    (hasked : g'.asked s.connection.pending.isNone) : Phase g' (s.step .stop) (said ++ s.words .stop) := by
  obtain ⟨params, goal, id, answer, rfl, htold, hheard, ho⟩ := h.of_running hs
  have hturn : s.turn? .stop = some (.stopping, .start (.shutdown Client.grace)) := by simp only [turn?, hs]
  have hstep : s.step .stop = conclude ⟨.stopping, s.connection.react (.start (.shutdown Client.grace))⟩ := by
    simp only [Service.step, hturn]
  have hwords : s.words .stop = [] := words_of_turn hturn (by rw [Connection.queued_of_toSend rfl, ite_self])
  have ho' := owner_react_start (.shutdown Client.grace) rfl ho
  rw [hstep, hwords]
  split at ho'
  · exact .parts (congrArg Owner.call ho') (hg.told _ htold) (hg.heard hheard) hasked .sending
  · rename_i hclosed
    refine .parts (congrArg Owner.call ho') (hg.told _ htold) (hg.heard hheard) hasked (.refused _ (.inl ?_))
    simpa using hclosed

theorem Phase.giveUp (h : Phase g s said) (hg : g.Grow g') :
    Phase g' (s.step .giveUp) (said ++ s.words .giveUp) := by
  cases hturn : s.turn? .giveUp with
  | none => exact h.ignore hg hturn
  | some turn =>
    have hdropped : turn = (.gone, .cancel) := by
      simp only [turn?] at hturn
      split at hturn <;> simp_all
    subst hdropped
    have hstep : s.step .giveUp = ⟨.gone, s.connection.react .cancel⟩ := by
      simp only [Service.step, hturn]
      exact conclude_of_settled (by simp) (by simp) _
    have hwords : s.words .giveUp = [] :=
      words_of_turn hturn (by rw [Connection.queued_of_toSend rfl, ite_self])
    rw [hstep, hwords, List.append_nil]
    exact .gone rfl (Connection.owner_cancel_call _) (h.spoken.grow hg)

end Steps

section Runs
variable (name : String) (level : TraceLevel) (clock : String) (target : Target)

/-- The answer that a call has got was dispatched before. -/
theorem heard_of_answered (events : List Service.Event) {goal : Goal} {deadline : Option Nat} {body : Json}
    (hcall : ((fresh name level clock target).serve events).connection.call =
      some ⟨goal, .waiting 1 deadline, .answered body⟩)
    (hbody : body.get? "error" = none) : ((fresh name level clock target).grounds events).heard := by
  have htracks := Connection.tracks_follow name level clock target
    ((fresh name level clock target).connectionEvents events)
  rw [serve_connection] at hcall
  have hanswer := (htracks.call _ hcall 1 rfl).slot
  obtain ⟨note, hmem, hnote⟩ := List.exists_of_findSome?_eq_some hanswer
  obtain ⟨message, registered, rfl, -, hclass⟩ := Connection.Note.answer?_eq_some.1 hnote
  exact ⟨message, registered, body, hmem, hclass, hbody⟩

def spokenWords (s : Service) (events : List Service.Event) : List Json :=
  (Connection.commandsOf .owner (s.connection.queuings (s.connectionEvents events))).filterMap Command.frame?

theorem spokenWords_concat (s : Service) (events : List Service.Event) (e : Service.Event) :
    s.spokenWords (events ++ [e]) = s.spokenWords events ++ (s.serve events).words e := by
  rw [spokenWords, connectionEvents_concat, Connection.queuings_append, Connection.commandsOf_append,
    List.filterMap_append, ← serve_connection, spokenWords]
  refine congrArg _ ?_
  rw [words]
  cases (s.serve events).turn? e with
  | none => rfl
  | some turn =>
    obtain ⟨standing, e'⟩ := turn
    simp only [Option.map_some, Option.toList_some, Connection.queuings, List.append_nil,
      Connection.commandsOf_map]

theorem Phase.step (events : List Service.Event) (e : Service.Event) {said : List Json}
    (h : Phase ((fresh name level clock target).grounds events) ((fresh name level clock target).serve events) said) :
    Phase ((fresh name level clock target).grounds (events ++ [e]))
      (((fresh name level clock target).serve events).step e)
      (said ++ ((fresh name level clock target).serve events).words e) := by
  have hg := grounds_grow (fresh name level clock target) events e
  cases e with
  | introduce params =>
    by_cases hs : ((fresh name level clock target).serve events).standing = .launched
    · exact h.introduce hs (List.mem_append_right _ List.mem_cons_self)
    · exact h.ignore hg (by simp only [turn?])
  | stop =>
    by_cases hs : ((fresh name level clock target).serve events).standing = .running
    · exact h.stop hg hs ⟨events, [], rfl, hs, rfl⟩
    · exact h.ignore hg (by simp only [turn?])
  | giveUp => exact h.giveUp hg
  | meanwhile e =>
    cases hchoice : e.isChoice with
    | true => exact h.ignore hg (by simp [turn?, hchoice])
    | false =>
      by_cases hcall : e = .call
      · subst hcall
        -- Only here does the call learn of its answer, so only here the history is asked.
        refine h.meanwhile_call hg fun goal deadline body hanswer hbody => ?_
        exact hg.heard (heard_of_answered name level clock target events hanswer hbody)
      · exact h.meanwhile_foreign hg (Connection.isForeign_of_not_call hchoice hcall)

theorem phase_serve (events : List Service.Event) :
    Phase ((fresh name level clock target).grounds events) ((fresh name level clock target).serve events)
      ((fresh name level clock target).spokenWords events) := by
  induction events using List.reverseRecOn with
  | nil => exact .launched rfl rfl
  | append_singleton events e ih =>
    rw [serve_concat, spokenWords_concat]
    exact ih.step name level clock target events e

end Runs

open Connection (isCall)

/-- The frames in the channel that call the server are those that the owner has queued. -/
theorem calls_eq {queued : List (Connection.Sender × Command)}
    (hreader : ∀ frame, .send frame ∈ Connection.commandsOf .reader queued → isCall frame = false)
    (howner : ∀ frame, .send frame ∈ Connection.commandsOf .owner queued → isCall frame = true) :
    ((queued.map Prod.snd).filterMap Command.frame?).filter isCall =
      (Connection.commandsOf .owner queued).filterMap Command.frame? := by
  induction queued with
  | nil => rfl
  | cons entry queued ih =>
    obtain ⟨sender, command⟩ := entry
    simp only [Connection.commandsOf_cons] at hreader howner ⊢
    have hrest := ih (fun frame h => hreader frame (List.mem_append_right _ h))
      fun frame h => howner frame (List.mem_append_right _ h)
    rw [List.map_cons, List.filterMap_append, ← hrest]
    cases command with
    | shutdown => cases sender <;> rfl
    | send frame =>
      cases sender with
      | reader =>
        have hframe : isCall frame = false := hreader frame List.mem_cons_self
        exact List.filter_cons_of_neg (by simp [hframe])
      | owner => exact List.filter_cons_of_pos (howner frame List.mem_cons_self)

theorem isCall_methodNotFound (id : Json) (method : String) : isCall (Message.methodNotFound id method) = false :=
  rfl

section Frames
variable (name : String) (level : TraceLevel) (clock : String) (target : Target) (events : List Service.Event)

theorem serve_accepted :
    ((fresh name level clock target).serve events).connection.channel.accepted =
      ((Connection.opened name level clock target).queuings
        ((fresh name level clock target).connectionEvents events)).map Prod.snd := by
  rw [serve_connection]
  exact (Connection.accounts_follow name level clock target _).accepted

theorem calls_serve :
    (((fresh name level clock target).serve events).connection.channel.accepted.filterMap Command.frame?).filter
        isCall = (fresh name level clock target).spokenWords events := by
  rw [serve_accepted]
  refine calls_eq (fun frame h => ?_) fun frame h => ?_
  · have hreply := (Connection.reader_queued name level clock target _).subset h
    obtain ⟨id, method, rfl⟩ := Connection.eq_methodNotFound_of_mem_replies hreply
    exact isCall_methodNotFound id method
  · exact Connection.isCall_of_mem_script ((Connection.owner_queued name level clock target _).subset h)

theorem eq_methodNotFound_of_accepted {frame : Json}
    (h : .send frame ∈ ((fresh name level clock target).serve events).connection.channel.accepted)
    (hcall : isCall frame = false) : ∃ id method, frame = Message.methodNotFound id method := by
  rw [serve_accepted] at h
  obtain ⟨⟨sender, command⟩, hmem, rfl⟩ := List.mem_map.1 h
  cases sender with
  | reader =>
    have hreply := (Connection.reader_queued name level clock target _).subset (Connection.mem_commandsOf hmem)
    exact Connection.eq_methodNotFound_of_mem_replies hreply
  | owner =>
    have hscript := (Connection.owner_queued name level clock target _).subset (Connection.mem_commandsOf hmem)
    rw [Connection.isCall_of_mem_script hscript] at hcall
    cases hcall

end Frames

/-- In every run of service, and so for every server that a client runs, abandons or parts from: of the frames that
the client queues, those that call the server are its introduction, the confirmation, the closing request and the
last notification, in this order and from the first on, where only the closing request may be left out. The client
confirms only what the server has answered without an error, and closes only when it is stopped after a successful
start; it leaves the closing request out only if the table of waiting requests was closed when it was stopped. All
other frames say that a method was not found. -/
theorem conversation_in_order :
    (∀ name level clock target (events : List Service.Event),
      let s := (fresh name level clock target).serve events
      let frames := s.connection.channel.accepted.filterMap Command.frame?
      Spoken ((fresh name level clock target).grounds events) (frames.filter isCall) ∧
      (∀ frame ∈ frames, isCall frame = false → ∃ id method, frame = Message.methodNotFound id method) ∧
      (s.standing = .running → s.connection.call = none ∧ Client.outcome s.connection = .done)) ∧
    ∀ session process clock (ops : List Client.Op),
      let client := ({ Client.ofSession session with process := process, clock := clock } : Client).after ops
      (∀ server, client.running = some server → ∀ patience,
        ∃ name level clock target events more,
          (fresh name level clock target).serve events = ⟨.running, server.connection⟩ ∧
            ((fresh name level clock target).serve (events ++ .stop :: more)).connection =
              (Client.goodbye patience server).connection) ∧
      ∀ server ∈ client.abandoned, ∃ name level clock target events standing,
        (fresh name level clock target).serve events = ⟨standing, server.connection⟩ := by
  refine ⟨fun name level clock target events => ⟨?_, ?_, ?_⟩, fun session process clock ops => ?_⟩
  · rw [calls_serve]
    exact (phase_serve name level clock target events).spoken
  · intro frame hframe hcall
    obtain ⟨command, hmem, hcommand⟩ := List.mem_filterMap.1 hframe
    cases command with
    | shutdown => cases hcommand
    | send sent =>
      cases hcommand
      exact eq_methodNotFound_of_accepted name level clock target events hmem hcall
  · intro hrunning
    obtain ⟨params, goal, id, answer, -, -, -, ho⟩ :=
      (phase_serve name level clock target events).of_running hrunning
    have hreturned : ((fresh name level clock target).serve events).connection.returned =
        [⟨goal, id, .ok answer⟩] := congrArg Owner.returned ho
    exact ⟨(Connection.call_eq_none_iff _).1 (congrArg Owner.call ho), by simp [Client.outcome, hreturned]⟩
  · have hunused : ({ Client.ofSession session with process := process, clock := clock } : Client).Hosts :=
      .of_unused rfl rfl
    have hafter := hunused.after ops
    refine ⟨fun server hserver patience => ?_, fun server hserver => ?_⟩
    · obtain ⟨name, level, clock, target, events, more, hserve, hparted, -⟩ :=
        Client.goodbye_run (hafter.running server hserver) patience
      exact ⟨name, level, clock, target, events, more, hserve, hparted⟩
    obtain ⟨standing, name, level, clock, target, events, hserve⟩ := hafter.abandoned server hserver
    exact ⟨name, level, clock, target, events, standing, hserve⟩

-- All four are said if the server answers the introduction but not the goodbye.
set_option maxRecDepth 4096 in
example :
    ((fresh "s" .off "" {}).serve
      [.introduce .null, .meanwhile .call,
        .meanwhile (.receive (Bytes.ofString "Content-Length: 22\r\n\r\n\x7b\"id\":1,\"result\":null\x7d")),
        .meanwhile .reader, .meanwhile .call, .meanwhile .call, .stop, .meanwhile .call,
        .meanwhile (.advance Client.grace), .meanwhile .call, .meanwhile .call,
        .meanwhile .call]).connection.channel.accepted =
      [.send (introduction .null), .send confirmation, .send shutdownRequest, .send exitNotice] := by
  cbv

end Service

end LspClient
