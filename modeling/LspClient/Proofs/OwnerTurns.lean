import LspClient.Proofs.Traffic

/-!
# The owner's part

The owner of a connection starts calls and drops them, and its call goes on step by step. Nobody else touches the
counter of ids, the goal and the stage of the call, or what calls returned. `CallTurn` lists all that one step of a
call can do to that part, with the notes of it and the commands that it queues. `Held` says what a call waits for.
-/

namespace LspClient.Connection

/-- The part of a connection that only its owner changes. What the call has got from others is left out. -/
structure Owner where
  call : Option (Goal × Stage)
  nextId : Nat
  usedUp : Bool
  returned : List Returned

def owner (c : Connection) : Owner :=
  ⟨c.call.map fun call => (call.goal, call.stage), c.nextId, c.usedUp, c.returned⟩

theorem call_eq_none_iff (c : Connection) : c.owner.call = none ↔ c.call = none :=
  Option.map_eq_none_iff

/-- The call as the owner knows it, with what it has got. -/
theorem call_of_owner {c : Connection} {goal : Goal} {stage : Stage} (h : c.owner.call = some (goal, stage)) :
    ∃ slot, c.call = some ⟨goal, stage, slot⟩ := by
  obtain ⟨⟨goal', stage', slot⟩, hcall, heq⟩ := Option.map_eq_some_iff.1 h
  cases heq
  exact ⟨slot, hcall⟩

def Event.isForeign : Event → Bool
  | .start _ => false
  | .cancel => false
  | .call => false
  | _ => true

/-- What a call is handed by others is not part of the owner's view. -/
theorem owner_hand {c c' : Connection} {ids : List Nat} {slot : Slot}
    (hcall : c'.call = c.call.map (Call.hand ids slot)) (hnext : c'.nextId = c.nextId)
    (hused : c'.usedUp = c.usedUp) (hreturned : c'.returned = c.returned) :
    c'.owner = c.owner := by
  rw [owner, hcall, Option.map_map, hnext, hused, hreturned]
  rfl

theorem Step.owner_eq {c c' : Connection} {e : Event} (h : Step c e c') (he : e.isForeign = true) :
    c'.owner = c.owner := by
  cases h with
  | notice => cases he
  | register => cases he
  | turnAway => cases he
  | cancel => cases he
  | ask => cases he
  | askNobody => cases he
  | settle => cases he
  | hangUp => cases he
  | expire => cases he
  | abandon => cases he
  | say => cases he
  | sayToNobody => cases he
  | close => cases he
  | closeNothing => cases he
  | join => cases he
  | response v rest id body hreader hread hclass => exact owner_hand rfl rfl rfl rfl
  | finish rest hreader hread => exact owner_hand rfl rfl rfl rfl
  | giveUp e rest hreader hread => exact owner_hand rfl rfl rfl rfl
  | breakOff bytes target e hwriter hwindow hput => exact owner_hand rfl rfl rfl rfl
  | _ => rfl

/-- Whatever else happens, the owner's part stays as it is. -/
theorem react_owner {e : Event} (h : e.isForeign = true) (c : Connection) : (c.react e).owner = c.owner := by
  rcases react_cases c e with ⟨-, hstays⟩ | hstep
  · rw [hstays]
  · exact hstep.owner_eq h

theorem follow_owner {events : List Event} (h : ∀ e ∈ events, e.isForeign = true) (c : Connection) :
    (c.follow events).owner = c.owner :=
  follow_keeps (P := (·.owner = c.owner)) (fun e he r hr => (react_owner (h e he) r).trans hr) rfl

def Owner.settled (o : Owner) (goal : Goal) (id : Option Nat) (r : Except CallError Answer) : Owner :=
  match goal, r with
  | .shutdown _, r => { o with call := some (goal, .notifying r) }
  | .handshake _, .ok answer => { o with call := some (goal, .notifying (.ok answer)) }
  | goal, r => { o with call := none, returned := o.returned ++ [⟨goal, id, r.mapError (Goal.failure goal)⟩] }

/-- The owner's part when the notification of its call was sent or refused. -/
def Owner.notified (o : Owner) (goal : Goal) (settled sent : Except CallError Answer) : Owner :=
  match goal, sent with
  | .shutdown _, sent => { o with call := some (goal, .closing (shutdownResult settled sent)) }
  | .handshake _, .ok _ =>
    { o with call := none, returned := o.returned ++ [⟨goal, none, settled.mapError (Goal.failure goal)⟩] }
  | goal, .ok _ => { o with call := none, returned := o.returned ++ [⟨goal, none, .ok .done⟩] }
  | goal, .error e => { o with call := none, returned := o.returned ++ [⟨goal, none, .error ⟨e.message, []⟩⟩] }

theorem owner_afterRequest (c : Connection) (call : Call) (id : Option Nat) (r : Except CallError Answer) :
    (c.afterRequest call id r).owner = c.owner.settled call.goal id r := by
  obtain ⟨goal, stage, slot⟩ := call
  cases goal with
  | handshake params => cases r <;> simp [afterRequest, owner, Goal.goesOn, Owner.settled]
  | _ => simp [afterRequest, owner, Goal.goesOn, Owner.settled]

theorem owner_afterNotification (c : Connection) (call : Call) (settled sent : Except CallError Answer) :
    (c.afterNotification call settled sent).owner = c.owner.notified call.goal settled sent := by
  obtain ⟨goal, stage, slot⟩ := call
  cases goal with
  | shutdown timeout => simp [afterNotification, owner, Goal.isShutdown, Owner.notified]
  | _ => cases sent <;> simp [afterNotification, owner, Goal.isShutdown, Owner.notified, Goal.result]

/-- What keeps a call where it is: a full channel, time that is left for an answer, or the writer. -/
inductive Held (c : Connection) (goal : Goal) (slot : Slot) : Stage → Prop where
  | full {stage : Stage} {command : Command} (hoffer : offered goal stage = some command) (haccepts : c.accepts = true)
      (hfull : c.channel.isFull = true) : Held c goal slot stage
  | early (id : Nat) {deadline : Option Nat} (hslot : slot = .empty)
      (hleft : ∀ t limit, deadline = some t → Goal.timeout goal = some limit → c.now < t) :
      Held c goal slot (.waiting id deadline)
  | unended (settled : Except CallError Answer) (haccepts : c.accepts = true) : Held c goal slot (.joining settled)

/-- All that one step of a call can do: the notes of it, the commands that it queues and the owner's part then. -/
inductive CallTurn (c : Connection) (goal : Goal) (slot : Slot) : Stage → List Note → List Command → Owner → Prop where
  | waits (stage : Stage) (h : Held c goal slot stage) : CallTurn c goal slot stage [] [] c.owner
  | sends (id : Nat) (h : c.accepts = true) :
      CallTurn c goal slot (.sending id) [.sent id] [.send (Goal.frame id goal)]
        { c.owner with call := some (goal, .waiting id ((Goal.timeout goal).map fun limit => c.now + limit)) }
  | refused (id : Nat) (h : c.accepts = false) :
      CallTurn c goal slot (.sending id) [.settled id (.error (.closed c.name))] []
        (c.owner.settled goal (some id) (.error (.closed c.name)))
  | answered (id : Nat) (deadline : Option Nat) (body : Json) (h : slot = .answered body) :
      CallTurn c goal slot (.waiting id deadline) [.settled id (settle (Goal.method goal) body)] []
        (c.owner.settled goal (some id) (settle (Goal.method goal) body))
  | hungUp (id : Nat) (deadline : Option Nat) (h : slot = .lost) :
      CallTurn c goal slot (.waiting id deadline) [.settled id (.error (.hungUp c.name (Goal.method goal)))] []
        (c.owner.settled goal (some id) (.error (.hungUp c.name (Goal.method goal))))
  | expires (id t limit : Nat) (h : t ≤ c.now) :
      CallTurn c goal slot (.waiting id (some t)) [.expired id] []
        { c.owner with call := some (goal, .expired id limit) }
  | timedOut (id limit : Nat) :
      CallTurn c goal slot (.expired id limit) [.settled id (.error (.timedOut (Goal.method goal) limit))] []
        (c.owner.settled goal (some id) (.error (.timedOut (Goal.method goal) limit)))
  | notifies (settled : Except CallError Answer) (h : c.accepts = true) (hroom : c.channel.isFull = false) :
      CallTurn c goal slot (.notifying settled) [] [.send (Goal.notification goal)]
        (c.owner.notified goal settled (.ok .done))
  | unheard (settled : Except CallError Answer) (h : c.accepts = false) :
      CallTurn c goal slot (.notifying settled) [] [] (c.owner.notified goal settled (.error (.closed c.name)))
  | closes (settled : Except CallError Answer) (h : c.accepts = true) :
      CallTurn c goal slot (.closing settled) [] [.shutdown] { c.owner with call := some (goal, .joining settled) }
  | unclosed (settled : Except CallError Answer) (h : c.accepts = false) :
      CallTurn c goal slot (.closing settled) [] [] { c.owner with call := some (goal, .joining settled) }
  | returns (settled : Except CallError Answer) (h : c.accepts = false) :
      CallTurn c goal slot (.joining settled) [] []
        { c.owner with
          call := none
          usedUp := true
          returned := c.owner.returned ++ [⟨goal, none, settled.mapError (Goal.failure goal)⟩] }

theorem queued_call_of_none {c : Connection} (hc : c.call = none) : c.queued .call = [] :=
  seen_of_none (by simp [next?, callStep, hc]) _

theorem react_call_of_none {c : Connection} (hc : c.call = none) : c.react .call = c := by
  simp [react, next?, callStep, hc]

section Turns
variable {c : Connection} {goal : Goal} {stage : Stage} {slot : Slot} (hc : c.call = some ⟨goal, stage, slot⟩)
include hc

theorem held_of_none (h : c.callStep = none) : Held c goal slot stage := by
  simp only [callStep, hc] at h
  have hfull : ∀ {refused sent : Connection} {command : Command}, offered goal stage = some command →
      (if !c.accepts then some refused else if c.channel.isFull then none else some sent) = none →
        Held c goal slot stage := by
    intro refused sent command hoffer hnone
    cases ha : c.accepts <;> cases hf : c.channel.isFull <;> simp [ha, hf] at hnone
    exact .full hoffer ha hf
  cases stage with
  | sending id => exact hfull rfl h
  | waiting id deadline =>
    cases slot with
    | answered body => cases h
    | lost => cases h
    | empty =>
      refine .early id rfl fun t limit hdeadline hlimit => Nat.lt_of_not_le fun hlate => ?_
      simp [hdeadline, hlimit, hlate] at h
  | expired id limit => cases h
  | notifying settled => exact hfull rfl h
  | closing settled => exact hfull rfl h
  | joining settled =>
    cases ha : c.accepts with
    | true => exact .unended settled ha
    | false => simp [ha] at h

theorem Held.react_eq (h : Held c goal slot stage) : c.react .call = c := by
  have hwaits : c.callStep = none := by
    cases h with
    | full hoffer haccepts hfull =>
      cases stage with
      | sending id => simp [callStep, hc, haccepts, hfull]
      | notifying settled => simp [callStep, hc, haccepts, hfull]
      | closing settled => simp [callStep, hc, haccepts, hfull]
      | _ => cases hoffer
    | early id hslot hleft =>
      simp only [callStep, hc, hslot]
      split
      · rename_i t limit hlimit
        exact if_neg (Nat.not_le.2 (hleft t limit rfl hlimit))
      · rfl
    | unended settled haccepts => simp [callStep, hc, haccepts]
  rw [react, next?, hwaits, Option.getD_none]

theorem Step.turn {c' : Connection} (h : Step c .call c') :
    CallTurn c goal slot stage (c.notes .call) (c.entering c.offer?) c'.owner := by
  have hoffer : c.offer? = offered goal stage := by rw [offer?, hc, Option.bind_some]
  rw [hoffer]
  simp only [notes, hc]
  cases h with
  | ask goal' id slot' hcall haccepts hroom =>
    cases hc.symm.trans hcall
    simp only [entering_of_room haccepts hroom, haccepts, if_true]
    exact .sends id haccepts
  | askNobody goal' id slot' hcall haccepts =>
    cases hc.symm.trans hcall
    simp only [entering_of_stopped haccepts, owner_afterRequest, haccepts, Bool.false_eq_true, if_false]
    exact .refused id haccepts
  | settle goal' id deadline body hcall =>
    cases hc.symm.trans hcall
    rw [owner_afterRequest]
    exact .answered id deadline body rfl
  | hangUp goal' id deadline hcall =>
    cases hc.symm.trans hcall
    rw [owner_afterRequest]
    exact .hungUp id deadline rfl
  | expire goal' id t limit hcall hlimit ht =>
    cases hc.symm.trans hcall
    exact .expires id t limit ht
  | abandon goal' id limit slot' hcall =>
    cases hc.symm.trans hcall
    rw [owner_afterRequest]
    exact .timedOut id limit
  | say goal' settled slot' hcall haccepts hroom =>
    cases hc.symm.trans hcall
    rw [entering_of_room haccepts hroom, owner_afterNotification]
    exact .notifies settled haccepts hroom
  | sayToNobody goal' settled slot' hcall haccepts =>
    cases hc.symm.trans hcall
    rw [entering_of_stopped haccepts, owner_afterNotification]
    exact .unheard settled haccepts
  | close goal' settled slot' hcall haccepts hroom =>
    cases hc.symm.trans hcall
    rw [entering_of_room haccepts hroom]
    exact .closes settled haccepts
  | closeNothing goal' settled slot' hcall haccepts =>
    cases hc.symm.trans hcall
    rw [entering_of_stopped haccepts]
    exact .unclosed settled haccepts
  | join goal' settled slot' hcall haccepts =>
    cases hc.symm.trans hcall
    exact .returns settled haccepts

/-- Nothing else is ever done by a step of a call. -/
theorem call_turn : CallTurn c goal slot stage (c.observe .call) (c.queued .call) (c.react .call).owner := by
  rcases react_cases c .call with ⟨hnone, hstays⟩ | hstep
  · rw [hstays, observe, queued, seen_of_none hnone, seen_of_none hnone]
    exact .waits stage (held_of_none hc hnone)
  · rw [observe, queued, hstep.seen_eq, hstep.seen_eq]
    exact hstep.turn hc

end Turns

theorem owner_beginRequest (c : Connection) (goal : Goal) :
    (c.beginRequest goal).owner =
      if c.pending.isSome then { c.owner with call := some (goal, .sending c.nextId), nextId := c.nextId + 1 }
      else { c.owner with nextId := c.nextId + 1 }.settled goal none (.error (.closed c.name)) := by
  unfold beginRequest
  dsimp only
  split
  · rename_i ids hp
    simp [hp, owner]
  · rename_i hp
    rw [owner_afterRequest, hp]
    rfl

theorem owner_cancel_call (c : Connection) : (c.react .cancel).owner.call = none := rfl

end LspClient.Connection
