import Mathlib.Data.List.Basic
import LspClient.Proofs.SettledRequests
import LspClient.Proofs.ShutdownProgress

/-!
# What a shutdown comes to

A shutdown tries once to say `exit`, when its request is settled, and succeeds in it whenever the writer still takes
commands. It returns no error just if the request was answered without one and in time, and `exit` was queued. When it
returns, the writer has written all that was queued before its end, or has failed. But it comes to neither behind a
server that stops reading: neither the room for the request and for `exit` nor the writer is waited for with a limit.
-/

namespace LspClient.Connection

open scoped List

/-! ## Saying exit -/

theorem idle_of_start {c : Connection} {goal : Goal} (h : (c.start goal).isOk = true) :
    c.call = none ∧ c.usedUp = false := by
  unfold start at h
  split at h
  · cases h
  · rename_i hcall
    split at h
    · cases h
    · rename_i hused
      exact ⟨by simpa using hcall, by simpa using hused⟩

theorem of_farewell {c : Connection} {e : Event} {f : Farewell} (h : c.farewell? e = some f) :
    (∃ timeout r, c.owner.call = some (.shutdown timeout, .notifying r)) ∧ (f = .queued ↔ c.accepts = true) ∧
      c.queued e = f.commands := by
  cases e with
  | call =>
    have hsome := h
    simp only [farewell?] at hsome
    split at hsome
    · rename_i timeout r slot hc
      exact ⟨⟨timeout, r, by simp [owner, hc]⟩, (call_turn hc).said hc h⟩
    · cases hsome
  | _ => cases h

section Leaving
variable {d : Departure} {accepts : Bool} {now : Nat} {rs : List (Except CallError Answer)} {commands : List Command}
  {fs : List Farewell}

theorem Leaving.exists_reached {o : Owner} (h : Leaving d accepts now o rs commands fs) :
    ∃ stage, Reached d accepts now stage rs commands fs := by
  cases h with
  | going _ _ hreached => exact ⟨_, hreached⟩
  | left _ _ _ _ hreached => exact ⟨_, hreached⟩

theorem Reached.attempts {stage : Stage} (h : Reached d accepts now stage rs commands fs) : fs.length ≤ 1 := by
  cases h <;> simp

/-- The request comes first, if it comes at all, then `exit`, and then the end of the writer. -/
theorem Reached.commands_eq {stage : Stage} (h : Reached d accepts now stage rs commands fs) :
    ∃ asked closed, commands = asked ++ fs.flatMap Farewell.commands ++ closed ∧
      (asked = [] ∨ asked = [d.request]) ∧ (closed = [] ∨ closed = [.shutdown]) := by
  cases h with
  | asking => exact ⟨[], [], rfl, .inl rfl, .inl rfl⟩
  | waiting => exact ⟨[d.request], [], rfl, .inr rfl, .inl rfl⟩
  | expired => exact ⟨[d.request], [], rfl, .inr rfl, .inl rfl⟩
  | notifying hasked => exact ⟨_, [], by simp, hasked, .inl rfl⟩
  | closing hasked => exact ⟨_, [], by simp, hasked, .inl rfl⟩
  | joining hasked hclosed => exact ⟨_, _, by simp, hasked, hclosed⟩

theorem Leaving.results_of_notifying {o : Owner} (h : Leaving d accepts now o rs commands fs) {goal : Goal}
    {r : Except CallError Answer} (hstage : o.call = some (goal, .notifying r)) : rs = [r] := by
  cases h with
  | left hcall => cases hcall.symm.trans hstage
  | going hcall hreturned hreached =>
    cases hcall.symm.trans hstage
    cases hreached with
    | notifying => rfl

/-- A shutdown that is over has a result of its request and has tried to say `exit`. -/
theorem Leaving.of_over {o : Owner} (h : Leaving d accepts now o rs commands fs) (hnone : o.call = none) :
    ∃ r f, rs = [r] ∧ fs = [f] ∧ accepts = false ∧
      o.returned = d.returned ++
        [⟨d.goal, none, (shutdownResult r (f.outcome d.name)).mapError (Goal.failure d.goal)⟩] ∧
      Reason d now (f = .refused) r := by
  cases h with
  | going hcall => cases hnone.symm.trans hcall
  | @left result hcall hused haccepts hreturned hreached =>
    generalize hstage : Stage.joining result = stage at hreached
    cases hreached with
    | joining hasked hclosed hr =>
      cases hstage
      exact ⟨_, _, rfl, rfl, haccepts, hreturned, hr⟩
    | _ => cases hstage

end Leaving

/-- When a shutdown says `exit`, its request has a result. -/
theorem exists_settled_of_farewell {c : Connection} {timeout : Nat} (hcall : c.call = none) (hused : c.usedUp = false)
    {during sofar rest : List Event} {e : Event} {f : Farewell} (hheld : .cancel ∉ during)
    (hrun : .start (.shutdown timeout) :: during = sofar ++ e :: rest) (hf : (c.follow sofar).farewell? e = some f) :
    ∃ r, .settled c.nextId r ∈ c.history sofar := by
  obtain ⟨⟨timeout', r, hstage⟩, -⟩ := of_farewell hf
  cases sofar with
  | nil =>
    cases hrun
    cases hf
  | cons first sofar =>
    obtain ⟨rfl, rfl⟩ := List.cons.inj hrun
    have hleaving := leaving_follow timeout hcall hused fun hmem => hheld (List.mem_append_left (e :: rest) hmem)
    refine ⟨r, mem_resultsOf.1 ?_⟩
    rw [hleaving.results_of_notifying hstage]
    exact List.mem_singleton.2 rfl

/-! ## The result -/

theorem isOk_shutdownResult (r : Except CallError Answer) (f : Farewell) (name : String) (goal : Goal) :
    ((shutdownResult r (f.outcome name)).mapError (Goal.failure goal)).isOk = true ↔
      (∃ answer, r = .ok answer) ∧ f = .queued := by
  have hmap : ∀ x : Except CallError Answer, (x.mapError (Goal.failure goal)).isOk = x.isOk := by
    intro x
    cases x <;> rfl
  rw [hmap]
  cases r <;> cases f <;> simp [shutdownResult, Farewell.outcome, Except.isOk, Except.toBool]

/-- A request succeeds if it is answered without an error and in time, except where nobody could be asked. -/
theorem Outcome.succeeds_iff {name : String} {goal : Goal} {id : Nat} {notes : List Note}
    {r : Except CallError Answer} (h : Outcome name goal id notes r)
    (hclosed : r = .error (.closed name) → firstAnswer? id notes = none) :
    (∃ value, r = .ok value) ↔
      (∃ body, firstAnswer? id notes = some body ∧ body.get? "error" = none) ∧ .expired id ∉ notes := by
  cases h with
  | value body hsent hintime hbody h => simp [hbody, h, hintime]
  | refused body error hsent hintime hbody h => simp [hbody, h]
  | hungUp hsent hintime hnone => simp [hnone]
  | timedOut limit hsent hexpired hlimit => simp [hexpired]
  | closed hunsent => simp [hclosed rfl]

section Opened
variable (name : String) (level : TraceLevel) (clock : String) (target : Target) (before : List Event)

/-- A request that begins when the table is closed is never answered. -/
theorem firstAnswer?_of_closed (hclosed : ((opened name level clock target).follow before).pending = none)
    (run : List Event) :
    firstAnswer? ((opened name level clock target).follow before).nextId
      ((opened name level clock target).history (before ++ run)) = none := by
  have hfresh : firstAnswer? ((opened name level clock target).follow before).nextId
      ((opened name level clock target).history before) = none := (tracks_follow name level clock target before).fresh.1
  rw [history_append, firstAnswer?_append, hfresh, Option.none_or]
  refine firstAnswer?_eq_none fun sofar e rest _ => ?_
  have hstill : (((opened name level clock target).follow before).follow sofar).pending = none := by
    rw [← follow_append, pending_eq_none_iff, history_append]
    exact List.mem_append_left _ ((pending_eq_none_iff name level clock target before).1 hclosed)
  rw [hstill]
  exact List.not_mem_nil

end Opened

/-! ## What is written -/

theorem react_departs {c : Connection} (h : c.owner.Departs) (e : Event) : (c.react e).owner.Departs := by
  cases h with
  | gone h => exact .gone (react_gone h e)
  | going hcall =>
    obtain ⟨slot, hc⟩ := call_of_owner hcall
    cases e with
    | start goal =>
      rw [Owner.Departs.react_start (.going hcall) goal]
      exact .going hcall
    | cancel => exact .gone ⟨owner_cancel_call c, by simp [react, next?, cancel, hc, owner, Goal.isShutdown]⟩
    | call => exact (call_turn hc).departs hcall
    | _ =>
      rw [react_owner rfl]
      exact .going hcall

theorem follow_departs {c : Connection} (h : c.owner.Departs) (events : List Event) :
    (c.follow events).owner.Departs :=
  follow_keeps (P := (·.owner.Departs)) (fun e _ _ h => react_departs h e) h

/-- A connection on which a shutdown was begun is at it or has made it. -/
theorem departs_of_calls {c : Connection} {events : List Event} {id timeout : Nat}
    (h : (id, .shutdown timeout) ∈ c.calls events) : (c.follow events).owner.Departs := by
  induction events generalizing c with
  | nil => cases h
  | cons e events ih =>
    rcases List.mem_append.1 h with hnow | hlater
    · refine follow_departs ?_ events
      cases e with
      | start goal =>
        simp only [begun] at hnow
        split at hnow
        · rename_i hok
          cases List.mem_singleton.1 hnow
          obtain ⟨hcall, hused⟩ := idle_of_start hok
          obtain ⟨a, haway⟩ := exists_away_start timeout hcall hused
          exact haway.departs
        · cases hnow
      | _ => cases hnow
    · exact ih hlater

theorem exists_shutdown_of_script {calls : List (Nat × Goal)} (h : .shutdown ∈ script calls) :
    ∃ id timeout, (id, .shutdown timeout) ∈ calls := by
  obtain ⟨⟨id, goal⟩, hmem, hcommand⟩ := List.mem_flatMap.1 h
  cases goal with
  | shutdown timeout => exact ⟨id, timeout, hmem⟩
  | _ => simp [Goal.commands, Goal.afterwards, Goal.ending, Goal.makesRequest] at hcommand

theorem shutdown_not_mem_replies (notes : List Note) : .shutdown ∉ replies notes := by
  intro h
  obtain ⟨note, -, hnote⟩ := List.mem_filterMap.1 h
  cases note with
  | dispatched message registered =>
    obtain ⟨reply, -, hreply⟩ := Option.map_eq_some_iff.1 hnote
    cases hreply
  | _ => cases hnote

section Opened
variable (name : String) (level : TraceLevel) (clock : String) (target : Target)

/-- The reader never ends the writer. -/
theorem shutdown_not_mem_reader (events : List Event) :
    .shutdown ∉ commandsOf .reader ((opened name level clock target).queuings events) :=
  fun h => shutdown_not_mem_replies _ ((reader_queued name level clock target events).subset h)

/-- The command that ends the writer is in no channel before a shutdown. -/
theorem shutdown_not_mem_accepted {before : List Event}
    (hcall : ((opened name level clock target).follow before).call = none)
    (hused : ((opened name level clock target).follow before).usedUp = false) :
    .shutdown ∉ ((opened name level clock target).follow before).channel.accepted := by
  intro h
  rw [accepted_follow, show (opened name level clock target).channel.accepted = [] from rfl, List.nil_append] at h
  obtain ⟨⟨sender, command⟩, hmem, rfl⟩ := List.mem_map.1 h
  cases sender with
  | reader => exact shutdown_not_mem_reader name level clock target before (mem_commandsOf hmem)
  | owner =>
    have hscript := (owner_queued name level clock target before).subset (mem_commandsOf hmem)
    obtain ⟨id, timeout, hbegun⟩ := exists_shutdown_of_script hscript
    cases departs_of_calls hbegun with
    | going hgoing => cases ((call_eq_none_iff _).2 hcall).symm.trans hgoing
    | gone hgone => cases hused.symm.trans hgone.usedUp

end Opened

/-- What the owner queues before the end of the writer is among what the writer gets before its end. -/
theorem mem_frames_of_spoken {old spoken closed : List Command} {queued : List (Sender × Command)}
    (hold : .shutdown ∉ old) (hreader : .shutdown ∉ commandsOf .reader queued) (hspoken : .shutdown ∉ spoken)
    (hclosed : closed = [] ∨ closed = [.shutdown]) (howner : commandsOf .owner queued = spoken ++ closed)
    {frames : List Json} {rest : List Command}
    (haccepted : old ++ queued.map Prod.snd = frames.map .send ++ .shutdown :: rest) {command : Command}
    (hcommand : command ∈ spoken) : command ∈ frames.map .send := by
  -- The frames go on where the old commands end.
  obtain ⟨new, hnew, hqueued⟩ :
      ∃ new, frames.map .send = old ++ new ∧ queued.map Prod.snd = new ++ .shutdown :: rest := by
    rcases List.append_eq_append_iff.1 haccepted with ⟨new, hnew, hqueued⟩ | ⟨new, hnew, hqueued⟩
    · exact ⟨new, hnew, hqueued⟩
    · cases new with
      | nil => exact ⟨[], by simpa using hnew.symm, by simpa using hqueued.symm⟩
      | cons first new =>
        cases hqueued
        exact absurd (by simp [hnew]) hold
  obtain ⟨queued₁, queued₂, rfl, rfl, htail⟩ := List.map_eq_append_iff.1 hqueued
  obtain ⟨⟨sender, ending⟩, queued₃, rfl, hending, -⟩ := List.map_eq_cons_iff.1 htail
  cases hending
  cases sender with
  | reader => exact absurd (mem_commandsOf (by simp)) hreader
  | owner =>
    rw [commandsOf_append, commandsOf_cons, if_pos rfl, List.singleton_append] at howner
    have hsub : ∀ {x : Command}, x ∈ commandsOf .owner queued₁ → x ∈ frames.map .send := by
      intro x hx
      obtain ⟨⟨sender, x'⟩, hmem, hx'⟩ := List.mem_filterMap.1 hx
      rw [hnew]
      refine List.mem_append_right _ (List.mem_map.2 ⟨_, hmem, ?_⟩)
      split at hx'
      · exact Option.some.inj hx'
      · cases hx'
    rcases hclosed with rfl | rfl
    · rw [List.append_nil] at howner
      exact absurd (by simp [← howner]) hspoken
    · obtain ⟨heq, -⟩ := (List.append_cons_inj_of_notMem hspoken List.not_mem_nil).1 howner.symm
      exact hsub (heq ▸ hcommand)

/-- All that was queued before the end of the writer is written, with `exit` if it was queued, or the writer failed at a
frame, of which a proper part is written. -/
inductive Flushed (old : Bytes) (f : Farewell) (c : Connection) : Prop where
  | whole (frames : List Json) (rest : List Command)
      (haccepted : c.channel.accepted = frames.map .send ++ .shutdown :: rest)
      (htaken : c.target.taken = old ++ frames.flatMap Frame.encode)
      (hexit : f = .queued → Message.notification "exit" none ∈ frames)
  | failed (frames : List Json) (frame : Json) (part : Bytes) (rest : List Command)
      (haccepted : c.channel.accepted = frames.map .send ++ .send frame :: rest)
      (htaken : c.target.taken = old ++ frames.flatMap Frame.encode ++ part) (hpart : part <+: Frame.encode frame)
      (hproper : part ≠ Frame.encode frame) (hroom : c.target.room = some 0)

theorem PutOut.flushed {old : Bytes} {f : Farewell} {c : Connection}
    (h : PutOut old c.channel.received c.target .stopped)
    (hexit : ∀ (frames : List Json) rest, c.channel.accepted = frames.map .send ++ .shutdown :: rest → f = .queued →
      Message.notification "exit" none ∈ frames) : Flushed old f c := by
  have hsplit : c.channel.received ++ c.channel.accepted.drop c.channel.taken = c.channel.accepted :=
    List.take_append_drop _ _
  have hfirst : ∀ {frames : List Json} {command : Command}, c.channel.received = frames.map .send ++ [command] →
      c.channel.accepted = frames.map .send ++ command :: c.channel.accepted.drop c.channel.taken := by
    intro frames command hreceived
    rw [hreceived, List.append_assoc, List.singleton_append] at hsplit
    exact hsplit.symm
  cases h with
  | ended frames hreceived htaken =>
    exact .whole frames _ (hfirst hreceived) htaken (hexit frames _ (hfirst hreceived))
  | failed frames frame part hreceived htaken hpart hproper hroom =>
    exact .failed frames frame part _ (hfirst hreceived) htaken hpart hproper hroom

section Opened
variable (name : String) (level : TraceLevel) (clock : String) (target : Target) {before during : List Event}
  (timeout : Nat)

/-- What was settled under the next id is settled in what follows. -/
theorem settled_mem_append_iff (run : List Event) (r : Except CallError Answer) :
    .settled ((opened name level clock target).follow before).nextId r ∈
        (opened name level clock target).history (before ++ run) ↔
      r ∈ resultsOf ((opened name level clock target).follow before).nextId
        (((opened name level clock target).follow before).history run) := by
  have hfresh := (tracks_follow name level clock target before).next_unsettled
  rw [history_append, List.mem_append, mem_resultsOf]
  refine ⟨fun h => h.resolve_left fun hmem => hfresh ?_, .inr⟩
  exact List.mem_filterMap.2 ⟨_, hmem, rfl⟩

theorem outcome_of_shutdown (hcall : ((opened name level clock target).follow before).call = none)
    (hused : ((opened name level clock target).follow before).usedUp = false) {r : Except CallError Answer}
    (hsettled : .settled ((opened name level clock target).follow before).nextId r ∈
      (opened name level clock target).history (before ++ .start (.shutdown timeout) :: during)) :
    Outcome name (.shutdown timeout) ((opened name level clock target).follow before).nextId
      ((opened name level clock target).history (before ++ .start (.shutdown timeout) :: during)) r := by
  obtain ⟨goal, hissued, houtcome⟩ := outcome_of_settled name level clock target hsettled
  have hissued' : .issued ((opened name level clock target).follow before).nextId (.shutdown timeout) ∈
      (opened name level clock target).history (before ++ .start (.shutdown timeout) :: during) := by
    rw [history_append, history]
    exact List.mem_append_right _ (List.mem_append_left _ (issued_of_start rfl hcall hused))
  cases issued_unique (tracks_follow name level clock target _).sound hissued hissued'
  exact houtcome

theorem flushed_of_returned (hcall : ((opened name level clock target).follow before).call = none)
    (hused : ((opened name level clock target).follow before).usedUp = false) (hheld : .cancel ∉ during)
    (hover : (((opened name level clock target).follow before).follow (.start (.shutdown timeout) :: during)).accepts =
      false) {f : Farewell}
    (hf : ((opened name level clock target).follow before).farewells (.start (.shutdown timeout) :: during) = [f]) :
    Flushed target.taken f
      (((opened name level clock target).follow before).follow (.start (.shutdown timeout) :: during)) := by
  have hput := (accounts_follow name level clock target (before ++ .start (.shutdown timeout) :: during)).putOut
  rw [follow_append] at hput
  rw [show Outgoing.writer _ = .stopped from writer_of_stopped hover] at hput
  refine PutOut.flushed hput fun frames rest haccepted hqueued => ?_
  obtain ⟨stage, hreached⟩ := (leaving_follow timeout hcall hused hheld).exists_reached
  obtain ⟨asked, closed, howner, hasked, hclosed⟩ := hreached.commands_eq
  have hold := shutdown_not_mem_accepted name level clock target hcall hused
  have hreader := shutdown_not_mem_reader name level clock target (before ++ .start (.shutdown timeout) :: during)
  rw [queuings_append, commandsOf_append, List.mem_append, not_or] at hreader
  have hspoken : Command.shutdown ∉ asked ++ Farewell.commands .queued := by
    rcases hasked with rfl | rfl <;> simp [Departure.request, Farewell.commands]
  rw [hf, hqueued, List.flatMap_singleton] at howner
  rw [accepted_follow] at haccepted
  have hexit := mem_frames_of_spoken hold hreader.2 hspoken hclosed howner haccepted
    (List.mem_append_right asked (List.mem_singleton.2 rfl))
  simpa using hexit

end Opened

/-! ## Behind a server that stops reading -/

/-- A shutdown waits for room for its request or for `exit`, and the writer is stalled. -/
structure Silenced (timeout : Nat) (rest : Bytes) (c : Connection) : Prop where
  call : (∃ id, c.owner.call = some (.shutdown timeout, .sending id)) ∨
    ∃ r, c.owner.call = some (.shutdown timeout, .notifying r)
  full : c.channel.isFull = true
  stalled : c.Stalled rest

theorem farewells_append (c : Connection) (xs ys : List Event) :
    c.farewells (xs ++ ys) = c.farewells xs ++ (c.follow xs).farewells ys := by
  induction xs generalizing c with
  | nil => rfl
  | cons e xs ih =>
    rw [List.cons_append, farewells, farewells, ih, List.append_assoc]
    rfl

section Silence
variable {d : Departure} {accepts : Bool} {now : Nat} {o : Owner} {rs : List (Except CallError Answer)}
  {commands : List Command} {fs : List Farewell}

/-- At which stages nothing was said yet. -/
theorem Leaving.unspoken_iff (h : Leaving d accepts now o rs commands fs) {timeout : Nat} {stage : Stage}
    (hcall : o.call = some (.shutdown timeout, stage)) : fs = [] ↔ 3 ≤ rank stage := by
  cases h with
  | left hnone => cases hnone.symm.trans hcall
  | going hgoing hreturned hreached =>
    cases hgoing.symm.trans hcall
    cases hreached <;> simp [rank]

theorem Leaving.spoken_of_gone (h : Leaving d accepts now o rs commands fs) (hgone : o.Gone) : fs ≠ [] := by
  obtain ⟨r, f, -, hfs, -⟩ := h.of_over hgone.call
  rw [hfs]
  exact List.cons_ne_nil f []

theorem Kept.silenced {timeout : Nat} {stage : Stage} {rest : Bytes} {c : Connection} (h : Kept timeout stage rest c)
    (hstage : 3 ≤ rank stage) : Silenced timeout rest c := by
  have hcall := h.call
  cases stage with
  | sending id =>
    rcases h.full with ⟨r, hr⟩ | ⟨-, hfull⟩
    · cases hr
    · exact ⟨.inl ⟨id, hcall⟩, hfull, h.stalled⟩
  | notifying r =>
    rcases h.full with ⟨r, hr⟩ | ⟨-, hfull⟩
    · cases hr
    · exact ⟨.inr ⟨r, hcall⟩, hfull, h.stalled⟩
  | waiting id deadline =>
    rcases h.full with ⟨r, hr⟩ | ⟨⟨command, hoffer⟩, -⟩
    · cases hr
    · cases hoffer
  | expired id limit =>
    rcases h.full with ⟨r, hr⟩ | ⟨⟨command, hoffer⟩, -⟩
    · cases hr
    · cases hoffer
  | closing r => simp [rank] at hstage
  | joining r => simp [rank] at hstage

end Silence

section Rows
variable {c : Connection} (timeout : Nat) (hcall : c.call = none) (hused : c.usedUp = false)
  {rows : Nat → List Event} (hrows : ∀ n, Rounds .call (rows n) ∧ .cancel ∉ rows n)
include hcall hused hrows

theorem leaving_along (n : Nat) :
    Leaving (c.departure timeout) ((c.react (.start (.shutdown timeout))).along rows n).accepts
      ((c.react (.start (.shutdown timeout))).along rows n).now
      ((c.react (.start (.shutdown timeout))).along rows n).owner
      (resultsOf c.nextId (c.history (.start (.shutdown timeout) :: firstRows rows n)))
      (commandsOf .owner (c.queuings (.start (.shutdown timeout) :: firstRows rows n)))
      (c.farewells (.start (.shutdown timeout) :: firstRows rows n)) := by
  refine leaving_follow timeout hcall hused ?_
  induction n with
  | zero => exact List.not_mem_nil
  | succ n ih => exact fun hmem => (List.mem_append.1 hmem).elim ih (hrows n).2

variable {timeout} (hregular : c.channel.Regular)
  (htime : ∀ t, ∃ n, t ≤ ((c.react (.start (.shutdown timeout))).along rows n).now)
include hregular htime

theorem gone_or_kept_start :
    (∃ n, ((c.react (.start (.shutdown timeout))).along rows n).owner.Gone) ∨
      ∃ m stage rest, ∀ n, m ≤ n → Kept timeout stage rest ((c.react (.start (.shutdown timeout))).along rows n) := by
  obtain ⟨a, haway⟩ := exists_away_start timeout hcall hused
  exact gone_or_kept (follow_regular [.start (.shutdown timeout)] hregular) (fun n => (hrows n).1)
    (fun n => (hrows n).2) htime haway

/-- A shutdown returns just if the writer is not stalled for good. -/
theorem returns_iff :
    (∃ n, ((c.react (.start (.shutdown timeout))).along rows n).call = none) ↔
      ¬∃ m rest, ∀ n, m ≤ n → ((c.react (.start (.shutdown timeout))).along rows n).Stalled rest := by
  constructor
  · rintro ⟨n, hn⟩ ⟨m, rest, hstalled⟩
    obtain ⟨r, f, -, -, haccepts, -⟩ :=
      (leaving_along timeout hcall hused hrows n).of_over ((call_eq_none_iff _).2 hn)
    have hstopped := along_of_le (P := (·.writer = .stopped)) (fun c events h => (follow_stopped events h).1)
      (Nat.le_max_left n m) (writer_of_stopped haccepts)
    cases hstopped.symm.trans (hstalled (max n m) (Nat.le_max_right n m)).writer
  · intro hfree
    rcases gone_or_kept_start hcall hused hrows hregular htime with ⟨n, hgone⟩ | ⟨m, stage, rest, hkept⟩
    · exact ⟨n, (call_eq_none_iff _).1 hgone.call⟩
    · exact absurd ⟨m, rest, fun n hle => (hkept n hle).stalled⟩ hfree

/-- A shutdown tries to say `exit` just if it is not silenced for good. -/
theorem speaks_iff :
    (∃ n, c.farewells (.start (.shutdown timeout) :: firstRows rows n) ≠ []) ↔
      ¬∃ m rest, ∀ n, m ≤ n → Silenced timeout rest ((c.react (.start (.shutdown timeout))).along rows n) := by
  have hleaving := leaving_along timeout hcall hused hrows
  constructor
  · rintro ⟨n, hn⟩ ⟨m, rest, hsilenced⟩
    obtain ⟨more, hmore⟩ := exists_firstRows rows (Nat.le_max_left n m)
    have hspoken : c.farewells (.start (.shutdown timeout) :: firstRows rows (max n m)) ≠ [] := by
      rw [hmore, ← List.cons_append, farewells_append]
      exact fun h => hn (List.append_eq_nil_iff.1 h).1
    rcases (hsilenced (max n m) (Nat.le_max_right n m)).call with ⟨id, hstage⟩ | ⟨r, hstage⟩
    · exact hspoken (((hleaving (max n m)).unspoken_iff hstage).2 (by simp [rank]))
    · exact hspoken (((hleaving (max n m)).unspoken_iff hstage).2 (by simp [rank]))
  · intro hfree
    rcases gone_or_kept_start hcall hused hrows hregular htime with ⟨n, hgone⟩ | ⟨m, stage, rest, hkept⟩
    · exact ⟨n, (hleaving n).spoken_of_gone hgone⟩
    · -- A shutdown that is kept for good has spoken, or it would be silenced for good.
      refine ⟨m, fun hsilent => hfree ⟨m, rest, fun n hle => (hkept n hle).silenced ?_⟩⟩
      exact ((hleaving m).unspoken_iff (hkept m (Nat.le_refl m)).call).1 hsilent

end Rows

/-- A shutdown that is not dropped tries to say `exit` once at most, when its request has come to a result, and queues
it just if the writer takes commands then; of its commands the request is the first and the end of the writer the last.
When it returns it has tried. It returns no error just if its request was answered without one, while it was registered
and before its time was over, and `exit` was queued; an error of the request is what it returns, whatever became of
`exit`. All that was queued before the end of the writer is written then, or the writer failed. If time goes on and the
writer and the shutdown have their turns again and again, it returns just if the writer is not stalled for good, and it
tries to say `exit` just if it is not silenced for good. -/
theorem shutdown_says_goodbye (name : String) (level : TraceLevel) (clock : String) (target : Target)
    (before during : List Event) (timeout : Nat)
    (hstart : (((opened name level clock target).follow before).start (.shutdown timeout)).isOk = true)
    (hheld : .cancel ∉ during) :
    let c₀ := (opened name level clock target).follow before
    let run := .start (.shutdown timeout) :: during
    let c := c₀.follow run
    let id := c₀.nextId
    let notes := (opened name level clock target).history (before ++ run)
    (c₀.farewells run).length ≤ 1 ∧
    (∀ sofar e rest f, run = sofar ++ e :: rest → (c₀.follow sofar).farewell? e = some f →
      (∃ r, .settled id r ∈ c₀.history sofar) ∧ (f = .queued ↔ (c₀.follow sofar).accepts = true) ∧
        (c₀.follow sofar).queued e = f.commands) ∧
    (∃ asked closed,
      commandsOf .owner (c₀.queuings run) = asked ++ (c₀.farewells run).flatMap Farewell.commands ++ closed ∧
      (asked = [] ∨ asked = [.send (Goal.frame id (.shutdown timeout))]) ∧ (closed = [] ∨ closed = [.shutdown])) ∧
    (c.call = none → ∃ r f result,
      c₀.farewells run = [f] ∧ (∀ r', .settled id r' ∈ notes ↔ r' = r) ∧
      Outcome name (.shutdown timeout) id notes r ∧
      (r = .error (.timedOut "shutdown" timeout) → c₀.now + timeout ≤ c.now) ∧
      c.returned = c₀.returned ++ [⟨.shutdown timeout, none, result⟩] ∧
      (result.isOk = true ↔
        ((∃ body, firstAnswer? id notes = some body ∧ body.get? "error" = none) ∧ .expired id ∉ notes) ∧
          f = .queued) ∧
      (∀ e, r = .error e → result = .error ⟨e.message, []⟩) ∧
      Flushed target.taken f c) ∧
    ∀ rows : Nat → List Event, (∀ n, Rounds .call (rows n) ∧ .cancel ∉ rows n) →
      let started := c₀.react (.start (.shutdown timeout))
      (∀ t, ∃ n, t ≤ (started.along rows n).now) →
        ((∃ n, (started.along rows n).call = none) ↔
          ¬∃ m rest, ∀ n, m ≤ n → (started.along rows n).Stalled rest) ∧
        ((∃ n, c₀.farewells (.start (.shutdown timeout) :: firstRows rows n) ≠ []) ↔
          ¬∃ m rest, ∀ n, m ≤ n → Silenced timeout rest (started.along rows n)) ∧
        (target.window = none → ∃ n, (started.along rows n).call = none) := by
  intro c₀ run c id notes
  obtain ⟨hcall, hused⟩ := idle_of_start hstart
  have hleaving := leaving_follow timeout hcall hused hheld
  obtain ⟨stage, hreached⟩ := hleaving.exists_reached
  refine ⟨hreached.attempts, ?_, hreached.commands_eq, ?_, ?_⟩
  · intro sofar e rest f hrun hf
    exact ⟨exists_settled_of_farewell hcall hused hheld hrun hf, (of_farewell hf).2⟩
  · intro hover
    obtain ⟨r, f, hrs, hfs, haccepts, hreturned, hreason⟩ := hleaving.of_over ((call_eq_none_iff c).2 hover)
    have hsettled : ∀ r', .settled id r' ∈ notes ↔ r' = r := by
      intro r'
      rw [settled_mem_append_iff, show resultsOf _ _ = [r] from hrs, List.mem_singleton]
    have houtcome := outcome_of_shutdown name level clock target timeout hcall hused ((hsettled r).2 rfl)
    refine ⟨r, f, _, hfs, hsettled, houtcome, hreason.late _ _, hreturned, ?_, ?_,
      flushed_of_returned name level clock target timeout hcall hused hheld haccepts hfs⟩
    · rw [isOk_shutdownResult]
      refine and_congr_left fun hqueued => houtcome.succeeds_iff fun hclosed => ?_
      rcases hreason.closed name hclosed with hrefused | hshut
      · cases hqueued.symm.trans hrefused
      · exact firstAnswer?_of_closed name level clock target before hshut _
    · rintro e rfl
      rfl
  · intro rows hrows started htime
    have hregular : c₀.channel.Regular := follow_regular before ⟨Nat.le_refl 0, Nat.zero_le _⟩
    have hreturns := returns_iff hcall hused hrows hregular htime
    refine ⟨hreturns, speaks_iff hcall hused hrows hregular htime, fun hwindow => hreturns.2 ?_⟩
    rintro ⟨m, rest, hstalled⟩
    have hopen := follow_window_none (before ++ .start (.shutdown timeout) :: firstRows rows m)
      (c := opened name level clock target) hwindow
    rw [follow_append] at hopen
    cases hopen.symm.trans (hstalled m (Nat.le_refl m)).window

/-- The server never answers: `exit` is queued and written all the same. -/
theorem shutdown_says_goodbye_unanswered :
    let c₀ := opened "asp-lsp" .off "12:00:00" {}
    let during := [.call, .writer, .writer, .advance 500, .call, .call, .call, .call, .writer, .writer, .writer, .call]
    let run := .start (.shutdown 500) :: during
    (c₀.start (.shutdown 500)).isOk = true ∧ .cancel ∉ during ∧ (c₀.follow run).call = none ∧
    ∃ result, c₀.farewells run = [.queued] ∧ (c₀.follow run).returned = [⟨.shutdown 500, none, result⟩] ∧
      result.isOk ≠ true ∧ Flushed [] .queued (c₀.follow run) := by
  intro c₀ during run
  have hheld : .cancel ∉ during := by simp [during]
  have hover : (c₀.follow run).call = none := by decide +kernel
  have hsaid : c₀.farewells run = [.queued] := by decide +kernel
  have hunanswered : firstAnswer? c₀.nextId (c₀.history ([] ++ run)) = none :=
    Option.isNone_iff_eq_none.1 (by decide +kernel)
  obtain ⟨-, -, -, hreturns, -⟩ := shutdown_says_goodbye "asp-lsp" .off "12:00:00" {} [] during 500 rfl hheld
  obtain ⟨r, f, result, hf, -, -, -, hreturned, hok, -, hflushed⟩ := hreturns hover
  cases hsaid.symm.trans hf
  refine ⟨rfl, hheld, hover, result, hf, hreturned, fun hresult => ?_, hflushed⟩
  obtain ⟨⟨⟨body, hbody, -⟩, -⟩, -⟩ := hok.1 hresult
  cases hunanswered.symm.trans hbody

/-- The server has stopped reading when the shutdown begins. However long that is ago, nothing can go on: the request
waits for room, its time has not begun, and `exit` is never tried. -/
theorem exit_never_tried :
    let run := [.start (.shutdown 2000), .advance 3600000]
    (clogged.start (.shutdown 2000)).isOk = true ∧ (clogged.follow run).canStep = false ∧
      clogged.farewells run = [] ∧ ∃ rest, Silenced 2000 rest (clogged.follow run) := by
  intro run
  have hstart : (clogged.start (.shutdown 2000)).isOk = true := by decide +kernel
  have hfull : (clogged.follow run).channel.isFull = true := by decide +kernel
  have hwindow : (clogged.follow run).target.window = some 0 := by decide +kernel
  have hrests : (clogged.follow run).canStep = false := by decide +kernel
  have hunspoken : clogged.farewells run = [] := by decide +kernel
  have hstage : ∃ id, (clogged.follow run).owner.call = some (.shutdown 2000, .sending id) := by
    obtain ⟨hcall, hused⟩ := idle_of_start hstart
    have hopen : clogged.pending.isSome = true := by decide +kernel
    have hnext := next?_start 2000 hcall hused
    refine ⟨clogged.nextId, ?_⟩
    rw [follow_cons, follow_cons, follow_nil, react_owner rfl, react, hnext, Option.getD_some, owner_beginRequest,
      if_pos hopen]
  have hwriter : (clogged.follow run).writer = clogged.writer := follow_writer_eq (by simp [run]) clogged
  exact ⟨hstart, hrests, hunspoken, _, .inl hstage, hfull, hwriter.trans clogged_stalled.writer, hwindow⟩

end LspClient.Connection
