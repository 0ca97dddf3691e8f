import Mathlib.Logic.Function.Iterate
import LspClient.Proofs.Goodbye
import LspClient.Proofs.Quiescence
import LspClient.Proofs.ServiceRun

/-!
# Waiting for a server

A client that waits for a call looks at both sides turn by turn. Every turn takes time and gives the actors of the
connection theirs. So a goodbye is over for whoever waits long enough, unless the writer stands from some turn on before
a full pipe; then nobody waits long enough.
-/

namespace LspClient

namespace Connection

/-! ## Rounds of a call -/

theorem exhaust_eq_follow (e : Event) (fuel : Nat) (c : Connection) :
    exhaust (·.next? e) fuel c = c.follow (List.replicate fuel e) := by
  induction fuel generalizing c with
  | zero => rfl
  | succ fuel ih =>
    rw [exhaust, List.replicate_succ, follow_cons, react]
    cases hnext : c.next? e with
    | some c' => exact ih c'
    | none =>
      -- What cannot happen once cannot happen again.
      rw [Option.getD_none, ← ih]
      exact (exhaust_of_none hnext fuel).symm

theorem Rounds.before {actor : Event} {events : List Event} (h : Rounds actor events) {first : List Event}
    (hfirst : .writer ∉ first) : Rounds actor (first ++ events) := by
  induction h with
  | one between n hbetween =>
    rw [← List.append_assoc]
    exact .one _ n fun hmem => (List.mem_append.1 hmem).elim hfirst hbetween
  | again _ ih =>
    rw [← List.append_assoc]
    exact .again ih
  | more _ hys ih _ =>
    rw [← List.append_assoc]
    exact .more ih hys

theorem Rounds.repeated {actor : Event} {events : List Event} (h : Rounds actor events) (n : Nat) :
    Rounds actor (events ++ List.replicate n actor) := by
  induction n with
  | zero => rwa [List.replicate_zero, List.append_nil]
  | succ n ih =>
    rw [List.replicate_succ', ← List.append_assoc]
    exact .again ih

/-- The turns of the three actors in a round. -/
def roundTurns (n : Nat) : List Event :=
  List.replicate n .reader ++ (List.replicate n .writer ++ List.replicate n .call)

theorem rounds_roundTurns (n : Nat) : Rounds .call (roundTurns (n + 1)) := by
  have hreader : .writer ∉ List.replicate (n + 1) Event.reader := by simp
  have h := (@Rounds.one .call _ n hreader).repeated n
  rwa [List.append_assoc, List.append_assoc, List.singleton_append, ← List.replicate_succ] at h

theorem callRound?_eq_some {fuel : Nat} {c c' : Connection} (h : callRound? fuel c = some c') :
    c' = c.follow (roundTurns fuel) := by
  unfold callRound? at h
  split at h
  · cases h
    rw [roundTurns, follow_append, follow_append, ← exhaust_eq_follow, ← exhaust_eq_follow, ← exhaust_eq_follow]
    rfl
  · cases h

/-- Rows of rounds, if there is a row at all, and nothing but turns of the actors. -/
def IsRunCall (events : List Event) : Prop :=
  (events = [] ∨ Rounds .call events) ∧ ∀ e ∈ events, e = .reader ∨ e = .writer ∨ e = .call

theorem isRunCall_roundTurns (n : Nat) : IsRunCall (roundTurns (n + 1)) := by
  refine ⟨.inr (rounds_roundTurns n), fun e he => ?_⟩
  rcases List.mem_append.1 he with he | he
  · exact .inl (List.eq_of_mem_replicate he)
  · rcases List.mem_append.1 he with he | he
    · exact .inr (.inl (List.eq_of_mem_replicate he))
    · exact .inr (.inr (List.eq_of_mem_replicate he))

theorem IsRunCall.append {xs ys : List Event} (hxs : IsRunCall xs) (hys : IsRunCall ys) : IsRunCall (xs ++ ys) := by
  refine ⟨?_, fun e he => (List.mem_append.1 he).elim (hxs.2 e) (hys.2 e)⟩
  rcases hxs.1 with rfl | hx
  · exact hys.1
  · rcases hys.1 with rfl | hy
    · exact .inr (by rwa [List.append_nil])
    · exact .inr (.more hx hy)

theorem exists_callRounds (n fuel : Nat) (c : Connection) :
    ∃ events, IsRunCall events ∧ exhaust (callRound? (n + 1)) fuel c = c.follow events := by
  induction fuel generalizing c with
  | zero => exact ⟨[], ⟨.inl rfl, by simp⟩, rfl⟩
  | succ fuel ih =>
    rw [exhaust]
    cases hround : callRound? (n + 1) c with
    | none => exact ⟨[], ⟨.inl rfl, by simp⟩, rfl⟩
    | some c' =>
      obtain rfl := callRound?_eq_some hround
      obtain ⟨events, hevents, hrun⟩ := ih (c.follow (roundTurns (n + 1)))
      exact ⟨_, (isRunCall_roundTurns n).append hevents, hrun.trans (follow_append _ _ _).symm⟩

theorem exists_runCall (c : Connection) : ∃ events, IsRunCall events ∧ c.runCall = c.follow events := by
  obtain ⟨n, hn⟩ : ∃ n, c.stepBound = n + 1 := ⟨_, rfl⟩
  rw [runCall, hn]
  exact exists_callRounds n (n + 1) c

/-- While a call is not over, running it means rounds, though they may change nothing. -/
theorem runCall_rounds {c : Connection} (hcall : c.call ≠ none) :
    ∃ events, Rounds .call events ∧ (∀ e ∈ events, e = .reader ∨ e = .writer ∨ e = .call) ∧
      c.runCall = c.follow events := by
  obtain ⟨n, hn⟩ : ∃ n, c.stepBound = n + 1 := ⟨_, rfl⟩
  rw [runCall, hn, exhaust]
  cases hround : callRound? (n + 1) c with
  | some c' =>
    obtain rfl := callRound?_eq_some hround
    obtain ⟨events, hevents, hrun⟩ := exists_callRounds n n (c.follow (roundTurns (n + 1)))
    have hboth := (isRunCall_roundTurns n).append hevents
    refine ⟨_, hboth.1.resolve_left ?_, hboth.2, hrun.trans (follow_append _ _ _).symm⟩
    simp [roundTurns]
  | none =>
    have hrests : c.canStep = false := by
      simpa [callRound?, Option.isSome_iff_ne_none.2 hcall] using hround
    simp only [canStep, Bool.or_eq_false_iff, Option.isSome_eq_false_iff, Option.isNone_iff_eq_none] at hrests
    obtain ⟨⟨-, hnocall⟩, hnowriter⟩ := hrests
    have hwriter : c.react .writer = c := by rw [react, next?, hnowriter, Option.getD_none]
    have hsame : c.react .call = c := by rw [react, next?, hnocall, Option.getD_none]
    refine ⟨[.writer, .call], .one [] 0 List.not_mem_nil, by simp, ?_⟩
    rw [follow_cons, follow_cons, follow_nil, hwriter, hsame]

/-- The turns of the actors take no time. -/
theorem follow_now_of_turns {events : List Event} (h : ∀ e ∈ events, e = .reader ∨ e = .writer ∨ e = .call)
    (c : Connection) : (c.follow events).now = c.now := by
  refine follow_keeps (P := (·.now = c.now)) (fun e he r hr => ?_) rfl
  rw [react_now, hr]
  rcases h e he with rfl | rfl | rfl <;> rfl

/-- A sequence of connections each of which comes from the one before runs along rows. -/
theorem exists_rows {P : List Event → Prop} (c : Nat → Connection)
    (h : ∀ n, ∃ events, P events ∧ c (n + 1) = (c n).follow events) :
    ∃ rows : Nat → List Event, (∀ n, P (rows n)) ∧ ∀ n, (c 0).along rows n = c n := by
  choose rows hrows hfollow using h
  refine ⟨rows, hrows, fun n => ?_⟩
  induction n with
  | zero => rfl
  | succ n ih => rw [along_succ, ih, hfollow]

end Connection

open Connection (Rounds Event)

namespace Server

/-! ## Turn by turn -/

theorem span_pos (s : Server) : 0 < s.span := by
  unfold span
  split
  · exact Nat.le_max_left 1 _
  · exact Nat.one_pos

theorem news_foreign (r : Child.Reaction) (consumed received : Nat) :
    ∀ e ∈ news r consumed received, e.isForeign = true ∧ e ≠ .writer := by
  unfold news
  cases r.outputEnded <;> cases r.refusesInput <;> simp [Event.isForeign]

theorem news_now (c : Connection) (r : Child.Reaction) (consumed received : Nat) :
    (c.follow (news r consumed received)).now = c.now + 1 := by
  unfold news
  cases r.outputEnded <;> cases r.refusesInput <;> simp [Connection.react_now, Event.lapse]

/-- A turn while a call goes on gives the actors their turns and takes time. -/
theorem turn_rounds {s : Server} (hcall : s.connection.call ≠ none) :
    ∃ events, (Rounds .call events ∧ .cancel ∉ events) ∧ s.turn.connection = s.connection.follow events ∧
      (s.connection.follow events).now = s.connection.now + s.span := by
  -- What is told of the process leaves the call going.
  have hnews : ∀ first : List Event, (∀ e ∈ first, e.isForeign = true ∧ e ≠ .writer) →
      ∃ events, (Rounds .call (first ++ events) ∧ .cancel ∉ first ++ events) ∧
        (s.connection.follow first).runCall = s.connection.follow (first ++ events) ∧
          (s.connection.follow (first ++ events)).now = (s.connection.follow first).now := by
    intro first hfirst
    have howner : (s.connection.follow first).owner = s.connection.owner :=
      Connection.follow_owner (fun e he => (hfirst e he).1) s.connection
    have hgoes : (s.connection.follow first).call ≠ none := by
      rwa [ne_eq, ← Connection.call_eq_none_iff, howner, Connection.call_eq_none_iff]
    obtain ⟨events, hrounds, hturns, hrun⟩ := Connection.runCall_rounds hgoes
    refine ⟨events, ⟨hrounds.before fun hmem => (hfirst _ hmem).2 rfl, fun hmem => ?_⟩, ?_, ?_⟩
    · rcases List.mem_append.1 hmem with hmem | hmem
      · cases (hfirst _ hmem).1
      · rcases hturns _ hmem with h | h | h <;> cases h
    · rw [hrun, Connection.follow_append]
    · rw [Connection.follow_append, Connection.follow_now_of_turns hturns]
  unfold turn span
  split
  · obtain ⟨events, hrounds, hrun, hnow⟩ := hnews [.advance s.nap] (by simp [Event.isForeign])
    exact ⟨_, hrounds, hrun, hnow⟩
  · obtain ⟨events, hrounds, hrun, hnow⟩ := hnews (news s.reaction s.consumed s.received) (news_foreign _ _ _)
    refine ⟨_, hrounds, ?_, hnow.trans (news_now _ _ _ _)⟩
    rw [← hrun, ← deliver_eq]
    rfl

theorem turn_now {s : Server} (hcall : s.connection.call ≠ none) :
    s.turn.connection.now = s.connection.now + s.span := by
  obtain ⟨events, -, hturn, hnow⟩ := turn_rounds hcall
  rw [hturn, hnow]

/-- Waiting means turns until the call is over or the next turn would take too long. -/
theorem exhaust_turns (limit fuel : Nat) {s : Server} (hfuel : limit ≤ s.connection.now + fuel) :
    ∃ k, exhaust (turn? limit) fuel s = turn^[k] s ∧ (∀ j, j < k → (turn^[j] s).connection.call ≠ none) ∧
      ((turn^[k] s).connection.call = none ∨ limit < (turn^[k + 1] s).connection.now) := by
  induction fuel generalizing s with
  | zero =>
    refine ⟨0, rfl, by simp, ?_⟩
    by_cases hcall : s.connection.call = none
    · exact .inl hcall
    · have hpos := s.span_pos
      refine .inr (Nat.lt_of_le_of_lt hfuel ?_)
      rw [Function.iterate_one, turn_now hcall]
      omega
  | succ fuel ih =>
    rw [exhaust]
    cases hturn : turn? limit s with
    | none =>
      refine ⟨0, rfl, by simp, ?_⟩
      by_cases hcall : s.connection.call = none
      · exact .inl hcall
      · right
        rw [Function.iterate_one, turn_now hcall]
        simpa [turn?, Option.isNone_iff_eq_none, hcall] using hturn
    | some s' =>
      obtain ⟨hcall, -, rfl⟩ := turn?_eq_some hturn
      have hpos := s.span_pos
      have hnow := turn_now hcall
      obtain ⟨k, hk, hbefore, hend⟩ := @ih s.turn (by omega)
      refine ⟨k + 1, hk, fun j hj => ?_, hend⟩
      cases j with
      | zero => exact hcall
      | succ j => exact hbefore j (Nat.lt_of_succ_lt_succ hj)

theorem await_turns (s : Server) (patience : Nat) :
    ∃ k, s.await patience = turn^[k] s ∧ (∀ j, j < k → (turn^[j] s).connection.call ≠ none) ∧
      ((turn^[k] s).connection.call = none ∨
        s.connection.now + patience < (turn^[k + 1] s).connection.now) :=
  exhaust_turns _ patience (Nat.le_refl _)

theorem turns_leadsTo (s : Server) {n m : Nat} (h : n ≤ m) :
    Connection.LeadsTo (turn^[n] s).connection (turn^[m] s).connection := by
  induction h with
  | refl => exact .refl _
  | step _ ih =>
    rw [Function.iterate_succ_apply']
    exact ih.trans (turn_leadsTo _)

theorem turns_now_mono (s : Server) {n m : Nat} (h : n ≤ m) :
    (turn^[n] s).connection.now ≤ (turn^[m] s).connection.now := by
  obtain ⟨events, -, hrun⟩ := turns_leadsTo s h
  rw [← hrun]
  exact Connection.le_follow_now events _

/-- A call that is over at some turn is over for whoever waits long enough. -/
theorem await_over_iff (s : Server) :
    (∃ least, ∀ patience, least ≤ patience → (s.await patience).connection.call = none) ↔
      ∃ n, (turn^[n] s).connection.call = none := by
  constructor
  · rintro ⟨least, hover⟩
    obtain ⟨k, hk, -⟩ := await_turns s least
    exact ⟨k, hk ▸ hover least (Nat.le_refl _)⟩
  · rintro ⟨n, hn⟩
    refine ⟨(turn^[n] s).connection.now, fun patience hle => ?_⟩
    obtain ⟨k, hk, hbefore, hend⟩ := await_turns s patience
    rw [hk]
    rcases hend with hover | hlate
    · exact hover
    · -- The wait has not ended before the call was over.
      have hreached : n ≤ k := by
        refine Nat.le_of_not_lt fun hlt => ?_
        have hmono := turns_now_mono s (show k + 1 ≤ n from hlt)
        omega
      rcases Nat.lt_or_eq_of_le hreached with hlt | rfl
      · exact absurd hn (hbefore n hlt)
      · exact hn

theorem turns_program (s : Server) (n : Nat) : (turn^[n] s).program = s.program := by
  induction n with
  | zero => rfl
  | succ n ih =>
    rw [Function.iterate_succ_apply', turn]
    split <;> exact ih

/-! ## The goodbye -/

/-- A server to which the goodbye has begun. -/
def parting (s : Server) : Server :=
  s.proceed Connection.runCall (s.connection.react (.start (.shutdown Client.grace)))

/-- The goodbye as far as it has come after some turns, with nothing before. -/
def partings (s : Server) : Nat → Connection
  | 0 => s.connection.react (.start (.shutdown Client.grace))
  | n + 1 => (turn^[n] s.parting).connection

section Parting
variable {s : Server} (hcall : s.connection.call = none) (hused : s.connection.usedUp = false)
include hcall hused

theorem goodbye_eq (patience : Nat) : Client.goodbye patience s = s.parting.await patience := by
  have hstart : s.connection.start (.shutdown Client.grace) =
      .ok (s.connection.beginRequest (.shutdown Client.grace)) := Connection.start_request rfl hcall hused
  rw [Client.goodbye, hstart, parting, Connection.react, Connection.next?, hstart]
  rfl

theorem goodbye_program (patience : Nat) : (Client.goodbye patience s).program = s.program := by
  obtain ⟨k, hk, -⟩ := await_turns s.parting patience
  rw [goodbye_eq hcall hused, hk, turns_program]
  rfl

theorem parting_stopped {n : Nat} (hover : (turn^[n] s.parting).connection.call = none) :
    (turn^[n] s.parting).connection.writer = .stopped := by
  have hlead : Connection.LeadsTo (s.connection.react (.start (.shutdown Client.grace)))
      (turn^[n] s.parting).connection :=
    (proceed_leadsTo .runCall s _).trans (turns_leadsTo s.parting (Nat.zero_le n))
  obtain ⟨events, hchoice, hrun⟩ := hlead
  have hheld : .cancel ∉ events := fun hmem => by cases hchoice _ hmem
  have hleaving := Connection.leaving_follow Client.grace hcall hused hheld
  rw [Connection.follow_cons, hrun] at hleaving
  obtain ⟨r, f, -, -, haccepts, -⟩ := hleaving.of_over ((Connection.call_eq_none_iff _).2 hover)
  exact Connection.writer_of_stopped haccepts

/-- While a goodbye goes on, its turns are rounds and take time. -/
theorem partings_rounds (hgoes : ∀ n, (turn^[n] s.parting).connection.call ≠ none) (n : Nat) :
    ∃ events, (Rounds .call events ∧ .cancel ∉ events) ∧ s.partings (n + 1) = (s.partings n).follow events := by
  cases n with
  | succ n =>
    obtain ⟨events, hrounds, hturn, -⟩ := turn_rounds (hgoes n)
    refine ⟨events, hrounds, ?_⟩
    rw [partings, Function.iterate_succ_apply', hturn]
    rfl
  | zero =>
    obtain ⟨a, stage, hstage, -⟩ := Connection.exists_away_start Client.grace hcall hused
    have hbegun : (s.partings 0).call ≠ none := by
      rw [ne_eq, ← Connection.call_eq_none_iff]
      exact fun hnone => by cases hnone.symm.trans hstage
    obtain ⟨events, hrounds, hturns, hrun⟩ := Connection.runCall_rounds hbegun
    refine ⟨events, ⟨hrounds, fun hmem => ?_⟩, hrun⟩
    rcases hturns _ hmem with h | h | h <;> cases h

omit hcall hused in
theorem le_partings_now (hgoes : ∀ n, (turn^[n] s.parting).connection.call ≠ none) (n : Nat) :
    n ≤ (s.partings (n + 1)).now := by
  induction n with
  | zero => exact Nat.zero_le _
  | succ n ih =>
    have hpos := (turn^[n] s.parting).span_pos
    rw [partings, Function.iterate_succ_apply', turn_now (hgoes n)]
    rw [partings] at ih
    omega

/-- A goodbye is over at some turn just if the writer does not stand before a full pipe for good. -/
theorem parting_over_iff (hregular : s.connection.channel.Regular) :
    (∃ n, (turn^[n] s.parting).connection.call = none) ↔
      ¬∃ m rest, ∀ n, m ≤ n → (turn^[n] s.parting).connection.Stalled rest := by
  constructor
  · rintro ⟨n, hn⟩ ⟨m, rest, hstalled⟩
    obtain ⟨events, -, hrun⟩ := turns_leadsTo s.parting (Nat.le_max_left n m)
    have hstopped := (Connection.follow_stopped events (parting_stopped hcall hused hn)).1
    rw [hrun] at hstopped
    cases hstopped.symm.trans (hstalled (max n m) (Nat.le_max_right n m)).writer
  · intro hfree
    refine Classical.byContradiction fun hnever => ?_
    have hgoes : ∀ n, (turn^[n] s.parting).connection.call ≠ none := fun n hn => hnever ⟨n, hn⟩
    obtain ⟨rows, hrows, halong⟩ := Connection.exists_rows s.partings (partings_rounds hcall hused hgoes)
    have htime : ∀ t, ∃ n, t ≤ ((s.partings 0).along rows n).now := by
      intro t
      refine ⟨t + 1, ?_⟩
      rw [halong]
      exact le_partings_now hgoes t
    have hbegun : (s.partings 0).channel.Regular :=
      Connection.follow_regular [.start (.shutdown Client.grace)] hregular
    obtain ⟨a, haway⟩ : ∃ a, Connection.Away Client.grace (s.partings 0) a :=
      Connection.exists_away_start Client.grace hcall hused
    rcases Connection.gone_or_kept hbegun (fun n => (hrows n).1) (fun n => (hrows n).2) htime haway with
      ⟨n, hgone⟩ | ⟨m, stage, rest, hkept⟩
    · -- What is gone stays gone, so the goodbye would be over at some turn.
      have hlater := Connection.along_of_le (P := (·.owner.Gone)) (fun _ events h => Connection.follow_gone h events)
        (Nat.le_succ n) hgone
      rw [halong] at hlater
      exact hgoes n ((Connection.call_eq_none_iff _).1 hlater.call)
    · refine hfree ⟨m, rest, fun n hle => ?_⟩
      have hstalled := (hkept (n + 1) (Nat.le_succ_of_le hle)).stalled
      rwa [halong] at hstalled

end Parting

/-! ## A process that reads nothing -/

/-- The process reads nothing of its input, and does not end or close it either. -/
def IsDeaf (program : Child.Program) : Prop :=
  ∀ supply, (program.react supply).consumed = 0 ∧ (program.react supply).refusesInput = false

theorem runCall_stalled {c : Connection} {rest : Bytes} (h : c.Stalled rest) : c.runCall.Stalled rest := by
  obtain ⟨events, hevents, hrun⟩ := Connection.exists_runCall c
  rw [hrun]
  refine h.follow fun e he => ?_
  rcases hevents.2 e he with rfl | rfl | rfl <;> rfl

/-- Such a process leaves the writer where it stands. -/
theorem turn_stalled {s : Server} {rest : Bytes} (hdeaf : IsDeaf s.program) (h : s.connection.Stalled rest) :
    s.turn.connection.Stalled rest := by
  unfold turn
  split
  · exact runCall_stalled ⟨h.writer, h.window⟩
  · obtain ⟨hconsumed, hopen⟩ : s.reaction.consumed = 0 ∧ s.reaction.refusesInput = false := hdeaf s.supply
    refine runCall_stalled ?_
    rw [deliver_eq, news, hconsumed, hopen, Nat.zero_sub]
    refine h.follow fun e he => ?_
    cases hended : s.reaction.outputEnded <;> simp [hended] at he <;> rcases he with rfl | rfl | rfl | rfl <;> rfl

theorem parting_stalled {s : Server} {rest : Bytes} (hdeaf : IsDeaf s.program) (h : s.connection.Stalled rest)
    (n : Nat) : (turn^[n] s.parting).connection.Stalled rest := by
  induction n with
  | zero => exact runCall_stalled (h.step rfl)
  | succ n ih =>
    rw [Function.iterate_succ_apply']
    have hsame : (turn^[n] s.parting).program = s.program := turns_program s.parting n
    exact turn_stalled (hsame ▸ hdeaf) ih

end Server

end LspClient
