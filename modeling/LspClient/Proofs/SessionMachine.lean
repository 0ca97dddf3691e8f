import LspClient.Proofs.SessionCoherence

/-!
# The life of sessions by its rules

A machine with four phases, two of which hold a session, says what a manager is meant to do. Each rule tells for one
call in which phases it applies, what the call comes to, all that it does to the world around it and where it leads.
There is no rule for a stop that nobody waits for. The manager keeps to the rules in every other run, and the rules
leave it no choice.
-/

namespace LspClient

namespace Manager

inductive Reply where
  | activation (result : Activation)
  | deactivation (result : Deactivation)
deriving DecidableEq

def reply (m : Manager) : Step → Reply
  | .activate h attempt => .activation (m.activate h attempt).2.1
  | .deactivate attempt => .deactivation (m.deactivate attempt).2.1

def effects (m : Manager) : Step → List Effect
  | .activate h attempt => (m.activate h attempt).2.2
  | .deactivate attempt => (m.deactivate attempt).2.2

/-- A call that was made, with what it came to. -/
structure Entry where
  call : Step
  reply : Reply
  effects : List Effect

def transcript (m : Manager) : List Step → List Entry
  | [] => []
  | s :: steps => ⟨s, m.reply s, m.effects s⟩ :: (m.perform s).transcript steps

theorem transcript_calls (m : Manager) (steps : List Step) : (m.transcript steps).map Entry.call = steps := by
  induction steps generalizing m with
  | nil => rfl
  | cons s steps ih => rw [transcript, List.map_cons, ih]

/-- Whether a deactivation waits for its stop to be over; an activation need not wait for its start. -/
def Step.awaitsStop : Step → Bool
  | .activate _ _ => true
  | .deactivate attempt => attempt.outcome ≠ .dropped

end Manager

open Manager (Step Reply Entry)

/-- A session is part of the phases that have one. -/
inductive SessionPhase where
  | uninitialized
  | starting (live : LiveSession)
  | running (live : LiveSession)
  | stopped

namespace SessionPhase

def state : SessionPhase → SessionState
  | .uninitialized => .uninitialized
  | .starting _ => .starting
  | .running _ => .running
  | .stopped => .stopped

def session : SessionPhase → Option LiveSession
  | .starting live => some live
  | .running live => some live
  | _ => none

theorem session_isSome_iff (phase : SessionPhase) :
    phase.session.isSome ↔ phase.state = .starting ∨ phase.state = .running := by
  cases phase <;> simp [session, state]

/-- What an activation finds is let go of, unless it runs. -/
inductive Clears : SessionPhase → List Effect → SessionPhase → Prop where
  | uninitialized : Clears .uninitialized [] .uninitialized
  | stopped : Clears .stopped [] .stopped
  | leftover (live : LiveSession) : Clears (.starting live) [.discarded live.client] .uninitialized

theorem running_or_clears (phase : SessionPhase) :
    (∃ live, phase = .running live) ∨ ∃ discards rest, phase.Clears discards rest := by
  cases phase with
  | running live => exact .inl ⟨live, rfl⟩
  | uninitialized => exact .inr ⟨_, _, .uninitialized⟩
  | stopped => exact .inr ⟨_, _, .stopped⟩
  | starting live => exact .inr ⟨_, _, .leftover live⟩

theorem not_clears_running (live : LiveSession) {discards : List Effect} {rest : SessionPhase} :
    ¬ (SessionPhase.running live).Clears discards rest := by
  intro h
  cases h

theorem Clears.unique {phase rest rest' : SessionPhase} {discards discards' : List Effect}
    (h : phase.Clears discards rest) (h' : phase.Clears discards' rest') : discards' = discards ∧ rest' = rest := by
  cases h <;> cases h' <;> exact ⟨rfl, rfl⟩

end SessionPhase

/-- What activations take from the configuration. -/
structure SessionPlan where
  command : Host → Except Platform.Unsupported ServerLocation
  session : Host → ServerLocation → Session
  /-- How the client is called in messages. -/
  title : String

def Manager.plan (m : Manager) : SessionPlan :=
  ⟨m.serverCommand, m.makeSession, m.identity.name⟩

structure SessionMachine where
  phase : SessionPhase := .uninitialized
  /-- The channel of the latest activation. -/
  trace : Option (Nat × String) := none
  channels : Nat := 0
  clients : Nat := 0

namespace SessionMachine

/-- A new channel is the one to trace to from now on. -/
def opened (a : SessionMachine) : SessionMachine :=
  { a with trace := some (a.channels, traceChannelName), channels := a.channels + 1 }

def lines (a : SessionMachine) (texts : List String) : List Effect :=
  (a.trace.map fun channel => texts.map (.traced channel.1)).getD []

/-- What a new client is put through: it is made and started, and it traces. -/
def begins (a : SessionMachine) (session : Session) (attempt : Attempt) : List Effect :=
  [.created a.clients session.executable, .started a.clients] ++ a.lines attempt.lines

/-- What an activation comes to once its channel is there. -/
inductive Launch (plan : SessionPlan) (a : SessionMachine) (host : Host) (attempt : Attempt) :
    Activation → List Effect → SessionMachine → Prop where
  | unsupported (e : Platform.Unsupported) (hcommand : plan.command host = .error e) :
      Launch plan a host attempt (.failed (.unsupportedPlatform e))
        (a.lines ["Cannot start " ++ plan.title ++ ": " ++ e.message]) a
  | runs (command : ServerLocation) (hcommand : plan.command host = .ok command)
      (houtcome : attempt.outcome = .done) :
      Launch plan a host attempt .active (a.begins (plan.session host command) attempt)
        { a with phase := .running ⟨plan.session host command, a.clients⟩, clients := a.clients + 1 }
  | fails (command : ServerLocation) (hcommand : plan.command host = .ok command) (e : Failure)
      (houtcome : attempt.outcome = .failed e) :
      Launch plan a host attempt (.failed (.launch e))
        (a.begins (plan.session host command) attempt ++
          (a.lines ["Starting client failed: " ++ e.full] ++ [.discarded a.clients]))
        { a with phase := .uninitialized, clients := a.clients + 1 }
  | waits (command : ServerLocation) (hcommand : plan.command host = .ok command)
      (houtcome : attempt.outcome = .dropped) :
      Launch plan a host attempt .dropped (a.begins (plan.session host command) attempt)
        { a with phase := .starting ⟨plan.session host command, a.clients⟩, clients := a.clients + 1 }

/-- How a stop that is over shows in the reply. -/
inductive Parts : Outcome → Deactivation → Prop where
  | stopped : Parts .done .stopped
  | failed (e : Failure) : Parts (.failed e) (.failed e)

/-- A call in a state of the machine, what it comes to, what it does, and the state after it. -/
inductive Rule (plan : SessionPlan) (a : SessionMachine) :
    Step → Reply → List Effect → SessionMachine → Prop where
  | rejects (live : LiveSession) (hphase : a.phase = .running live) (host : Host) (attempt : Attempt) :
      Rule plan a (.activate host attempt) (.activation (.failed (.alreadyActive .running))) [] a
  | activates {discards effects : List Effect} {phase : SessionPhase} {result : Activation} {b : SessionMachine}
      {host : Host} {attempt : Attempt} (hclears : a.phase.Clears discards phase)
      (hlaunch : Launch plan { a.opened with phase := phase } host attempt result effects b) :
      Rule plan a (.activate host attempt) (.activation result)
        (discards ++ [.openedChannel a.channels traceChannelName] ++ effects) b
  | ignores (hphase : a.phase.session = none) (attempt : Attempt) :
      Rule plan a (.deactivate attempt) (.deactivation .notStarted) [] a
  | stops (live : LiveSession) (hphase : a.phase.session = some live) (attempt : Attempt)
      {result : Deactivation} (hresult : Parts attempt.outcome result) :
      Rule plan a (.deactivate attempt) (.deactivation result)
        ([.stopped live.client] ++ a.lines attempt.lines ++ [.discarded live.client])
        { a with phase := .stopped }

/-- Calls one after the other, each by a rule. -/
inductive Run (plan : SessionPlan) : SessionMachine → List Entry → SessionMachine → Prop where
  | nil (a : SessionMachine) : Run plan a [] a
  | cons {a b c : SessionMachine} {s : Step} {reply : Reply} {effects : List Effect} {entries : List Entry}
      (first : Rule plan a s reply effects b) (rest : Run plan b entries c) :
      Run plan a (⟨s, reply, effects⟩ :: entries) c

section Choice
variable {plan : SessionPlan} {a b b' : SessionMachine}

theorem Parts.unique {outcome : Outcome} {result result' : Deactivation} (h : Parts outcome result)
    (h' : Parts outcome result') : result' = result := by
  cases h <;> cases h' <;> rfl

theorem Launch.unique {host : Host} {attempt : Attempt} {result result' : Activation}
    {effects effects' : List Effect} (h : Launch plan a host attempt result effects b)
    (h' : Launch plan a host attempt result' effects' b') :
    result' = result ∧ effects' = effects ∧ b' = b := by
  cases h <;> cases h' <;> simp_all

theorem Rule.unique {s : Step} {reply reply' : Reply} {effects effects' : List Effect}
    (h : Rule plan a s reply effects b) (h' : Rule plan a s reply' effects' b') :
    reply' = reply ∧ effects' = effects ∧ b' = b := by
  cases h with
  | rejects live hphase =>
    cases h' with
    | rejects => exact ⟨rfl, rfl, rfl⟩
    | activates hclears => exact absurd hclears (hphase ▸ SessionPhase.not_clears_running live)
  | activates hclears hlaunch =>
    cases h' with
    | rejects live hphase => exact absurd hclears (hphase ▸ SessionPhase.not_clears_running live)
    | activates hclears' hlaunch' =>
      obtain ⟨rfl, rfl⟩ := hclears.unique hclears'
      obtain ⟨rfl, rfl, rfl⟩ := hlaunch.unique hlaunch'
      exact ⟨rfl, rfl, rfl⟩
  | ignores hphase =>
    cases h' with
    | ignores => exact ⟨rfl, rfl, rfl⟩
    | stops live hphase' => exact absurd (hphase.symm.trans hphase') (by simp)
  | stops live hphase attempt hparts =>
    cases h' with
    | ignores hphase' => exact absurd (hphase.symm.trans hphase') (by simp)
    | stops live' hphase' _ hparts' =>
      cases hphase.symm.trans hphase'
      cases hparts.unique hparts'
      exact ⟨rfl, rfl, rfl⟩

/-- The calls that are made determine the rest of a run. -/
theorem Run.unique {entries entries' : List Entry} (h : Run plan a entries b) (h' : Run plan a entries' b')
    (hcalls : entries'.map Entry.call = entries.map Entry.call) : entries' = entries ∧ b' = b := by
  induction h generalizing entries' with
  | nil a =>
    cases h' with
    | nil => exact ⟨rfl, rfl⟩
    | cons first rest => cases hcalls
  | cons first rest ih =>
    cases h' with
    | nil => cases hcalls
    | cons first' rest' =>
      obtain ⟨rfl, hrest⟩ := List.cons.inj hcalls
      obtain ⟨rfl, rfl, rfl⟩ := first.unique first'
      obtain ⟨rfl, rfl⟩ := ih rest' hrest
      exact ⟨rfl, rfl⟩

end Choice

end SessionMachine

namespace Manager
open SessionMachine (Launch Parts Rule Run)

/-- The manager that a state of the machine stands for. -/
def inState (m : Manager) (a : SessionMachine) : Manager :=
  { m with
    state := a.phase.state
    session := a.phase.session
    channel := a.trace
    channels := a.channels
    clients := a.clients }

section Simulation
variable (m : Manager) (a : SessionMachine)

theorem traceLines_inState (texts : List String) : (m.inState a).traceLines texts = a.lines texts := by
  unfold traceLines SessionMachine.lines
  cases h : a.trace <;> simp [inState, h]

variable {a} in
theorem prepared_inState {discards : List Effect} {phase : SessionPhase} (h : a.phase.Clears discards phase) :
    (m.inState a).prepared = m.inState { a.opened with phase := phase } ∧
      (m.inState a).preparation = discards ++ [.openedChannel a.channels traceChannelName] := by
  obtain ⟨found, trace, channels, clients⟩ := a
  cases h <;> exact ⟨rfl, rfl⟩

/-- Once the channel is there an activation goes on by the rules. -/
theorem launch_by_rule (phase : SessionPhase) (host : Host) (attempt : Attempt) {command : ServerLocation}
    (hcommand : m.serverCommand host = .ok command) :
    let ready : SessionMachine := { a.opened with phase := phase }
    let (m', result, effects) := (m.inState ready).launch a.channels (m.makeSession host command) attempt
    ∃ b, Launch m.plan ready host attempt result effects b ∧ m' = m.inState b := by
  intro ready
  unfold launch
  cases houtcome : attempt.outcome with
  | done => exact ⟨_, .runs command hcommand houtcome, rfl⟩
  | dropped => exact ⟨_, .waits command hcommand houtcome, rfl⟩
  | failed e => exact ⟨_, .fails command hcommand e houtcome, rfl⟩

variable {a} in
theorem activate_by_rule {discards : List Effect} {phase : SessionPhase} (hclears : a.phase.Clears discards phase)
    (host : Host) (attempt : Attempt) :
    ∃ b, Rule m.plan a (.activate host attempt) ((m.inState a).reply (.activate host attempt))
        ((m.inState a).effects (.activate host attempt)) b ∧
      (m.inState a).perform (.activate host attempt) = m.inState b := by
  have hrun : (m.inState a).state ≠ .running := by
    obtain ⟨found, trace, channels, clients⟩ := a
    cases hclears <;> simp [inState, SessionPhase.state]
  obtain ⟨hprepared, hpreparation⟩ := m.prepared_inState hclears
  simp only [reply, effects, perform]
  cases hcommand : m.serverCommand host with
  | error e =>
    rw [activate_of_error (m := m.inState a) host attempt hrun hcommand, hprepared, hpreparation]
    exact ⟨_, .activates hclears (.unsupported e hcommand), rfl⟩
  | ok command =>
    obtain ⟨b, hlaunch, hb⟩ := m.launch_by_rule a phase host attempt hcommand
    rw [activate_of_ok (m := m.inState a) host attempt hrun hcommand, hprepared, hpreparation]
    exact ⟨b, .activates hclears hlaunch, hb⟩

theorem deactivate_by_rule {attempt : Attempt} (hover : attempt.outcome ≠ .dropped) :
    ∃ b, Rule m.plan a (.deactivate attempt) ((m.inState a).reply (.deactivate attempt))
        ((m.inState a).effects (.deactivate attempt)) b ∧
      (m.inState a).perform (.deactivate attempt) = m.inState b := by
  have hsession : (m.inState a).session = a.phase.session := rfl
  simp only [reply, effects, perform, deactivate, traceLines_inState, hsession]
  cases hlive : a.phase.session with
  | none => exact ⟨a, .ignores hlive attempt, rfl⟩
  | some live =>
    cases houtcome : attempt.outcome with
    | done =>
      have hparts : Parts attempt.outcome .stopped := houtcome ▸ .stopped
      exact ⟨_, .stops live hlive attempt hparts, rfl⟩
    | failed e =>
      have hparts : Parts attempt.outcome (.failed e) := houtcome ▸ .failed e
      exact ⟨_, .stops live hlive attempt hparts, rfl⟩
    | dropped => exact absurd houtcome hover

/-- Every call that does not leave a stop behind is made by a rule. -/
theorem perform_by_rule {s : Step} (hover : s.awaitsStop = true) :
    ∃ b, Rule m.plan a s ((m.inState a).reply s) ((m.inState a).effects s) b ∧
      (m.inState a).perform s = m.inState b := by
  cases s with
  | deactivate attempt => exact m.deactivate_by_rule a (by simpa [Step.awaitsStop] using hover)
  | activate host attempt =>
    rcases a.phase.running_or_clears with ⟨live, hphase⟩ | ⟨discards, phase, hclears⟩
    · have hrun : (m.inState a).state = .running := congrArg SessionPhase.state hphase
      simp only [reply, effects, perform, activate_of_running host attempt hrun]
      exact ⟨a, .rejects live hphase host attempt, rfl⟩
    · exact m.activate_by_rule hclears host attempt

theorem after_by_rules {steps : List Step} (hover : ∀ s ∈ steps, s.awaitsStop = true) :
    ∃ b, Run m.plan a ((m.inState a).transcript steps) b ∧ (m.inState a).after steps = m.inState b := by
  induction steps generalizing a with
  | nil => exact ⟨a, .nil a, rfl⟩
  | cons s steps ih =>
    obtain ⟨b, hrule, hb⟩ := m.perform_by_rule a (hover s List.mem_cons_self)
    obtain ⟨c, hrun, hc⟩ := ih b fun s hs => hover s (List.mem_cons_of_mem _ hs)
    rw [transcript, after_cons, hb]
    exact ⟨c, .cons hrule hrun, hc⟩

end Simulation

/-- As long as every deactivation waits for its stop, calls are made by the rules of the machine, which allow for
nothing else, and the manager is what the machine's state says. So a session is there exactly while the manager is
starting or running. -/
theorem refines_session_machine (settings : Settings) (steps : List Step)
    (hover : ∀ s ∈ steps, s.awaitsStop = true) :
    let fresh : Manager := { settings := settings }
    let m := fresh.after steps
    (m.session.isSome ↔ m.state = .starting ∨ m.state = .running) ∧
    ∃ a, Run fresh.plan {} (fresh.transcript steps) a ∧ m = fresh.inState a ∧
      ∀ entries a', entries.map Entry.call = steps → Run fresh.plan {} entries a' →
        entries = fresh.transcript steps ∧ a' = a := by
  intro fresh m
  obtain ⟨a, hrun, hm⟩ := fresh.after_by_rules {} hover
  refine ⟨?_, a, hrun, hm, fun entries a' hcalls hrun' => ?_⟩
  · rw [show m = fresh.inState a from hm]
    exact a.phase.session_isSome_iff
  · exact hrun.unique hrun' (hcalls.trans (transcript_calls fresh steps).symm)

/-- A start is left behind, a platform has no server, a start fails, a session runs and is not started twice, its
stop fails, and nothing is left to stop. -/
theorem refines_session_machine_eventful :
    let steps : List Step :=
      [.activate linuxHost { outcome := .dropped }, .activate { linuxHost with platform := .unsupported "os" } {},
        .activate linuxHost { lines := ["hello"], outcome := .failed ⟨"no", []⟩ }, .activate linuxHost {},
        .activate linuxHost {}, .deactivate { outcome := .failed ⟨"stuck", []⟩ }, .deactivate {}]
    (∀ s ∈ steps, s.awaitsStop = true) ∧
    (({} : Manager).transcript steps).map Entry.reply =
      [.activation .dropped, .activation (.failed (.unsupportedPlatform ⟨"os"⟩)),
        .activation (.failed (.launch ⟨"no", []⟩)), .activation .active,
        .activation (.failed (.alreadyActive .running)), .deactivation (.failed ⟨"stuck", []⟩),
        .deactivation .notStarted] ∧
    ∃ a, Run ({} : Manager).plan {} (({} : Manager).transcript steps) a ∧ a.phase = .stopped := by
  intro steps
  have hover : ∀ s ∈ steps, s.awaitsStop = true := by decide
  obtain ⟨-, a, hrun, hm, -⟩ := refines_session_machine {} steps hover
  have hstate : a.phase.state = .stopped := (congrArg Manager.state hm).symm
  refine ⟨hover, by decide, a, hrun, ?_⟩
  cases hphase : a.phase with
  | stopped => rfl
  | _ => simp [hphase, SessionPhase.state] at hstate

end Manager

end LspClient
