import LspClient.Proofs.ManagerRun
import Mathlib.Tactic.Tauto

/-!
# When a session goes with its state

A session should be there exactly while the manager is starting or running. Activations keep to that, whether
they come to an end or are dropped. A deactivation takes the session before it waits for the client to stop, and
sets the state only after that; so if it is dropped in between, the state stays behind without a session. A later
activation mends a state that was left at starting. A state that was left at running is never mended.
-/

namespace LspClient.Manager

theorem launch_standing (m : Manager) (channel : Nat) (session : Session) (attempt : Attempt) :
    let m' := (m.launch channel session attempt).1
    match attempt.outcome with
    | .done => m'.state = .running ∧ m'.session.isSome
    | .dropped => m'.state = .starting ∧ m'.session.isSome
    | .failed _ => m'.state = .uninitialized ∧ m'.session = none := by
  unfold launch
  cases attempt.outcome <;> simp

/-- Where an activation leaves state and session. -/
theorem activate_standing (m : Manager) (host : Host) (attempt : Attempt) :
    let m' := (m.activate host attempt).1
    (m.state = .running ∧ m' = m) ∨
    (m.state ≠ .running ∧ m' = m.prepared) ∨
    (m.state ≠ .running ∧
      ((m'.state = .running ∨ m'.state = .starting) ∧ m'.session.isSome ∨
        m'.state = .uninitialized ∧ m'.session = none)) := by
  by_cases h : m.state = .running
  · exact .inl ⟨h, by rw [activate_of_running host attempt h]⟩
  · cases hc : m.serverCommand host with
    | error e => exact .inr (.inl ⟨h, by rw [activate_of_error host attempt h hc]⟩)
    | ok command =>
      refine .inr (.inr ⟨h, ?_⟩)
      have hl := launch_standing m.prepared m.channels (m.makeSession host command) attempt
      rw [activate_of_ok host attempt h hc]
      cases ho : attempt.outcome <;> simp only [ho] at hl
      · exact .inl ⟨.inl hl.1, hl.2⟩
      · exact .inr hl
      · exact .inl ⟨.inr hl.1, hl.2⟩

/-- Where a deactivation leaves state and session. -/
theorem deactivate_standing (m : Manager) (attempt : Attempt) :
    let m' := (m.deactivate attempt).1
    (m.session = none ∧ m' = m) ∨
    (m.session.isSome ∧ attempt.outcome = .dropped ∧ m'.state = m.state ∧ m'.session = none) ∨
    (m.session.isSome ∧ attempt.outcome ≠ .dropped ∧ m'.state = .stopped ∧ m'.session = none) := by
  unfold deactivate
  cases hs : m.session with
  | none => simp
  | some live => cases ho : attempt.outcome <;> simp

/-- A call that drops the stop of a session. -/
def DropsStop (m : Manager) (s : Step) : Prop :=
  m.session.isSome ∧ ∃ attempt, s = .deactivate attempt ∧ attempt.outcome = .dropped

/-- The state is left behind without a session. -/
def Stranded (m : Manager) (state : SessionState) : Prop :=
  m.session = none ∧ m.state = state

/-- Calls that do not mend a stranded state: any at all if it is running, and else all but activations. -/
def Outlasts (state : SessionState) (steps : List Step) : Prop :=
  state = .running ∨ ∀ s ∈ steps, s.isActivate = false

theorem outlasts_cons (state : SessionState) (s : Step) (steps : List Step) :
    Outlasts state (s :: steps) ↔ (state = .running ∨ s.isActivate = false) ∧ Outlasts state steps := by
  simp only [Outlasts, List.forall_mem_cons, ← or_and_left]

/-- A stop of the session was dropped at this state, and the calls since have not mended it. -/
def StrandedBy (m : Manager) (steps : List Step) (state : SessionState) : Prop :=
  ∃ before s later, steps = before ++ s :: later ∧
    (m.after before).DropsStop s ∧ (m.after before).state = state ∧ Outlasts state later

theorem strandedBy_cons (m : Manager) (s : Step) (steps : List Step) (state : SessionState) :
    m.StrandedBy (s :: steps) state ↔
      (m.DropsStop s ∧ m.state = state) ∧ Outlasts state steps ∨ (m.perform s).StrandedBy steps state := by
  constructor
  · rintro ⟨before, t, later, heq, hdrop, hat, hlast⟩
    cases before with
    | nil =>
      obtain ⟨rfl, rfl⟩ := List.cons.inj heq
      exact .inl ⟨⟨hdrop, hat⟩, hlast⟩
    | cons u before =>
      obtain ⟨rfl, rfl⟩ := List.cons.inj heq
      exact .inr ⟨before, t, later, rfl, hdrop, hat, hlast⟩
  · rintro (⟨⟨hdrop, hat⟩, hlast⟩ | ⟨before, t, later, rfl, hdrop, hat, hlast⟩)
    · exact ⟨[], s, steps, rfl, hdrop, hat, hlast⟩
    · exact ⟨s :: before, t, later, rfl, hdrop, hat, hlast⟩

section Stranding
variable {state : SessionState} (hstate : state = .running ∨ state = .starting)
include hstate

theorem activate_stranded (m : Manager) (host : Host) (attempt : Attempt) :
    (m.activate host attempt).1.Stranded state ↔ m.Stranded state ∧ state = .running := by
  -- Only a running manager is left as it was; any other gets a session or a state that needs none.
  rcases activate_standing m host attempt with ⟨h, heq⟩ | ⟨h, heq⟩ | ⟨h, ⟨_, hsome⟩ | ⟨hnone, _⟩⟩
  · rw [heq]
    constructor
    · exact fun hm => ⟨hm, hm.2.symm.trans h⟩
    · exact fun hm => hm.1
  · rw [heq, prepared_eq]
    constructor
    · rintro ⟨_, hm⟩
      exfalso
      rcases hstate with rfl | rfl <;> grind
    · rintro ⟨hm, rfl⟩
      exact absurd hm.2 h
  · constructor
    · rintro ⟨hm, _⟩
      simp [hm] at hsome
    · rintro ⟨hm, rfl⟩
      exact absurd hm.2 h
  · constructor
    · rintro ⟨_, hm⟩
      rcases hstate with rfl | rfl <;> simp [hm] at hnone
    · rintro ⟨hm, rfl⟩
      exact absurd hm.2 h

theorem deactivate_stranded (m : Manager) (attempt : Attempt) :
    (m.deactivate attempt).1.Stranded state ↔
      m.Stranded state ∨ (m.session.isSome ∧ attempt.outcome = .dropped ∧ m.state = state) := by
  rcases deactivate_standing m attempt with ⟨h, heq⟩ | ⟨h, ho, hs, hn⟩ | ⟨h, ho, hs, hn⟩
  · simp [heq, h]
  · simp [Stranded, hs, hn, h, ho]
  · have hm : m.session ≠ none := Option.isSome_iff_ne_none.mp h
    have hstop : SessionState.stopped ≠ state := by rcases hstate with rfl | rfl <;> decide
    simp [Stranded, hs, hm, ho, hstop]

theorem perform_stranded (m : Manager) (s : Step) :
    (m.perform s).Stranded state ↔
      m.Stranded state ∧ (state = .running ∨ s.isActivate = false) ∨ m.DropsStop s ∧ m.state = state := by
  cases s with
  | activate host attempt =>
    simp [perform, activate_stranded hstate, DropsStop, Step.isActivate]
  | deactivate attempt =>
    simp [perform, deactivate_stranded hstate, DropsStop, Step.isActivate, and_assoc]

theorem after_stranded (m : Manager) (steps : List Step) :
    (m.after steps).Stranded state ↔
      m.Stranded state ∧ Outlasts state steps ∨ m.StrandedBy steps state := by
  induction steps generalizing m with
  | nil => simp [Outlasts, StrandedBy]
  | cons s steps ih =>
    rw [after_cons, ih, perform_stranded hstate, strandedBy_cons, outlasts_cons]
    tauto

end Stranding

/-- There is no session at any other state. -/
def Backed (m : Manager) : Prop :=
  m.session.isSome → m.state = .starting ∨ m.state = .running

theorem perform_backed {m : Manager} (hm : m.Backed) (s : Step) : (m.perform s).Backed := by
  cases s with
  | activate host attempt =>
    intro hsome
    rw [perform] at hsome ⊢
    rcases activate_standing m host attempt with ⟨_, heq⟩ | ⟨_, heq⟩ | ⟨_, ⟨hs, _⟩ | ⟨_, hn⟩⟩
    · rw [heq] at hsome ⊢
      exact hm hsome
    · rw [heq, prepared_eq] at hsome ⊢
      by_cases h : m.state = .starting
      · simp [h] at hsome
      · simp only [if_neg h] at hsome ⊢
        exact hm hsome
    · exact hs.symm
    · simp [hn] at hsome
  | deactivate attempt =>
    intro hsome
    rw [perform] at hsome ⊢
    rcases deactivate_standing m attempt with ⟨_, heq⟩ | ⟨_, _, _, hn⟩ | ⟨_, _, _, hn⟩
    · rw [heq] at hsome ⊢
      exact hm hsome
    · simp [hn] at hsome
    · simp [hn] at hsome

theorem after_backed {m : Manager} (hm : m.Backed) (steps : List Step) : (m.after steps).Backed := by
  induction steps generalizing m with
  | nil => exact hm
  | cons s steps ih => exact ih (perform_backed hm s)

theorem present_iff_not_stranded {m : Manager} (hm : m.Backed) :
    (m.session.isSome ↔ m.state = .starting ∨ m.state = .running) ↔
      ¬ m.Stranded .running ∧ ¬ m.Stranded .starting := by
  cases hs : m.session with
  | none =>
    have hstranded : ∀ state, m.Stranded state ↔ m.state = state := fun state => by simp [Stranded, hs]
    rw [hstranded, hstranded, Option.isSome_none]
    simp only [Bool.false_eq_true, false_iff]
    tauto
  | some live =>
    have hactive := hm (by simp [hs])
    simp [Stranded, hs, hactive]

theorem deactivate_settings (m : Manager) (attempt : Attempt) :
    (m.deactivate attempt).1.settings = m.settings := by
  unfold deactivate
  cases m.session with
  | none => rfl
  | some live => cases attempt.outcome <;> rfl

theorem activate_of_done {m : Manager} {host : Host} {attempt : Attempt} (h : m.state ≠ .running)
    {command : ServerLocation} (hc : m.serverCommand host = .ok command) (ho : attempt.outcome = .done) :
    (m.activate host attempt).1.state = .running ∧ (m.activate host attempt).2.1 = .active ∧
      (m.activate host attempt).1.session.isSome := by
  rw [activate_of_ok host attempt h hc, launch]
  simp [ho]

/-- A session is there exactly while the manager is starting or running, unless a stop was dropped and the state
it left was not mended since. Stopping and starting again gives a new session, unless the state was left at
running. -/
theorem session_present_iff_active (settings : Settings) (steps : List Step) :
    let fresh : Manager := { settings := settings }
    let m := fresh.after steps
    ((m.session.isSome ↔ m.state = .starting ∨ m.state = .running) ↔
      ¬ fresh.StrandedBy steps .running ∧ ¬ fresh.StrandedBy steps .starting) ∧
    ∀ (host : Host) (command : ServerLocation) (stop start : Attempt),
      m.serverCommand host = .ok command → stop.outcome ≠ .dropped → start.outcome = .done →
        let (m', result, _) := (m.deactivate stop).1.activate host start
        m'.state = .running ∧
        (¬ fresh.StrandedBy steps .running → result = .active ∧ m'.session.isSome) ∧
        (fresh.StrandedBy steps .running →
          result = .failed (.alreadyActive .running) ∧ m'.session = none) := by
  intro fresh m
  have hfresh : fresh.session = none ∧ fresh.state = .uninitialized := ⟨rfl, rfl⟩
  have hrun : m.Stranded .running ↔ fresh.StrandedBy steps .running := by
    rw [after_stranded (.inl rfl) fresh steps]
    simp [Stranded, hfresh]
  have hstart : m.Stranded .starting ↔ fresh.StrandedBy steps .starting := by
    rw [after_stranded (.inr rfl) fresh steps]
    simp [Stranded, hfresh]
  have hbacked : m.Backed := after_backed (fun h => by simp [hfresh] at h) steps
  constructor
  · rw [← hrun, ← hstart]
    exact present_iff_not_stranded hbacked
  · intro host command stop start hc hstop hdone
    rw [← hrun]
    have hc' : (m.deactivate stop).1.serverCommand host = .ok command := by
      rw [serverCommand, deactivate_settings]
      exact hc
    rcases deactivate_standing m stop with ⟨hn, heq⟩ | ⟨_, ho, _, _⟩ | ⟨hs, _, hstate, _⟩
    · rw [heq]
      by_cases h : m.state = .running
      · rw [activate_of_running host start h]
        exact ⟨h, fun hstr => absurd ⟨hn, h⟩ hstr, fun _ => ⟨rfl, hn⟩⟩
      · obtain ⟨h1, h2, h3⟩ := activate_of_done h hc hdone
        exact ⟨h1, fun _ => ⟨h2, h3⟩, fun hstr => absurd hstr.2 h⟩
    · exact absurd ho hstop
    · obtain ⟨h1, h2, h3⟩ := activate_of_done (by rw [hstate]; decide) hc' hdone
      exact ⟨h1, fun _ => ⟨h2, h3⟩, fun hstr => by simp [hstr.1] at hs⟩

/-- A host on which the shipped server is found. -/
def linuxHost : Host := ⟨Bytes.ofString "/ext/asp", .linux, [], none⟩

/-- The session is gone and the manager still says that it runs. -/
theorem running_without_session :
    let m := ({} : Manager).after [.activate linuxHost {}, .deactivate { outcome := .dropped }]
    ¬ (m.session.isSome ↔ m.state = .starting ∨ m.state = .running) := by
  decide

/-- After that no session can be stopped and none can be started. -/
theorem session_present_iff_active_stuck :
    let steps : List Step := [.activate linuxHost {}, .deactivate { outcome := .dropped }]
    let m := ({} : Manager).after steps
    ({} : Manager).StrandedBy steps .running ∧ (m.serverCommand linuxHost).isOk ∧
      ((m.deactivate {}).1.activate linuxHost {}).2.1 = .failed (.alreadyActive .running) := by
  intro steps m
  have hstranded : ({} : Manager).StrandedBy steps .running :=
    ⟨[.activate linuxHost {}], _, [], rfl, ⟨rfl, _, rfl, rfl⟩, rfl, .inl rfl⟩
  have hstuck := (session_present_iff_active {} steps).2 linuxHost _ {} {} rfl (by decide) rfl
  exact ⟨hstranded, rfl, (hstuck.2.2 hstranded).1⟩

end LspClient.Manager
