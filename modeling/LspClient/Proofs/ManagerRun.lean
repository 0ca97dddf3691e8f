import LspClient.Manager

/-!
# Calls on a session manager

A run is a list of calls, each with what the client does in it. The calls never overlap, so the manager after a
run is a fold. What one activation and one deactivation do is said here once, case by case; the rest of the
theory takes it from these equations.
-/

namespace LspClient.Manager

/-- A call on a manager, and what the client does if the call comes to start or stop it. -/
inductive Step where
  | activate (h : Host) (attempt : Attempt)
  | deactivate (attempt : Attempt)

def Step.isActivate : Step → Bool
  | .activate _ _ => true
  | .deactivate _ => false

/-- The manager after one call. -/
def perform (m : Manager) : Step → Manager
  | .activate h attempt => (m.activate h attempt).1
  | .deactivate attempt => (m.deactivate attempt).1

/-- The manager after a row of calls. -/
def after (m : Manager) (steps : List Step) : Manager :=
  steps.foldl perform m

@[simp] theorem after_nil (m : Manager) : m.after [] = m := rfl

@[simp] theorem after_cons (m : Manager) (s : Step) (steps : List Step) :
    m.after (s :: steps) = (m.perform s).after steps := rfl

/-- The manager of an activation that has let go of a leftover session and made its channel. -/
def prepared (m : Manager) : Manager :=
  m.discardLeftover.1.openChannel.1

theorem discardLeftover_of_starting {m : Manager} (h : m.state = .starting) :
    m.discardLeftover.1 = { m with session := none, state := .uninitialized } := by
  simp [discardLeftover, h]

theorem discardLeftover_of_ne_starting {m : Manager} (h : m.state ≠ .starting) :
    m.discardLeftover = (m, []) := by
  unfold discardLeftover
  split
  · rename_i hs
    exact absurd hs h
  · rfl

theorem discardLeftover_channels (m : Manager) : m.discardLeftover.1.channels = m.channels := by
  unfold discardLeftover
  split <;> rfl

/-- An activation keeps the settings, the identity and the numbering while it prepares. -/
theorem prepared_eq (m : Manager) :
    m.prepared =
      { m with
        state := if m.state = .starting then .uninitialized else m.state
        session := if m.state = .starting then none else m.session
        channel := some (m.channels, traceChannelName)
        channels := m.channels + 1 } := by
  by_cases h : m.state = .starting
  · rw [prepared, discardLeftover_of_starting h, openChannel, if_pos h, if_pos h]
  · rw [prepared, discardLeftover_of_ne_starting h, openChannel, if_neg h, if_neg h]

/-- The command depends on the manager through its settings alone. -/
theorem serverCommand_prepared (m : Manager) (host : Host) :
    m.prepared.serverCommand host = m.serverCommand host := by
  rw [prepared_eq]
  rfl

theorem makeSession_prepared (m : Manager) (host : Host) (command : ServerLocation) :
    m.prepared.makeSession host command = m.makeSession host command := by
  rw [prepared_eq]
  rfl

section Activate
variable {m : Manager} (host : Host) (attempt : Attempt)

theorem activate_of_running (h : m.state = .running) :
    m.activate host attempt = (m, .failed (.alreadyActive .running), []) := by
  rw [activate, if_pos h, h]

/-- What an activation has done before it looks for a command. -/
def preparation (m : Manager) : List Effect :=
  m.discardLeftover.2 ++ m.discardLeftover.1.openChannel.2

theorem activate_of_error (h : m.state ≠ .running) {e : Platform.Unsupported}
    (he : m.serverCommand host = .error e) :
    m.activate host attempt =
      (m.prepared, .failed (.unsupportedPlatform e),
        m.preparation ++
          [.traced m.channels ("Cannot start " ++ m.identity.name ++ ": " ++ e.message)]) := by
  have hcommand := (serverCommand_prepared m host).trans he
  have hname : m.prepared.identity = m.identity := by rw [prepared_eq]
  rw [prepared] at hcommand hname
  simp only [activate, if_neg h, hcommand, hname, discardLeftover_channels]
  rfl

theorem activate_of_ok (h : m.state ≠ .running) {command : ServerLocation}
    (hc : m.serverCommand host = .ok command) :
    m.activate host attempt =
      let launched := m.prepared.launch m.channels (m.makeSession host command) attempt
      (launched.1, launched.2.1, m.preparation ++ launched.2.2) := by
  have hcommand := (serverCommand_prepared m host).trans hc
  have hsession := makeSession_prepared m host command
  rw [prepared] at hcommand hsession
  simp only [activate, if_neg h, hcommand, hsession, discardLeftover_channels]
  rfl

end Activate

end LspClient.Manager
