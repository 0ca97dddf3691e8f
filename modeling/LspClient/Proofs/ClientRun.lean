import LspClient.Proofs.OwnerTurns
import LspClient.Proofs.ServiceRun

/-!
# Runs of a client

A client is started and stopped, starts are given up, and in between it waits for other things. Every server that
it ever runs or abandons has come where it is by a run of service, and so has one that it parts from.
-/

namespace LspClient

open Connection (LeadsTo)

namespace Connection

/-- A call that goes on has returned nothing yet. -/
theorem CallTurn.returned_eq {c : Connection} {goal : Goal} {slot : Slot} {stage : Stage}
    {notes : List Note} {commands : List Command} {o : Owner} (h : CallTurn c goal slot stage notes commands o)
    (hcall : o.call ≠ none) : o.returned = c.owner.returned := by
  have hsettled : ∀ id r, (c.owner.settled goal id r).call ≠ none →
      (c.owner.settled goal id r).returned = c.owner.returned := by
    intro id r hcall
    cases goal with
    | shutdown timeout => rfl
    | handshake params =>
      cases r with
      | ok answer => rfl
      | error e => exact absurd rfl hcall
    | request method params timeout => exact absurd rfl hcall
    | notify method params => exact absurd rfl hcall
  have hnotified : ∀ settled sent, (c.owner.notified goal settled sent).call ≠ none →
      (c.owner.notified goal settled sent).returned = c.owner.returned := by
    intro settled sent hcall
    cases goal with
    | shutdown timeout => rfl
    | _ => cases sent <;> exact absurd rfl hcall
  cases h with
  | refused id h => exact hsettled _ _ hcall
  | answered id deadline body h => exact hsettled _ _ hcall
  | hungUp id deadline h => exact hsettled _ _ hcall
  | timedOut id limit => exact hsettled _ _ hcall
  | notifies settled h hroom => exact hnotified _ _ hcall
  | unheard settled h => exact hnotified _ _ hcall
  | returns settled h => exact absurd rfl hcall
  | _ => rfl

theorem isChoice_of_foreign {e : Event} (h : e.isForeign = true) : e.isChoice = false := by
  cases e with
  | start goal => cases h
  | cancel => cases h
  | _ => rfl

theorem isForeign_of_not_call {e : Event} (h : e.isChoice = false) (hcall : e ≠ .call) : e.isForeign = true := by
  cases e with
  | start goal => cases h
  | cancel => cases h
  | call => exact absurd rfl hcall
  | _ => rfl

/-- Without a call, what the owner does not choose leaves its part as it is. -/
theorem react_owner_of_none {c : Connection} (hc : c.call = none) {e : Event} (h : e.isChoice = false) :
    (c.react e).owner = c.owner := by
  by_cases hcall : e = .call
  · rw [hcall, react_call_of_none hc]
  · exact react_owner (isForeign_of_not_call h hcall) c

theorem react_returned {c : Connection} {e : Event} (h : e.isChoice = false)
    (hcall : (c.react e).call ≠ none) : (c.react e).returned = c.returned := by
  by_cases he : e = .call
  · subst he
    cases hc : c.call with
    | none => rw [react_call_of_none hc]
    | some call =>
      obtain ⟨goal, stage, slot⟩ := call
      refine (call_turn hc).returned_eq fun hnone => hcall ?_
      exact (call_eq_none_iff _).1 hnone
  · exact congrArg Owner.returned (react_owner (isForeign_of_not_call h he) c)

end Connection

theorem Client.outcome_congr {c c' : Connection} (h : c.returned = c'.returned) :
    Client.outcome c = Client.outcome c' := by
  rw [Client.outcome, Client.outcome, h]

namespace Service

/-- A start that nobody gives up: it goes on, or its outcome shows in the standing. -/
inductive Introduced (s : Service) : Prop where
  | awaits (h : s.standing = .starting) (hcall : s.connection.call ≠ none) (hreturned : s.connection.returned = [])
  | succeeded (h : s.standing = .running) (hcall : s.connection.call = none)
      (houtcome : Client.outcome s.connection = .done)
  | failed (h : s.standing = .gone) (hcall : s.connection.call = none)
      (houtcome : Client.outcome s.connection ≠ .done)

theorem Introduced.of_conclude {c : Connection} (h : c.call ≠ none → c.returned = []) :
    Introduced (conclude ⟨.starting, c⟩) := by
  cases hc : c.call with
  | some call =>
    have hsame : conclude ⟨.starting, c⟩ = ⟨.starting, c⟩ := by simp only [conclude, hc]
    rw [hsame]
    exact .awaits rfl (by simp [hc]) (h (by simp [hc]))
  | none =>
    cases houtcome : Client.outcome c with
    | done =>
      have hrunning : conclude ⟨.starting, c⟩ = ⟨.running, c⟩ := by simp only [conclude, hc, houtcome]
      rw [hrunning]
      exact .succeeded rfl hc houtcome
    | failed e =>
      have hgone : conclude ⟨.starting, c⟩ = ⟨.gone, c⟩ := by simp only [conclude, hc, houtcome]
      rw [hgone]
      exact .failed rfl hc (by simp [houtcome])
    | dropped =>
      have hgone : conclude ⟨.starting, c⟩ = ⟨.gone, c⟩ := by simp only [conclude, hc, houtcome]
      rw [hgone]
      exact .failed rfl hc (by simp [houtcome])

theorem conclude_of_settled {standing : Standing} (hstarting : standing ≠ .starting)
    (hstopping : standing ≠ .stopping) (c : Connection) : conclude ⟨standing, c⟩ = ⟨standing, c⟩ := by
  cases standing with
  | starting => exact absurd rfl hstarting
  | stopping => exact absurd rfl hstopping
  | _ => rfl

section Idle
variable {c : Connection} (hc : c.call = none) {e : Connection.Event} (he : e.isChoice = false)
include hc he

theorem react_call_none : (c.react e).call = none := by
  rw [← Connection.call_eq_none_iff, Connection.react_owner_of_none hc he, Connection.call_eq_none_iff]
  exact hc

theorem react_outcome : Client.outcome (c.react e) = Client.outcome c :=
  Client.outcome_congr (congrArg Connection.Owner.returned (Connection.react_owner_of_none hc he))

end Idle

theorem Introduced.meanwhile {s : Service} (h : Introduced s) {e : Connection.Event} (he : e.isChoice = false) :
    Introduced (s.step (.meanwhile e)) := by
  rw [step_meanwhile s he]
  cases h with
  | awaits hstanding hcall hreturned =>
    rw [hstanding]
    exact .of_conclude fun hcall' => (Connection.react_returned he hcall').trans hreturned
  | succeeded hstanding hcall houtcome =>
    rw [hstanding, conclude_of_settled (by simp) (by simp)]
    exact .succeeded rfl (react_call_none hcall he) ((react_outcome hcall he).trans houtcome)
  | failed hstanding hcall houtcome =>
    rw [hstanding, conclude_of_settled (by simp) (by simp)]
    refine .failed rfl (react_call_none hcall he) fun hdone => houtcome ?_
    rw [← react_outcome hcall he]
    exact hdone

theorem step_introduce (c : Connection) (params : Json) :
    (launch c).step (.introduce params) = conclude ⟨.starting, c.react (.start (.handshake params))⟩ := rfl

/-- What a connection does without its owner's choice is a run of service, which keeps what such events keep. -/
theorem serve_leadsTo {P : Service → Prop}
    (step : ∀ {s : Service} {e : Connection.Event}, e.isChoice = false → P s → P (s.step (.meanwhile e)))
    {s : Service} (hs : P s) {c : Connection} (h : LeadsTo s.connection c) :
    ∃ events, (s.serve events).connection = c ∧ P (s.serve events) := by
  obtain ⟨events, hevents, rfl⟩ := h
  induction events generalizing s with
  | nil => exact ⟨[], rfl, hs⟩
  | cons e events ih =>
    have he : e.isChoice = false := hevents e List.mem_cons_self
    obtain ⟨more, hmore, hp⟩ := ih (step he hs) fun e he => hevents e (List.mem_cons_of_mem _ he)
    refine ⟨.meanwhile e :: more, hmore.trans ?_, hp⟩
    rw [step_meanwhile s he, conclude_connection]
    rfl

/-- A connection is reached by a run of service with a server that was just launched. -/
def Reaches (standing : Standing) (c : Connection) : Prop :=
  ∃ name level clock target events, (fresh name level clock target).serve events = ⟨standing, c⟩

theorem Reaches.idle {c c' : Connection} (h : Reaches .running c) (hlead : LeadsTo c c') : Reaches .running c' := by
  obtain ⟨name, level, clock, target, events, hserve⟩ := h
  have hstep : ∀ {s : Service} {e : Connection.Event}, e.isChoice = false → s.standing = .running →
      (s.step (.meanwhile e)).standing = .running := by
    intro s e he hstanding
    rw [step_meanwhile s he, hstanding, conclude_of_settled (by simp) (by simp)]
  have hconnection : ((fresh name level clock target).serve events).connection = c := by
    rw [hserve]
  obtain ⟨more, hmore, hstanding⟩ := serve_leadsTo (P := fun s => s.standing = .running) hstep
    (s := (fresh name level clock target).serve events) (by rw [hserve])
    (hconnection ▸ hlead)
  refine ⟨name, level, clock, target, events ++ more, ?_⟩
  rw [serve_append, ← hmore, ← hstanding]

/-- The start or the stop is going on, if there is a call at all. -/
def Watched (s : Service) : Prop :=
  s.standing = .starting ∨ s.standing = .stopping ∨ s.connection.call = none

theorem Introduced.watched {s : Service} (h : Introduced s) : s.Watched := by
  cases h with
  | awaits h _ _ => exact .inl h
  | succeeded _ hcall _ => exact .inr (.inr hcall)
  | failed _ hcall _ => exact .inr (.inr hcall)

theorem watched_conclude {s : Service} (h : s.Watched) : s.conclude.Watched := by
  unfold conclude
  split
  · rename_i hcall
    split <;> exact .inr (.inr hcall)
  · rename_i hcall
    exact .inr (.inr hcall)
  · exact h

theorem Watched.meanwhile {s : Service} (h : s.Watched) {e : Connection.Event} (he : e.isChoice = false) :
    (s.step (.meanwhile e)).Watched := by
  rw [step_meanwhile s he]
  refine watched_conclude ?_
  rcases h with hstarting | hstopping | hcall
  · exact .inl hstarting
  · exact .inr (.inl hstopping)
  · exact .inr (.inr (react_call_none hcall he))

/-- A call that nobody waits for any more is dropped. -/
theorem Reaches.dropped {standing : Standing} {c : Connection} (h : Reaches standing c)
    (hwatched : Watched ⟨standing, c⟩) : ∃ standing', Reaches standing' c.cancel := by
  obtain ⟨name, level, clock, target, events, hserve⟩ := h
  have hgiven : (standing = .starting ∨ standing = .stopping) → ∃ standing', Reaches standing' c.cancel := by
    intro hgoing
    refine ⟨.gone, name, level, clock, target, events ++ [.giveUp], ?_⟩
    rw [serve_concat, hserve]
    rcases hgoing with rfl | rfl <;> rfl
  rcases hwatched with hstarting | hstopping | hcall
  · exact hgiven (.inl hstarting)
  · exact hgiven (.inr hstopping)
  · -- There is nothing to drop.
    have hsame : c.cancel = c := by
      cases c
      cases hcall
      simp [Connection.cancel]
    exact ⟨standing, name, level, clock, target, events, by rw [hserve, hsame]⟩

end Service

namespace Client
open Service (Reaches)

theorem connect_start (c : Client) (program : Child.Program) (params : Json) :
    (c.connect program).connection.start (.handshake params) =
      .ok ((c.connect program).connection.react (.start (.handshake params))) := rfl

theorem introduce_leadsTo (c : Client) (root : Option FileUri) (program : Child.Program) :
    LeadsTo
      ((c.connect program).connection.react
        (.start (.handshake (Initialize.params c.process root c.protocol.traceLevel))))
      (c.introduce root (c.connect program)).connection := by
  simp only [introduce, connect_start]
  exact Server.proceed_leadsTo .runCall _ _

/-- A server that the client introduces itself to, however far it takes the handshake. -/
theorem introduce_run (c : Client) (root : Option FileUri) (program : Child.Program) {drive : Server → Server}
    (hdrive : ∀ s, LeadsTo s.connection (drive s).connection) :
    ∃ events, let s := (Service.launch (c.connect program).connection).serve events
      s.connection = (drive (c.introduce root (c.connect program))).connection ∧ s.Introduced := by
  have hintroduced : ((Service.launch (c.connect program).connection).step
      (.introduce (Initialize.params c.process root c.protocol.traceLevel))).Introduced := by
    rw [Service.step_introduce]
    exact .of_conclude fun _ => rfl
  have hlead : LeadsTo ((Service.launch (c.connect program).connection).step
      (.introduce (Initialize.params c.process root c.protocol.traceLevel))).connection
      (drive (c.introduce root (c.connect program))).connection := by
    rw [Service.step_introduce, Service.conclude_connection]
    exact (introduce_leadsTo c root program).trans (hdrive _)
  obtain ⟨events, hconnection, hs⟩ := Service.serve_leadsTo (fun he h => h.meanwhile he) hintroduced hlead
  exact ⟨_ :: events, hconnection, hs⟩

theorem outcome_of_returned_nil {c : Connection} (h : c.returned = []) : outcome c = .dropped := by
  rw [outcome, h]
  rfl

section Start
variable (c : Client) (root : Option FileUri) (program : Child.Program) {drive : Server → Server}
  (hdrive : ∀ s, LeadsTo s.connection (drive s).connection)
include hdrive

theorem introduce_dropped :
    ∃ standing, Reaches standing (drive (c.introduce root (c.connect program))).connection.cancel := by
  obtain ⟨events, hconnection, hs⟩ := introduce_run c root program hdrive
  rw [← hconnection]
  exact Reaches.dropped ⟨_, _, _, _, events, rfl⟩ hs.watched

theorem introduce_reaches_running
    (hdone : outcome (drive (c.introduce root (c.connect program))).connection = .done) :
    Reaches .running (drive (c.introduce root (c.connect program))).connection := by
  obtain ⟨events, hconnection, hs⟩ := introduce_run c root program hdrive
  rw [← hconnection] at hdone
  -- Nothing is returned while the handshake goes on, and a failure is no success.
  have hstanding : ((Service.launch (c.connect program).connection).serve events).standing = .running := by
    cases hs with
    | awaits h hcall hreturned =>
      rw [outcome_of_returned_nil hreturned] at hdone
      cases hdone
    | succeeded h hcall houtcome => exact h
    | failed h hcall houtcome => exact absurd hdone houtcome
  exact ⟨_, _, _, _, events, by rw [← hconnection, ← hstanding]; rfl⟩

end Start

theorem goodbye_leadsTo (patience : Nat) (s : Server) :
    LeadsTo (s.connection.react (.start (.shutdown grace))) (goodbye patience s).connection := by
  unfold goodbye
  cases hstart : s.connection.start (.shutdown grace) with
  | ok connection =>
    have hreact : s.connection.react (.start (.shutdown grace)) = connection := by
      simp [Connection.react, Connection.next?, hstart, Except.toOption]
    rw [hreact]
    exact (Server.proceed_leadsTo .runCall s connection).trans (Server.await_leadsTo _ _)
  | error refusal =>
    have hreact : s.connection.react (.start (.shutdown grace)) = s.connection := by
      simp [Connection.react, Connection.next?, hstart, Except.toOption]
    rw [hreact]
    exact .refl _

/-- Parting from a server that runs goes on with the run that led there. -/
theorem goodbye_run {s : Server} (h : Reaches .running s.connection) (patience : Nat) :
    ∃ name level clock target events more,
      (Service.fresh name level clock target).serve events = ⟨.running, s.connection⟩ ∧
        ((Service.fresh name level clock target).serve (events ++ .stop :: more)).connection =
          (goodbye patience s).connection ∧
        ((Service.fresh name level clock target).serve (events ++ .stop :: more)).Watched := by
  obtain ⟨name, level, clock, target, events, hserve⟩ := h
  have hstop : ((⟨.running, s.connection⟩ : Service).step .stop).connection =
      s.connection.react (.start (.shutdown grace)) := Service.conclude_connection _
  have hwatched : ((⟨.running, s.connection⟩ : Service).step .stop).Watched :=
    Service.watched_conclude (.inr (.inl rfl))
  obtain ⟨more, hmore, hstill⟩ := Service.serve_leadsTo (fun he hs => hs.meanwhile he)
    hwatched (hstop ▸ goodbye_leadsTo patience s)
  refine ⟨name, level, clock, target, events, more, hserve, ?_⟩
  rw [Service.serve_append, hserve]
  exact ⟨hmore, hstill⟩

/-- Something that is done with a client, and for how long it is waited for. -/
inductive Op where
  | start (patience : Nat) (launch : Executable → Except Child.LaunchError Child.Program)
  | stop (patience : Nat)
  | rest (patience : Nat)

def perform (c : Client) : Op → Client × Outcome
  | .start patience launch => c.start patience launch
  | .stop patience => c.stop patience
  | .rest patience => (c.rest patience, .done)

def after (c : Client) (ops : List Op) : Client :=
  ops.foldl (fun c op => (c.perform op).1) c

/-- Every server of a client has come where it is by a run of service. -/
structure Hosts (c : Client) : Prop where
  running : ∀ s, c.running = some s → Reaches .running s.connection
  abandoned : ∀ s ∈ c.abandoned, ∃ standing, Reaches standing s.connection

theorem Hosts.of_unused {c : Client} (hrunning : c.running = none) (habandoned : c.abandoned = []) : c.Hosts :=
  ⟨by simp [hrunning], by simp [habandoned]⟩

section Steps
variable {c : Client} (h : c.Hosts)
include h

theorem Hosts.abandon {s : Server} (hrunning : c.running = none)
    (hs : ∃ standing, Reaches standing s.connection.cancel) : (c.abandon s).Hosts where
  running := by
    intro server hserver
    exact absurd (hrunning.symm.trans hserver) (by simp)
  abandoned := by
    intro server hserver
    rcases List.mem_append.1 hserver with hserver | hserver
    · exact h.abandoned server hserver
    · cases List.mem_singleton.1 hserver
      exact hs

theorem Hosts.start (patience : Nat) (launch : Executable → Except Child.LaunchError Child.Program) :
    (c.start patience launch).1.Hosts := by
  unfold Client.start
  split
  · exact h
  · rename_i hidle
    have hnone : c.running = none := by simpa [isRunning] using hidle
    dsimp only
    split
    · exact ⟨h.running, h.abandoned⟩
    · rename_i program _
      split
      · apply Hosts.abandon
        · exact ⟨h.running, h.abandoned⟩
        · exact hnone
        · exact Reaches.dropped ⟨_, _, _, _, [], rfl⟩ (.inr (.inr rfl))
      · rename_i root _
        -- The servers abandoned before are dead by now and off the record.
        have hdropped := fun c : Client => introduce_dropped c root program (Server.await_leadsTo patience)
        split
        · rename_i hdone
          refine ⟨fun server hserver => ?_, by simp⟩
          cases hserver
          exact introduce_reaches_running _ root program (Server.await_leadsTo patience) hdone
        · refine Hosts.abandon ⟨?_, by simp⟩ hnone (hdropped _)
          exact h.running
        · refine Hosts.abandon ⟨?_, by simp⟩ hnone (hdropped _)
          exact h.running

theorem Hosts.stop (patience : Nat) : (c.stop patience).1.Hosts := by
  unfold Client.stop
  split
  · exact h
  · rename_i server hserver
    have hstopped : ∀ c' : Client, c'.running = none → c'.abandoned = c.abandoned → c'.Hosts := by
      intro c' hrunning habandoned
      refine ⟨by simp [hrunning], ?_⟩
      rw [habandoned]
      exact h.abandoned
    dsimp only
    split
    · apply Hosts.abandon
      · exact hstopped _ rfl rfl
      · rfl
      · obtain ⟨name, level, clock, target, events, more, -, hparted, hwatched⟩ :=
          goodbye_run (h.running server hserver) patience
        rw [← hparted]
        exact Reaches.dropped ⟨_, _, _, _, _, rfl⟩ hwatched
    · unfold part
      dsimp only
      split
      · exact hstopped _ rfl rfl
      · exact hstopped _ rfl rfl
      · exact hstopped _ rfl rfl

theorem Hosts.rest (patience : Nat) : (c.rest patience).Hosts := by
  unfold Client.rest
  split
  · exact h
  · rename_i s hs
    refine ⟨?_, h.abandoned⟩
    intro server hserver
    cases hserver
    exact (h.running s hs).idle (Server.rest_leadsTo patience s)

theorem Hosts.perform (op : Op) : (c.perform op).1.Hosts := by
  cases op with
  | start patience launch => exact h.start patience launch
  | stop patience => exact h.stop patience
  | rest patience => exact h.rest patience

theorem Hosts.after (ops : List Op) : (c.after ops).Hosts := by
  induction ops generalizing c with
  | nil => exact h
  | cons op ops ih => exact ih (h.perform op)

end Steps

end Client

end LspClient
