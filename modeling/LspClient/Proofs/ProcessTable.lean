import LspClient.Proofs.Lifecycle
import LspClient.Proofs.ServerTurns

/-!
# The processes of a client

A client has at most one process that has not ended, and that one belongs to the server that it runs. `Turn` lists
all that a start, a stop or a wait can do to the processes, however long each of them is waited for and whatever the
server does. From that list alone follows when a client runs and how many processes are alive.

A process that the system refuses to kill stays alive; a stop says so when it comes to that. It does not come to that
while the writer stands before a full pipe, which nothing limits: behind a server that has stopped reading a stop goes
on for ever, and only a caller that gives it up ends the process.
-/

namespace LspClient

open Child (Program LaunchError)

namespace Client

def alive (c : Client) : Nat :=
  c.children.countP ChildState.isAlive

structure Processes where
  running : Bool
  children : List ChildState

def processes (c : Client) : Processes :=
  ⟨c.isRunning, c.children⟩

/-- All that can be done to the processes, and what it comes to. -/
inductive Turn : Processes → Op → Outcome → Processes → Prop where
  | rejects {patience : Nat} {launch : Executable → Except LaunchError Program} (children : List ChildState)
      (e : Failure) : Turn ⟨true, children⟩ (.start patience launch) (.failed e) ⟨true, children⟩
  | spawnsNothing {patience : Nat} {launch : Executable → Except LaunchError Program} (children : List ChildState)
      (e : Failure) : Turn ⟨false, children⟩ (.start patience launch) (.failed e) ⟨false, children⟩
  | spawns {patience : Nat} {launch : Executable → Except LaunchError Program} (children : List ChildState) :
      Turn ⟨false, children⟩ (.start patience launch) .done ⟨true, children ++ [.alive]⟩
  | abandons {patience : Nat} {launch : Executable → Except LaunchError Program} (children : List ChildState)
      {outcome : Outcome} (h : outcome ≠ .done) :
      Turn ⟨false, children⟩ (.start patience launch) outcome ⟨false, children ++ [.killed]⟩
  | idles {patience : Nat} (children : List ChildState) :
      Turn ⟨false, children⟩ (.stop patience) .done ⟨false, children⟩
  | ends {patience : Nat} (children : List ChildState) {state : ChildState} (h : state.isAlive = false) :
      Turn ⟨true, children⟩ (.stop patience) .done ⟨false, children.dropLast ++ [state]⟩
  | drops {patience : Nat} (children : List ChildState) :
      Turn ⟨true, children⟩ (.stop patience) .dropped ⟨false, children.dropLast ++ [.killed]⟩
  | loses {patience : Nat} (children : List ChildState) (e : Failure) :
      Turn ⟨true, children⟩ (.stop patience) (.failed e) ⟨false, children⟩
  | rests {patience : Nat} (p : Processes) : Turn p (.rest patience) .done p

theorem Turn.idle_of_start {p p' : Processes} {patience : Nat} {launch : Executable → Except LaunchError Program}
    {outcome : Outcome} (h : Turn p (.start patience launch) outcome p') (hidle : p.running = false)
    (hdone : outcome ≠ .done) : p'.running = false := by
  cases h with
  | rejects => cases hidle
  | spawnsNothing => rfl
  | spawns => exact absurd rfl hdone
  | abandons => rfl

theorem Turn.idle_of_stop {p p' : Processes} {patience : Nat} {outcome : Outcome}
    (h : Turn p (.stop patience) outcome p') : p'.running = false := by
  cases h <;> rfl

section Turns
variable (c : Client)

theorem start_of_running {c : Client} (h : c.isRunning = true) (patience : Nat)
    (launch : Executable → Except LaunchError Program) :
    c.start patience launch = (c, .failed c.alreadyRunning) := by
  rw [start, if_pos h]

theorem stop_of_not_running {c : Client} (h : c.isRunning = false) (patience : Nat) :
    c.stop patience = (c, .done) := by
  have hnone : c.running = none := by simpa [isRunning] using h
  simp only [stop, hnone]

theorem start_turn (patience : Nat) (launch : Executable → Except LaunchError Program) :
    Turn c.processes (.start patience launch) (c.start patience launch).2 (c.start patience launch).1.processes := by
  cases hrunning : c.isRunning with
  | true =>
    rw [start_of_running hrunning, processes, hrunning]
    exact .rejects _ _
  | false =>
    have hnone : c.running = none := by simpa [isRunning] using hrunning
    have hidle : c.processes = ⟨false, c.children⟩ := by rw [processes, hrunning]
    -- A child that was spawned for nothing is killed.
    have habandoned : ∀ (c' : Client) (s : Server) (outcome : Outcome), c'.running = none →
        c'.children = c.children ++ [.alive] → outcome ≠ .done →
          Turn ⟨false, c.children⟩ (.start patience launch) outcome (c'.abandon s).processes := by
      intro c' s outcome hrunning' hchildren houtcome
      have hprocesses : (c'.abandon s).processes = ⟨false, c.children ++ [.killed]⟩ := by
        simp [processes, isRunning, abandon, settleChild, hrunning', hchildren]
      rw [hprocesses]
      exact .abandons _ houtcome
    have hnothing : ∀ (c' : Client) (e : Failure), c'.running = none → c'.children = c.children →
        Turn ⟨false, c.children⟩ (.start patience launch) (.failed e) c'.processes := by
      intro c' e hrunning' hchildren
      have hprocesses : c'.processes = ⟨false, c.children⟩ := by simp [processes, isRunning, hrunning', hchildren]
      rw [hprocesses]
      exact .spawnsNothing _ _
    rw [hidle, start, if_neg (by simp [hrunning])]
    dsimp only
    split
    · exact hnothing _ _ hnone rfl
    · split
      · exact habandoned _ _ _ hnone rfl (by simp)
      · split
        · exact .spawns _
        · exact habandoned _ _ _ hnone rfl (by simp)
        · exact habandoned _ _ _ hnone rfl (by simp)

/-- How a stop goes on once the goodbye is over: a child that has not ended in time is killed, and only if that fails
the stop does. -/
theorem part_cases (parted : Server) :
    (∃ state : ChildState, state.isAlive = false ∧ (c.part parted).2 = .done ∧
      (c.part parted).1.processes = ⟨c.isRunning, c.children.dropLast ++ [state]⟩) ∨
    ∃ reason, parted.program.killFailure = some reason ∧
      (c.part parted).2 = .failed ((Failure.mk reason []).within "killing language server") ∧
      (c.part parted).1.processes = c.processes := by
  unfold part
  dsimp only
  split
  · rename_i status _
    exact .inl ⟨.exited status, rfl, rfl, rfl⟩
  · exact .inl ⟨.killed, rfl, rfl, rfl⟩
  · rename_i reason _ hreason
    refine .inr ⟨reason, ?_, rfl, rfl⟩
    split at hreason
    · cases hreason
    · exact hreason

/-- All that a stop of a client that runs can come to. -/
inductive Parted (c : Client) (server : Server) (patience : Nat) : Prop where
  | dropped (hgoes : (goodbye patience server).connection.call ≠ none) (h : (c.stop patience).2 = .dropped)
      (hprocesses : (c.stop patience).1.processes = ⟨false, c.children.dropLast ++ [.killed]⟩)
  | done (hover : (goodbye patience server).connection.call = none) (h : (c.stop patience).2 = .done)
      {state : ChildState} (hstate : state.isAlive = false)
      (hprocesses : (c.stop patience).1.processes = ⟨false, c.children.dropLast ++ [state]⟩)
  | failed (hover : (goodbye patience server).connection.call = none) {reason : String}
      (hreason : (goodbye patience server).program.killFailure = some reason)
      (h : (c.stop patience).2 = .failed ((Failure.mk reason []).within "killing language server"))
      (hprocesses : (c.stop patience).1.processes = ⟨false, c.children⟩)

theorem parted_of_running {c : Client} {server : Server} (hrunning : c.running = some server) (patience : Nat) :
    Parted c server patience := by
  let parted := goodbye patience server
  let c' : Client := { c.addLines (parted.trace.drop server.trace.length) with running := none }
  have hstop : c.stop patience =
      if parted.connection.call.isSome then (c'.abandon parted, .dropped) else c'.part parted := by
    rw [stop, hrunning]
  cases hcall : parted.connection.call with
  | some call =>
    rw [hcall] at hstop
    refine .dropped ?_ (congrArg Prod.snd hstop) (congrArg (·.1.processes) hstop)
    exact fun hnone => by cases hcall.symm.trans hnone
  | none =>
    rw [hcall] at hstop
    rcases part_cases c' parted with ⟨state, hstate, hdone, hafter⟩ | ⟨reason, hreason, hfailed, hafter⟩
    · exact .done hcall ((congrArg Prod.snd hstop).trans hdone) hstate
        ((congrArg (·.1.processes) hstop).trans hafter)
    · exact .failed hcall hreason ((congrArg Prod.snd hstop).trans hfailed)
        ((congrArg (·.1.processes) hstop).trans hafter)

theorem stop_turn (patience : Nat) :
    Turn c.processes (.stop patience) (c.stop patience).2 (c.stop patience).1.processes := by
  cases hrunning : c.running with
  | none =>
    have hidle : c.isRunning = false := by simp [isRunning, hrunning]
    rw [stop_of_not_running hidle, processes, hidle]
    exact .idles _
  | some server =>
    have hbusy : c.processes = ⟨true, c.children⟩ := by simp [processes, isRunning, hrunning]
    rw [hbusy]
    cases parted_of_running hrunning patience with
    | dropped _ hdropped hafter =>
      rw [hdropped, hafter]
      exact .drops _
    | done _ hdone hstate hafter =>
      rw [hdone, hafter]
      exact .ends _ hstate
    | failed _ hreason hfailed hafter =>
      rw [hfailed, hafter]
      exact .loses _ _

theorem processes_rest (patience : Nat) : (c.rest patience).processes = c.processes := by
  unfold rest
  split
  · rfl
  · rename_i server hserver
    simp [processes, isRunning, addLines, hserver]

/-- Nothing else ever happens to the processes. -/
theorem perform_turn (op : Op) : Turn c.processes op (c.perform op).2 (c.perform op).1.processes := by
  cases op with
  | start patience launch => exact start_turn c patience launch
  | stop patience => exact stop_turn c patience
  | rest patience =>
    rw [perform, processes_rest]
    exact .rests _

end Turns

/-- What was done with a client, and how that went. -/
structure Report where
  op : Op
  wasRunning : Bool
  outcome : Outcome

namespace Report

/-- A start of a client that did not run, and that was not dropped. -/
def isAttempt (r : Report) : Bool :=
  match r.op with
  | .start _ _ => !r.wasRunning && r.outcome ≠ .dropped
  | _ => false

def isStop (r : Report) : Bool :=
  match r.op with
  | .stop _ => true
  | _ => false

/-- A stop that could not end its process. -/
def isLoss (r : Report) : Bool :=
  r.isStop && r.outcome ≠ .done && r.outcome ≠ .dropped

end Report

def report (c : Client) (op : Op) : Report :=
  ⟨op, c.isRunning, (c.perform op).2⟩

def reports (c : Client) : List Op → List Report
  | [] => []
  | op :: ops => c.report op :: (c.perform op).1.reports ops

/-- The last attempt to start has succeeded, and there was no stop since. -/
def Holding (reports : List Report) : Prop :=
  ∃ before r later, reports = before ++ r :: later ∧ r.isAttempt = true ∧ r.outcome = .done ∧
    ∀ x ∈ later, x.isAttempt = false ∧ x.isStop = false

theorem holding_concat (reports : List Report) (r : Report) :
    Holding (reports ++ [r]) ↔
      r.isAttempt = true ∧ r.outcome = .done ∨ (r.isAttempt = false ∧ r.isStop = false) ∧ Holding reports := by
  constructor
  · rintro ⟨before, x, later, heq, hattempt, hdone, hlater⟩
    rcases List.eq_nil_or_concat later with rfl | ⟨later, last, rfl⟩
    · obtain ⟨-, hlast⟩ := List.append_inj' heq rfl
      cases hlast
      exact .inl ⟨hattempt, hdone⟩
    · rw [List.concat_eq_append, ← List.cons_append, ← List.append_assoc] at heq
      obtain ⟨rfl, hlast⟩ := List.append_inj' heq rfl
      cases hlast
      refine .inr ⟨hlater r (by simp), before, x, later, rfl, hattempt, hdone, fun y hy => hlater y (by simp [hy])⟩
  · rintro (⟨hattempt, hdone⟩ | ⟨hr, before, x, later, rfl, hattempt, hdone, hlater⟩)
    · exact ⟨reports, r, [], rfl, hattempt, hdone, by simp⟩
    · refine ⟨before, x, later ++ [r], by simp, hattempt, hdone, fun y hy => ?_⟩
      rcases List.mem_append.mp hy with hy | hy
      · exact hlater y hy
      · rw [List.mem_singleton.mp hy]
        exact hr

/-- How the processes of a client go with what was done before. -/
structure Orderly (p : Processes) (reports : List Report) : Prop where
  running : p.running = true ↔ Holding reports
  alive : p.children.countP ChildState.isAlive = p.running.toNat + reports.countP Report.isLoss
  last : p.running = true → p.children.getLast? = some .alive

theorem Orderly.turn {p p' : Processes} {reports : List Report} {op : Op} {outcome : Outcome}
    (h : Orderly p reports) (hturn : Turn p op outcome p') :
    Orderly p' (reports ++ [⟨op, p.running, outcome⟩]) := by
  have hrunning := h.running
  have halive := h.alive
  cases hturn with
  | rejects children e =>
    refine ⟨?_, ?_, h.last⟩
    · simp [holding_concat, Report.isAttempt, Report.isStop, ← hrunning]
    · simpa [Report.isLoss, Report.isStop] using halive
  | spawnsNothing children e =>
    refine ⟨?_, ?_, h.last⟩
    · simp [holding_concat, Report.isAttempt]
    · simpa [Report.isLoss, Report.isStop] using halive
  | spawns children =>
    refine ⟨?_, ?_, fun _ => by simp⟩
    · simp [holding_concat, Report.isAttempt]
    · simpa [Report.isLoss, Report.isStop, ChildState.isAlive, Nat.add_comm] using halive
  | abandons children houtcome =>
    refine ⟨?_, ?_, fun hcontra => by cases hcontra⟩
    · simp [holding_concat, Report.isAttempt, houtcome, ← hrunning]
    · simpa [Report.isLoss, Report.isStop, ChildState.isAlive] using halive
  | idles children =>
    refine ⟨?_, ?_, h.last⟩
    · simp [holding_concat, Report.isAttempt, Report.isStop]
    · simpa [Report.isLoss, Report.isStop] using halive
  | ends children hstate =>
    refine ⟨?_, ?_, fun hcontra => by cases hcontra⟩
    · simp [holding_concat, Report.isAttempt, Report.isStop]
    · -- The process that ends is the last one, and it was alive.
      obtain ⟨before, rfl⟩ := List.getLast?_eq_some_iff.mp (h.last rfl)
      have hbefore : before.countP ChildState.isAlive = reports.countP Report.isLoss := by
        simpa [ChildState.isAlive, Nat.add_comm] using halive
      simpa [Report.isLoss, Report.isStop, hstate] using hbefore
  | drops children =>
    refine ⟨?_, ?_, fun hcontra => by cases hcontra⟩
    · simp [holding_concat, Report.isAttempt, Report.isStop]
    · obtain ⟨before, rfl⟩ := List.getLast?_eq_some_iff.mp (h.last rfl)
      have hbefore : before.countP ChildState.isAlive = reports.countP Report.isLoss := by
        simpa [ChildState.isAlive, Nat.add_comm] using halive
      simpa [Report.isLoss, Report.isStop, ChildState.isAlive] using hbefore
  | loses children e =>
    refine ⟨?_, ?_, fun hcontra => by cases hcontra⟩
    · simp [holding_concat, Report.isAttempt, Report.isStop]
    · simpa [Report.isLoss, Report.isStop, Nat.add_comm] using halive
  | rests =>
    refine ⟨?_, ?_, h.last⟩
    · simp [holding_concat, Report.isAttempt, Report.isStop, hrunning]
    · simpa [Report.isLoss, Report.isStop] using halive

theorem orderly_after {c : Client} {past : List Report} (h : Orderly c.processes past) (ops : List Op) :
    Orderly (c.after ops).processes (past ++ c.reports ops) := by
  induction ops generalizing c past with
  | nil => simpa [after, reports] using h
  | cons op ops ih =>
    have hnext := ih (h.turn (perform_turn c op))
    rwa [List.append_assoc] at hnext

/-- What leaves the client not running leaves no process alive, unless one was lost. -/
theorem Orderly.none_alive {c : Client} {past : List Report} (h : Orderly c.processes past)
    (hpast : past.countP Report.isLoss = 0) {op : Op} (hloss : (c.report op).isLoss = false)
    (hidle : (c.perform op).1.isRunning = false) : (c.perform op).1.alive = 0 := by
  have hnext : (c.perform op).1.alive =
      (c.perform op).1.isRunning.toNat + (past ++ [c.report op]).countP Report.isLoss :=
    (h.turn (perform_turn c op)).alive
  rw [hnext, List.countP_append, hpast, hidle]
  simp [hloss]

/-! ## How long a stop takes -/

open Service in
/-- A server that runs has no call going on and was not said goodbye to. -/
theorem idle_of_running {c : Connection} (h : Reaches .running c) :
    c.call = none ∧ c.usedUp = false ∧ c.channel.Regular := by
  obtain ⟨name, level, clock, target, events, hserve⟩ := h
  have hphase := phase_serve name level clock target events
  rw [hserve] at hphase
  obtain ⟨params, goal, id, answer, -, -, -, ho⟩ := hphase.of_running rfl
  have hconnection := serve_connection (fresh name level clock target) events
  rw [hserve] at hconnection
  refine ⟨(Connection.call_eq_none_iff c).1 (congrArg Connection.Owner.call ho),
    congrArg Connection.Owner.usedUp ho, ?_⟩
  rw [show c = _ from hconnection]
  exact Connection.follow_regular _ ⟨Nat.le_refl 0, Nat.zero_le _⟩

theorem introduce_program (c : Client) (root : Option FileUri) (s : Server) :
    (c.introduce root s).program = s.program := by
  unfold introduce
  split <;> rfl

section Stopping
variable {c : Client} {server : Server} (hrunning : c.running = some server)
  (hreaches : Service.Reaches .running server.connection)
include hrunning

theorem dropped_iff (patience : Nat) :
    (c.stop patience).2 = .dropped ↔ (goodbye patience server).connection.call ≠ none := by
  cases parted_of_running hrunning patience with
  | dropped hgoes hdropped _ => exact iff_of_true hdropped hgoes
  | done hover hdone _ _ => exact iff_of_false (by simp [hdone]) (by simp [hover])
  | failed hover _ hfailed _ => exact iff_of_false (by simp [hfailed]) (by simp [hover])

include hreaches

/-- A stop is over for whoever waits long enough just if the writer does not stand before a full pipe for good. -/
theorem stop_over_iff :
    (∃ least, ∀ patience, least ≤ patience → (c.stop patience).2 ≠ .dropped) ↔
      ¬∃ m rest, ∀ n, m ≤ n → (Server.turn^[n] server.parting).connection.Stalled rest := by
  obtain ⟨hcall, hused, hregular⟩ := idle_of_running hreaches
  rw [← Server.parting_over_iff hcall hused hregular, ← Server.await_over_iff]
  refine exists_congr fun least => forall_congr' fun patience => imp_congr_right fun _ => ?_
  rw [ne_eq, dropped_iff hrunning, Server.goodbye_eq hcall hused, ne_eq, not_not]

/-- A stop that does not end for one who waits long enough ends for nobody. -/
theorem stop_never_over_iff :
    (∀ patience, (c.stop patience).2 = .dropped) ↔
      ∃ m rest, ∀ n, m ≤ n → (Server.turn^[n] server.parting).connection.Stalled rest := by
  obtain ⟨hcall, hused, hregular⟩ := idle_of_running hreaches
  constructor
  · intro hdropped
    refine Classical.byContradiction fun hfree => ?_
    obtain ⟨least, hleast⟩ := (stop_over_iff hrunning hreaches).2 hfree
    exact hleast least (Nat.le_refl _) (hdropped least)
  · intro hstalled patience
    rw [dropped_iff hrunning, Server.goodbye_eq hcall hused]
    obtain ⟨k, hk, -⟩ := Server.await_turns server.parting patience
    rw [hk]
    exact fun hover => (Server.parting_over_iff hcall hused hregular).1 ⟨k, hover⟩ hstalled

end Stopping

/-- Of every new client, whatever was started and stopped with it before and however long that was waited for: it runs
just if the last attempt to start has succeeded and no stop came since. A start while it runs changes nothing and says
so; a stop while it does not run changes nothing at all. A stop that is over fails only with the failure to kill the
process. Whoever waits long enough sees it over just if the writer to the server does not stand before a full pipe for
good; if it does, the stop is over for nobody. A process is alive if it is the one that runs or one that could not be
killed; so if every kill has worked, there is at most one, and none after a stop that went well or a start that failed
for any other reason than that the client runs already. -/
theorem processes_in_order (identity : Identity) (executable : Executable) (protocol : Protocol) (process : Json)
    (clock : String) (ops : List Op) :
    let new : Client :=
      { identity := identity, executable := executable, protocol := protocol, process := process, clock := clock }
    let c := new.after ops
    let reports := new.reports ops
    (c.isRunning = true ↔ Holding reports) ∧
    (c.isRunning = true → ∀ patience launch, c.start patience launch = (c, .failed c.alreadyRunning)) ∧
    (c.isRunning = false → ∀ patience, c.stop patience = (c, .done)) ∧
    (∀ server, c.running = some server →
      (∀ patience, (c.stop patience).2 = .dropped ∨ (c.stop patience).2 = .done ∨
        ∃ reason, server.program.killFailure = some reason ∧
          (c.stop patience).2 = .failed ((Failure.mk reason []).within "killing language server")) ∧
      ((∃ least, ∀ patience, least ≤ patience → (c.stop patience).2 ≠ .dropped) ↔
        ¬∃ m rest, ∀ n, m ≤ n → (Server.turn^[n] server.parting).connection.Stalled rest) ∧
      ((∀ patience, (c.stop patience).2 = .dropped) ↔
        ∃ m rest, ∀ n, m ≤ n → (Server.turn^[n] server.parting).connection.Stalled rest)) ∧
    c.alive = c.isRunning.toNat + reports.countP Report.isLoss ∧
    (reports.countP Report.isLoss = 0 →
      c.alive ≤ 1 ∧
      (∀ patience, (c.stop patience).2 = .done → (c.stop patience).1.alive = 0) ∧
      ∀ patience launch, (c.start patience launch).2 ≠ .done →
        (c.start patience launch).2 ≠ .failed c.alreadyRunning → (c.start patience launch).1.alive = 0) := by
  intro new c reports
  have hnew : Orderly new.processes [] := ⟨by simp [Holding, new, processes, isRunning], rfl, fun h => by cases h⟩
  have horderly : Orderly c.processes reports := orderly_after hnew ops
  have halive : c.alive = c.isRunning.toNat + reports.countP Report.isLoss := horderly.alive
  have hhosts : c.Hosts := (Hosts.of_unused (c := new) rfl rfl).after ops
  refine ⟨horderly.running, start_of_running, stop_of_not_running, ?_, halive, fun hkept => ⟨?_, ?_, ?_⟩⟩
  · intro server hrunning
    have hreaches := hhosts.running server hrunning
    refine ⟨fun patience => ?_, stop_over_iff hrunning hreaches, stop_never_over_iff hrunning hreaches⟩
    cases parted_of_running hrunning patience with
    | dropped _ hdropped _ => exact .inl hdropped
    | done _ hdone _ _ => exact .inr (.inl hdone)
    | failed _ hreason hfailed _ =>
      obtain ⟨hcall, hused, -⟩ := idle_of_running hreaches
      rw [Server.goodbye_program hcall hused] at hreason
      exact .inr (.inr ⟨_, hreason, hfailed⟩)
  · rw [halive, hkept]
    exact Bool.toNat_le _
  · intro patience hdone
    have hloss : (c.report (.stop patience)).isLoss = false := by simp [report, Report.isLoss, perform, hdone]
    exact horderly.none_alive hkept hloss (perform_turn c (.stop patience)).idle_of_stop
  · intro patience launch hdone hother
    have hidle : c.isRunning = false := by
      cases hrunning : c.isRunning with
      | true => exact absurd (congrArg Prod.snd (start_of_running hrunning patience launch)) hother
      | false => rfl
    exact horderly.none_alive hkept rfl ((perform_turn c (.start patience launch)).idle_of_start hidle hdone)

/-- The server that a start leaves running is the one that was launched. -/
theorem program_of_start {c : Client} (hidle : c.isRunning = false) {patience : Nat}
    {launch : Executable → Except LaunchError Program} {server : Server}
    (h : (c.after [.start patience launch]).running = some server) : launch c.executable = .ok server.program := by
  have hnone : c.running = none := by simpa [isRunning] using hidle
  change (c.start patience launch).1.running = some server at h
  rw [start, if_neg (by simp [hidle])] at h
  dsimp only at h
  split at h
  · cases hnone.symm.trans h
  · rename_i program hlaunch
    split at h
    · cases hnone.symm.trans h
    · rename_i root _
      split at h
      · cases h
        obtain ⟨k, hk, -⟩ := Server.await_turns _ patience
        rw [hlaunch, hk, Server.turns_program, introduce_program]
        rfl
      · cases hnone.symm.trans h
      · cases hnone.symm.trans h

/-- A server that answers the introduction without reading it, and then does nothing for ever. -/
def deaf : Program where
  react _ := { stdout := Frame.ofBody (Bytes.ofString "\x7b\"id\":1,\"result\":0\x7d"), ending := .waiting .busy }
  holds := 256

/-- The stop of a client whose server is deaf is over for nobody if the writer stands before a full pipe. -/
theorem stop_dropped_of_deaf {c : Client} (hhosts : c.Hosts) {server : Server} (hserver : c.running = some server)
    (hdeaf : Server.IsDeaf server.program) (hdue : server.connection.writer.due ≠ 0)
    (hwindow : server.connection.target.window = some 0) (patience : Nat) : (c.stop patience).2 = .dropped := by
  obtain ⟨rest, hwriter⟩ : ∃ rest, server.connection.writer = .sending rest := by
    cases hw : server.connection.writer with
    | sending rest => exact ⟨rest, rfl⟩
    | _ => simp [hw, WriterState.due] at hdue
  refine (stop_never_over_iff hserver (hhosts.running server hserver)).2 ⟨0, rest, fun n _ => ?_⟩ patience
  exact Server.parting_stalled hdeaf ⟨hwriter, hwindow⟩ n

/-- The client of a server that is deaf starts, but nobody waits long enough for its stop. -/
theorem stop_never_over :
    let new : Client :=
      { identity := ⟨"asp-lsp", "ASP"⟩, executable := { command := ⟨Bytes.ofString "asp-lsp"⟩ },
        protocol := ⟨⟨[]⟩, "ASP", .off, none⟩ }
    let c := new.after [.start 1000 fun _ => .ok deaf]
    c.isRunning = true ∧ ∀ patience, (c.stop patience).2 = .dropped := by
  intro new c
  have hstands : c.running.map (fun s => (s.connection.writer.due != 0, s.connection.target.window)) =
      some (true, some 0) := by decide +kernel
  obtain ⟨server, hserver⟩ : ∃ server, c.running = some server := by
    cases hrunning : c.running with
    | none =>
      rw [hrunning] at hstands
      cases hstands
    | some server => exact ⟨server, rfl⟩
  rw [hserver] at hstands
  obtain ⟨hdue, hwindow⟩ := Prod.mk.inj (Option.some.inj hstands)
  have hprogram : server.program = deaf := (Except.ok.inj (program_of_start (c := new) rfl hserver)).symm
  have hdeaf : Server.IsDeaf server.program := by
    rw [hprogram]
    exact fun _ => ⟨rfl, rfl⟩
  have hhosts : c.Hosts := (Hosts.of_unused (c := new) rfl rfl).after _
  have hrunning : c.isRunning = true := Option.isSome_iff_exists.2 ⟨server, hserver⟩
  exact ⟨hrunning, stop_dropped_of_deaf hhosts hserver hdeaf (bne_iff_ne.1 hdue) hwindow⟩

end Client

end LspClient
