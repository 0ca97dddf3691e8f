import LspClient.CommandLine.Run
import LspClient.Proofs.ClientLives
import Mathlib.Data.List.Induction

/-!
# What an activation launches

The command that a manager names for a host is the one that it launches there, in the host's environment with the log
variable set. The environment is made binding by binding, so of several bindings of a name the last one counts. Where
no command can be named nothing is launched.
-/

namespace LspClient

namespace Environment

def names (e : Environment) : List Bytes :=
  e.entries.map Prod.fst

theorem lookup_cons (name key value : Bytes) (rest : Bindings) :
    List.lookup name ((key, value) :: rest) = if name = key then some value else rest.lookup name := by
  by_cases h : name = key
  · simp [h]
  · rw [List.lookup_cons, beq_eq_false_iff_ne.mpr h, if_neg h]

theorem lookup_insertEntry (key value name : Bytes) (entries : Bindings) :
    (insertEntry key value entries).lookup name = if name = key then some value else entries.lookup name := by
  induction entries with
  | nil => exact lookup_cons name key value []
  | cons entry rest ih =>
    obtain ⟨k, v⟩ := entry
    rw [insertEntry]
    split
    · rename_i hk
      subst hk
      by_cases h : name = key <;> simp [lookup_cons, h]
    · rename_i hk
      split
      · by_cases h : name = key <;> simp [lookup_cons, h]
      · rw [lookup_cons, lookup_cons, ih]
        by_cases h : name = key <;> simp [h, hk]

theorem get?_insert (e : Environment) (key value name : Bytes) :
    (e.insert key value).get? name = if name = key then some value else e.get? name :=
  lookup_insertEntry key value name e.entries

theorem mem_names_iff (e : Environment) (name : Bytes) : name ∈ e.names ↔ (e.get? name).isSome := by
  rw [get?, List.lookup_isSome_iff, names, List.mem_map]
  simp only [beq_iff_eq, eq_comm (a := name)]

theorem mem_names_insert (e : Environment) (key value name : Bytes) :
    name ∈ (e.insert key value).names ↔ name = key ∨ name ∈ e.names := by
  rw [mem_names_iff, mem_names_iff, get?_insert]
  by_cases h : name = key <;> simp [h]

/-- Names in ascending order, so that none occurs twice. -/
def Ascending (e : Environment) : Prop :=
  e.names.Pairwise (· < ·)

theorem ascending_insertEntry (key value : Bytes) {entries : Bindings} (h : Ascending ⟨entries⟩) :
    Ascending ⟨insertEntry key value entries⟩ := by
  induction entries with
  | nil => exact List.pairwise_singleton _ _
  | cons entry rest ih =>
    obtain ⟨k, v⟩ := entry
    obtain ⟨hk, hrest⟩ := List.pairwise_cons.mp h
    rw [insertEntry]
    split
    · rename_i hkey
      subst hkey
      exact List.pairwise_cons.mpr ⟨hk, hrest⟩
    · rename_i hne
      split
      · rename_i hlt
        refine List.pairwise_cons.mpr ⟨fun name hname => ?_, h⟩
        rcases List.mem_cons.mp hname with rfl | hname
        · exact hlt
        · exact List.lt_trans hlt (hk name hname)
      · rename_i hnlt
        have hlt : k < key := Std.lt_of_le_of_ne hnlt fun heq => hne heq.symm
        refine List.pairwise_cons.mpr ⟨fun name hname => ?_, ih hrest⟩
        rcases (mem_names_insert ⟨rest⟩ key value name).mp hname with rfl | hname
        · exact hlt
        · exact hk name hname

theorem Ascending.insert {e : Environment} (h : e.Ascending) (key value : Bytes) : (e.insert key value).Ascending :=
  ascending_insertEntry key value h

theorem ofBindings_concat (bs : Bindings) (b : Bytes × Bytes) :
    ofBindings (bs ++ [b]) = (ofBindings bs).insert b.1 b.2 := by
  simp [ofBindings]

theorem ascending_ofBindings (bs : Bindings) : (ofBindings bs).Ascending := by
  induction bs using List.reverseRecOn with
  | nil => exact List.Pairwise.nil
  | append_singleton bs b ih =>
    rw [ofBindings_concat]
    exact ih.insert b.1 b.2

theorem mem_names_ofBindings (bs : Bindings) (name : Bytes) :
    name ∈ (ofBindings bs).names ↔ name ∈ bs.map Prod.fst := by
  induction bs using List.reverseRecOn with
  | nil => rfl
  | append_singleton bs b ih =>
    rw [ofBindings_concat, mem_names_insert, ih, List.map_append, List.mem_append, or_comm]
    simp

/-- The last binding of a name is the one that counts. -/
theorem get?_ofBindings {before after : Bindings} {name value : Bytes} (h : name ∉ after.map Prod.fst) :
    (ofBindings (before ++ (name, value) :: after)).get? name = some value := by
  induction after using List.reverseRecOn with
  | nil => rw [ofBindings_concat, get?_insert, if_pos rfl]
  | append_singleton after b ih =>
    simp only [List.map_append, List.mem_append, not_or] at h
    have hne : name ≠ b.1 := by simpa using h.2
    rw [← List.cons_append, ← List.append_assoc, ofBindings_concat, get?_insert, if_neg hne]
    exact ih h.1

end Environment

namespace Executable

/-- A command by itself, in an inherited environment with the log variable set. -/
structure Invokes (e : Executable) (command : ServerLocation) (inherited : Bindings) (logLevel : String) : Prop where
  command : e.command = command
  arguments : e.arguments = []
  workingDirectory : e.workingDirectory = none
  once : e.environment.Ascending
  names : ∀ name, name ∈ e.environment.names ↔ name = Bytes.ofString logVariable ∨ name ∈ inherited.map Prod.fst
  logs : e.environment.get? (Bytes.ofString logVariable) = some (Bytes.ofString logLevel)
  inherits : ∀ before name value after, name ≠ Bytes.ofString logVariable →
    inherited = before ++ (name, value) :: after → name ∉ after.map Prod.fst →
      e.environment.get? name = some value

theorem invokes_make (command : ServerLocation) (inherited : Bindings) (logLevel : String) (mode : LaunchMode) :
    ((Transport.make command inherited logLevel).executable mode).Invokes command inherited logLevel := by
  have hboth : (Transport.make command inherited logLevel).executable mode =
      ⟨command, [], (Environment.ofBindings inherited).insert (Bytes.ofString logVariable) (Bytes.ofString logLevel),
        none⟩ := by
    cases mode <;> rfl
  rw [hboth]
  refine ⟨rfl, rfl, rfl, (Environment.ascending_ofBindings inherited).insert _ _, fun name => ?_, ?_, ?_⟩
  · rw [Environment.mem_names_insert, Environment.mem_names_ofBindings]
  · rw [Environment.get?_insert, if_pos rfl]
  · rintro before name value after hne rfl hlast
    rw [Environment.get?_insert, if_neg hne, Environment.get?_ofBindings hlast]

end Executable

def Effect.executable? : Effect → Option Executable
  | .created _ executable => some executable
  | _ => none

namespace Manager

/-- The invocations that an activation makes clients for. -/
def launches (m : Manager) (host : Host) (attempt : Attempt) : List Executable :=
  (m.activate host attempt).2.2.filterMap Effect.executable?

theorem preparation_launches (m : Manager) : m.preparation.filterMap Effect.executable? = [] := by
  refine List.filterMap_eq_nil_iff.mpr fun effect heffect => ?_
  have hcreated := (preparation_makes_nothing m effect heffect).1
  cases effect with
  | created client executable => cases hcreated
  | _ => rfl

theorem launch_launches (m : Manager) (channel : Nat) (session : Session) (attempt : Attempt) :
    (m.launch channel session attempt).2.2.filterMap Effect.executable? = [session.executable] := by
  have htraced : (attempt.lines.map (Effect.traced channel)).filterMap Effect.executable? = [] := by
    rw [List.filterMap_map, List.filterMap_eq_nil_iff]
    intro line _
    rfl
  unfold launch
  cases attempt.outcome <;>
    simp only [List.filterMap_append, htraced] <;> rfl

section Activate
variable {m : Manager} (host : Host) (attempt : Attempt) (h : m.state ≠ .running)
include h

theorem launches_of_ok {command : ServerLocation} (hcommand : m.serverCommand host = .ok command) :
    m.launches host attempt = [(m.makeSession host command).executable] := by
  rw [launches, activate_of_ok host attempt h hcommand]
  dsimp only
  rw [List.filterMap_append, preparation_launches, launch_launches, List.nil_append]

theorem launches_of_error {e : Platform.Unsupported} (hcommand : m.serverCommand host = .error e) :
    m.launches host attempt = [] := by
  rw [launches, activate_of_error host attempt h hcommand]
  dsimp only
  rw [List.filterMap_append, preparation_launches]
  rfl

end Activate

/-- Run mode and debug mode launch the same. -/
theorem executable_makeSession (m : Manager) (host : Host) (command : ServerLocation) :
    (m.makeSession host command).executable =
      (Transport.make command host.environment m.settings.logLevel).executable .run := by
  rw [Session.executable, makeSession]
  cases m.settings.mode <;> rfl

theorem serverCommand_congr {m m' : Manager} (h : m.settings.serverPath = m'.settings.serverPath) (host : Host) :
    m.serverCommand host = m'.serverCommand host := by
  rw [serverCommand, serverCommand, h]

theorem makeSession_invokes (m : Manager) (host : Host) (command : ServerLocation) :
    (m.makeSession host command).executable.Invokes command host.environment m.settings.logLevel := by
  rw [executable_makeSession]
  exact Executable.invokes_make command host.environment m.settings.logLevel .run

theorem launches_invokes {m : Manager} (h : m.state ≠ .running) {host : Host} (attempt : Attempt)
    {command : ServerLocation} (hcommand : m.serverCommand host = .ok command) :
    ∃ executable, m.launches host attempt = [executable] ∧
      executable.Invokes command host.environment m.settings.logLevel :=
  ⟨_, launches_of_ok host attempt h hcommand, makeSession_invokes m host command⟩

theorem launches_congr {m m' : Manager} (h : m.state ≠ .running) (h' : m'.state ≠ .running)
    (hpath : m.settings.serverPath = m'.settings.serverPath) (hlog : m.settings.logLevel = m'.settings.logLevel)
    (host : Host) (attempt attempt' : Attempt) : m.launches host attempt = m'.launches host attempt' := by
  have hsame := serverCommand_congr hpath host
  cases hcommand : m.serverCommand host with
  | ok command =>
    rw [launches_of_ok host attempt h hcommand, launches_of_ok host attempt' h' (hsame ▸ hcommand),
      executable_makeSession, executable_makeSession, hlog]
  | error e =>
    rw [launches_of_error host attempt h hcommand, launches_of_error host attempt' h' (hsame ▸ hcommand)]

end Manager

namespace Client

theorem start_launched {c : Client} (h : c.isRunning = false) (patience : Nat)
    (launch : Executable → Except Child.LaunchError Child.Program) :
    (c.start patience launch).1.launched = c.launched ++ [c.executable] := by
  rw [start, if_neg (by simp [h])]
  dsimp only
  split
  · rfl
  · split
    · rfl
    · split <;> rfl

/-- A start looks at what is launched for its own invocation only. -/
theorem start_congr {c : Client} {launch launch' : Executable → Except Child.LaunchError Child.Program}
    (h : launch c.executable = launch' c.executable) (patience : Nat) :
    c.start patience launch = c.start patience launch' := by
  simp only [start, h]

theorem part_launched (c : Client) (parted : Server) : (c.part parted).1.launched = c.launched := by
  unfold part
  dsimp only
  split <;> rfl

theorem stop_launched (c : Client) (patience : Nat) : (c.stop patience).1.launched = c.launched := by
  unfold stop
  split
  · rfl
  · dsimp only
    split
    · rfl
    · exact part_launched _ _

theorem rest_launched (c : Client) (patience : Nat) : (c.rest patience).launched = c.launched := by
  unfold rest
  split <;> rfl

end Client

namespace Supervisor

theorem nextSession?_of_ok {s : Supervisor} {host : Host} {command : ServerLocation} (h : s.manager.state ≠ .running)
    (hcommand : s.manager.serverCommand host = .ok command) :
    s.nextSession? host = some (s.manager.makeSession host command) := by
  rw [nextSession?, if_neg h, hcommand]

section Activate
variable {s : Supervisor} {host : Host} (patience : Nat) (client : Session → Client)
  {launch launch' : Executable → Except Child.LaunchError Child.Program}

/-- What abandoned servers still trace is no invocation. -/
theorem lastEffects_launches (s : Supervisor) : s.lastEffects.filterMap Effect.executable? = [] := by
  refine List.filterMap_eq_nil_iff.mpr fun effect heffect => ?_
  obtain ⟨f, -, heffect⟩ := List.mem_flatMap.mp heffect
  obtain ⟨line, -, rfl⟩ := List.mem_map.mp heffect
  rfl

theorem activate_launched {session : Session} (h : s.nextSession? host = some session) :
    (s.activate patience host client launch).1.launched = ((client session).start patience launch).1.launched := by
  rw [activate, h]
  dsimp only
  split <;> rfl

/-- A supervisor makes clients as its manager does. -/
theorem activate_launches {session : Session} (h : s.nextSession? host = some session) :
    ∃ attempt, (s.activate patience host client launch).2.2.filterMap Effect.executable? =
      s.manager.launches host attempt := by
  refine ⟨⟨((client session).start patience launch).1.trace, ((client session).start patience launch).2⟩, ?_⟩
  rw [activate, h]
  dsimp only
  split
  · rw [List.filterMap_append, lastEffects_launches]
    rfl
  · rfl

theorem activate_congr {session : Session} (h : s.nextSession? host = some session)
    (hlaunch : launch (client session).executable = launch' (client session).executable) :
    s.activate patience host client launch = s.activate patience host client launch' := by
  have hstart := Client.start_congr hlaunch patience
  have hwaits : (client session).waits launch = (client session).waits launch' := by
    rw [Client.waits, hlaunch, Client.waits]
  rw [activate, activate, h]
  dsimp only
  rw [hstart, hwaits]

end Activate

theorem rest_launched (s : Supervisor) (patience : Nat) : (s.rest patience).1.launched = s.launched := by
  unfold rest
  split
  · rfl
  · rename_i c hc
    simp only [launched, hc, Option.map_some, Client.rest_launched]

theorem deactivate_launched (s : Supervisor) (patience : Nat) : (s.deactivate patience).1.launched = s.launched := by
  unfold deactivate
  split
  · rename_i session c hsession hc
    simp only [launched, hc, Option.map_some, Client.stop_launched]
  · rfl

end Supervisor

namespace CommandLine

/-- The program's own host always has a command. -/
theorem serverCommand_toHost (m : Manager) (host : ProcessHost) :
    ∃ command, m.serverCommand host.toHost = .ok command := by
  unfold Manager.serverCommand ServerLocation.resolve
  dsimp only
  split
  · exact ⟨_, rfl⟩
  · exact ⟨_, rfl⟩

/-- A server is launched at the start, and none while it is kept running and stopped. -/
theorem keepRunning_launched (s : Surroundings) (tree : FileTree) (log : Option Bytes) (host : ProcessHost)
    (m : Manager) (client : Session → Client) :
    (keepRunning s tree log host m client).launched =
      (Supervisor.activate { manager := m } s.patience host.toHost client (Child.launch tree s.cwd)).1.launched := by
  unfold keepRunning
  dsimp only
  split
  · split
    · split <;> exact (Supervisor.deactivate_launched _ _).trans (Supervisor.rest_launched _ _)
    · exact Supervisor.rest_launched _ _
  · rfl
  · rfl

section Perform
variable {s : Surroundings} {tree : FileTree} {options : Options} {config : Config.File} {host : ProcessHost}
  (hconfig : loadConfig s tree options = .ok config) (hhost : makeHost s tree options config = .ok host)
include hconfig hhost

theorem perform_run (log : Option Bytes) (client : Session → Client) :
    perform s tree log client options .run =
      keepRunning s tree log host { settings := config.settings s.environment } client := by
  simp only [perform, hconfig, hhost]

theorem perform_resolve (log : Option Bytes) (client : Session → Client) {command : ServerLocation}
    (hcommand : ({ settings := config.settings s.environment } : Manager).serverCommand host.toHost = .ok command) :
    perform s tree log client options .resolve = ⟨some 0, command.display ++ "\n", "", tree, []⟩ := by
  simp only [perform, hconfig, hhost, hcommand]
  rfl

end Perform

/-- A manager that does not run launches the command that it names for a host, once, in the host's environment with
the log variable set; where it names none it launches nothing and says so. What is launched depends on the host, the
configured path and the log level alone. A supervisor's client does launch that, and what comes of any other invocation
makes no difference. So the program launches, once, the command that it resolves and prints. -/
theorem resolved_command_launched :
    (∀ (m : Manager) (host : Host) (attempt : Attempt), m.state ≠ .running →
      (∀ command, m.serverCommand host = .ok command →
        ∃ executable, m.launches host attempt = [executable] ∧
          executable.Invokes command host.environment m.settings.logLevel) ∧
      ∀ e, m.serverCommand host = .error e →
        m.launches host attempt = [] ∧ (m.activate host attempt).2.1 = .failed (.unsupportedPlatform e)) ∧
    (∀ (m m' : Manager) (host : Host) (attempt attempt' : Attempt), m.state ≠ .running → m'.state ≠ .running →
      m.settings.serverPath = m'.settings.serverPath → m.settings.logLevel = m'.settings.logLevel →
        m.serverCommand host = m'.serverCommand host ∧ m.launches host attempt = m'.launches host attempt') ∧
    ∀ process clock,
      let client (session : Session) : Client := { Client.ofSession session with process := process, clock := clock }
      (∀ (s : Supervisor) (host : Host) (patience : Nat) (command : ServerLocation), s.manager.state ≠ .running →
        s.manager.serverCommand host = .ok command →
          let started := s.activate patience host client
          ∃ executable, executable.Invokes command host.environment s.manager.settings.logLevel ∧
            (∀ launch, (started launch).1.launched = [executable] ∧
              (started launch).2.2.filterMap Effect.executable? = [executable]) ∧
            ∀ launch launch', launch executable = launch' executable → started launch = started launch') ∧
      ∀ s tree log options config host, loadConfig s tree options = .ok config →
        makeHost s tree options config = .ok host →
          ∃ command executable,
            perform s tree log client options .resolve = ⟨some 0, command.display ++ "\n", "", tree, []⟩ ∧
            (perform s tree log client options .run).launched = [executable] ∧
            executable.Invokes command host.environment (config.settings s.environment).logLevel := by
  refine ⟨fun m host attempt h => ?_, fun m m' host attempt attempt' h h' hpath hlog => ?_,
    fun process clock => ⟨?_, ?_⟩⟩
  · refine ⟨fun command hcommand => Manager.launches_invokes h attempt hcommand, fun e he => ?_⟩
    refine ⟨Manager.launches_of_error host attempt h he, ?_⟩
    rw [Manager.activate_of_error host attempt h he]
  · exact ⟨Manager.serverCommand_congr hpath host, Manager.launches_congr h h' hpath hlog host attempt attempt'⟩
  · intro s host patience command h hcommand
    have hnext := Supervisor.nextSession?_of_ok h hcommand
    refine ⟨(s.manager.makeSession host command).executable, Manager.makeSession_invokes s.manager host command,
      fun launch => ⟨?_, ?_⟩, fun launch launch' hlaunch => Supervisor.activate_congr patience _ hnext hlaunch⟩
    · rw [Supervisor.activate_launched patience _ hnext]
      exact Client.start_launched rfl patience launch
    · obtain ⟨attempt, hattempt⟩ := Supervisor.activate_launches patience _ hnext
      rw [hattempt, Manager.launches_of_ok host attempt h hcommand]
  · intro s tree log options config host hconfig hhost
    obtain ⟨command, hcommand⟩ := serverCommand_toHost { settings := config.settings s.environment } host
    have hidle : SessionState.default ≠ .running := by decide
    refine ⟨command, _, perform_resolve hconfig hhost log _ hcommand, ?_,
      Manager.makeSession_invokes { settings := config.settings s.environment } host.toHost command⟩
    rw [perform_run hconfig hhost, keepRunning_launched,
      Supervisor.activate_launched s.patience _ (Supervisor.nextSession?_of_ok hidle hcommand)]
    exact Client.start_launched rfl s.patience _

/-- The last of two bindings counts, and the log variable of the host does not. -/
example :
    ({} : Manager).launches
        ⟨Bytes.ofString "/r", .linux,
          [(Bytes.ofString "B", [0xFF]), (Bytes.ofString "RUST_LOG", []), (Bytes.ofString "A", []),
            (Bytes.ofString "B", [1])],
          none⟩ {} =
      [⟨⟨Bytes.ofString "/r/server/linux/asp-lsp"⟩, [],
        ⟨[(Bytes.ofString "A", []), (Bytes.ofString "B", [1]), (Bytes.ofString "RUST_LOG", Bytes.ofString "debug")]⟩,
        none⟩] := by
  decide

end CommandLine

end LspClient
