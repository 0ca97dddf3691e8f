import LspClient.Proofs.SessionCoherence

/-!
# The lives of clients

A manager makes clients one after the other. What happens to them is written down in the order it happens: that a
client is made, started, stopped or let go, and what the call that started it came to. `Turn` lists what one call
can add to that record; a manager keeps at most one client, and it lets go of that one before it makes the next.

What a client does while it is started or stopped is not part of the record.
-/

namespace LspClient

inductive Moment where
  | created
  | started
  /-- The call that started the client is over. -/
  | replied (result : Activation)
  | stopped
  | discarded
deriving DecidableEq, Repr

namespace Effect

/-- The client that an effect is about, and what happens to it. -/
def moment? : Effect → Option (Nat × Moment)
  | .created client _ => some (client, .created)
  | .started client => some (client, .started)
  | .stopped client => some (client, .stopped)
  | .discarded client => some (client, .discarded)
  | _ => none

def startedClient? : Effect → Option Nat
  | .started client => some client
  | _ => none

end Effect

namespace Manager

/-- What a call means to clients, with its result for those that it started. -/
def record (m : Manager) : Step → List (Nat × Moment)
  | .activate h attempt =>
    let (_, result, effects) := m.activate h attempt
    effects.filterMap Effect.moment? ++
      (effects.filterMap Effect.startedClient?).map fun client => (client, .replied result)
  | .deactivate attempt => (m.deactivate attempt).2.2.filterMap Effect.moment?

def chronicle (m : Manager) : List Step → List (Nat × Moment)
  | [] => []
  | s :: steps => m.record s ++ (m.perform s).chronicle steps

def life (client : Nat) (entries : List (Nat × Moment)) : List Moment :=
  entries.filterMap fun entry => if entry.1 = client then some entry.2 else none

theorem life_append (client : Nat) (xs ys : List (Nat × Moment)) :
    life client (xs ++ ys) = life client xs ++ life client ys :=
  List.filterMap_append

theorem mem_of_mem_life {client : Nat} {moment : Moment} {entries : List (Nat × Moment)}
    (h : moment ∈ life client entries) : (client, moment) ∈ entries := by
  obtain ⟨⟨c, _⟩, hmem, heq⟩ := List.mem_filterMap.mp h
  dsimp only at heq
  split at heq
  · rename_i hc
    cases heq
    exact hc ▸ hmem
  · cases heq

def about (client : Nat) (moments : List Moment) : List (Nat × Moment) :=
  moments.map fun moment => (client, moment)

@[simp] theorem life_about_self (client : Nat) (moments : List Moment) :
    life client (about client moments) = moments := by
  rw [life, about, List.filterMap_map]
  exact (congrArg (List.filterMap · moments) (funext fun _ => if_pos rfl)).trans List.filterMap_some

theorem life_about_of_ne {client other : Nat} (h : other ≠ client) (moments : List Moment) :
    life other (about client moments) = [] := by
  rw [life, about, List.filterMap_map, List.filterMap_eq_nil_iff]
  exact fun _ _ => if_neg h.symm

theorem eq_of_mem_about {client other : Nat} {moment : Moment} {moments : List Moment}
    (h : (other, moment) ∈ about client moments) : other = client ∧ moment ∈ moments := by
  obtain ⟨_, hmem, heq⟩ := List.mem_map.mp h
  cases heq
  exact ⟨rfl, hmem⟩

/-- The part of a manager that clients depend on: how many there were, and the one that is kept, with the state. -/
structure Roster where
  count : Nat
  kept : Option (Nat × SessionState)

def roster (m : Manager) : Roster :=
  ⟨m.clients, m.session.map fun live => (live.client, m.state)⟩

/-- All that a call can do to the clients, and the record of it. -/
inductive Turn : Roster → List (Nat × Moment) → Roster → Prop where
  | idle (r : Roster) : Turn r [] r
  | discards (count client : Nat) :
      Turn ⟨count, some (client, .starting)⟩ (about client [.discarded]) ⟨count, none⟩
  | stops (count client : Nat) (state : SessionState) :
      Turn ⟨count, some (client, state)⟩ (about client [.stopped, .discarded]) ⟨count, none⟩
  | runs (count : Nat) :
      Turn ⟨count, none⟩ (about count [.created, .started, .replied .active])
        ⟨count + 1, some (count, .running)⟩
  | waits (count : Nat) :
      Turn ⟨count, none⟩ (about count [.created, .started, .replied .dropped])
        ⟨count + 1, some (count, .starting)⟩
  | fails (count : Nat) (e : Failure) :
      Turn ⟨count, none⟩
        (about count [.created, .started, .discarded, .replied (.failed (.launch e))])
        ⟨count + 1, none⟩
  | trans {r s t : Roster} {xs ys : List (Nat × Moment)} (first : Turn r xs s) (second : Turn s ys t) :
      Turn r (xs ++ ys) t

theorem moments_traced (channel : Nat) (lines : List String) :
    (lines.map (Effect.traced channel)).filterMap Effect.moment? = [] := by
  rw [List.filterMap_map, List.filterMap_eq_nil_iff]
  intro line _
  rfl

theorem started_traced (channel : Nat) (lines : List String) :
    (lines.map (Effect.traced channel)).filterMap Effect.startedClient? = [] := by
  rw [List.filterMap_map, List.filterMap_eq_nil_iff]
  intro line _
  rfl

/-- Getting ready lets go of a client whose start was dropped, and of no other. -/
theorem preparation_turn (m : Manager) :
    Turn m.roster (m.preparation.filterMap Effect.moment?) m.prepared.roster := by
  by_cases hstate : m.state = .starting
  · have hrest : m.prepared.roster = ⟨m.clients, none⟩ := by simp [roster, prepared_eq, hstate]
    rw [hrest]
    cases hs : m.session with
    | none =>
      have hroster : m.roster = ⟨m.clients, none⟩ := by simp [roster, hs]
      have hentries : m.preparation.filterMap Effect.moment? = [] := by
        simp [preparation, discardLeftover, hstate, hs, openChannel, Effect.moment?]
      rw [hroster, hentries]
      exact .idle _
    | some live =>
      have hroster : m.roster = ⟨m.clients, some (live.client, .starting)⟩ := by simp [roster, hs, hstate]
      have hentries : m.preparation.filterMap Effect.moment? = [(live.client, .discarded)] := by
        simp [preparation, discardLeftover, hstate, hs, openChannel, Effect.moment?]
      rw [hroster, hentries]
      exact .discards _ _
  · have hsame : m.prepared.roster = m.roster := by simp [roster, prepared_eq, hstate]
    have hentries : m.preparation.filterMap Effect.moment? = [] := by
      rw [preparation, discardLeftover_of_ne_starting hstate]
      rfl
    rw [hsame, hentries]
    exact .idle _

theorem prepared_session {m : Manager} (hm : m.Backed) (hrun : m.state ≠ .running) :
    m.prepared.session = none := by
  rw [prepared_eq]
  by_cases hstate : m.state = .starting
  · simp [hstate]
  · cases hs : m.session with
    | none => simp
    | some live => exact absurd (hm (by simp [hs])) (by simp [hstate, hrun])

theorem preparation_makes_nothing (m : Manager) :
    ∀ effect ∈ m.preparation, effect.isCreated = false ∧ effect.isStarted = false := by
  unfold preparation discardLeftover
  split
  · cases m.session <;> simp [openChannel, Effect.isCreated, Effect.isStarted]
  · simp [openChannel, Effect.isCreated, Effect.isStarted]

theorem preparation_started (m : Manager) : m.preparation.filterMap Effect.startedClient? = [] := by
  refine List.filterMap_eq_nil_iff.mpr fun effect heffect => ?_
  have hstarted := (preparation_makes_nothing m effect heffect).2
  cases effect with
  | started client => cases hstarted
  | _ => rfl

theorem launch_turn {m : Manager} (hm : m.session = none) (channel : Nat) (session : Session)
    (attempt : Attempt) :
    let (m', result, effects) := m.launch channel session attempt
    Turn m.roster
      (effects.filterMap Effect.moment? ++
        (effects.filterMap Effect.startedClient?).map fun client => (client, .replied result))
      m'.roster := by
  have hroster : m.roster = ⟨m.clients, none⟩ := by simp [roster, hm]
  rw [hroster]
  unfold launch
  cases attempt.outcome with
  | done =>
    simp only [List.filterMap_append, moments_traced, started_traced]
    exact .runs _
  | dropped =>
    simp only [List.filterMap_append, moments_traced, started_traced]
    exact .waits _
  | failed e =>
    simp only [List.filterMap_append, moments_traced, started_traced]
    exact .fails _ e

theorem activate_turn {m : Manager} (hm : m.Backed) (host : Host) (attempt : Attempt) :
    Turn m.roster (m.record (.activate host attempt)) (m.perform (.activate host attempt)).roster := by
  by_cases hrun : m.state = .running
  · simp only [record, perform, activate_of_running host attempt hrun]
    exact .idle _
  · have hready := preparation_turn m
    cases hc : m.serverCommand host with
    | error e =>
      simp only [record, perform, activate_of_error host attempt hrun hc, List.filterMap_append,
        preparation_started]
      rw [← List.append_nil (m.preparation.filterMap Effect.moment?),
        ← List.append_nil (m.preparation.filterMap Effect.moment? ++ [])] at hready
      exact hready
    | ok command =>
      have hlaunch := launch_turn (prepared_session hm hrun) m.channels (m.makeSession host command) attempt
      simp only [record, perform, activate_of_ok host attempt hrun hc, List.filterMap_append,
        preparation_started, List.nil_append, List.append_assoc]
      exact .trans hready hlaunch

theorem moments_traceLines (m : Manager) (lines : List String) :
    (m.traceLines lines).filterMap Effect.moment? = [] := by
  unfold traceLines
  split
  · exact moments_traced _ lines
  · rfl

theorem deactivate_turn (m : Manager) (attempt : Attempt) :
    Turn m.roster (m.record (.deactivate attempt)) (m.perform (.deactivate attempt)).roster := by
  simp only [record, perform, deactivate]
  cases hs : m.session with
  | none => exact .idle _
  | some live =>
    have hroster : m.roster = ⟨m.clients, some (live.client, m.state)⟩ := by simp [roster, hs]
    have hentries : ([Effect.stopped live.client] ++ m.traceLines attempt.lines ++
        [Effect.discarded live.client]).filterMap Effect.moment? =
        [(live.client, .stopped), (live.client, .discarded)] := by
      rw [List.filterMap_append, List.filterMap_append, moments_traceLines]
      rfl
    rw [hroster]
    cases attempt.outcome <;> simp only [hentries] <;> exact .stops _ _ _

/-- Nothing else ever happens to the clients. -/
theorem perform_turn {m : Manager} (hm : m.Backed) (s : Step) :
    Turn m.roster (m.record s) (m.perform s).roster := by
  cases s with
  | activate host attempt => exact activate_turn hm host attempt
  | deactivate attempt => exact deactivate_turn m attempt

/-- The life of a client that is gone. -/
inductive Ended : List Moment → Prop where
  | stopped : Ended [.created, .started, .replied .active, .stopped, .discarded]
  | failed (e : Failure) : Ended [.created, .started, .discarded, .replied (.failed (.launch e))]
  | abandoned : Ended [.created, .started, .replied .dropped, .discarded]
  | recalled : Ended [.created, .started, .replied .dropped, .stopped, .discarded]

theorem Ended.discarded_mem {moments : List Moment} (h : Ended moments) : .discarded ∈ moments := by
  cases h <;> simp

/-- The life of the client that is kept. -/
inductive Current : SessionState → List Moment → Prop where
  | running : Current .running [.created, .started, .replied .active]
  | starting : Current .starting [.created, .started, .replied .dropped]

theorem Current.discard {moments : List Moment} (h : Current .starting moments) :
    Ended (moments ++ [.discarded]) := by
  cases h
  exact .abandoned

theorem Current.stop {state : SessionState} {moments : List Moment} (h : Current state moments) :
    Ended (moments ++ [.stopped, .discarded]) := by
  cases h with
  | running => exact .stopped
  | starting => exact .recalled

/-- A client is started only after all clients before it were let go. -/
def OneByOne (entries : List (Nat × Moment)) : Prop :=
  ∀ before client, before ++ [(client, .started)] <+: entries →
    ∀ earlier < client, (earlier, .discarded) ∈ before

/-- The record tells what became of every client. -/
structure Accounted (r : Roster) (entries : List (Nat × Moment)) : Prop where
  unborn : ∀ client, r.count ≤ client → life client entries = []
  kept : ∀ client state, r.kept = some (client, state) →
    client < r.count ∧ Current state (life client entries)
  gone : ∀ client < r.count, (∀ state, r.kept ≠ some (client, state)) → Ended (life client entries)
  inTurn : OneByOne entries

theorem concat_prefix_append {α : Type} {xs ys before : List α} {x : α}
    (h : before ++ [x] <+: xs ++ ys) :
    before ++ [x] <+: xs ∨ ∃ part, before = xs ++ part ∧ part ++ [x] <+: ys := by
  rcases List.prefix_or_prefix_of_prefix h (List.prefix_append xs ys) with hx | hx
  · exact .inl hx
  · rcases List.prefix_concat_iff.mp hx with rfl | ⟨part, rfl⟩
    · exact .inl (List.prefix_refl _)
    · rw [List.append_assoc] at h
      exact .inr ⟨part, rfl, (List.prefix_append_right_inj xs).mp h⟩

/-- New entries keep the order if all clients before the ones that they start are gone. -/
theorem OneByOne.append {entries new : List (Nat × Moment)} (h : OneByOne entries)
    (hnew : ∀ client, (client, .started) ∈ new → ∀ earlier < client, (earlier, .discarded) ∈ entries) :
    OneByOne (entries ++ new) := by
  intro before client hprefix earlier hearlier
  rcases concat_prefix_append hprefix with hold | ⟨part, rfl, hpart⟩
  · exact h before client hold earlier hearlier
  · have hmem : (client, .started) ∈ new := hpart.subset (by simp)
    exact List.mem_append_left _ (hnew client hmem earlier hearlier)

section Turns
variable {count : Nat} {entries : List (Nat × Moment)}

theorem Accounted.dismiss {client : Nat} {state : SessionState}
    (h : Accounted ⟨count, some (client, state)⟩ entries) {moments : List Moment} (hnew : .started ∉ moments)
    (hend : Ended (life client entries ++ moments)) :
    Accounted ⟨count, none⟩ (entries ++ about client moments) := by
  have hlt : client < count := (h.kept client state rfl).1
  have hother : ∀ other, other ≠ client → life other (entries ++ about client moments) = life other entries := by
    intro other hne
    rw [life_append, life_about_of_ne hne, List.append_nil]
  constructor
  · intro other hunborn
    have hne : other ≠ client := by
      rintro rfl
      exact absurd hlt (Nat.not_lt.mpr hunborn)
    rw [hother other hne]
    exact h.unborn other hunborn
  · intro _ _ hkept
    cases hkept
  · intro other hgone _
    by_cases hne : other = client
    · rw [hne, life_append, life_about_self]
      exact hend
    · rw [hother other hne]
      refine h.gone other hgone fun state hkept => hne ?_
      cases hkept
      rfl
  · exact h.inTurn.append fun other hmem => absurd (eq_of_mem_about hmem).2 hnew

theorem Accounted.make (h : Accounted ⟨count, none⟩ entries) {moments : List Moment}
    {kept : Option (Nat × SessionState)}
    (hkept : ∀ client state, kept = some (client, state) → client = count ∧ Current state moments)
    (hend : kept = none → Ended moments) :
    Accounted ⟨count + 1, kept⟩ (entries ++ about count moments) := by
  have hnone : ∀ client, client < count → Ended (life client entries) :=
    fun client hlt => h.gone client hlt fun _ hkept => by cases hkept
  have hown : life count (entries ++ about count moments) = moments := by
    rw [life_append, h.unborn count (Nat.le_refl count), life_about_self, List.nil_append]
  have hother : ∀ other, other ≠ count → life other (entries ++ about count moments) = life other entries := by
    intro other hne
    rw [life_append, life_about_of_ne hne, List.append_nil]
  constructor
  · intro other hunborn
    have hlt : count < other := hunborn
    rw [hother other (Nat.ne_of_gt hlt)]
    exact h.unborn other (Nat.le_of_lt hlt)
  · intro client state hsome
    obtain ⟨rfl, hcurrent⟩ := hkept client state hsome
    rw [hown]
    exact ⟨Nat.lt_succ_self _, hcurrent⟩
  · intro other hlt hgone
    rcases Nat.lt_succ_iff_lt_or_eq.mp hlt with hlt | rfl
    · rw [hother other (Nat.ne_of_lt hlt)]
      exact hnone other hlt
    · rw [hown]
      refine hend (Option.eq_none_iff_forall_ne_some.mpr fun entry hentry => ?_)
      obtain ⟨client, state⟩ := entry
      obtain ⟨rfl, -⟩ := hkept client state hentry
      exact hgone state hentry
  · refine h.inTurn.append fun client hmem earlier hearlier => ?_
    obtain ⟨rfl, -⟩ := eq_of_mem_about hmem
    exact mem_of_mem_life (hnone earlier hearlier).discarded_mem

end Turns

theorem Accounted.turn {r r' : Roster} {entries new : List (Nat × Moment)} (h : Accounted r entries)
    (hturn : Turn r new r') : Accounted r' (entries ++ new) := by
  induction hturn generalizing entries with
  | idle r => rwa [List.append_nil]
  | discards count client => exact h.dismiss (by simp) (h.kept client .starting rfl).2.discard
  | stops count client state => exact h.dismiss (by simp) (h.kept client state rfl).2.stop
  | runs count =>
    refine h.make (fun client state hkept => ?_) (fun hnone => by cases hnone)
    cases hkept
    exact ⟨rfl, .running⟩
  | waits count =>
    refine h.make (fun client state hkept => ?_) (fun hnone => by cases hnone)
    cases hkept
    exact ⟨rfl, .starting⟩
  | fails count e => exact h.make (fun client state hkept => by cases hkept) (fun _ => .failed e)
  | trans first second ih₁ ih₂ =>
    rw [← List.append_assoc]
    exact ih₂ (ih₁ h)

theorem accounted_after {m : Manager} (hm : m.Backed) {entries : List (Nat × Moment)}
    (h : Accounted m.roster entries) (steps : List Step) :
    Accounted (m.after steps).roster (entries ++ m.chronicle steps) := by
  induction steps generalizing m entries with
  | nil => rwa [chronicle, List.append_nil]
  | cons s steps ih =>
    rw [after_cons, chronicle, ← List.append_assoc]
    exact ih (perform_backed hm s) (h.turn (perform_turn hm s))

/-- A proper life of a client, as far as it has come. -/
def Life (moments : List Moment) : Prop :=
  (∃ state, Current state moments) ∨ Ended moments

theorem Accounted.life {r : Roster} {entries : List (Nat × Moment)} (h : Accounted r entries) (client : Nat) :
    life client entries = [] ∨ Life (life client entries) := by
  by_cases hlt : client < r.count
  · by_cases hkept : ∃ state, r.kept = some (client, state)
    · obtain ⟨state, hkept⟩ := hkept
      exact .inr (.inl ⟨state, (h.kept client state hkept).2⟩)
    · exact .inr (.inr (h.gone client hlt fun state hsome => hkept ⟨state, hsome⟩))
  · exact .inl (h.unborn client (Nat.not_lt.mp hlt))

theorem activate_rejected (m : Manager) (host : Host) (attempt : Attempt) :
    let (m', result, effects) := m.activate host attempt
    match result with
    | .failed (.alreadyActive _) | .failed (.unsupportedPlatform _) =>
      m'.clients = m.clients ∧ ∀ effect ∈ effects, effect.isCreated = false ∧ effect.isStarted = false
    | _ => True := by
  by_cases hrun : m.state = .running
  · rw [activate_of_running host attempt hrun]
    exact ⟨rfl, by simp⟩
  · cases hc : m.serverCommand host with
    | error e =>
      rw [activate_of_error host attempt hrun hc]
      refine ⟨by rw [prepared_eq], fun effect heffect => ?_⟩
      rcases List.mem_append.mp heffect with heffect | heffect
      · exact preparation_makes_nothing m effect heffect
      · rw [List.mem_singleton.mp heffect]
        exact ⟨rfl, rfl⟩
    | ok command =>
      rw [activate_of_ok host attempt hrun hc, launch]
      cases attempt.outcome <;> trivial

/-- Whatever calls are made, and however they end, each client is started once and before all else, and stopped
once at most. None is stopped whose start failed, none is let go unstopped whose start succeeded, and none is started
before all earlier ones are gone. An activation that is turned down makes and starts no client. -/
theorem clients_live_in_turn (settings : Settings) (steps : List Step) :
    let fresh : Manager := { settings := settings }
    let entries := fresh.chronicle steps
    (∀ client, life client entries = [] ∨ Life (life client entries)) ∧ OneByOne entries ∧
    ∀ host attempt,
      let (m, result, effects) := (fresh.after steps).activate host attempt
      match result with
      | .failed (.alreadyActive _) | .failed (.unsupportedPlatform _) =>
        m.clients = (fresh.after steps).clients ∧
          ∀ effect ∈ effects, effect.isCreated = false ∧ effect.isStarted = false
      | _ => True := by
  intro fresh entries
  have hbacked : fresh.Backed := fun hsome => by cases hsome
  have hstart : Accounted fresh.roster [] := by
    constructor
    · exact fun _ _ => rfl
    · intro client state hkept
      cases hkept
    · intro client hlt
      cases hlt
    · intro before client hprefix
      simp at hprefix
  have haccounted := accounted_after hbacked hstart steps
  exact ⟨haccounted.life, haccounted.inTurn, activate_rejected _⟩

/-- The first start is dropped and the second fails; the third client is stopped, though nobody waits for that. -/
example :
    ({} : Manager).chronicle
        [.activate linuxHost { outcome := .dropped }, .activate linuxHost { outcome := .failed ⟨"no", []⟩ },
          .activate linuxHost {}, .activate linuxHost {}, .deactivate { outcome := .dropped }] =
      about 0 [.created, .started, .replied .dropped, .discarded] ++
        about 1 [.created, .started, .discarded, .replied (.failed (.launch ⟨"no", []⟩))] ++
        about 2 [.created, .started, .replied .active, .stopped, .discarded] := by
  decide

end Manager

end LspClient
