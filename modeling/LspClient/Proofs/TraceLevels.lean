import LspClient.Proofs.WriterOutput

/-!
# Levels of tracing

How much is traced changes nothing but the trace. Two connections that are alike up to the level and the lines traced
can do the same next and stay alike, so runs at two levels go in step. They also trace the same things, of which each
level shows its part: lines of their own at every level, entries for messages from the second on and with their bodies
at the third.
-/

namespace LspClient

namespace Tracing

/-- A line that is no entry for a message. -/
def isNote : Tracing → Bool
  | .line _ => true
  | .entry _ _ => false

/-- The line without the body of a message. -/
def headline (clock : String) : Tracing → String
  | .entry direction message => Trace.header clock direction message
  | .line text => text

def details : Tracing → String
  | .entry _ message => Trace.body message
  | .line _ => ""

theorem shown?_off (clock : String) (t : Tracing) :
    t.shown? clock .off = if t.isNote then some (t.headline clock) else none := by
  cases t <;> rfl

theorem shown?_messages (clock : String) (t : Tracing) : t.shown? clock .messages = some (t.headline clock) := by
  cases t <;> rfl

theorem shown?_verbose (clock : String) (t : Tracing) :
    t.shown? clock .verbose = some (t.headline clock ++ t.details) := by
  cases t with
  | entry direction message => rfl
  | line text => simp [shown?, headline, details]

end Tracing

namespace Connection

/-- The connection without what depends on the level. -/
def untraced (c : Connection) : Connection :=
  { c with level := .off, trace := [] }

/-- What happens does not depend on the level or on the lines traced. -/
theorem Step.retraced {c c' : Connection} {e : Event} (h : Step c e c') (level : TraceLevel) (trace : List String) :
    ∃ trace', Step { c with level := level, trace := trace } e { c' with level := level, trace := trace' } := by
  cases h with
  | notice method params hcall hused => exact ⟨_, .notice method params hcall hused⟩
  | register goal ids hgoal hcall hused hopen => exact ⟨_, .register goal ids hgoal hcall hused hopen⟩
  | turnAway goal hgoal hcall hused hclosed => exact ⟨_, .turnAway goal hgoal hcall hused hclosed⟩
  | cancel => exact ⟨_, .cancel⟩
  | receive bytes hopen hreader => exact ⟨_, .receive bytes hopen hreader⟩
  | closeInput => exact ⟨_, .closeInput⟩
  | closeOutput failure => exact ⟨_, .closeOutput failure⟩
  | drain n => exact ⟨_, .drain n⟩
  | advance ms => exact ⟨_, .advance ms⟩
  | reply reply hreader hroom => exact ⟨_, .reply reply hreader hroom⟩
  | response v rest id body hreader hread hclass => exact ⟨_, .response v rest id body hreader hread hclass⟩
  | request v rest id method hreader hread hclass => exact ⟨_, .request v rest id method hreader hread hclass⟩
  | notification v rest method params hreader hread hclass =>
    exact ⟨_, .notification v rest method params hreader hread hclass⟩
  | noise v rest hreader hread hclass => exact ⟨_, .noise v rest hreader hread hclass⟩
  | finish rest hreader hread => exact ⟨_, .finish rest hreader hread⟩
  | giveUp e rest hreader hread => exact ⟨_, .giveUp e rest hreader hread⟩
  | take frame hwriter hnext => exact ⟨_, .take frame hwriter hnext⟩
  | pass bytes rest target hwriter hwindow hput => exact ⟨_, .pass bytes rest target hwriter hwindow hput⟩
  | breakOff bytes target e hwriter hwindow hput => exact ⟨_, .breakOff bytes target e hwriter hwindow hput⟩
  | stop hwriter hnext => exact ⟨_, .stop hwriter hnext⟩
  | ask goal id slot hcall haccepts hroom => exact ⟨_, .ask goal id slot hcall haccepts hroom⟩
  | askNobody goal id slot hcall haccepts => exact ⟨_, .askNobody goal id slot hcall haccepts⟩
  | settle goal id deadline body hcall => exact ⟨_, .settle goal id deadline body hcall⟩
  | hangUp goal id deadline hcall => exact ⟨_, .hangUp goal id deadline hcall⟩
  | expire goal id t limit hcall hlimit ht => exact ⟨_, .expire goal id t limit hcall hlimit ht⟩
  | abandon goal id limit slot hcall => exact ⟨_, .abandon goal id limit slot hcall⟩
  | say goal settled slot hcall haccepts hroom => exact ⟨_, .say goal settled slot hcall haccepts hroom⟩
  | sayToNobody goal settled slot hcall haccepts => exact ⟨_, .sayToNobody goal settled slot hcall haccepts⟩
  | close goal settled slot hcall haccepts hroom => exact ⟨_, .close goal settled slot hcall haccepts hroom⟩
  | closeNothing goal settled slot hcall haccepts => exact ⟨_, .closeNothing goal settled slot hcall haccepts⟩
  | join goal settled slot hcall haccepts => exact ⟨_, .join goal settled slot hcall haccepts⟩

theorem lines_untraced (c : Connection) (e : Event) : c.untraced.lines e = c.lines e := by
  cases e <;> rfl

section Lockstep
variable {c c' : Connection} (h : c.untraced = c'.untraced)
include h

theorem eq_of_untraced : c' = { c with level := c'.level, trace := c'.trace } :=
  congrArg (fun d : Connection => { d with level := c'.level, trace := c'.trace }) h.symm

theorem next?_of_alike {e : Event} {d : Connection} (hd : c.next? e = some d) :
    ∃ d', c'.next? e = some d' ∧ d'.untraced = d.untraced := by
  obtain ⟨trace', hstep⟩ := (step_of_next? hd).retraced c'.level c'.trace
  rw [← eq_of_untraced h] at hstep
  exact ⟨_, hstep.next?_eq, rfl⟩

/-- What can happen to one of them can happen to the other, and the same comes of it. -/
theorem next?_alike (e : Event) : (c.next? e).map untraced = (c'.next? e).map untraced := by
  cases hd : c.next? e with
  | some d =>
    obtain ⟨d', hd', hsame⟩ := next?_of_alike h hd
    rw [hd', Option.map_some, Option.map_some, hsame]
  | none =>
    cases hd' : c'.next? e with
    | none => rfl
    | some d' =>
      obtain ⟨d, hsome, -⟩ := next?_of_alike h.symm hd'
      cases hd.symm.trans hsome

theorem traced_alike (e : Event) : c.traced e = c'.traced e := by
  have hhappens := congrArg Option.isSome (next?_alike h e)
  rw [Option.isSome_map, Option.isSome_map] at hhappens
  rw [traced, traced, seen, seen, hhappens, ← lines_untraced c, ← lines_untraced c', h]

theorem react_alike (e : Event) : (c.react e).untraced = (c'.react e).untraced := by
  rw [react, react, ← Option.getD_map untraced, ← Option.getD_map untraced, next?_alike h, h]

/-- Connections that are alike stay so through a run, and they trace the same things. -/
theorem follow_alike (events : List Event) :
    (c.follow events).untraced = (c'.follow events).untraced ∧ c.tracings events = c'.tracings events := by
  induction events generalizing c c' with
  | nil => exact ⟨h, rfl⟩
  | cons e events ih =>
    obtain ⟨halike, htracings⟩ := ih (react_alike h e)
    refine ⟨halike, ?_⟩
    rw [tracings, tracings, htracings, traced_alike h]

end Lockstep

theorem untraced_opened (name : String) (level level' : TraceLevel) (clock : String) (target : Target) :
    (opened name level clock target).untraced = (opened name level' clock target).untraced := rfl

theorem trace_follow (name : String) (level : TraceLevel) (clock : String) (target : Target) (events : List Event) :
    ((opened name level clock target).follow events).trace =
      ((opened name .off clock target).tracings events).filterMap (Tracing.shown? clock level) := by
  have hsame : (opened name level clock target).tracings events = (opened name .off clock target).tracings events :=
    (follow_alike (untraced_opened name level .off clock target) events).2
  rw [← hsame]
  exact (accounts_follow name level clock target events).trace

theorem level_follow (name : String) (level : TraceLevel) (clock : String) (target : Target) (events : List Event) :
    ((opened name level clock target).follow events).level = level :=
  (accounts_follow name level clock target events).sameLevel

/-- Runs of the same events at two levels differ in nothing but the level and the trace, and what can happen next at
one of them can happen at the other. There is one row of things to tell, of which the lowest level shows the notes,
the next one also the headline of every message, and the highest one headlines with their details. -/
theorem level_shows_in_trace_only (name : String) (clock : String) (target : Target) (events : List Event) :
    let run (level : TraceLevel) := (opened name level clock target).follow events
    let lines := (opened name .off clock target).tracings events
    (∀ level level', run level' = { run level with level := level', trace := (run level').trace } ∧
      ∀ e, ((run level').next? e).isSome = ((run level).next? e).isSome) ∧
    (run .off).trace = (lines.filter Tracing.isNote).map (Tracing.headline clock) ∧
    (run .messages).trace = lines.map (Tracing.headline clock) ∧
    (run .verbose).trace = lines.map fun line => line.headline clock ++ line.details := by
  intro run lines
  refine ⟨fun level level' => ?_, ?_, ?_, ?_⟩
  · have halike : (run level).untraced = (run level').untraced :=
      (follow_alike (untraced_opened name level level' clock target) events).1
    constructor
    · have hlevel : (run level').level = level' := level_follow name level' clock target events
      calc run level'
          = { (run level').untraced with level := (run level').level, trace := (run level').trace } := rfl
        _ = { run level with level := level', trace := (run level').trace } := by rw [← halike, hlevel]; rfl
    · intro e
      have hnext := congrArg Option.isSome (next?_alike halike e)
      rw [Option.isSome_map, Option.isSome_map] at hnext
      exact hnext.symm
  · have hshown : Tracing.shown? clock .off = fun t => if t.isNote then (some ∘ Tracing.headline clock) t else none :=
      funext (Tracing.shown?_off clock)
    rw [show (run .off).trace = _ from trace_follow name .off clock target events, hshown, ← List.filterMap_filter,
      List.filterMap_eq_map]
  · have hshown : Tracing.shown? clock .messages = some ∘ Tracing.headline clock :=
      funext (Tracing.shown?_messages clock)
    rw [show (run .messages).trace = _ from trace_follow name .messages clock target events, hshown,
      List.filterMap_eq_map]
  · have hshown : Tracing.shown? clock .verbose = some ∘ fun t => t.headline clock ++ t.details :=
      funext (Tracing.shown?_verbose clock)
    rw [show (run .verbose).trace = _ from trace_follow name .verbose clock target events, hshown,
      List.filterMap_eq_map]

end Connection

end LspClient
