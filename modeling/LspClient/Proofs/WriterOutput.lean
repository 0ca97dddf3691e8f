import LspClient.Proofs.FrameTruncation
import LspClient.Proofs.Producers

/-!
# What the writer puts out

The writer takes commands in the order of the channel and writes each frame whole, until the command that ends it
or a frame that cannot be written. Of that frame a proper part may be left behind. The channel itself holds what
its two producers queued, each in its own order, and the trace says of each frame that writing it was tried.
-/

namespace LspClient

open scoped List

def Command.frame? : Command → Option Json
  | .send frame => some frame
  | .shutdown => none

namespace Channel

def received (c : Channel) : List Command :=
  c.accepted.take c.taken

theorem received_pushAll {c : Channel} (h : c.taken ≤ c.accepted.length) (commands : List Command) :
    (c.pushAll commands).received = c.received :=
  List.take_append_of_le_length h

theorem received_take {c : Channel} {command : Command} (h : c.next? = some command) :
    c.take.received = c.received ++ [command] := by
  rw [received, take, List.take_add_one, show c.accepted[c.taken]? = some command from h]
  rfl

theorem taken_lt {c : Channel} {command : Command} (h : c.next? = some command) : c.taken < c.accepted.length :=
  (List.getElem?_eq_some_iff.1 h).1

end Channel

namespace Target
variable {t t' : Target} {bytes rest : Bytes}

theorem taken_of_write (h : t.write bytes = (t', .ok ())) : t'.taken = t.taken ++ bytes ∧ t'.window = t.window := by
  unfold write at h
  split at h
  · cases h
    exact ⟨rfl, rfl⟩
  · split at h
    · rename_i hfits
      cases h
      exact ⟨congrArg _ (List.take_of_length_le hfits), rfl⟩
    · cases h

/-- Bytes that are not all taken leave a proper part and no room. -/
theorem taken_of_write_error {e : StreamError} (h : t.write bytes = (t', .error e)) :
    t'.room = some 0 ∧ t'.window = t.window ∧ ∃ part, t'.taken = t.taken ++ part ∧ part <+: bytes ∧ part ≠ bytes := by
  unfold write at h
  split at h
  · cases h
  · rename_i n hroom
    split at h
    · cases h
    · rename_i hfull
      cases h
      refine ⟨congrArg some (by omega), rfl, _, rfl, List.take_prefix n _, fun hwhole => hfull ?_⟩
      rw [← hwhole, List.length_take]
      exact Nat.min_le_left _ _

/-- What passes stands behind what was taken before, and what does not pass stops at the window. -/
theorem taken_of_put (h : t.put bytes = (t', .ok rest)) :
    rest = bytes.drop (t.passing bytes) ∧ t'.taken = t.taken ++ bytes.take (t.passing bytes) ∧
      t'.window = t.window.map (· - t.passing bytes) := by
  rcases hwrite : Target.write { t with window := t.window.map (· - t.passing bytes) }
    (bytes.take (t.passing bytes)) with ⟨target, result⟩
  simp only [put, hwrite] at h
  cases result with
  | error e => cases h
  | ok _ =>
    cases h
    exact ⟨rfl, taken_of_write hwrite⟩

theorem taken_of_put_error {e : StreamError} (h : t.put bytes = (t', .error e)) :
    t'.room = some 0 ∧ t'.window = t.window.map (· - t.passing bytes) ∧
      ∃ part, t'.taken = t.taken ++ part ∧ part <+: bytes ∧ part ≠ bytes := by
  rcases hwrite : Target.write { t with window := t.window.map (· - t.passing bytes) }
    (bytes.take (t.passing bytes)) with ⟨target, result⟩
  simp only [put, hwrite] at h
  cases result with
  | ok _ => cases h
  | error e =>
    cases h
    obtain ⟨hroom, hwindow, part, htaken, hfirst, hproper⟩ := taken_of_write_error hwrite
    refine ⟨hroom, hwindow, part, htaken, hfirst.trans (List.take_prefix _ _), fun hwhole => hproper ?_⟩
    -- A part that is all of the bytes is all of what passes.
    exact hfirst.eq_of_length_le (by rw [hwhole, List.length_take]; exact Nat.min_le_right _ _)

end Target

namespace Connection

/-- What a writer has put out, behind what stood there before, of the commands that it received. -/
inductive PutOut (before : Bytes) (received : List Command) (target : Target) : WriterState → Prop where
  | going (frames : List Json) (hreceived : received = frames.map .send)
      (htaken : target.taken = before ++ frames.flatMap Frame.encode) : PutOut before received target .writing
  | sending (frames : List Json) (frame : Json) (part rest : Bytes)
      (hreceived : received = frames.map .send ++ [.send frame])
      (htaken : target.taken = before ++ frames.flatMap Frame.encode ++ part)
      (hpart : part ++ rest = Frame.encode frame) : PutOut before received target (.sending rest)
  | ended (frames : List Json) (hreceived : received = frames.map .send ++ [.shutdown])
      (htaken : target.taken = before ++ frames.flatMap Frame.encode) : PutOut before received target .stopped
  | failed (frames : List Json) (frame : Json) (part : Bytes)
      (hreceived : received = frames.map .send ++ [.send frame])
      (htaken : target.taken = before ++ frames.flatMap Frame.encode ++ part)
      (hpart : part <+: Frame.encode frame) (hproper : part ≠ Frame.encode frame)
      (hroom : target.room = some 0) : PutOut before received target .stopped

theorem PutOut.retarget {before : Bytes} {received : List Command} {t t' : Target} {writer : WriterState}
    (h : PutOut before received t writer) (htaken : t'.taken = t.taken) (hroom : t.room = some 0 → t'.room = some 0) :
    PutOut before received t' writer := by
  cases h with
  | going frames hreceived h => exact .going frames hreceived (htaken.trans h)
  | sending frames frame part rest hreceived h hpart =>
    exact .sending frames frame part rest hreceived (htaken.trans h) hpart
  | ended frames hreceived h => exact .ended frames hreceived (htaken.trans h)
  | failed frames frame part hreceived h hpart hproper hfull =>
    exact .failed frames frame part hreceived (htaken.trans h) hpart hproper (hroom hfull)

/-- More of the frame that is under way passes. -/
theorem PutOut.pass {before : Bytes} {received : List Command} {t t' : Target} {bytes rest : Bytes}
    (h : PutOut before received t (.sending bytes)) (hput : t.put bytes = (t', .ok rest)) :
    PutOut before received t' (if rest = [] then .writing else .sending rest) := by
  obtain ⟨hrest, htaken', -⟩ := Target.taken_of_put hput
  have hbytes : bytes.take (t.passing bytes) ++ rest = bytes := by rw [hrest, List.take_append_drop]
  cases h with
  | sending frames frame part bytes hreceived htaken hpart =>
    rw [htaken, List.append_assoc] at htaken'
    rw [← hbytes, ← List.append_assoc] at hpart
    split
    · rename_i hnone
      rw [hnone, List.append_nil] at hpart
      refine .going (frames ++ [frame]) (by simp [hreceived]) ?_
      simp [htaken', hpart]
    · exact .sending frames frame _ rest hreceived htaken' hpart

theorem PutOut.breakOff {before : Bytes} {received : List Command} {t t' : Target} {bytes : Bytes} {e : StreamError}
    (h : PutOut before received t (.sending bytes)) (hput : t.put bytes = (t', .error e)) :
    PutOut before received t' .stopped := by
  obtain ⟨hroom, -, more, htaken', hfirst, hproper⟩ := Target.taken_of_put_error hput
  cases h with
  | sending frames frame part bytes hreceived htaken hpart =>
    rw [htaken, List.append_assoc] at htaken'
    refine .failed frames frame (part ++ more) hreceived htaken' ?_ (fun hwhole => hproper ?_) hroom
    · rw [← hpart]
      exact (List.prefix_append_right_inj part).mpr hfirst
    · rw [← hpart] at hwhole
      exact List.append_cancel_left hwhole

/-- The channel, the writer and the trace tell of the same commands. -/
structure Accounts (before : Bytes) (level : TraceLevel) (clock : String) (o : Outgoing)
    (queued : List (Sender × Command)) (lines : List Tracing) : Prop where
  sameLevel : o.level = level
  sameClock : o.clock = clock
  accepted : o.channel.accepted = queued.map Prod.snd
  taken : o.channel.taken ≤ o.channel.accepted.length
  putOut : PutOut before o.channel.received o.target o.writer
  sent : lines.filterMap Tracing.sent? = o.channel.received.filterMap Command.frame?
  trace : o.trace = lines.filterMap (Tracing.shown? clock level)

section Steps
variable {before : Bytes} {level : TraceLevel} {clock : String} {o o' : Outgoing}
  {queued : List (Sender × Command)} {lines : List Tracing} (h : Accounts before level clock o queued lines)
include h

theorem Accounts.add (sender : Sender) (commands : List Command) {new : List Tracing}
    (hnew : new.filterMap Tracing.sent? = []) :
    Accounts before level clock (o.add commands new) (queued ++ commands.map fun command => (sender, command))
      (lines ++ new) where
  sameLevel := h.sameLevel
  sameClock := h.sameClock
  accepted := by
    simp [Outgoing.add, Channel.pushAll, h.accepted, Function.comp_def]
  taken := by
    have htaken := h.taken
    simp only [Outgoing.add, Channel.pushAll, List.length_append]
    omega
  putOut := by
    rw [Outgoing.add, Channel.received_pushAll h.taken]
    exact h.putOut
  sent := by
    rw [List.filterMap_append, hnew, List.append_nil, h.sent, Outgoing.add, Channel.received_pushAll h.taken]
  trace := by
    rw [Outgoing.add, List.filterMap_append, ← h.trace, h.sameClock, h.sameLevel]

/-- The writer takes a command and traces that it does. -/
theorem Accounts.receive {command : Command} (hnext : o.channel.next? = some command) {new : List Tracing}
    (hnew : new.filterMap Tracing.sent? = command.frame?.toList) {target : Target} {writer : WriterState}
    (hput : PutOut before (o.channel.received ++ [command]) target writer) :
    Accounts before level clock
      { o.add [] new with channel := o.channel.take, target := target, writer := writer } queued
      (lines ++ new) where
  sameLevel := h.sameLevel
  sameClock := h.sameClock
  accepted := h.accepted
  taken := Channel.taken_lt hnext
  putOut := by
    rw [Channel.received_take hnext]
    exact hput
  sent := by
    rw [List.filterMap_append, hnew, h.sent, Channel.received_take hnext, List.filterMap_append]
    cases command <;> rfl
  trace := by
    rw [Outgoing.add, List.filterMap_append, ← h.trace, h.sameClock, h.sameLevel]

theorem Accounts.step {commands : List Command} {new : List Tracing} (sender : Sender)
    (hmove : Move o commands new o') :
    Accounts before level clock o' (queued ++ commands.map fun command => (sender, command)) (lines ++ new) := by
  have hput := h.putOut
  cases hmove with
  | adds commands new hnew => exact h.add sender commands hnew
  | breaks failure =>
    rw [List.map_nil, List.append_nil, List.append_nil]
    exact { h with putOut := hput.retarget rfl fun _ => rfl }
  | drains n =>
    rw [List.map_nil, List.append_nil, List.append_nil]
    exact { h with putOut := hput.retarget rfl id }
  | takes frame hwriter hnext =>
    rw [List.map_nil, List.append_nil]
    -- A writer that takes a command has written every frame whole so far.
    rw [hwriter] at hput
    cases hput with
    | going frames hreceived htaken =>
      refine h.receive hnext rfl (.sending frames frame [] _ (by rw [hreceived]) ?_ rfl)
      exact htaken.trans (List.append_nil _).symm
  | passes bytes rest target hwriter hwindow hwrite =>
    rw [List.map_nil, List.append_nil, List.append_nil]
    rw [hwriter] at hput
    exact { h with putOut := hput.pass hwrite }
  | fails bytes target e hwriter hwindow hwrite =>
    have hsilent : [Tracing.line ("Failed to write to server: " ++ (FrameError.stream e).message)].filterMap
        Tracing.sent? = [] := rfl
    have hadd := h.add sender [] hsilent
    rw [hwriter] at hput
    have hbroken : PutOut before (o.channel.pushAll []).received target .stopped := by
      rw [Channel.pushAll_nil]
      exact hput.breakOff hwrite
    exact { hadd with putOut := hbroken }
  | ends hwriter hnext =>
    rw [List.map_nil, List.append_nil]
    rw [hwriter] at hput
    cases hput with
    | going frames hreceived htaken =>
      have hended : PutOut before (o.channel.received ++ [.shutdown]) o.target .stopped :=
        .ended frames (by rw [hreceived]) htaken
      have hnone : ([] : List Tracing).filterMap Tracing.sent? = Command.shutdown.frame?.toList := rfl
      have hnew := h.receive hnext hnone hended
      rwa [Outgoing.add_nil] at hnew

end Steps

theorem accounts_follow (name : String) (level : TraceLevel) (clock : String) (target : Target)
    (events : List Event) :
    Accounts target.taken level clock ((opened name level clock target).follow events).outgoing
      ((opened name level clock target).queuings events) ((opened name level clock target).tracings events) := by
  have hopened : Accounts target.taken level clock (opened name level clock target).outgoing [] [] := by
    refine ⟨rfl, rfl, rfl, Nat.le_refl 0, .going [] rfl ?_, rfl, rfl⟩
    exact (List.append_nil _).symm
  exact follow_outgoing (fun sender h hmove => h.step sender hmove) events [] [] hopened

/-- A writer that has stopped never writes or takes anything again. -/
theorem follow_stopped (events : List Event) {c : Connection} (h : c.writer = .stopped) :
    (c.follow events).writer = .stopped ∧ (c.follow events).channel.taken = c.channel.taken ∧
      (c.follow events).target.taken = c.target.taken := by
  refine follow_outgoing (P := fun o _ _ => o.writer = .stopped ∧ o.channel.taken = c.channel.taken ∧
    o.target.taken = c.target.taken) ?_ events [] [] ⟨h, rfl, rfl⟩
  rintro o o' queued lines new commands sender ⟨hw, htaken, hwritten⟩ hmove
  obtain ⟨hw', htaken', hwritten'⟩ := hmove.of_stopped hw
  exact ⟨hw', htaken'.trans htaken, hwritten'.trans hwritten⟩

end Connection

end LspClient
