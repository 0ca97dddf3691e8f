import LspClient.Proofs.FrameProgress
import LspClient.Proofs.WriterOutput
import LspClient.Client

/-!
# Runs come to rest

Each step of an actor takes something off the load of a connection: the bytes that have arrived, the commands that
wait, the frame under way, and the stages that the reader and the call have before them. The load is never more than
the number of steps that a run is given. So it is not the number of steps that ends a run: when it ends nothing can go
on, or the call is over.
-/

namespace LspClient

/-! ## Repeated steps -/

section Exhaust
variable {α : Type} {step : α → Option α}

theorem exhaust_of_none {a : α} (h : step a = none) (fuel : Nat) : exhaust step fuel a = a := by
  cases fuel with
  | zero => rfl
  | succ fuel => rw [exhaust, h]

variable {load : α → Nat} (hstep : ∀ a a', step a = some a' → load a' < load a)
include hstep

theorem exhaust_load_le (fuel : Nat) (a : α) : load (exhaust step fuel a) ≤ load a := by
  induction fuel generalizing a with
  | zero => exact Nat.le_refl _
  | succ fuel ih =>
    rw [exhaust]
    cases hnext : step a with
    | none => exact Nat.le_refl _
    | some a' => exact Nat.le_trans (ih a') (Nat.le_of_lt (hstep a a' hnext))

theorem exhaust_load_lt {a : α} (h : (step a).isSome = true) (fuel : Nat) :
    load (exhaust step (fuel + 1) a) < load a := by
  obtain ⟨a', hnext⟩ := Option.isSome_iff_exists.1 h
  rw [exhaust, hnext]
  exact Nat.lt_of_le_of_lt (exhaust_load_le hstep fuel a') (hstep a a' hnext)

variable (load) in
/-- As many steps as the load says are enough. -/
theorem exhaust_rests {fuel : Nat} {a : α} (h : load a ≤ fuel) : step (exhaust step fuel a) = none := by
  induction fuel generalizing a with
  | zero =>
    cases hnext : step a with
    | none => exact hnext
    | some a' => exact absurd (Nat.lt_of_lt_of_le (hstep a a' hnext) h) (Nat.not_lt_zero _)
  | succ fuel ih =>
    rw [exhaust]
    cases hnext : step a with
    | none => exact hnext
    | some a' => exact ih (Nat.le_of_lt_succ (Nat.lt_of_lt_of_le (hstep a a' hnext) h))

end Exhaust

/-! ## The load of a connection -/

/-- A reply that waits makes a command of two steps. -/
def ReaderState.load : ReaderState → Nat
  | .ended => 0
  | .reading => 1
  | .replying _ => 4

theorem ReaderState.load_le (r : ReaderState) : r.load ≤ 4 := by
  cases r <;> simp [load]

/-- The stages that follow, with two steps for each command on the way. -/
def Stage.load : Stage → Nat
  | .sending _ => 12
  | .waiting _ _ => 9
  | .expired _ _ => 8
  | .notifying _ => 7
  | .closing _ => 4
  | .joining _ => 1

def Channel.waiting (c : Channel) : Nat :=
  c.accepted.length - c.taken

theorem Channel.waiting_push_le (c : Channel) (command : Command) : (c.push command).waiting ≤ c.waiting + 1 := by
  simp only [waiting, push, List.length_append, List.length_singleton]
  omega

theorem Channel.waiting_take {c : Channel} {command : Command} (h : c.next? = some command) :
    c.take.waiting + 1 = c.waiting := by
  have hlt := taken_lt h
  simp only [waiting, take]
  omega

namespace Connection

/-- A frame is under way, and some of it passes. -/
def underWay (c : Connection) : Nat :=
  match c.writer with
  | .sending _ => if c.target.window = some 0 then 0 else 1
  | _ => 0

def callLoad (c : Connection) : Nat :=
  (c.call.map fun call => call.stage.load).getD 0

def load (c : Connection) : Nat :=
  4 * c.inbox.length + c.reader.load + c.callLoad + 2 * c.channel.waiting + c.underWay

theorem underWay_le (c : Connection) : c.underWay ≤ 1 := by
  unfold underWay
  split
  · split <;> omega
  · omega

theorem load_le_stepBound (c : Connection) : c.load ≤ c.stepBound := by
  have hreader := c.reader.load_le
  have hcall : c.callLoad ≤ 12 := by
    unfold callLoad
    cases c.call with
    | none => simp
    | some call => cases hstage : call.stage <;> simp [hstage, Stage.load]
  have hwaiting : c.channel.waiting ≤ c.channel.accepted.length := Nat.sub_le _ _
  have hunderWay := c.underWay_le
  simp only [load, stepBound]
  omega

/-- What is handed to a call leaves its stage. -/
theorem callLoad_hand {c c' : Connection} {ids : List Nat} {slot : Slot}
    (h : c'.call = c.call.map (Call.hand ids slot)) : c'.callLoad = c.callLoad := by
  rw [callLoad, h, Option.map_map]
  rfl

theorem callLoad_of_call {c : Connection} {call : Call} (h : c.call = some call) : c.callLoad = call.stage.load := by
  rw [callLoad, h]
  rfl

theorem callLoad_afterRequest_le (c : Connection) (call : Call) (id : Option Nat) (r : Except CallError Answer) :
    (c.afterRequest call id r).callLoad ≤ 7 := by
  unfold callLoad afterRequest
  dsimp only
  split <;> simp [Stage.load]

theorem callLoad_afterNotification_le (c : Connection) (call : Call) (settled sent : Except CallError Answer) :
    (c.afterNotification call settled sent).callLoad ≤ 4 := by
  unfold callLoad afterNotification
  dsimp only
  split <;> simp [Stage.load]

theorem sendReply_load (c : Connection) (reply : Json) :
    (c.sendReply reply).reader.load + 2 * (c.sendReply reply).channel.waiting ≤
      (if c.mustWait then 4 else 3) + 2 * c.channel.waiting := by
  have hpush := c.channel.waiting_push_le (.send reply)
  cases haccepts : c.accepts <;> cases hfull : c.channel.isFull <;>
    simp [sendReply, mustWait, offer, haccepts, hfull, ReaderState.load]
  omega

section Steps
variable {c c' : Connection}

/-- The reader changes neither the stage of the call nor what the writer has under way. -/
theorem load_lt_of_reader (hcall : c'.callLoad = c.callLoad) (hunderWay : c'.underWay = c.underWay)
    (h : 4 * c'.inbox.length + (c'.reader.load + 2 * c'.channel.waiting) <
      4 * c.inbox.length + (c.reader.load + 2 * c.channel.waiting)) : c'.load < c.load := by
  simp only [load, hcall, hunderWay]
  omega

/-- A message takes a byte at least, which pays for a reply. -/
theorem load_lt_of_message {v : Json} {rest : Bytes} (hreader : c.reader = .reading)
    (hread : Frame.readFrom c.inboxEnded c.inbox = some (.message v, rest)) (hrest : c'.inbox = rest)
    (hcall : c'.callLoad = c.callLoad) (hunderWay : c'.underWay = c.underWay)
    (h : c'.reader.load + 2 * c'.channel.waiting ≤ 4 + 2 * c.channel.waiting) : c'.load < c.load := by
  have hforward := Frame.goesForward_of_readFrom hread
  have hlt : rest.length < c.inbox.length := hforward.proper fun hnil => nomatch hforward.ended_iff.2 hnil
  refine load_lt_of_reader hcall hunderWay ?_
  rw [hrest, hreader, ReaderState.load]
  omega

theorem load_lt_of_endReading {r : Frame.Reading} {rest : Bytes} (hreader : c.reader = .reading)
    (hread : Frame.readFrom c.inboxEnded c.inbox = some (r, rest)) (line : String) :
    ({ c with inbox := rest }.endReading line).load < c.load := by
  have hle : rest.length ≤ c.inbox.length := (Frame.goesForward_of_readFrom hread).suffix.length_le
  refine load_lt_of_reader (callLoad_hand rfl) rfl ?_
  simp only [endReading, closePending, addLine, hreader, ReaderState.load]
  omega

theorem reader_load_lt (h : Step c .reader c') : c'.load < c.load := by
  have hstays : c.reader.load + 2 * c.channel.waiting ≤ 4 + 2 * c.channel.waiting :=
    Nat.add_le_add_right c.reader.load_le _
  cases h with
  | reply reply hreader hroom =>
    have hreply := c.sendReply_load reply
    rw [hroom, if_neg Bool.false_ne_true] at hreply
    refine load_lt_of_reader rfl rfl (Nat.add_lt_add_left (Nat.lt_of_le_of_lt hreply ?_) _)
    rw [hreader, ReaderState.load]
    omega
  | response v rest id body hreader hread => exact load_lt_of_message hreader hread rfl (callLoad_hand rfl) rfl hstays
  | request v rest id method hreader hread =>
    refine load_lt_of_message hreader hread rfl rfl rfl (Nat.le_trans (sendReply_load _ _) ?_)
    exact Nat.add_le_add_right (by split <;> decide) _
  | notification v rest method params hreader hread => exact load_lt_of_message hreader hread rfl rfl rfl hstays
  | noise v rest hreader hread => exact load_lt_of_message hreader hread rfl rfl rfl hstays
  | finish rest hreader hread => exact load_lt_of_endReading hreader hread _
  | giveUp e rest hreader hread => exact load_lt_of_endReading hreader hread _

/-- The writer changes neither what was read nor the stage of the call. -/
theorem load_lt_of_writer (hinbox : c'.inbox = c.inbox) (hreader : c'.reader = c.reader)
    (hcall : c'.callLoad = c.callLoad)
    (h : 2 * c'.channel.waiting + c'.underWay < 2 * c.channel.waiting + c.underWay) : c'.load < c.load := by
  simp only [load, hinbox, hreader, hcall]
  omega

theorem underWay_of_sending {bytes : Bytes} (hwriter : c.writer = .sending bytes)
    (hwindow : c.target.window ≠ some 0) : c.underWay = 1 := by
  rw [underWay, hwriter]
  exact if_neg hwindow

/-- When not all of a frame passes, nothing passes any more. -/
theorem window_of_put {t t' : Target} {bytes rest : Bytes} (h : t.put bytes = (t', .ok rest)) (hrest : rest ≠ []) :
    t'.window = some 0 := by
  obtain ⟨hdrop, -, hwindow⟩ := Target.taken_of_put h
  have hpassing : t.passing bytes < bytes.length := by
    refine Nat.lt_of_not_le fun hle => hrest ?_
    rw [hdrop, List.drop_of_length_le hle]
  cases hw : t.window with
  | none => simp [Target.passing, hw] at hpassing
  | some n =>
    have hall : t.passing bytes = n := by
      simp only [Target.passing, hw] at hpassing ⊢
      omega
    rw [hwindow, hw, hall, Option.map_some, Nat.sub_self]

theorem writer_load_lt (h : Step c .writer c') : c'.load < c.load := by
  cases h with
  | take frame hwriter hnext =>
    have hwaiting := Channel.waiting_take hnext
    refine load_lt_of_writer rfl rfl rfl (Nat.lt_of_le_of_lt (Nat.add_le_add_left (underWay_le _) _) ?_)
    simp only [addEntry]
    omega
  | pass bytes rest target hwriter hwindow hput =>
    refine load_lt_of_writer rfl rfl rfl (Nat.add_lt_add_left ?_ _)
    rw [underWay_of_sending hwriter hwindow]
    by_cases hrest : rest = []
    · simp [underWay, hrest]
    · simp [underWay, hrest, window_of_put hput hrest]
  | breakOff bytes target e hwriter hwindow hput =>
    refine load_lt_of_writer rfl rfl (callLoad_hand rfl) (Nat.add_lt_add_left ?_ _)
    rw [underWay_of_sending hwriter hwindow]
    exact Nat.one_pos
  | stop hwriter hnext =>
    have hwaiting := Channel.waiting_take hnext
    refine load_lt_of_writer rfl rfl rfl ?_
    simp only [underWay]
    omega

/-- The call leaves what has arrived and what the writer has under way. -/
theorem load_lt_of_stage {call : Call} (hcall : c.call = some call) (hinbox : c'.inbox = c.inbox)
    (hreader : c'.reader.load ≤ c.reader.load) (hunderWay : c'.underWay = c.underWay)
    (hchannel : c'.channel = c.channel) (h : c'.callLoad < call.stage.load) : c'.load < c.load := by
  simp only [load, hinbox, hunderWay, hchannel, callLoad_of_call hcall]
  omega

/-- A command for the writer means two steps. -/
theorem load_lt_of_command {call : Call} {command : Command} (hcall : c.call = some call) (hinbox : c'.inbox = c.inbox)
    (hreader : c'.reader = c.reader) (hunderWay : c'.underWay = c.underWay)
    (hchannel : c'.channel = c.channel.push command) (h : c'.callLoad + 2 < call.stage.load) : c'.load < c.load := by
  have hpush := c.channel.waiting_push_le command
  simp only [load, hinbox, hreader, hunderWay, hchannel, callLoad_of_call hcall]
  omega

theorem call_load_lt (h : Step c .call c') : c'.load < c.load := by
  have hreader := Nat.le_refl c.reader.load
  cases h with
  | ask goal id slot hcall haccepts hroom => exact load_lt_of_command hcall rfl rfl rfl rfl (by simp [callLoad, Stage.load])
  | askNobody goal id slot hcall haccepts =>
    refine load_lt_of_stage hcall rfl hreader rfl rfl (Nat.lt_of_le_of_lt (callLoad_afterRequest_le _ _ _ _) ?_)
    simp [Stage.load]
  | settle goal id deadline body hcall =>
    refine load_lt_of_stage hcall rfl hreader rfl rfl (Nat.lt_of_le_of_lt (callLoad_afterRequest_le _ _ _ _) ?_)
    simp [Stage.load]
  | hangUp goal id deadline hcall =>
    refine load_lt_of_stage hcall rfl hreader rfl rfl (Nat.lt_of_le_of_lt (callLoad_afterRequest_le _ _ _ _) ?_)
    simp [Stage.load]
  | expire goal id t limit hcall hlimit ht =>
    exact load_lt_of_stage hcall rfl hreader rfl rfl (by simp [callLoad, Stage.load])
  | abandon goal id limit slot hcall =>
    refine load_lt_of_stage hcall rfl hreader rfl rfl (Nat.lt_of_le_of_lt (callLoad_afterRequest_le _ _ _ _) ?_)
    simp [Stage.load]
  | say goal settled slot hcall haccepts hroom =>
    refine load_lt_of_command hcall rfl rfl rfl rfl
      (Nat.lt_of_le_of_lt (Nat.add_le_add_right (callLoad_afterNotification_le _ _ _ _) 2) ?_)
    simp [Stage.load]
  | sayToNobody goal settled slot hcall haccepts =>
    refine load_lt_of_stage hcall rfl hreader rfl rfl (Nat.lt_of_le_of_lt (callLoad_afterNotification_le _ _ _ _) ?_)
    simp [Stage.load]
  | close goal settled slot hcall haccepts hroom =>
    exact load_lt_of_command hcall rfl rfl rfl rfl (by simp [callLoad, Stage.load])
  | closeNothing goal settled slot hcall haccepts =>
    exact load_lt_of_stage hcall rfl hreader rfl rfl (by simp [callLoad, Stage.load])
  | join goal settled slot hcall haccepts =>
    exact load_lt_of_stage hcall rfl (Nat.zero_le _) rfl rfl (by simp [callLoad, Stage.load])

end Steps

/-! ## Runs -/

theorem readerStep_load_lt (c c' : Connection) (h : c.readerStep = some c') : c'.load < c.load :=
  reader_load_lt (step_iff.2 h)

theorem callStep_load_lt (c c' : Connection) (h : c.callStep = some c') : c'.load < c.load :=
  call_load_lt (step_iff.2 h)

theorem writerStep_load_lt (c c' : Connection) (h : c.writerStep = some c') : c'.load < c.load :=
  writer_load_lt (step_iff.2 h)

/-- Turns of three actors of whom one can go on, in any order. -/
theorem exhaust_three_load_lt {first second third : Connection → Option Connection}
    (hfirst : ∀ c c', first c = some c' → c'.load < c.load) (hsecond : ∀ c c', second c = some c' → c'.load < c.load)
    (hthird : ∀ c c', third c = some c' → c'.load < c.load) (fuel : Nat) {c : Connection}
    (h : (first c).isSome = true ∨ (second c).isSome = true ∨ (third c).isSome = true) :
    (exhaust third (fuel + 1) (exhaust second (fuel + 1) (exhaust first (fuel + 1) c))).load < c.load := by
  have hlast := exhaust_load_le hthird (fuel + 1)
  have hnext := exhaust_load_le hsecond (fuel + 1)
  cases hone : first c with
  | some _ =>
    have hless := exhaust_load_lt hfirst (Option.isSome_of_eq_some hone) fuel
    exact Nat.lt_of_le_of_lt (hlast _) (Nat.lt_of_le_of_lt (hnext _) hless)
  | none =>
    rw [exhaust_of_none hone]
    cases htwo : second c with
    | some _ => exact Nat.lt_of_le_of_lt (hlast _) (exhaust_load_lt hsecond (Option.isSome_of_eq_some htwo) fuel)
    | none =>
      rw [exhaust_of_none htwo]
      exact exhaust_load_lt hthird (by simpa [hone, htwo] using h) fuel

theorem round?_load_lt (fuel : Nat) (c c' : Connection) (h : round? (fuel + 1) c = some c') : c'.load < c.load := by
  unfold round? at h
  split at h
  · rename_i hcan
    cases h
    refine exhaust_three_load_lt readerStep_load_lt callStep_load_lt writerStep_load_lt fuel ?_
    simpa [canStep, or_assoc] using hcan
  · cases h

theorem callRound?_load_lt (fuel : Nat) (c c' : Connection) (h : callRound? (fuel + 1) c = some c') :
    c'.load < c.load := by
  unfold callRound? at h
  split at h
  · rename_i hcan
    cases h
    refine exhaust_three_load_lt readerStep_load_lt writerStep_load_lt callStep_load_lt fuel ?_
    obtain ⟨-, hcan⟩ := Bool.and_eq_true_iff.1 hcan
    simpa [canStep, or_assoc, or_comm, or_left_comm] using hcan
  · cases h

/-- A run ends when no actor can go on. -/
theorem run_rests (c : Connection) : c.run.canStep = false := by
  have hrests : round? c.stepBound c.run = none :=
    exhaust_rests load (round?_load_lt _) c.load_le_stepBound
  simpa [round?] using hrests

/-- A run for a call ends with the call, or when no actor can go on. -/
theorem runCall_rests (c : Connection) : c.runCall.call = none ∨ c.runCall.canStep = false := by
  have hrests : callRound? c.stepBound c.runCall = none :=
    exhaust_rests load (callRound?_load_lt _) c.load_le_stepBound
  cases hcall : c.runCall.call with
  | none => exact .inl rfl
  | some call => exact .inr (by simpa [callRound?, hcall] using hrests)

end Connection

theorem Server.wake?_time {limit : Nat} {s s' : Server} (h : s.wake? limit = some s') :
    s.time < s'.time ∧ s'.time ≤ limit := by
  unfold wake? at h
  split at h
  · rename_i ms _
    dsimp only at h
    split at h
    · rename_i hle
      cases h
      exact ⟨Nat.lt_add_of_pos_right (Nat.lt_of_lt_of_le Nat.one_pos (Nat.le_max_left 1 ms)), hle⟩
    · cases h
  · cases h

/-- A process is waited for until it has ended, or would sleep on for too long. -/
theorem Server.awaitExit_rests (s : Server) (patience : Nat) :
    (s.awaitExit patience).1.wake? (s.time + patience) = none := by
  have hstep : ∀ a a' : Server, a.wake? (s.time + patience) = some a' →
      s.time + patience - a'.time < s.time + patience - a.time := by
    intro a a' hwake
    obtain ⟨hlt, hle⟩ := wake?_time hwake
    omega
  refine exhaust_rests (fun a : Server => s.time + patience - a.time) hstep ?_
  omega

end LspClient
