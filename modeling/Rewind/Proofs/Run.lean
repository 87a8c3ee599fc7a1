import Rewind.Proofs.Move

/-!
# Runs

A session is used by calls from outside: moves, and listeners that come and go (`Call`).  `run`
makes one call after another, whether they return or fail, and `top` is the highest position that
the cursor has reached on the way.  Every call is a sweep of the timeline to some position
(`call_outline`, `call_sweeps`), so a property that sweeps keep is kept by runs (`run_keeps_top`,
`run_keeps`) if listeners do not write; one that every write keeps is kept also if they do
(`run_keeps_memory`).  `Reachable` are the sessions that runs from a new timeline lead to.
-/

namespace Rewind

namespace Trace

/-- The memory that the log of a trace starts from. -/
def startMemory (trace : Trace) (options : Options) : Memory :=
  Log.startMemory trace.commands trace.initialValues
    (startAddress trace.labels options.startLabel) options.missingCellPolicy

/-- The check accepts the log of a trace. -/
def Accepted (trace : Trace) (options : Options) : Prop :=
  trace.log.check trace.commands trace.initialValues
    (startAddress trace.labels options.startLabel) options.missingCellPolicy = .ok ()

end Trace

/-- A call on a session from outside of any move. -/
inductive Call (ι : Type) where
  | moveTo (position : Int)
  | moveBy (offset : Int)
  | addListener (listener : ι)
  | removeListener (listener : ι)

namespace Timeline

variable {ι : Type}

/-- Building answers with the timeline of the trace unless the log is checked and refused. -/
theorem build_result (trace : Trace) (options : Options) :
    (build trace options : Journaled Fault (Timeline ι)).result =
      if options.checkLog then
        (trace.log.check trace.commands trace.initialValues
          (startAddress trace.labels options.startLabel) options.missingCellPolicy).map
          fun _ => ofTrace trace options
      else .ok (ofTrace trace options) := by
  unfold build checkLog
  cases options.checkLog with
  | false => rfl
  | true =>
    cases h : trace.log.check trace.commands trace.initialValues
      (startAddress trace.labels options.startLabel) options.missingCellPolicy <;>
      simp [bind, pure, Journaled.andThen, Journaled.of, Journaled.note, Except.map, h]

end Timeline

namespace Session

variable {ι σ : Type}

/-- A session starts with the timeline of the trace. -/
theorem timeline_of_start {trace : Trace} {options : Options} {kept : σ} {s : Session ι σ}
    (h : start (Timeline.build trace options) kept = .ok s) :
    s.timeline = Timeline.ofTrace trace options := by
  unfold start at h
  rw [Timeline.build_result] at h
  split at h
  · cases hcheck : trace.log.check trace.commands trace.initialValues
      (startAddress trace.labels options.startLabel) options.missingCellPolicy with
    | error e => rw [hcheck] at h; cases h
    | ok _ => rw [hcheck] at h; cases h; rfl
  · cases h
    rfl

/-- A session starts if the log is accepted or not checked at all. -/
theorem exists_start {trace : Trace} {options : Options}
    (h : trace.Accepted options ∨ options.checkLog = false) (kept : σ) :
    ∃ s : Session ι σ, start (Timeline.build trace options) kept = .ok s := by
  unfold start
  rw [Timeline.build_result]
  rcases h with haccepted | hoff
  · rw [Trace.Accepted] at haccepted
    rw [haccepted]
    split <;> exact ⟨_, rfl⟩
  · rw [hoff]
    exact ⟨_, rfl⟩

/-- No move is in progress and the cursor is in the log. -/
structure Ready (s : Session ι σ) : Prop where
  idle : s.timeline.moving = false
  cursor_le : s.timeline.cursor ≤ s.timeline.count

theorem ready_of_start {trace : Trace} {options : Options} {kept : σ} {s : Session ι σ}
    (h : start (Timeline.build trace options) kept = .ok s) : s.Ready := by
  have ht := timeline_of_start h
  exact ⟨by rw [ht]; rfl, by rw [ht]; exact Nat.zero_le _⟩

variable [DecidableEq ι] (listeners : Listeners ι σ)

/-- Makes a call; a move answers with the position reached. -/
def call (s : Session ι σ) : Call ι → Outcome ι σ (Option Nat)
  | .moveTo position => let o := moveTo listeners s position; (o.1.map some, o.2)
  | .moveBy offset => let o := moveBy listeners s offset; (o.1.map some, o.2)
  | .addListener listener => (.ok none, s.addListener listener)
  | .removeListener listener =>
    let o := s.removeListener listener
    (o.1.map fun _ => none, o.2)

/-- Makes one call after another, whether they return or fail. -/
def run (s : Session ι σ) (calls : List (Call ι)) : Session ι σ :=
  calls.foldl (fun s c => (s.call listeners c).2) s

/-- What the calls of a run answer. -/
def answers (s : Session ι σ) : List (Call ι) → List (Except Fault (Option Nat))
  | [] => []
  | c :: calls => (s.call listeners c).1 :: answers (s.call listeners c).2 calls

/-- The highest position of the cursor before, between and after calls.  A move goes one way, so the
cursor is never higher inside of a call. -/
def top (s : Session ι σ) : List (Call ι) → Nat
  | [] => s.timeline.cursor
  | c :: calls => max s.timeline.cursor (top (s.call listeners c).2 calls)

@[simp] theorem run_nil (s : Session ι σ) : s.run listeners [] = s := rfl

@[simp] theorem run_cons (s : Session ι σ) (c : Call ι) (calls : List (Call ι)) :
    s.run listeners (c :: calls) = (s.call listeners c).2.run listeners calls := rfl

@[simp] theorem top_nil (s : Session ι σ) : s.top listeners [] = s.timeline.cursor := rfl

@[simp] theorem top_cons (s : Session ι σ) (c : Call ι) (calls : List (Call ι)) :
    s.top listeners (c :: calls) =
      max s.timeline.cursor ((s.call listeners c).2.top listeners calls) := rfl

theorem cursor_le_top (s : Session ι σ) (calls : List (Call ι)) :
    s.timeline.cursor ≤ s.top listeners calls := by
  cases calls with
  | nil => exact le_rfl
  | cons c calls => exact Nat.le_max_left ..

/-- Every call takes the outline somewhere on the log. -/
theorem call_outline {s : Session ι σ} (hs : s.Ready) (c : Call ι) :
    ∃ q ≤ s.timeline.count,
      (s.call listeners c).2.timeline.outline = (s.timeline.sweepTo q).outline := by
  have hmove : ∀ position, ∃ q ≤ s.timeline.count,
      (moveTo listeners s position).2.timeline.outline = (s.timeline.sweepTo q).outline := by
    intro position
    obtain ⟨q, -, hq, houtline, -⟩ := moveTo_outline listeners hs.idle hs.cursor_le position
    have := s.timeline.clamp_le_count position
    have := hs.cursor_le
    exact ⟨q, by omega, houtline⟩
  cases c with
  | moveTo position => exact hmove position
  | moveBy offset => exact hmove _
  | addListener listener =>
    -- a registration crosses nothing, so the position is the one before
    exact ⟨_, hs.cursor_le, by rw [Timeline.sweepTo_cursor]; rfl⟩
  | removeListener listener =>
    refine ⟨_, hs.cursor_le, ?_⟩
    rw [Timeline.sweepTo_cursor]
    exact (removeListener_frame s listener).1

variable {listeners}

/-- Every call takes outline and memory somewhere on the log if no listener writes. -/
theorem call_sweeps (hlisteners : ∀ l n, (listeners l n).LeavesMemory) {s : Session ι σ}
    (hs : s.Ready) (c : Call ι) :
    ∃ q ≤ s.timeline.count,
      (s.call listeners c).2.timeline.outline = (s.timeline.sweepTo q).outline ∧
        (s.call listeners c).2.timeline.memory = (s.timeline.sweepTo q).memory := by
  have hmove : ∀ position, ∃ q ≤ s.timeline.count,
      (moveTo listeners s position).2.timeline.outline = (s.timeline.sweepTo q).outline ∧
        (moveTo listeners s position).2.timeline.memory = (s.timeline.sweepTo q).memory := by
    intro position
    obtain ⟨q, -, hq, houtline, hmemory, -⟩ :=
      moveTo_sweeps hlisteners hs.idle hs.cursor_le position
    have := s.timeline.clamp_le_count position
    have := hs.cursor_le
    exact ⟨q, by omega, houtline, hmemory⟩
  cases c with
  | moveTo position => exact hmove position
  | moveBy offset => exact hmove _
  | addListener listener =>
    exact ⟨_, hs.cursor_le, by rw [Timeline.sweepTo_cursor]; exact ⟨rfl, rfl⟩⟩
  | removeListener listener =>
    refine ⟨_, hs.cursor_le, ?_⟩
    rw [Timeline.sweepTo_cursor]
    exact removeListener_frame s listener

theorem ready_call {s : Session ι σ} (hs : s.Ready) (c : Call ι) :
    (s.call listeners c).2.Ready := by
  obtain ⟨q, hq, houtline⟩ := call_outline listeners hs c
  have hmoving := congrArg Timeline.moving houtline
  have hcursor := congrArg Timeline.cursor houtline
  have hlog := congrArg Timeline.log houtline
  refine ⟨hmoving.trans hs.idle, ?_⟩
  show (s.call listeners c).2.timeline.outline.cursor ≤
    (s.call listeners c).2.timeline.outline.log.length
  rw [hcursor, hlog]
  exact hq

theorem ready_run {s : Session ι σ} (hs : s.Ready) (calls : List (Call ι)) :
    (s.run listeners calls).Ready := by
  induction calls generalizing s with
  | nil => exact hs
  | cons c calls ih => exact ih (ready_call hs c)

/-- A call changes nothing but the cursor, the memory and the registry. -/
theorem outline_call {s : Session ι σ} (hs : s.Ready) (c : Call ι) :
    (s.call listeners c).2.timeline.outline =
      { s.timeline.outline with cursor := (s.call listeners c).2.timeline.cursor } := by
  obtain ⟨q, -, houtline⟩ := call_outline listeners hs c
  have hcursor : (s.call listeners c).2.timeline.cursor = q := congrArg Timeline.cursor houtline
  rw [houtline, hcursor]
  rfl

theorem outline_run {s : Session ι σ} (hs : s.Ready) (calls : List (Call ι)) :
    (s.run listeners calls).timeline.outline =
      { s.timeline.outline with cursor := (s.run listeners calls).timeline.cursor } := by
  induction calls generalizing s with
  | nil => rfl
  | cons c calls ih =>
    rw [run_cons, ih (ready_call hs c), outline_call hs c]

theorem log_call {s : Session ι σ} (hs : s.Ready) (c : Call ι) :
    (s.call listeners c).2.timeline.log = s.timeline.log :=
  have hlog := congrArg Timeline.log (outline_call hs c)
  hlog

theorem log_run {s : Session ι σ} (hs : s.Ready) (calls : List (Call ι)) :
    (s.run listeners calls).timeline.log = s.timeline.log :=
  have hlog := congrArg Timeline.log (outline_run hs calls)
  hlog

theorem commands_run {s : Session ι σ} (hs : s.Ready) (calls : List (Call ι)) :
    (s.run listeners calls).timeline.commands = s.timeline.commands :=
  have hcommands := congrArg Timeline.commands (outline_run hs calls)
  hcommands

/-- The memory after a call is that of the way to where the cursor is, if no listener writes. -/
theorem memory_call (hlisteners : ∀ l n, (listeners l n).LeavesMemory) {s : Session ι σ}
    (hs : s.Ready) (c : Call ι) :
    (s.call listeners c).2.timeline.memory =
      (s.timeline.sweepTo (s.call listeners c).2.timeline.cursor).memory := by
  obtain ⟨q, -, houtline, hmemory⟩ := call_sweeps hlisteners hs c
  have hcursor : (s.call listeners c).2.timeline.cursor = q := congrArg Timeline.cursor houtline
  rw [hcursor]
  exact hmemory

theorem cells_call (hlisteners : ∀ l n, (listeners l n).LeavesMemory) {s : Session ι σ}
    (hs : s.Ready) (c : Call ι) :
    (s.call listeners c).2.timeline.memory.cells =
      s.timeline.memory.cells.sweep s.timeline.log s.timeline.cursor
        (s.call listeners c).2.timeline.cursor :=
  congrArg Memory.cells (memory_call hlisteners hs c)

/-- What sweeps over the log keep true of the highest position, the cursor and the memory is true
after every run, if no listener writes. -/
theorem run_keeps_top (hlisteners : ∀ l n, (listeners l n).LeavesMemory) (log : Log)
    {P : Nat → Nat → Memory → Prop}
    (hsweep : ∀ top c d (m : Memory), c ≤ top → top ≤ log.length → d ≤ log.length → P top c m →
      P (max top d) d { m with cells := m.cells.sweep log c d })
    {s : Session ι σ} (hs : s.Ready) (hlog : s.timeline.log = log) {top : Nat}
    (hcursor : s.timeline.cursor ≤ top) (htop : top ≤ log.length)
    (h : P top s.timeline.cursor s.timeline.memory) (calls : List (Call ι)) :
    max top (s.top listeners calls) ≤ log.length ∧
      P (max top (s.top listeners calls)) (s.run listeners calls).timeline.cursor
        (s.run listeners calls).timeline.memory := by
  induction calls generalizing s top with
  | nil =>
    rw [run_nil, top_nil, Nat.max_eq_left hcursor]
    exact ⟨htop, h⟩
  | cons c calls ih =>
    have hready : (s.call listeners c).2.Ready := ready_call hs c
    have hlog' : (s.call listeners c).2.timeline.log = log := (log_call hs c).trans hlog
    have hlen : (s.call listeners c).2.timeline.cursor ≤ log.length := hlog' ▸ hready.cursor_le
    -- the highest position of the rest begins with the one that the first call has reached
    have hmax : max (max top (s.call listeners c).2.timeline.cursor)
        ((s.call listeners c).2.top listeners calls) = max top (s.top listeners (c :: calls)) := by
      have hle := cursor_le_top listeners (s.call listeners c).2 calls
      rw [top_cons]
      omega
    rw [← hmax, run_cons]
    refine ih hready hlog' (Nat.le_max_right ..) (Nat.max_le.mpr ⟨htop, hlen⟩) ?_
    rw [memory_call hlisteners hs c, Timeline.sweepTo, hlog]
    exact hsweep _ _ _ _ hcursor htop hlen h

/-- What sweeps over the log keep true of the cursor and the cells is true after every run, if no
listener writes. -/
theorem run_keeps (hlisteners : ∀ l n, (listeners l n).LeavesMemory) (log : Log)
    {P : Nat → Cells → Prop}
    (hsweep : ∀ c d cells, c ≤ log.length → d ≤ log.length → P c cells → P d (cells.sweep log c d))
    {s : Session ι σ} (hs : s.Ready) (hlog : s.timeline.log = log)
    (h : P s.timeline.cursor s.timeline.memory.cells) (calls : List (Call ι)) :
    P (s.run listeners calls).timeline.cursor (s.run listeners calls).timeline.memory.cells :=
  (run_keeps_top hlisteners log (P := fun _ c m => P c m.cells)
    (fun _ c d _ hc htop hd h => hsweep c d _ (hc.trans htop) hd h) hs hlog le_rfl
    (hlog ▸ hs.cursor_le) h calls).2

/-- Whatever every write keeps true of the memory is true after every run, also if listeners write.
-/
theorem run_keeps_memory {Q : Memory → Prop} (hset : ∀ m a v, Q m → Q (m.set a v))
    {s : Session ι σ} (h : Q s.timeline.memory) (calls : List (Call ι)) :
    Q (s.run listeners calls).timeline.memory := by
  induction calls generalizing s with
  | nil => exact h
  | cons c calls ih =>
    refine ih ?_
    cases c with
    | moveTo position => exact moveTo_keeps_memory hset listeners s position h
    | moveBy offset => exact moveTo_keeps_memory hset listeners s _ h
    | addListener l => exact h
    | removeListener l =>
      show Q (s.removeListener l).2.timeline.memory
      rw [(removeListener_frame s l).2]
      exact h

variable (listeners) in
/-- The session of a new timeline after some calls. -/
def Reachable (s : Session ι σ) : Prop :=
  ∃ (trace : Trace) (options : Options) (kept : σ) (s₀ : Session ι σ) (calls : List (Call ι)),
    start (Timeline.build trace options) kept = .ok s₀ ∧ s = s₀.run listeners calls

theorem Reachable.ready {s : Session ι σ} (h : s.Reachable listeners) : s.Ready := by
  obtain ⟨trace, options, kept, s₀, calls, hstart, rfl⟩ := h
  exact ready_run (ready_of_start hstart) calls

end Session

end Rewind
