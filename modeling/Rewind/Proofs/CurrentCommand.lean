import Rewind.Proofs.HeldCells
import Rewind.Proofs.LastWrite
import Rewind.Proofs.Opening

/-!
# The current command

The instruction-address register holds what the last update of it in front of the cursor wrote, or
the start address, whatever commands and start values say of it (`Trace.instructionAddress`).  The
current command is the first of the program at that address (`run_currentCommand`).  Memory takes
its words the other way round: the last command at an address gives it its word.  So a new timeline
has the word of the current command at its address only if the first and the last command there have
one word (`build_currentWord_iff`), which they need not have (`currentWord_of_last_command`).
-/

namespace Rewind

namespace Command

/-- The first of several commands at an address. -/
def FirstAt (commands : List Command) (a : Int) (c : Command) : Prop :=
  ∃ before after, commands = before ++ c :: after ∧ c.address = a ∧ ∀ d ∈ before, d.address ≠ a

/-- The last of several commands at an address. -/
def LastAt (commands : List Command) (a : Int) (c : Command) : Prop :=
  ∃ before after, commands = before ++ c :: after ∧ c.address = a ∧ ∀ d ∈ after, d.address ≠ a

theorem firstAt_iff {commands : List Command} {a : Int} {c : Command} :
    FirstAt commands a c ↔ commands.find? (fun d => d.address = a) = some c := by
  rw [List.find?_eq_some_iff_append]
  simp only [FirstAt, decide_eq_true_eq, Bool.not_eq_eq_eq_not, Bool.not_true,
    decide_eq_false_iff_not, ne_eq]
  exact ⟨fun ⟨before, after, h, ha, hbefore⟩ => ⟨ha, before, after, h, hbefore⟩,
    fun ⟨ha, before, after, h, hbefore⟩ => ⟨before, after, h, ha, hbefore⟩⟩

/-- The last command is the first of the list that is read from its end. -/
theorem lastAt_iff {commands : List Command} {a : Int} {c : Command} :
    LastAt commands a c ↔ commands.reverse.find? (fun d => d.address = a) = some c := by
  rw [← firstAt_iff]
  constructor
  · rintro ⟨before, after, rfl, ha, hafter⟩
    exact ⟨after.reverse, before.reverse, by simp, ha, by simpa using hafter⟩
  · rintro ⟨before, after, h, ha, hbefore⟩
    refine ⟨after.reverse, before.reverse, ?_, ha, by simpa using hbefore⟩
    rw [← List.reverse_reverse commands, h]
    simp

end Command

/-- The address in the instruction-address register in front of step `p`: what the last update of
the register wrote, or the start address. -/
def Trace.instructionAddress (trace : Trace) (options : Options) (p : Nat) : Int :=
  (Log.lastWritten? (trace.log.take p) iar).getD
    (startAddress trace.labels options.startLabel)

namespace Timeline

variable {ι : Type} {t : Timeline ι} {a : Int}

theorem commandAt?_eq_some_iff {c : Command} :
    t.commandAt? a = some c ↔ Command.FirstAt t.commands a c := by
  rw [commandAt?_eq_find?, Command.firstAt_iff]

theorem commandAt?_eq_none_iff : t.commandAt? a = none ↔ ∀ c ∈ t.commands, c.address ≠ a := by
  simp [commandAt?_eq_find?]

theorem currentCommand_of_get (h : t.get iar = .ok a) :
    t.currentCommand = .ok (t.commandAt? a) := by
  rw [currentCommand, h]
  rfl

end Timeline

/-! ## All runs -/

namespace Session

variable {ι σ : Type} [DecidableEq ι] {listeners : Listeners ι σ}

omit [DecidableEq ι] in
/-- What the instruction-address register holds with the cursor at `p`, wherever it has been. -/
theorem Holds.get_iar {trace : Trace} {options : Options} {top : Nat} {t : Timeline ι}
    (h : Holds (trace.startMemory options) trace.log top t) :
    t.get iar = .ok (trace.instructionAddress options t.cursor) := by
  have hstart : (trace.startMemory options).cells.get? iar
      = some (startAddress trace.labels options.startLabel) := by
    rw [Trace.startMemory, Log.get?_startMemory, Log.startValue?, if_pos rfl]
  have hdefined : (trace.startMemory options).cells.contains iar = true := by
    rw [SortedMap.contains, hstart, Option.isSome_some]
  obtain ⟨v, hreplay, hcell⟩ := h.cells.replayed iar (.inl hdefined)
  rw [Cells.get?_replay_last, hstart] at hreplay
  refine Memory.get_of_get? (hcell.trans ?_)
  rw [← hreplay, Trace.instructionAddress]
  cases Log.lastWritten? (trace.log.take t.cursor) iar <;> rfl

/-- **The current command after any run** over a log that the check accepts, whatever listeners
answer: the first command of the program at the address that the last update of the register in
front of the cursor wrote, or at the start address if there is none; and no command if none is
there. -/
theorem run_currentCommand {trace : Trace} {options : Options} (haccepted : trace.Accepted options)
    (hlisteners : ∀ l n, (listeners l n).LeavesMemory) (kept : σ) (calls : List (Call ι)) :
    ∃ s₀ : Session ι σ, start (Timeline.build trace options) kept = .ok s₀ ∧
      let t := (s₀.run listeners calls).timeline
      let a := trace.instructionAddress options t.cursor
      ∃ command?, t.currentCommand = .ok command? ∧
        (∀ c, command? = some c ↔ Command.FirstAt trace.commands a c) ∧
        (command? = none ↔ ∀ c ∈ trace.commands, c.address ≠ a) := by
  obtain ⟨s₀, hstart⟩ := exists_start (ι := ι) (.inl haccepted) kept
  have hget := (run_holds haccepted hlisteners hstart calls).get_iar
  have hcommands : (s₀.run listeners calls).timeline.commands = trace.commands := by
    rw [commands_run (ready_of_start hstart), timeline_of_start hstart]
    rfl
  refine ⟨s₀, hstart, _, Timeline.currentCommand_of_get hget, fun c => ?_, ?_⟩
  · rw [Timeline.commandAt?_eq_some_iff, hcommands]
  · rw [Timeline.commandAt?_eq_none_iff, hcommands]

/-- A move that a listener stops behind the second of three steps: the first step has written the
register, which a command and a start value had as well, and the second has not.  Of the two
commands at the address the first is current. -/
theorem run_currentCommand_stopped :
    let first : Command := { address := 1, mnemonic := "ADD", value := 7 }
    let trace : Trace := {
      labels := .ofList [("START", 4)]
      commands := [{ address := iar, value := 9 }, first, { first with value := 8 }]
      initialValues := .ofList [(iar, 50)]
      log := [[⟨iar, 4, 1⟩], [⟨5, 0, 1⟩], [⟨iar, 1, 4⟩]] }
    let listeners : Listeners Unit Unit := fun _ n =>
      if n = .cellChanged 5 1 then .fail (.listenerFailed "no") else .done
    ∃ s₀ : Session Unit Unit, start (Timeline.build trace {}) () = .ok s₀ ∧
      (s₀.run listeners [.moveTo 3, .addListener (), .moveTo 0, .moveTo 9]).timeline.currentCommand
        = .ok (some first) := by
  intro first trace listeners
  have haccepted : trace.Accepted {} := by
    unfold Trace.Accepted
    decide +kernel
  have hlisteners : ∀ l n, (listeners l n).LeavesMemory := by
    intro l n
    unfold listeners
    split
    · exact .fail _
    · exact .done
  obtain ⟨s₀, hstart, command?, hcurrent, hsome, -⟩ := run_currentCommand haccepted hlisteners ()
    -- the failing listener keeps the move at position two, where the register still holds one
    [.moveTo 3, .addListener (), .moveTo 0, .moveTo 9]
  have haddress : trace.instructionAddress {} (s₀.run listeners
      [.moveTo 3, .addListener (), .moveTo 0, .moveTo 9]).timeline.cursor = 1 := by
    cases hstart
    decide +kernel
  have hfirst : command? = some first := by
    rw [hsome, haddress]
    exact ⟨[{ address := iar, value := 9 }], [{ first with value := 8 }], rfl, rfl, by decide⟩
  rw [hfirst] at hcurrent
  exact ⟨s₀, hstart, hcurrent⟩

end Session

/-! ## The word of the current command -/

namespace Timeline

variable {ι : Type}

/-- The word that a new timeline has at an address without a start value. -/
theorem get_ofTrace_of_lastAt {trace : Trace} {options : Options} {a : Int} {d : Command}
    (hlast : Command.LastAt trace.commands a d) (hvalue : trace.initialValues.contains a = false)
    (hiar : a ≠ iar) : (ofTrace trace options : Timeline ι).get a = .ok d.value := by
  have hnone : trace.initialValues.get? a = none := by
    rw [← Option.not_isSome_iff_eq_none, ← SortedMap.contains, hvalue]
    exact Bool.false_ne_true
  refine Memory.get_of_get? ?_
  rw [ofTrace, Log.get?_startMemory, Log.startValue?, if_neg hiar, hnone,
    Command.lastAt_iff.mp hlast]
  rfl

/-- **The word at the current command** of a new timeline, away from start values and from the
register: that of the last command at the address, and so that of the current command, which is the
first one there, just if both have one word. -/
theorem build_currentWord_iff (trace : Trace) {options : Options}
    (hoff : options.checkLog = false) :
    ∃ t : Timeline ι, (build trace options).result = .ok t ∧
      ∀ c, t.currentCommand = .ok (some c) → trace.initialValues.contains c.address = false →
        c.address ≠ iar →
        Command.FirstAt trace.commands (startAddress trace.labels options.startLabel) c ∧
          (∃ d, Command.LastAt trace.commands c.address d ∧ t.get c.address = .ok d.value) ∧
          (t.get c.address = .ok c.value ↔
            ∀ d, Command.LastAt trace.commands c.address d → d.value = c.value) := by
  have hbuild : (build trace options).result = .ok (ofTrace trace options : Timeline ι) :=
    build_eq_ok_iff.mpr ⟨fun h => absurd (hoff.symm.trans h) Bool.false_ne_true, rfl⟩
  refine ⟨_, hbuild, fun c hcurrent hvalue hiar => ?_⟩
  have hstart : (ofTrace trace options : Timeline ι).get iar
      = .ok (startAddress trace.labels options.startLabel) := by
    -- the register holds the start address, whatever the trace says about it
    refine Memory.get_of_get? ?_
    rw [ofTrace, Log.get?_startMemory, Log.startValue?, if_pos rfl]
  rw [currentCommand_of_get hstart, Except.ok.injEq, commandAt?_eq_some_iff] at hcurrent
  -- the current command itself shows that there is a last command at its address
  obtain ⟨d, hlast⟩ : ∃ d, Command.LastAt trace.commands c.address d := by
    obtain ⟨before, after, hcommands, -, -⟩ := hcurrent
    have hmem : c ∈ trace.commands.reverse := by
      rw [show trace.commands = before ++ c :: after from hcommands]
      simp
    cases hfind : trace.commands.reverse.find? fun d => d.address = c.address with
    | none => exact absurd (decide_eq_true rfl) (List.find?_eq_none.mp hfind c hmem)
    | some d => exact ⟨d, Command.lastAt_iff.mpr hfind⟩
  have hget : (ofTrace trace options : Timeline ι).get c.address = .ok d.value :=
    get_ofTrace_of_lastAt hlast hvalue hiar
  refine ⟨hcurrent, ⟨d, hlast, hget⟩, fun hword e he => ?_, fun hwords => ?_⟩
  · rw [get_ofTrace_of_lastAt he hvalue hiar] at hword
    exact Except.ok.inj hword
  · rw [hget, hwords d hlast]

/-- Two commands at one address, with one word. -/
theorem build_currentWord_iff_same_word :
    let first : Command := { mnemonic := "FIRST", address := 0, value := 3 }
    let trace : Trace := { commands := [first, { first with mnemonic := "SECOND" }] }
    ∃ t : Timeline Unit, (build trace {}).result = .ok t ∧
      t.currentCommand = .ok (some first) ∧ t.get 0 = .ok 3 := by
  intro first trace
  have hoff : ({} : Options).checkLog = false := rfl
  obtain ⟨t, hbuild, hcurrent⟩ := build_currentWord_iff (ι := Unit) trace hoff
  have hfirst : t.currentCommand = .ok (some first) := by
    cases hbuild
    rfl
  refine ⟨t, hbuild, hfirst, (hcurrent first hfirst rfl (by decide)).2.2.mpr fun d hd => ?_⟩
  have hlast : some { first with mnemonic := "SECOND" } = some d := Command.lastAt_iff.mp hd
  rw [← Option.some.inj hlast]

/-- Two commands at one address, with different words: the first one is current, and the word of the
other one is at its address. -/
theorem currentWord_of_last_command :
    let first : Command := { mnemonic := "FIRST", address := 0, value := 1 }
    let second : Command := { mnemonic := "SECOND", address := 0, value := 2 }
    ∃ t : Timeline Unit, (build { commands := [first, second] } {}).result = .ok t ∧
      t.currentCommand = .ok (some first) ∧ isRegister first.address = false ∧
      t.get first.address = .ok second.value ∧ t.get first.address ≠ .ok first.value :=
  ⟨_, rfl, rfl, rfl, rfl, by decide⟩

end Timeline

end Rewind
