import Rewind.CommandLine.Run
import Rewind.Proofs.Fits
import Rewind.Proofs.Refusal
import Rewind.Proofs.Stream

/-!
# Opened traces

What the requests do once a trace has opened.  It opens if it loads and, where the log is checked,
is accepted (`Timeline.ofFile_eq_ok_iff`); `Opens` says so, under the options that a configuration
gives.  A move without listeners is the sweep of the timeline (`movedTo_eq`), and the listener of a
request is told what is announced (`told_eq`), so neither ends with a fault.
-/

namespace Rewind

namespace Timeline

variable {ι : Type} {files : Files} {path : Path} {trace : Trace} {options : Options}

theorem build_eq_ok_iff {t : Timeline ι} :
    (build trace options).result = .ok t ↔
      (options.checkLog = true → trace.Accepted options) ∧ t = ofTrace trace options := by
  rw [build_result]
  unfold Trace.Accepted
  cases options.checkLog with
  | false => simp [eq_comm]
  | true =>
    cases trace.log.check trace.commands trace.initialValues
      (startAddress trace.labels options.startLabel) options.missingCellPolicy with
    | error e => simp [Except.map]
    | ok u => simp [Except.map, eq_comm]

theorem ofFile_of_load (h : (Trace.load files path).result = .ok trace) (options : Options) :
    (ofFile files path options : Journaled OpenFailure (Timeline ι)).result
      = (build trace options).result.mapError .fault := by
  simp only [ofFile, bind, Journaled.andThen, Journaled.mapError, h, Except.mapError]

theorem ofFile_of_failure {e : FileFailure} (h : (Trace.load files path).result = .error e)
    (options : Options) :
    (ofFile files path options : Journaled OpenFailure (Timeline ι)).result
      = .error (.file e) := by
  simp only [ofFile, bind, Journaled.andThen, Journaled.mapError, h, Except.mapError]

/-- **A trace opens** just when its timeline can be built. -/
theorem ofFile_eq_ok_iff {t : Timeline ι} :
    (ofFile files path options).result = .ok t ↔
      ∃ trace, (Trace.load files path).result = .ok trace ∧
        (options.checkLog = true → trace.Accepted options) ∧ t = ofTrace trace options := by
  cases hload : (Trace.load files path).result with
  | error e => simp [ofFile_of_failure hload]
  | ok trace =>
    have hbuild : (ofFile files path options).result = .ok t
        ↔ (build trace options).result = .ok t := by
      rw [ofFile_of_load hload]
      cases (build trace options).result <;> simp [Except.mapError]
    rw [hbuild, build_eq_ok_iff]
    simp

end Timeline

namespace CommandLine

variable {files : Files} {path : Path} {config : Option Path} {trace : Trace} {options : Options}

/-- The trace in a file opens under the options that a configuration gives. -/
structure Opens (files : Files) (path : Path) (config : Option Path) (trace : Trace)
    (options : Options) : Prop where
  configured : loadOptions files config = .ok options
  loaded : (Trace.load files path).result = .ok trace
  checked : options.checkLog = true → trace.Accepted options

/-- A request about a trace that opens goes on with its timeline. -/
theorem Opens.withTimeline_eq (h : Opens files path config trace options) (heading : String)
    (next : Timeline Unit → Ending) :
    withTimeline files heading path config id next = next (.ofTrace trace options) := by
  have ht : (Timeline.ofFile files path options).result
      = .ok (.ofTrace trace options : Timeline Unit) :=
    Timeline.ofFile_eq_ok_iff.mpr ⟨trace, h.loaded, h.checked, rfl⟩
  unfold withTimeline
  rw [h.configured]
  simp only [id_eq, ht]

/-! ## Moves -/

variable {t : Timeline Unit}

theorem movedTo_eq (hidle : t.moving = false) (hcursor : t.cursor ≤ t.count)
    (hregistry : t.registry = []) (position : Int) :
    movedTo t position = .ok (t.sweepTo (t.clamp position)) := by
  obtain ⟨hanswer, htimeline⟩ := Session.moveTo_silent recorder (s := session t) hidle hcursor
    hregistry position
  show (Session.moveTo recorder (session t) position).1.map _ = _
  rw [hanswer, Except.map]
  exact congrArg Except.ok htimeline

theorem recorder_leavesRegistry (l : Unit) (n : Notification) : (recorder l n).LeavesRegistry :=
  .look fun _ _ => .keep _ .done

theorem recorder_leavesMemory (l : Unit) (n : Notification) : (recorder l n).LeavesMemory :=
  .look fun _ _ => .keep _ .done

theorem recorder_returns (l : Unit) (n : Notification) : (recorder l n).Returns :=
  .look fun _ _ => .keep _ .done

/-- What the recorder keeps is what it is told, the last first. -/
theorem kept_recorder {s : Session Unit (List Notification)} (hs : s.Ready) (position : Int) :
    (Session.moveTo recorder s position).2.kept.reverse
      = s.kept.reverse ++ (s.heard recorder position).map Sight.message := by
  have hregistry : ∀ l ∈ s.timeline.registry, ∀ m, (recorder l m).LeavesRegistry :=
    fun l _ m => recorder_leavesRegistry l m
  have hregistry' := Listeners.observed_leavesRegistry hregistry
  -- what every deed keeps: the notes agree with what has been seen
  let P (r : Session Unit (Watched Unit (List Notification))) : Prop :=
    r.kept.1.reverse = s.kept.reverse ++ (Observation.sights r.kept.2).map Sight.message
  have hperform : ∀ d r, P r →
      P (Session.perform (Listeners.observed recorder)
        (Session.navigate (Listeners.observed recorder) Session.refuse) d r).2 := by
    intro d r hr
    match d with
    | .cross (.forth i) => exact hr
    | .cross (.back i) => exact hr
    | .tell i m =>
      unfold Session.perform
      dsimp only
      -- a place with nobody at it tells nothing and notes nothing
      cases hl : r.timeline.registry[i]? with
      | none => exact hr
      | some l =>
        show (m :: r.kept.1).reverse
          = s.kept.reverse ++ (Observation.sights (r.kept.2 ++ [.told ⟨l, m, r.timeline⟩])).map _
        rw [List.reverse_cons, hr, Observation.sights_append, List.map_append, List.append_assoc]
        rfl
  have hend : P (Session.moveTo (Listeners.observed recorder) (s.observed []) position).2 := by
    have hkeeps := Session.performAll_keeps hperform
      (Deed.agenda s.timeline.registry.length (s.timeline.events position))
      ((s.observed []).setMoving true) (List.append_nil _).symm
    cases hdone : Session.performAll (Listeners.observed recorder)
        (Session.navigate (Listeners.observed recorder) Session.refuse)
        (Deed.agenda s.timeline.registry.length (s.timeline.events position))
        ((s.observed []).setMoving true) with
    | mk result s' =>
      rw [hdone] at hkeeps
      cases result with
      | error e =>
        rw [Session.moveTo_of_error (s := s.observed []) hs.cursor_le hregistry' hs.idle position
          hdone]
        exact hkeeps
      | ok _ =>
        obtain ⟨journal, hmove⟩ := Session.moveTo_of_ok (s := s.observed []) hs.cursor_le
          hregistry' hs.idle position hdone
        rw [hmove]
        exact hkeeps
  rw [Session.moveTo_observed] at hend
  exact hend

/-- **What a request is told** of a move by some steps: the writes on the way and the position
reached. -/
theorem told_eq (hidle : t.moving = false) (hcursor : t.cursor ≤ t.count)
    (hregistry : t.registry = []) (start offset : Int) :
    told t start offset = .ok
      (Notification.ofMove (t.log.sweepWrites (t.clamp start) (t.clamp (t.clamp start + offset)))
        (t.clamp (t.clamp start + offset)),
       ((t.sweepTo (t.clamp start)).addListener ()).sweepTo (t.clamp (t.clamp start + offset))) := by
  let s := (session (t.sweepTo (t.clamp start))).addListener ()
  have hs : s.Ready := ⟨hidle, t.clamp_le_count start⟩
  -- nobody was registered before, so every message is told once
  have hone : s.timeline.registry = [()] := by
    show t.registry ++ [()] = _
    rw [hregistry]
    rfl
  have hleaves : ∀ l ∈ s.timeline.registry, ∀ m, (recorder l m).LeavesRegistry :=
    fun l _ m => recorder_leavesRegistry l m
  have hunfailing := Session.unfailing_of_returns hs hleaves (t.clamp start + offset)
    fun l _ m => recorder_returns l m
  have hanswer := hunfailing.answer hs hleaves
  have htimeline := hunfailing.timeline hs hleaves fun l _ m => recorder_leavesMemory l m
  have hkept := kept_recorder hs (t.clamp start + offset)
  have hheard := congrArg (List.map Prod.snd) (hunfailing.heard_messages hs hleaves)
  rw [hone] at hheard
  have hmessages : (s.heard recorder (t.clamp start + offset)).map Sight.message
      = Notification.ofMove
          (t.log.sweepWrites (t.clamp start) (t.clamp (t.clamp start + offset)))
          (t.clamp (t.clamp start + offset)) := by
    have honce : ∀ ms : List Notification,
        (ms.flatMap fun m => [()].map (·, m)).map Prod.snd = ms := by
      intro ms
      induction ms with
      | nil => rfl
      | cons m ms ih => exact congrArg (m :: ·) ih
    rw [List.map_map, honce] at hheard
    exact hheard
  unfold told
  -- what `told` does is a move to the start, unheard, and then one from there that is recorded
  rw [movedTo_eq hidle hcursor hregistry]
  show (Session.moveTo recorder s (t.clamp start + offset)).1.map
    (fun _ => ((Session.moveTo recorder s (t.clamp start + offset)).2.kept.reverse,
      (Session.moveTo recorder s (t.clamp start + offset)).2.timeline)) = _
  rw [hanswer, hkept, hmessages, htimeline]
  rfl

end CommandLine

end Rewind
