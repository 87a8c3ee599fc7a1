import Rewind.Proofs.LastWrite
import Rewind.Proofs.TraceText

/-!
# What an inspection reports

An inspection printed as JSON reports the values from the records (`Trace.value?`) of the addresses
asked for (`Trace.Report`, `run_inspect_json`), also of a log that does not fit.
-/

namespace Rewind

/-! ## The label of an address -/

namespace Timeline

variable {ι : Type} {t : Timeline ι} {x : Int} {name : Text}

/-- The name of an address is the least of its labels. -/
theorem nameOf?_eq_some (h : t.nameOf? x = some name) :
    t.labels.get? name = some x ∧ ∀ other, t.labels.get? other = some x → name ≤ other := by
  obtain ⟨e, he, rfl⟩ := Option.map_eq_some_iff.mp h
  obtain ⟨hx, before, behind, hentries, hbefore⟩ := List.find?_eq_some_iff_append.mp he
  have hx : e.2 = x := of_decide_eq_true hx
  have hmem : e ∈ t.labels.entries := by simp [hentries]
  refine ⟨hx ▸ SortedMap.mem_entries_iff.mp hmem, fun other hother => ?_⟩
  have hother := SortedMap.mem_entries_iff.mpr hother
  have hascending := t.labels.ascending
  rw [hentries] at hother hascending
  rcases List.mem_append.mp hother with hother | hother
  -- an entry in front of the one found has another address
  · simpa using hbefore _ hother
  -- an entry behind it has a greater name, since the labels ascend
  · rcases List.mem_cons.mp hother with rfl | hother
    · exact Std.le_refl _
    · have hlt := (List.pairwise_cons.mp (List.pairwise_append.mp hascending).2.1).1 _ hother
      exact Text.le_of_compare_eq_lt hlt

theorem mem_labels_of_nameOf? (h : t.nameOf? x = some name) : name ∈ t.labels.keys := by
  rw [SortedMap.mem_keys_iff, SortedMap.contains, (nameOf?_eq_some h).1]
  rfl

theorem nameOf?_eq_none (h : t.nameOf? x = none) (name : Text) :
    t.labels.get? name ≠ some x := by
  intro hname
  have hnone := List.find?_eq_none.mp (Option.map_eq_none_iff.mp h) _
    (SortedMap.mem_entries_iff.mpr hname)
  simp at hnone

end Timeline

/-! ## Inspections -/

theorem nodup_eraseDups {α : Type} [DecidableEq α] (as : List α) : as.eraseDups.Nodup := by
  induction hn : as.length using Nat.strongRecOn generalizing as with
  | ind n ih =>
    subst hn
    cases as with
    | nil => exact List.nodup_nil
    | cons a as =>
      rw [List.eraseDups_cons]
      refine List.nodup_cons.mpr ⟨fun ha => ?_, ?_⟩
      · simpa using List.mem_eraseDups.mp ha
      · exact ih _ (Nat.lt_succ_of_le (List.length_filter_le ..)) _ rfl

namespace Inspection

variable {t : Timeline Unit}

theorem mapM_get {f : Int → Int} {as : List Int} (h : ∀ a ∈ as, t.get a = .ok (f a)) :
    as.mapM (fun a => (t.get a).map (a, ·)) = .ok (as.map fun a => (a, f a)) := by
  induction as with
  | nil => rfl
  | cons a as ih =>
    rw [List.mapM_cons, h a (List.mem_cons_self ..), ih fun b hb => h b (List.mem_cons_of_mem _ hb)]
    rfl

theorem mapM_get_error {as : List Int} {a : Int} {e : Fault} (ha : a ∈ as)
    (h : t.get a = .error e) :
    ∃ e', as.mapM (fun a => (t.get a).map (a, ·)) = .error e' := by
  induction as with
  | nil => cases ha
  | cons b as ih =>
    rw [List.mapM_cons]
    cases hb : t.get b with
    | error e' => exact ⟨e', rfl⟩
    | ok v =>
      -- the read that fails is this one, or it stands behind one that succeeds
      rcases List.mem_cons.mp ha with rfl | ha
      · rw [h] at hb
        cases hb
      · obtain ⟨e', he'⟩ := ih ha
        refine ⟨e', ?_⟩
        rw [he']
        rfl

end Inspection

namespace Trace

variable {trace : Trace} {options : Options}

/-- The addresses that an inspection shows. -/
def shown (trace : Trace) (options : Options) (p : Nat) (addresses : List Int) : List Int :=
  if addresses.isEmpty then ((trace.startMemory options).replay (trace.log.take p)).addresses
  else addresses.eraseDups

theorem nodup_shown (p : Nat) (addresses : List Int) : (trace.shown options p addresses).Nodup := by
  unfold shown
  split
  · exact SortedMap.nodup_keys _
  · exact nodup_eraseDups _

/-- All addresses with a value, or those that are asked for. -/
theorem mem_shown {p : Nat} {addresses : List Int} {a : Int} :
    a ∈ trace.shown options p addresses ↔
      if addresses = [] then (trace.value? options p a).isSome = true else a ∈ addresses := by
  unfold shown
  by_cases h : addresses = []
  · rw [if_pos (by simpa using h), if_pos h, Memory.addresses, SortedMap.mem_keys_iff,
      SortedMap.contains, get?_replay]
  · rw [if_neg (by simpa using h), if_neg h, List.mem_eraseDups]

/-- No address that is asked for is without an answer. -/
def Answered (trace : Trace) (options : Options) (p : Nat) (addresses : List Int) : Prop :=
  options.missingCellPolicy = .raise → ∀ a ∈ addresses, (trace.value? options p a).isSome = true

theorem not_answered_iff {p : Nat} {addresses : List Int} :
    ¬ trace.Answered options p addresses ↔
      options.missingCellPolicy = .raise ∧ ∃ a ∈ addresses, trace.value? options p a = none := by
  simp only [Answered, not_forall, Option.not_isSome_iff_eq_none, exists_prop]

theorem get_shown {p : Nat} {addresses : List Int} (h : trace.Answered options p addresses)
    {a : Int} (ha : a ∈ trace.shown options p addresses) :
    (trace.timelineAt options p).get a = .ok ((trace.value? options p a).getD 0) := by
  refine get_timelineAt ?_
  cases hpolicy : options.missingCellPolicy with
  | zero => exact .inl rfl
  | raise =>
    refine .inr ?_
    rw [mem_shown] at ha
    split at ha
    · exact ha
    · exact h hpolicy a ha

/-- The inspection of a trace behind the first `p` steps. -/
def inspection (trace : Trace) (options : Options) (p : Nat) (addresses : List Int) :
    Inspection where
  position := p
  steps := trace.log.length
  address := (trace.value? options p iar).getD 0
  label := (trace.timelineAt options p).nameOf? ((trace.value? options p iar).getD 0)
  command := trace.commands.find? fun c => c.address = (trace.value? options p iar).getD 0
  cells := (trace.shown options p addresses).map fun a => (a, (trace.value? options p a).getD 0)

theorem cellsAt_timelineAt {p : Nat} {addresses : List Int} :
    Inspection.cellsAt (trace.timelineAt options p) addresses
      = (trace.shown options p addresses).mapM
          fun a => ((trace.timelineAt options p).get a).map (a, ·) := by
  rw [Inspection.cellsAt, memory_timelineAt, shown]

theorem ofTimeline_timelineAt {p : Nat} {addresses : List Int}
    (h : trace.Answered options p addresses) :
    Inspection.ofTimeline (trace.timelineAt options p) addresses
      = .ok (trace.inspection options p addresses) := by
  have hcells : Inspection.cellsAt (trace.timelineAt options p) addresses
      = .ok (trace.inspection options p addresses).cells := by
    rw [cellsAt_timelineAt, Inspection.mapM_get fun a ha => get_shown h ha]
    rfl
  have hiar : (trace.timelineAt options p).get iar = .ok ((trace.value? options p iar).getD 0) :=
    get_timelineAt (.inr (isSome_value?_iar p))
  rw [Inspection.ofTimeline, hcells]
  simp only [bind, Except.bind, hiar, Timeline.commandAt?_eq_find?]
  rfl

theorem ofTimeline_timelineAt_unanswered {p : Nat} {addresses : List Int}
    (h : ¬ trace.Answered options p addresses) :
    ∃ e, Inspection.ofTimeline (trace.timelineAt options p) addresses = .error e := by
  obtain ⟨hpolicy, a, ha, hvalue⟩ := not_answered_iff.mp h
  have hshown : a ∈ trace.shown options p addresses := by
    rw [mem_shown, if_neg (List.ne_nil_of_mem ha)]
    exact ha
  obtain ⟨e, he⟩ := Inspection.mapM_get_error hshown
    (get_timelineAt_missing hpolicy hvalue)
  refine ⟨e, ?_⟩
  rw [Inspection.ofTimeline, cellsAt_timelineAt, he]
  rfl

/-! ### What is written of them -/

theorem inspection_writable {p : Nat} (hp : p ≤ trace.log.length) {addresses : List Int}
    (hwritable : ∀ n ∈ trace.integers ++ addresses, Integer.isWritable n = true)
    (hsteps : Integer.isWritable trace.log.length = true) :
    ∀ n ∈ (trace.inspection options p addresses).integers, Integer.isWritable n = true := by
  have hrecorded : ∀ n ∈ trace.integers, Integer.isWritable n = true :=
    fun n hn => hwritable n (List.mem_append_left _ hn)
  have hvalue : ∀ a, Integer.isWritable ((trace.value? options p a).getD 0) = true :=
    isWritable_value? hrecorded p
  have haddress : ∀ a ∈ trace.shown options p addresses, Integer.isWritable a = true := by
    intro a ha
    rw [mem_shown] at ha
    split at ha
    · obtain ⟨v, hv⟩ := Option.isSome_iff_exists.mp ha
      -- an address that is shown without being asked for is a cell of the trace or a register
      rcases (value?_mem hv).1 with hmem | rfl | rfl
      · exact hrecorded a hmem
      · exact isWritable_small (by decide)
      · exact isWritable_small (by decide)
    · exact hwritable a (List.mem_append_right _ ha)
  intro n hn
  simp only [Inspection.integers, List.mem_append, List.mem_cons, List.not_mem_nil, or_false] at hn
  rcases hn with ((rfl | rfl | rfl) | hn) | hn
  · exact Integer.isWritable_of_natAbs_le (by simpa [inspection] using hp) hsteps
  · exact hsteps
  · exact hvalue iar
  · cases hc : (trace.inspection options p addresses).command with
    | none => rw [hc] at hn; cases hn
    | some c =>
      rw [hc] at hn
      exact hrecorded n (mem_integers_of_command (List.mem_of_find?_eq_some hc) hn)
  · obtain ⟨cell, hcell, hn⟩ := List.mem_flatMap.mp hn
    obtain ⟨a, ha, rfl⟩ := List.mem_map.mp hcell
    simp only [List.mem_cons, List.not_mem_nil, or_false] at hn
    rcases hn with rfl | rfl
    · exact haddress _ ha
    · exact hvalue a

end Trace

namespace Inspection

theorem mem_integers_of_cell {i : Inspection} {c : Int × Int} (hc : c ∈ i.cells) :
    c.1 ∈ i.integers ∧ c.2 ∈ i.integers := by
  constructor <;> exact List.mem_append_right _ (List.mem_flatMap.mpr ⟨c, hc, by simp⟩)

/-- Distinct addresses have distinct names. -/
theorem nodup_names {i : Inspection} (h : ∀ n ∈ i.integers, Integer.isWritable n = true)
    (hcells : (i.cells.map Prod.fst).Nodup) :
    ((i.cells.map fun c => (Text.ofString (toString c.1), Json.int c.2)).map Prod.fst).Nodup := by
  rw [List.map_map]
  refine (List.Nodup.of_map Prod.fst hcells).map_on fun b hb c hc heq => ?_
  have hname : (toString b.1 : String) = toString c.1 := Text.ofString_inj.mp heq
  have haddress := Integer.ofField_toString (h _ (mem_integers_of_cell hb).1)
  rw [hname, Integer.ofField_toString (h _ (mem_integers_of_cell hc).1)] at haddress
  exact List.inj_on_of_nodup_map hcells hb hc (Except.ok.inj haddress).symm

/-- An inspection of distinct addresses can be read back if its integers can, whatever its texts.
-/
theorem plain_toJson {i : Inspection}
    (h : ∀ n ∈ i.integers, Integer.isWritable n = true) (hcells : (i.cells.map Prod.fst).Nodup)
    (d : Nat) : Json.Plain (fun _ => True) (d + 2) i.toJson := by
  have hlabel : Json.Plain (fun _ => True) (d + 1) ((i.label.map Json.text).getD .null) :=
    .orNull fun _ _ => .text trivial
  have hcommand : Json.Plain (fun _ => True) (d + 1)
      ((i.command.map Command.toJson).getD .null) := by
    refine .orNull fun c hc => Command.plain_toJson (fun n hn => h n ?_) (fun _ _ => trivial) d
    simp [integers, Option.mem_def.mp hc, hn]
  -- cells have different addresses, so they are written under different names
  have hfields : Json.Plain (fun _ => True) (d + 1)
      (.object (i.cells.map fun c => ((toString c.1 : String), .int c.2))) := by
    refine .object (nodup_names h hcells) ?_ ?_
    · intro f hf
      obtain ⟨c, hc, rfl⟩ := List.mem_map.mp hf
      exact Text.isWhole_ofString _
    · intro f hf
      obtain ⟨c, hc, rfl⟩ := List.mem_map.mp hf
      exact .int (h _ (mem_integers_of_cell hc).2)
  refine .object (by simp) (by simp) ?_
  simp only [List.forall_mem_cons, List.not_mem_nil, false_implies, implies_true, and_true]
  exact ⟨.int (h _ (by simp [integers])), .int (h _ (by simp [integers])),
    .int (h _ (by simp [integers])), hlabel, hcommand, hfields⟩

/-- Joining pairs changes only the label and the command. -/
theorem joined_toJson (i : Inspection) :
    i.toJson.joined = .object [("position", .int i.position), ("steps", .int i.steps),
      ("iar", .int i.address), ("iar_label", ((i.label.map Json.text).getD .null).joined),
      ("command", ((i.command.map Command.toJson).getD .null).joined),
      ("cells", .object (i.cells.map fun c => ((toString c.1 : String), .int c.2)))] := by
  -- the names of the cells are numerals, and a numeral has no half
  have hcells : (Json.object (i.cells.map fun c => ((toString c.1 : String), .int c.2))).joined
      = .object (i.cells.map fun c => ((toString c.1 : String), .int c.2)) := by
    rw [Json.joined_object, List.map_map]
    · rfl
    · intro f hf
      obtain ⟨c, hc, rfl⟩ := List.mem_map.mp hf
      exact Text.isWhole_ofString _
  rw [toJson, Json.joined_object (by simp)]
  simp only [List.map_cons, List.map_nil, hcells]
  rfl

end Inspection

/-- A command whose texts have no pairs to join stays as it is. -/
theorem Command.joined_toJson {c : Command} (h : ∀ t ∈ c.texts, t.joined = t) :
    c.toJson.joined = c.toJson := by
  have hlabel : ((c.label.map Json.text).getD .null).joined = (c.label.map Json.text).getD .null :=
    Json.joined_orNull fun t ht =>
      congrArg Json.text (h t (by simp [texts, Option.mem_def.mp ht]))
  have hinteger : ∀ n : Option Int, ((n.map Json.int).getD .null).joined
      = (n.map Json.int).getD .null := fun _ => Json.joined_orNull fun _ _ => rfl
  have hmnemonic : (Json.text c.mnemonic).joined = .text c.mnemonic :=
    congrArg Json.text (h _ (List.mem_cons_self ..))
  rw [toJson, Json.joined_object (by simp)]
  simp only [List.map_cons, List.map_nil, hlabel, hinteger, hmnemonic]
  rfl

namespace Trace

variable {trace : Trace} {options : Options}

/-- The position nearest to a number. -/
def nearest (trace : Trace) (x : Int) : Nat := (max 0 (min (trace.log.length : Int) x)).toNat

theorem clamp_eq_nearest (trace : Trace) (options : Options) (x : Int) :
    (Timeline.ofTrace trace options : Timeline Unit).clamp x = trace.nearest x := by
  unfold Timeline.clamp nearest Timeline.count
  show min trace.log.length x.toNat = _
  omega

theorem nearest_le (trace : Trace) (x : Int) : trace.nearest x ≤ trace.log.length := by
  unfold nearest
  omega

/-- What a report says of a trace behind its first `p` steps, for some addresses. -/
structure Report (trace : Trace) (options : Options) (p : Nat) (addresses : List Int)
    (register : Int) (label command : Json) (cells : List (Text × Json)) : Prop where
  /-- The instruction-address register. -/
  register_eq : trace.value? options p iar = some register
  /-- Its least label, if it has one. -/
  label_eq : (label = .null ∧ ∀ name, trace.labels.get? name ≠ some register) ∨
    ∃ name, label = .text name ∧ trace.labels.get? name = some register ∧
      ∀ other, trace.labels.get? other = some register → name ≤ other
  /-- All fields of the first command there, if there is one. -/
  command_eq :
    command = ((trace.commands.find? fun c => c.address = register).map Command.toJson).getD .null
  /-- No address is reported twice. -/
  names_nodup : (cells.map Prod.fst).Nodup
  /-- The addresses asked for, or all that have a value; one without a value counts as zero. -/
  mem_cells : ∀ name v, (name, v) ∈ cells ↔
    ∃ a, (if addresses = [] then (trace.value? options p a).isSome = true else a ∈ addresses) ∧
      name = Text.ofString (toString a) ∧ v = .int ((trace.value? options p a).getD 0)

theorem map_fst_cells_inspection (p : Nat) (addresses : List Int) :
    (trace.inspection options p addresses).cells.map Prod.fst
      = trace.shown options p addresses := by
  simp [inspection, List.map_map, Function.comp_def]

/-- An inspection is such a report. -/
theorem report_inspection {p : Nat} {addresses : List Int}
    (hwritable : ∀ n ∈ (trace.inspection options p addresses).integers,
      Integer.isWritable n = true) :
    trace.Report options p addresses (trace.inspection options p addresses).address
      (((trace.inspection options p addresses).label.map Json.text).getD .null)
      (((trace.inspection options p addresses).command.map Command.toJson).getD .null)
      ((trace.inspection options p addresses).cells.map fun c =>
        ((toString c.1 : String), .int c.2)) := by
  refine ⟨?_, ?_, rfl, ?_, fun name v => ?_⟩
  · have hsome : (trace.value? options p iar).isSome = true := isSome_value?_iar p
    obtain ⟨v, hv⟩ := Option.isSome_iff_exists.mp hsome
    rw [inspection, hv]
    rfl
  · cases hlabel : (trace.inspection options p addresses).label with
    -- the labels are ordered by name, so the first one found is the least
    | none => exact .inl ⟨rfl, fun name => Timeline.nameOf?_eq_none hlabel name⟩
    | some name => exact .inr ⟨name, rfl, Timeline.nameOf?_eq_some hlabel⟩
  · exact Inspection.nodup_names hwritable
      (map_fst_cells_inspection p addresses ▸ nodup_shown p addresses)
  · simp only [inspection, List.map_map, List.mem_map, Function.comp_apply, mem_shown,
      Prod.mk.injEq]
    constructor
    · rintro ⟨a, ha, rfl, rfl⟩
      exact ⟨a, ha, rfl, rfl⟩
    · rintro ⟨a, ha, rfl, rfl⟩
      exact ⟨a, ha, rfl, rfl⟩

/-- A label that is shown has no pairs to join if no text of the trace has. -/
theorem joined_label (h : ∀ t ∈ trace.texts, t.joined = t) {p : Nat} {addresses : List Int} :
    (((trace.inspection options p addresses).label.map Json.text).getD .null).joined
      = ((trace.inspection options p addresses).label.map Json.text).getD .null := by
  refine Json.joined_orNull fun name hname => congrArg Json.text (h name ?_)
  have hmem : name ∈ trace.labels.keys := Timeline.mem_labels_of_nameOf? hname
  simp [texts, hmem]

theorem joined_command (h : ∀ t ∈ trace.texts, t.joined = t) {p : Nat} {addresses : List Int} :
    (((trace.inspection options p addresses).command.map Command.toJson).getD .null).joined
      = ((trace.inspection options p addresses).command.map Command.toJson).getD .null := by
  refine Json.joined_orNull fun c hcommand => Command.joined_toJson fun t ht => h t ?_
  have hc : c ∈ trace.commands := List.mem_of_find?_eq_some hcommand
  exact List.mem_append_right _ (List.mem_flatMap.mpr ⟨c, hc, ht⟩)

end Trace

namespace CommandLine

variable {files : Files} {path : Path} {config : Option Path} {trace : Trace} {options : Options}

theorem inspected_ofTrace (trace : Trace) (options : Options) (position : Int)
    (addresses : List Int) :
    inspected (.ofTrace trace options) position addresses
      = (Inspection.ofTimeline (trace.timelineAt options (trace.nearest position)) addresses).map
          fun i => (i, trace.timelineAt options (trace.nearest position)) := by
  unfold inspected
  rw [movedTo_eq rfl (Nat.zero_le _) rfl, Trace.clamp_eq_nearest]
  show (Inspection.ofTimeline (trace.timelineAt options (trace.nearest position)) addresses).bind
    _ = _
  cases Inspection.ofTimeline (trace.timelineAt options (trace.nearest position)) addresses <;> rfl

/-- What is printed of an inspection that can be written holds it, with its pairs joined. -/
theorem ofParts_jsonPart {i : Inspection} (h : ∀ n ∈ i.integers, Integer.isWritable n = true)
    (hcells : (i.cells.map Prod.fst).Nodup) :
    Ending.ofParts 0 [jsonPart i] = ⟨0, i.toJson.indented ++ "\n", none⟩ ∧
      ∀ depth, 2 ≤ depth →
        Json.ofText depth (i.toJson.indented ++ "\n") = .ok i.toJson.joined := by
  refine ⟨?_, fun depth hdepth => ?_⟩
  case refine_2 =>
    obtain ⟨d, rfl⟩ := Nat.exists_eq_add_of_le' hdepth
    exact Json.ofText_indented (Inspection.plain_toJson h hcells d)
  rw [jsonPart, written, if_pos (List.all_eq_true.mpr h)]
  show Ending.mk 0 (i.toJson.indented ++ "\n" ++ "") none = _
  rw [String.append_empty]

theorem code_ofParts_one (parts : List (Except Escape String)) :
    (Ending.ofParts 1 parts).code = 1 := by
  induction parts with
  | nil => rfl
  | cons part parts ih =>
    cases part with
    | error e => rfl
    | ok shown => exact ih

theorem code_reportedFault (heading : String) (e : Fault) :
    (Ending.reportedFault heading e).code = 1 := by
  unfold Ending.reportedFault
  split
  · exact code_ofParts_one _
  · rfl

theorem run_inspect_eq (hopen : Opens files path config trace options) (position : Int)
    (addresses : List Int) :
    run files (.inspect path config position addresses true) =
      match Inspection.ofTimeline (trace.timelineAt options (trace.nearest position)) addresses with
      | .error e => .reportedFault "Error" e
      | .ok i => .ofParts 0 [jsonPart i] := by
  refine (hopen.withTimeline_eq "Error" _).trans ?_
  rw [inspected_ofTrace]
  cases Inspection.ofTimeline (trace.timelineAt options (trace.nearest position)) addresses <;> rfl

theorem run_inspect_unanswered (hopen : Opens files path config trace options) {position : Int}
    {addresses : List Int} (h : ¬ trace.Answered options (trace.nearest position) addresses) :
    (run files (.inspect path config position addresses true)).code = 1 := by
  obtain ⟨e, he⟩ := Trace.ofTimeline_timelineAt_unanswered h
  rw [run_inspect_eq hopen, he]
  exact code_reportedFault "Error" e

/-- The end of a request whose output is JSON text, read with room for two levels. -/
structure Ending.Prints (ending : Ending) (v : Json) : Prop where
  code : ending.code = 0
  escaped : ending.escaped = none
  output : ∀ depth, 2 ≤ depth → Json.ofText depth ending.output = .ok v

theorem run_inspect_answered (hopen : Opens files path config trace options) {position : Int}
    {addresses : List Int}
    (hwritable : ∀ n ∈ trace.integers ++ addresses, Integer.isWritable n = true)
    (hsteps : Integer.isWritable trace.log.length = true)
    (h : trace.Answered options (trace.nearest position) addresses) :
    (run files (.inspect path config position addresses true)).Prints
      (trace.inspection options (trace.nearest position) addresses).toJson.joined := by
  have hintegers : ∀ n ∈ (trace.inspection options (trace.nearest position) addresses).integers,
      Integer.isWritable n = true :=
    Trace.inspection_writable (trace.nearest_le position) hwritable hsteps
  obtain ⟨hparts, hread⟩ := ofParts_jsonPart hintegers
    (Trace.map_fst_cells_inspection _ addresses ▸ Trace.nodup_shown _ addresses)
  rw [run_inspect_eq hopen, Trace.ofTimeline_timelineAt h]
  dsimp only
  rw [hparts]
  exact ⟨rfl, rfl, hread⟩

/-- **Inspecting a trace that opens** reports what replaying its first steps leaves.  Where reads of
unknown addresses are faults, the request fails just when such an address is asked for.  JSON does
not tell two halves that make a pair from their character, so the label and the command are read with
one character in the place of such a pair: as they are, unless some text of the trace has one. -/
theorem run_inspect_json (hopen : Opens files path config trace options) (position : Int)
    (addresses : List Int)
    (hwritable : ∀ n ∈ trace.integers ++ addresses, Integer.isWritable n = true)
    (hsteps : Integer.isWritable trace.log.length = true) :
    let p := trace.nearest position
    let ending := run files (.inspect path config position addresses true)
    (options.missingCellPolicy = .raise →
      (ending.code = 1 ↔ ∃ a ∈ addresses, trace.value? options p a = none)) ∧
    (¬ (options.missingCellPolicy = .raise ∧ ∃ a ∈ addresses, trace.value? options p a = none) →
      ending.code = 0 ∧ ending.escaped = none ∧
        ∃ register label command cells,
          (∀ depth, 2 ≤ depth → Json.ofText depth ending.output = .ok (.object [
            ("position", .int p), ("steps", .int trace.log.length), ("iar", .int register),
            ("iar_label", label.joined), ("command", command.joined), ("cells", .object cells)])) ∧
          trace.Report options p addresses register label command cells ∧
          ((∀ t ∈ trace.texts, t.joined = t) →
            label.joined = label ∧ command.joined = command)) := by
  intro p ending
  have hprints : trace.Answered options p addresses →
      ending.Prints (trace.inspection options p addresses).toJson.joined :=
    run_inspect_answered hopen hwritable hsteps
  refine ⟨fun hpolicy => ⟨fun hcode => ?_, fun hmissing => ?_⟩, fun hanswered => ?_⟩
  -- an answered request would have ended with zero
  · have hfails : ¬ trace.Answered options p addresses := by
      intro h
      rw [(hprints h).code] at hcode
      cases hcode
    exact (Trace.not_answered_iff.mp hfails).2
  · exact run_inspect_unanswered hopen (Trace.not_answered_iff.mpr ⟨hpolicy, hmissing⟩)
  · have hprinted := hprints (Classical.not_not.mp fun h => hanswered (Trace.not_answered_iff.mp h))
    rw [Inspection.joined_toJson] at hprinted
    exact ⟨hprinted.code, hprinted.escaped, _, _, _, _, hprinted.output,
      Trace.report_inspection
        (Trace.inspection_writable (trace.nearest_le position) hwritable hsteps),
      fun htexts => ⟨Trace.joined_label htexts, Trace.joined_command htexts⟩⟩

/-- A log that does not fit, an address that is asked for twice and one without a value. -/
theorem run_inspect_json_stale :
    let trace : Trace := {
      labels := .ofList [("START", 3), ("LOOP", 3)]
      commands := [⟨3, "HALT", none, none, none, 7⟩]
      log := [[⟨5, 0, 42⟩], [⟨5, 1, 8⟩]] }
    let files : Files := {
      read := fun _ => .ok ((trace.toJson fun _ _ => .triple).canonicalChars.flatMap
        String.utf8EncodeChar)
      jsonDepth := 990
      yamlDepth := 490 }
    let ending := run files (.inspect ⟨"", ["t.json"]⟩ none 9 [5, 6, 5] true)
    ending.code = 0 ∧ ending.escaped = none ∧
      ∃ register label command cells,
        (∀ depth, 2 ≤ depth → Json.ofText depth ending.output = .ok (.object [
          ("position", .int 2), ("steps", .int 2), ("iar", .int register),
          ("iar_label", label.joined), ("command", command.joined), ("cells", .object cells)])) ∧
        trace.Report {} 2 [5, 6, 5] register label command cells ∧
        ((∀ t ∈ trace.texts, t.joined = t) →
          label.joined = label ∧ command.joined = command) := by
  intro trace files ending
  have hwritable : ∀ n ∈ trace.integers ++ [5, 6, 5], Integer.isWritable n = true :=
    Integer.forall_isWritable (by decide)
  have hopen : Opens files ⟨"", ["t.json"]⟩ none trace {} :=
    ⟨rfl, Trace.load_written (fun n hn => hwritable n (List.mem_append_left _ hn)) (by decide)
      (by decide) (by decide) rfl, fun h => nomatch h⟩
  exact (run_inspect_json hopen 9 [5, 6, 5] hwritable (Trace.isWritable_small (by decide))).2
    fun h => nomatch h.1

theorem ok_of_toOption {ε α : Type} {e : Except ε α} {a : α} (h : e.toOption = some a) :
    e = .ok a := by
  cases e with
  | error _ => cases h
  | ok b => exact congrArg Except.ok (Option.some.inj h)

/-- A label of two halves that make a pair is read as the character that they stand for, and that is
no label of the trace. -/
theorem run_inspect_json_pair_of_halves :
    let trace : Trace := { labels := .ofList [(⟨[.half 61, .half 1536]⟩, 0)] }
    let document := "labels: \x7b\"\\uD83D\\uDE00\": 0\x7d"
    let files : Files := {
      read := fun _ => .ok (document.toList.flatMap String.utf8EncodeChar)
      jsonDepth := 990
      yamlDepth := 490 }
    let ending := run files (.inspect ⟨"", ["t.yaml"]⟩ none 0 [] true)
    Opens files ⟨"", ["t.yaml"]⟩ none trace {} ∧
      (∀ n ∈ trace.integers, Integer.isWritable n = true) ∧ ending.code = 0 ∧
        ¬ ∃ register label command cells,
          Json.ofText files.jsonDepth ending.output = .ok (.object [("position", .int 0),
            ("steps", .int 0), ("iar", .int register), ("iar_label", label),
            ("command", command), ("cells", .object cells)]) ∧
          trace.Report {} 0 [] register label command cells := by
  intro trace document files ending
  have hwritable : ∀ n ∈ trace.integers ++ [], Integer.isWritable n = true :=
    Integer.forall_isWritable (by decide)
  have htext : files.text (Path.mk "" ["t.yaml"]).text = .ok document := by
    have hlines : unixLines document.toList = document.toList := by decide +kernel
    refine Files.text_of_bytes rfl ?_
    rw [textOfBytes?, decodeUtf8?_encode, Option.map_some, hlines, String.ofList_toList]
  have hload : (Trace.load files ⟨"", ["t.yaml"]⟩).result = .ok trace := by
    have hdata : ((Files.ofYaml 490 document).bind Trace.ofData).toOption = some trace := by
      decide +kernel
    rw [Trace.load_result, Files.data_of_text htext]
    exact ok_of_toOption hdata
  have hopen : Opens files ⟨"", ["t.yaml"]⟩ none trace {} := ⟨rfl, hload, fun h => nomatch h⟩
  have hprints : ending.Prints (trace.inspection {} 0 []).toJson.joined :=
    run_inspect_answered hopen hwritable (Trace.isWritable_small (by decide)) fun h => nomatch h
  refine ⟨hopen, fun n hn => hwritable n (List.mem_append_left _ hn), hprints.code, ?_⟩
  rintro ⟨register, label, command, cells, hread, hreport⟩
  rw [hprints.output _ (by decide), Inspection.joined_toJson] at hread
  -- the least name of the start address is the pair of halves, and it is printed as escapes
  have hname : (trace.inspection {} 0 []).label = some ⟨[.half 61, .half 1536]⟩ := by decide
  have hcharacter : Text.joined ⟨[.half 61, .half 1536]⟩ = "😀" := by decide +kernel
  have hlabel : label = .text "😀" := by
    rw [hname] at hread
    simp only [Except.ok.injEq, Json.object.injEq, List.cons.injEq, Prod.mk.injEq] at hread
    exact hread.2.2.2.1.2.symm.trans (congrArg Json.text hcharacter)
  -- no label of the trace has that name, and there is one for the address
  obtain ⟨hnull, -⟩ | ⟨name, hname, hentry, -⟩ := hreport.label_eq
  · rw [hlabel] at hnull
    cases hnull
  · rw [hlabel] at hname
    cases hname
    have hnone : trace.labels.get? "😀" = none := by decide
    rw [hnone] at hentry
    cases hentry

end CommandLine

end Rewind
