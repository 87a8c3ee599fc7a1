import Rewind.Proofs.TraceText

/-!
# Spellings of a trace

An update may be written as a list of its three numbers or as a map of its three fields, and a start
value may be given under its address or under the digits of it.  `Trace.Respelled` relates raw data
that differs in such choices only, at any number of places, whatever stands there.  Lists are made
into updates before anything else is looked at, but as far as success is concerned both passes are
one (`Log.toOption_decode_list`), and in one pass each entry can be replaced by itself.  So data that
is respelled is accepted as before, and as the same trace (`Trace.decode_respelled`).
-/

namespace Rewind

open Decode

/-! ## What is respelled -/

/-- The three fields of an update in a map, with whatever stands in them. -/
structure Update.Fields (entries : List (Value × Value)) (x y z : Value) : Prop where
  address : Value.field? "address" entries = some x
  oldValue : Value.field? "old_value" entries = some y
  newValue : Value.field? "new_value" entries = some z

/-- Two spellings of an entry of a step. -/
inductive Update.Respelled : Value → Value → Prop
  | same (v : Value) : Respelled v v
  /-- A list becomes a map. -/
  | named {x y z : Value} {entries : List (Value × Value)} (h : Fields entries x y z) :
    Respelled (.list [x, y, z]) (.map entries)
  /-- A map becomes a list. -/
  | listed {x y z : Value} {entries : List (Value × Value)} (h : Fields entries x y z) :
    Respelled (.map entries) (.list [x, y, z])

/-- Two spellings of a step, entry by entry. -/
inductive Step.Respelled : Value → Value → Prop
  | same (v : Value) : Respelled v v
  | entries {vs ws : List Value} (h : List.Forall₂ Update.Respelled vs ws) :
    Respelled (.list vs) (.list ws)

/-- Two spellings of a log, step by step. -/
inductive Log.Respelled : Value → Value → Prop
  | same (v : Value) : Respelled v v
  | steps {vs ws : List Value} (h : List.Forall₂ Step.Respelled vs ws) :
    Respelled (.list vs) (.list ws)

/-- Two spellings of a start value, under the address itself or under its digits. -/
inductive Cell.Respelled : Value × Value → Value × Value → Prop
  | same (e : Value × Value) : Respelled e e
  /-- An address becomes text. -/
  | written {a : Int} (h : (Nat.toDigits 10 a.natAbs).length < Integer.maxDigits) (v : Value) :
    Respelled (.int a, v) (.text (toString a), v)
  /-- Text becomes the address. -/
  | read {a : Int} (h : (Nat.toDigits 10 a.natAbs).length < Integer.maxDigits) (v : Value) :
    Respelled (.text (toString a), v) (.int a, v)

/-- Two spellings of start values, entry by entry. -/
inductive Cells.Respelled : Value → Value → Prop
  | same (v : Value) : Respelled v v
  | entries {es fs : List (Value × Value)} (h : List.Forall₂ Cell.Respelled es fs) :
    Respelled (.map es) (.map fs)

/-- Two spellings of what stands in a field of a trace. -/
inductive Trace.FieldRespelled (name : String) : Value → Value → Prop
  | same (v : Value) : FieldRespelled name v v
  | updates {v w : Value} (hname : name = "updates") (h : Log.Respelled v w) :
    FieldRespelled name v w
  | initialValues {v w : Value} (hname : name = "initial_values") (h : Cells.Respelled v w) :
    FieldRespelled name v w

/-- Two spellings of an entry of a trace. -/
inductive Trace.EntryRespelled : Value × Value → Value × Value → Prop
  | same (e : Value × Value) : EntryRespelled e e
  | field {name : String} {v w : Value} (h : FieldRespelled name v w) :
    EntryRespelled (.text name, v) (.text name, w)

/-- Two spellings of a trace, entry by entry. -/
inductive Trace.Respelled : Value → Value → Prop
  | same (v : Value) : Respelled v v
  | entries {es fs : List (Value × Value)} (h : List.Forall₂ EntryRespelled es fs) :
    Respelled (.map es) (.map fs)

/-! ## Logs -/

theorem Update.toOption_ofTriple {es : List (Value × Value)} {x y z : Value}
    (h : Fields es x y z) : (ofTriple [x, y, z]).toOption = (Update.decode (.map es)).toOption := by
  have hfields : Update.decode (.map [(.text "address", x), (.text "old_value", y),
      (.text "new_value", z)]) = Update.decode (.map es) := by
    unfold Update.decode record required
    dsimp only
    rw [h.address, h.oldValue, h.newValue]
    rfl
  rw [ofTriple, hfields]
  cases Update.decode (.map es) <;> rfl

/-- The update that an entry of a step gives, if both passes succeed. -/
def Update.read? (v : Value) : Option Update :=
  (entryDraft v).toOption.bind fun e => e.decode.toOption

/-- The step that raw data gives, if both passes succeed. -/
def Step.read? (v : Value) : Option Step :=
  (stepDraft v).toOption.bind fun d => d.decode.toOption

theorem Update.read?_respelled {v w : Value} (h : Respelled v w) : read? v = read? w := by
  have hlist : ∀ {x y z : Value} {es : List (Value × Value)}, Fields es x y z →
      read? (.list [x, y, z]) = read? (.map es) := by
    intro x y z es hfields
    have hmap : read? (.map es) = (Update.decode (.map es)).toOption := rfl
    rw [hmap, ← toOption_ofTriple hfields, read?, entryDraft]
    cases ofTriple [x, y, z] <;> rfl
  cases h with
  | same => rfl
  | named hfields => exact hlist hfields
  | listed hfields => exact (hlist hfields).symm

/-- The entries of a step are read one by one. -/
theorem Step.read?_list (vs : List Value) : read? (.list vs) = vs.mapM Update.read? := by
  unfold Update.read?
  rw [← mapM_bind_mapM, ← toOption_mapM, ← entryDrafts_eq_mapM, read?, stepDraft]
  cases entryDrafts vs with
  | error m => rfl
  | ok es => exact Decoded.toOption_each StepEntry.decode es

/-- As far as success is concerned, the steps of a log are read one by one. -/
theorem Log.toOption_decode_list (vs : List Value) :
    (Log.decode (.list vs)).toOption = vs.mapM Step.read? := by
  unfold Step.read?
  rw [← mapM_bind_mapM, ← toOption_mapM, ← stepDrafts_eq_mapM, Log.decode]
  cases stepDrafts vs with
  | error m => rfl
  | ok drafts => exact Decoded.toOption_each StepDraft.decode drafts

theorem Step.read?_respelled {v w : Value} (h : Respelled v w) : read? v = read? w := by
  cases h with
  | same => rfl
  | entries hentries =>
    rw [read?_list, read?_list]
    exact mapM_congr_of_forall₂ (hentries.imp fun _ _ => Update.read?_respelled)

theorem Log.toOption_decode_respelled {v w : Value} (h : Respelled v w) :
    (Log.decode v).toOption = (Log.decode w).toOption := by
  cases h with
  | same => rfl
  | steps hsteps =>
    rw [toOption_decode_list, toOption_decode_list]
    exact mapM_congr_of_forall₂ (hsteps.imp fun _ _ => Step.read?_respelled)

/-! ## Start values -/

theorem Cell.toOption_entry_respelled {e f : Value × Value} (h : Respelled e f) :
    (entry integer integer e).toOption = (entry integer integer f).toOption := by
  have hkey : ∀ {a : Int}, (Nat.toDigits 10 a.natAbs).length < Integer.maxDigits → ∀ v,
      (entry integer integer (.int a, v)).toOption
        = (entry integer integer (.text (toString a), v)).toOption := by
    intro a ha v
    have hwritable : Integer.isWritable a = true :=
      (Integer.isWritable_iff rfl).mpr (Nat.le_of_lt ha)
    simp only [entry, Decoded.toOption_within, Decoded.toOption_ap, Decoded.toOption_map,
      Trace.decode_cellName hwritable]
    rfl
  cases h with
  | same => rfl
  | written ha v => exact hkey ha v
  | read ha v => exact (hkey ha v).symm

theorem Cells.toOption_decode_respelled {v w : Value} (h : Respelled v w) :
    (sortedMap integer integer v).toOption = (sortedMap integer integer w).toOption := by
  cases h with
  | same => rfl
  | @entries es fs hentries =>
    have hmapM : (es.map (entry integer integer)).mapM Except.toOption
        = (fs.map (entry integer integer)).mapM Except.toOption := by
      rw [List.mapM_map, List.mapM_map]
      exact mapM_congr_of_forall₂ (hentries.imp fun _ _ => Cell.toOption_entry_respelled)
    rw [sortedMap, sortedMap, Decoded.toOption_map, Decoded.toOption_map, Decoded.toOption_all,
      Decoded.toOption_all, hmapM]

/-! ## Traces -/

namespace Trace

variable {es fs : List (Value × Value)}

theorem field?_respelled (h : List.Forall₂ EntryRespelled es fs) (name : String) :
    Option.Rel (FieldRespelled name) (Value.field? name es) (Value.field? name fs) := by
  -- entries correspond one by one, and respelling an entry leaves its name as it is
  induction h with
  | nil => exact .none
  | @cons e f es fs hef _ ih =>
    rw [Value.field?_cons, Value.field?_cons]
    cases hef with
    | same =>
      split
      · exact .some (.same e.2)
      · exact ih
    | @field name' v w h =>
      by_cases hname : name' = name
      · subst hname
        simp only [Value.isName, decide_true, if_true]
        exact .some h
      · simp only [Value.isName, Text.ofString_inj, hname, decide_false, Bool.false_eq_true, if_false]
        exact ih

theorem toOption_withDefault_respelled {α : Type} {name : String} {decode : Value → Decoded α}
    (hdecode : ∀ v w, FieldRespelled name v w → (decode v).toOption = (decode w).toOption)
    (h : List.Forall₂ EntryRespelled es fs) (default : α) :
    (withDefault name decode default es).toOption
      = (withDefault name decode default fs).toOption := by
  have hfield := field?_respelled h name
  unfold withDefault
  rw [Decoded.toOption_within, Decoded.toOption_within]
  generalize Value.field? name es = v at hfield
  generalize Value.field? name fs = w at hfield
  cases hfield with
  | none => rfl
  | some hvw => exact hdecode _ _ hvw

/-- A field that is neither the log nor the start values has one spelling only. -/
theorem FieldRespelled.eq {name : String} {v w : Value} (h : FieldRespelled name v w)
    (hupdates : name ≠ "updates") (hvalues : name ≠ "initial_values") : v = w := by
  cases h with
  | same => rfl
  | updates hname => exact absurd hname hupdates
  | initialValues hname => exact absurd hname hvalues

/-- **The spelling of a trace does not change its meaning.**  Raw data in which entries of steps are
written as lists or as maps, and start values under addresses or under their digits, in any number
of places at once, is accepted in one spelling just if it is in the other, and as the same trace. -/
theorem decode_respelled {v w : Value} (h : Respelled v w) (t : Trace) :
    decode v = .ok t ↔ decode w = .ok t := by
  rw [← Decoded.toOption_eq_some_iff, ← Decoded.toOption_eq_some_iff]
  cases h with
  | same => rfl
  | @entries es fs hentries =>
    -- a field that is not respelled is the same on both sides
    have hsame : ∀ {α : Type} (name : String) (decode : Value → Decoded α) (default : α),
        name ≠ "updates" → name ≠ "initial_values" →
        (withDefault name decode default es).toOption
          = (withDefault name decode default fs).toOption := by
      intro α name decode default hupdates hvalues
      refine toOption_withDefault_respelled (fun v w hvw => ?_) hentries default
      rw [hvw.eq hupdates hvalues]
    have hvalues : (withDefault "initial_values" (sortedMap integer integer) .empty es).toOption
        = (withDefault "initial_values" (sortedMap integer integer) .empty fs).toOption := by
      refine toOption_withDefault_respelled (fun v w hvw => ?_) hentries _
      cases hvw with
      | same => rfl
      | updates hname => exact absurd hname (by decide)
      | initialValues _ hcells => exact Cells.toOption_decode_respelled hcells
    have hupdates : (withDefault "updates" Log.decode [] es).toOption
        = (withDefault "updates" Log.decode [] fs).toOption := by
      refine toOption_withDefault_respelled (fun v w hvw => ?_) hentries []
      cases hvw with
      | same => rfl
      | updates _ hlog => exact Log.toOption_decode_respelled hlog
      | initialValues hname => exact absurd hname (by decide)
    simp only [decode, record, Decoded.toOption_ap, Decoded.toOption_map]
    rw [hsame "schema_version" _ _ (by decide) (by decide),
      hsame "source" _ _ (by decide) (by decide), hsame "labels" _ _ (by decide) (by decide),
      hsame "commands" _ _ (by decide) (by decide), hvalues, hupdates]

/-- Both ways at once, with numbers in several writings, a field too many, and a key that is text
already. -/
theorem decode_respelled_mixed :
    let v : Value := .map
      [(.text "initial_values", .map [(.text "12", .int 1), (.int (-12), .int 2)]),
        (.text "updates", .list [.list [.list [.text " +5 ", .bool true, .int (-3)],
          .map [(.text "old_value", .int 1), (.int 0, .null), (.text "new_value", .text "7.0"),
            (.text "address", .int (-2))]], .list []])]
    let w : Value := .map
      [(.text "initial_values", .map [(.text "12", .int 1), (.text "-12", .int 2)]),
        (.text "updates", .list [.list [.map [(.text "address", .text " +5 "),
          (.text "old_value", .bool true), (.text "new_value", .int (-3))],
          .list [.int (-2), .int 1, .text "7.0"]], .list []])]
    let t : Trace :=
      { initialValues := .ofList [(12, 1), (-12, 2)], log := [[⟨5, 1, -3⟩, ⟨-2, 1, 7⟩], []] }
    Respelled v w ∧ decode v = .ok t ∧ decode w = .ok t := by
  intro v w t
  have hrespelled : Respelled v w := by
    refine .entries (.cons (.field (.initialValues rfl (.entries ?_)))
      (.cons (.field (.updates rfl (.steps (.cons (.entries ?_) (.cons (.same _) .nil))))) .nil))
    · exact .cons (.same _) (.cons (.written (by decide) _) .nil)
    · exact .cons (.named ⟨rfl, rfl, rfl⟩) (.cons (.listed ⟨rfl, rfl, rfl⟩) .nil)
  have hdecode : decode v = .ok t := rfl
  exact ⟨hrespelled, hdecode, (decode_respelled hrespelled t).mp hdecode⟩

end Trace

end Rewind
