import Mathlib.Data.List.Nodup
import Mathlib.Data.List.Perm.Basic
import Rewind.Proofs.Decoded
import Rewind.Proofs.Layout
import Rewind.Proofs.Records

/-!
# Traces as text

A trace as JSON: its fields by name, and each update either as a list of its three numbers or as an
object of its three fields.  Decoding it gives the trace back, whatever the order of the fields
(`Trace.decode_toJson`), so a file with its canonical form loads as the trace
(`Trace.load_canonical`).
-/

namespace Rewind

/-! ## Integers as text -/

theorem toList_toString (n : Int) : (toString n).toList = Json.integerChars n := by
  unfold Json.integerChars
  cases n with
  | ofNat m =>
    rw [if_neg (by simp)]
    exact Nat.toList_repr
  | negSucc m =>
    rw [if_pos (Int.negSucc_lt_zero m)]
    show ("-" ++ Nat.repr (m + 1)).toList = _
    rw [String.toList_append, Nat.toList_repr]
    rfl

namespace Integer

theorem ofDigits_toDigits (n : Nat) :
    ofDigits 10 ((Nat.toDigits 10 n).filterMap asciiDigit?) = n := by
  have hfold : ∀ (cs : List Char) (m : Nat), (∀ c ∈ cs, c.isDigit = true) →
      (cs.filterMap asciiDigit?).foldl (fun n d => n * 10 + d) m = Nat.ofDigitChars 10 cs m := by
    intro cs
    induction cs with
    | nil => exact fun _ _ => rfl
    | cons c cs ih =>
      intro m h
      have hc : asciiDigit? c = some (c.toNat - 48) := if_pos (h c (List.mem_cons_self ..))
      rw [List.filterMap_cons_some hc, List.foldl_cons,
        ih _ fun d hd => h d (List.mem_cons_of_mem _ hd), Nat.mul_comm]
      rfl
  rw [ofDigits, hfold _ _ fun c => isDigit_of_mem_toDigits, Nat.ofDigitChars_ten_toDigits]

theorem splitMinus_integerChars (n : Int) :
    splitMinus (Json.integerChars n) = (decide (n < 0), Nat.toDigits 10 n.natAbs) := by
  unfold Json.integerChars
  by_cases hn : n < 0
  · rw [if_pos hn, decide_eq_true hn]
    rfl
  · rw [if_neg hn, decide_eq_false hn]
    unfold splitMinus
    split
    · rename_i rest hdigits
      have hminus : '-' ∈ Nat.toDigits 10 n.natAbs := hdigits ▸ List.mem_cons_self ..
      exact absurd (isDigit_of_mem_toDigits hminus) (by decide)
    · rfl

/-- The decimal text of an integer that is written is a field that holds it. -/
theorem ofField_toString {n : Int} (h : isWritable n = true) : ofField (toString n) = .ok n := by
  have hdigits : (Nat.toDigits 10 n.natAbs ++ []).takeWhile Char.isDigit
      = Nat.toDigits 10 n.natAbs :=
    (Json.span_isDigit (fun c => isDigit_of_mem_toDigits) Json.endsNumber_nil).1
  rw [List.append_nil] at hdigits
  have hplain : ofPlain (Json.integerChars n) = .ok n := by
    have hlength : ¬ maxDigits < (Nat.toDigits 10 n.natAbs).length :=
      Nat.not_lt.mpr (length_toDigits_of_isWritable h)
    have hvalue := ofDigits_toDigits n.natAbs
    unfold ofPlain
    simp only [splitMinus_integerChars, hdigits]
    cases hds : Nat.toDigits 10 n.natAbs with
    | nil => exact absurd hds Nat.toDigits_ne_nil
    | cons d more =>
      rw [hds] at hlength hvalue
      -- digits of a number neither begin with a superfluous zero nor are too many
      have hzero : ¬ (d = '0' ∧ (!more.isEmpty) = true) := by
        rintro ⟨rfl, hmore⟩
        rw [toDigits_eq_zero_cons hds] at hmore
        cases hmore
      simp only [hzero, hlength, hvalue, if_false, Nat.lt_irrefl, signed, decide_eq_true_eq,
        Json.signed_natAbs]
  rw [ofField, toList_toString, hplain]

end Integer

/-! ## Decoding what is there -/

namespace Decoded

variable {α β : Type} {decode : α → Decoded β}

theorem each_of_forall₂ {as : List α} {bs : List β}
    (h : List.Forall₂ (fun a b => decode a = .ok b) as bs) : each decode as = .ok bs := by
  suffices hall : ∀ i, eachFrom decode i as = .ok bs from hall 0
  induction h with
  | nil => exact fun _ => rfl
  | cons hab hrest ih =>
    intro i
    rw [eachFrom, hab, ih]
    rfl

theorem all_of_forall₂ {as : List α} {bs : List β}
    (h : List.Forall₂ (fun a b => decode a = .ok b) as bs) : all (as.map decode) = .ok bs := by
  induction h with
  | nil => rfl
  | cons hab hrest ih =>
    rw [List.map_cons, all, hab, ih]
    rfl

end Decoded

namespace SortedMap

variable {α β : Type} [DecidableEq α] [Ord α] [Std.LawfulEqOrd α] [Std.TransOrd α]

/-- The entries of a map in any order give the map. -/
theorem ofList_of_perm {m : SortedMap α β} {es : List (α × β)} (h : es.Perm m.entries) :
    ofList es = m := by
  refine ext_get? fun k => ?_
  have hnodup : (es.map Prod.fst).Nodup := (h.map Prod.fst).nodup_iff.mpr m.nodup_keys
  by_cases hk : k ∈ es.map Prod.fst
  · obtain ⟨e, he, rfl⟩ := List.mem_map.mp hk
    rw [ofList, get?_insertAll_of_nodup _ he hnodup, mem_entries_iff.mp (h.mem_iff.mp he)]
  · have hnone : k ∉ m.keys := fun hm => hk ((h.map Prod.fst).mem_iff.mpr hm)
    rw [mem_keys_iff, contains, Option.not_isSome_iff_eq_none] at hnone
    rw [ofList, get?_insertAll_of_notMem _ hk, get?_empty, hnone]

/-- Sorting entries with distinct keys only puts them in another order. -/
theorem perm_entries_ofList {es : List (α × β)} (h : (es.map Prod.fst).Nodup) :
    (ofList es).entries.Perm es := by
  refine (List.perm_ext_iff_of_nodup (List.Nodup.of_map Prod.fst (nodup_keys _))
    (List.Nodup.of_map Prod.fst h)).mpr
    fun e => ⟨mem_of_mem_ofList, fun he => ?_⟩
  exact mem_entries_iff.mpr (get?_insertAll_of_nodup _ he h)

end SortedMap

namespace Decode

variable {α β : Type} {decode : Value → Decoded α} {name : String} {es : List (Value × Value)}
  {v : Value} {a : α}

theorem required_of_field (hfield : Value.field? name es = some v) (h : decode v = .ok a) :
    required name decode es = .ok a := by
  rw [required, hfield]
  simp only [h]
  rfl

theorem withDefault_of_field {default : α} (hfield : Value.field? name es = some v)
    (h : decode v = .ok a) : withDefault name decode default es = .ok a := by
  rw [withDefault, hfield]
  simp only [h]
  rfl

theorem list_of_forall₂ {vs : List Value} {as : List α}
    (h : List.Forall₂ (fun v a => decode v = .ok a) vs as) : list decode (.list vs) = .ok as :=
  Decoded.each_of_forall₂ h

variable [DecidableEq α] [Ord α] [Std.LawfulEqOrd α] [Std.TransOrd α] {key : Value → Decoded α}
  {value : Value → Decoded β}

/-- A map is decoded from its entries in any order. -/
theorem sortedMap_of_forall₂ {m : SortedMap α β} {pairs : List (α × β)}
    (h : List.Forall₂ (fun e p => key e.1 = .ok p.1 ∧ value e.2 = .ok p.2) es pairs)
    (hperm : pairs.Perm m.entries) : sortedMap key value (.map es) = .ok m := by
  have hentries : List.Forall₂ (fun e p => entry key value e = .ok p) es pairs :=
    h.imp fun e p hep => by
      rw [entry, hep.1, hep.2]
      rfl
  rw [sortedMap, Decoded.all_of_forall₂ hentries]
  show Except.ok (SortedMap.ofList pairs) = _
  rw [SortedMap.ofList_of_perm hperm]

end Decode

/-! ## Sorted fields as raw data -/

namespace Json

theorem itemsToValue_eq_map (items : List Json) : itemsToValue items = items.map toValue := by
  induction items with
  | nil => rfl
  | cons v items ih => rw [itemsToValue, ih, List.map_cons]

theorem fieldsToValue_eq_map (fields : List (Text × Json)) :
    fieldsToValue fields = fields.map fun f => (.text f.1, f.2.toValue) := by
  induction fields with
  | nil => rfl
  | cons f fields ih => rw [fieldsToValue, ih, List.map_cons]

theorem field?_fieldsToValue {fields : List (Text × Json)} {name : Text} {v : Json}
    (h : (name, v) ∈ fields) (hnames : (fields.map Prod.fst).Nodup) :
    Value.field? name (fieldsToValue fields) = some v.toValue := by
  induction fields with
  | nil => cases h
  | cons f fields ih =>
    obtain ⟨hf, hnames⟩ := List.nodup_cons.mp hnames
    rw [fieldsToValue, Value.field?]
    rcases List.mem_cons.mp h with rfl | h
    · rw [if_pos rfl]
    · have hne : f.1 ≠ name := fun heq => hf (heq ▸ List.mem_map_of_mem h)
      rw [if_neg hne, ih h hnames]

/-- Sorting the fields of an object does not change what their names stand for. -/
theorem field?_sorted (fields : List (Text × Json)) (hnames : (fields.map Prod.fst).Nodup)
    ⦃name : Text⦄ ⦃v : Json⦄ (h : (name, v) ∈ fields) :
    Value.field? name (fieldsToValue (SortedMap.ofList (sortedFields fields)).entries)
      = some v.sorted.toValue := by
  have hsorted : ((sortedFields fields).map Prod.fst).Nodup := by
    rwa [sortedFields_eq_map, List.map_map]
  have hmem : (name, v.sorted) ∈ sortedFields fields := by
    rw [sortedFields_eq_map]
    exact List.mem_map_of_mem h
  exact field?_fieldsToValue ((SortedMap.perm_entries_ofList hsorted).mem_iff.mpr hmem)
    (SortedMap.nodup_keys _)

section Maps

variable {α β : Type} [Ord α] [Std.LawfulEqOrd α] {key : Value → Decoded α}
  {value : Value → Decoded β} {m : SortedMap α β} {write : α × β → Text × Json}

/-- Names from which the keys are decoded are as distinct as the keys. -/
theorem nodup_names {key : Value → Decoded α}
    (hkey : ∀ e ∈ m.entries, key (.text (write e).1) = .ok e.1) :
    ((m.entries.map write).map Prod.fst).Nodup := by
  rw [List.map_map]
  refine (List.Nodup.of_map Prod.fst m.nodup_keys).map_on fun e he f hf heq => ?_
  have hkeys : e.1 = f.1 := by
    have hf := hkey f hf
    rw [show (write f).1 = (write e).1 from heq.symm, hkey e he] at hf
    exact Except.ok.inj hf
  exact List.inj_on_of_nodup_map m.nodup_keys he hf hkeys

variable [DecidableEq α] [Std.TransOrd α]

/-- A map that is written entry by entry is decoded from the object of its fields. -/
theorem sortedMap_sorted (hkey : ∀ e ∈ m.entries, key (.text (write e).1) = .ok e.1)
    (hvalue : ∀ e ∈ m.entries, value (write e).2.sorted.toValue = .ok e.2) :
    Decode.sortedMap key value (object (m.entries.map write)).sorted.toValue = .ok m := by
  have hnames : ((sortedFields (m.entries.map write)).map Prod.fst).Nodup := by
    rw [sortedFields_eq_map, List.map_map]
    exact nodup_names hkey
  -- sorting permutes the fields, and a map is read the same from any order of its entries
  have hperm := (SortedMap.perm_entries_ofList hnames).map
    fun f : Text × Json => (Value.text f.1, f.2.toValue)
  have hentries : List.Forall₂
      (fun (e : Value × Value) (p : α × β) => key e.1 = .ok p.1 ∧ value e.2 = .ok p.2)
      ((sortedFields (m.entries.map write)).map fun f => (.text f.1, f.2.toValue)) m.entries := by
    rw [sortedFields_eq_map, List.map_map, List.map_map]
    exact List.forall₂_map_left_iff.mpr
      (List.forall₂_same.mpr fun e he => ⟨hkey e he, hvalue e he⟩)
  obtain ⟨pairs, hpairs, hm⟩ := List.perm_comp_forall₂ hperm hentries
  rw [sorted, toValue, fieldsToValue_eq_map]
  exact Decode.sortedMap_of_forall₂ hpairs hm

end Maps

end Json

/-! ## Updates and logs -/

/-- How an update is written: as a list of its numbers, or as an object of its fields. -/
inductive UpdateForm where
  | triple
  | record
  deriving DecidableEq, Repr

/-- An update as JSON. -/
def Update.toJson (u : Update) : UpdateForm → Json
  | .triple => .list (u.triple.map .int)
  | .record =>
    .object [("address", .int u.address), ("old_value", .int u.oldValue),
      ("new_value", .int u.newValue)]

/-- The updates of a step as JSON, each in the form for its place. -/
def Step.toJson (form : Nat → UpdateForm) (step : Step) : Json :=
  .list (step.mapIdx fun i u => u.toJson (form i))

/-- A log as JSON, with a form for the place of each update in it. -/
def Log.toJson (form : Nat → Nat → UpdateForm) (log : Log) : Json :=
  .list (log.mapIdx fun i step => Step.toJson (form i) step)

theorem forall₂_mapIdx {α β : Type} {R : β → α → Prop} {f : Nat → α → β} {as : List α}
    (h : ∀ i, ∀ a ∈ as, R (f i a) a) : List.Forall₂ R (as.mapIdx f) as := by
  induction as generalizing f with
  | nil => exact .nil
  | cons a as ih =>
    rw [List.mapIdx_cons]
    exact .cons (h 0 a (List.mem_cons_self ..))
      (ih fun i b hb => h (i + 1) b (List.mem_cons_of_mem _ hb))

/-- A raw entry of a step from which an update is made. -/
def Update.MadeFrom (v : Value) (u : Update) : Prop :=
  ∃ e, entryDraft v = .ok e ∧ e.decode = .ok u

/-- Both forms of an update make it. -/
theorem Update.madeFrom_toJson (u : Update) (form : UpdateForm) :
    MadeFrom (u.toJson form).sorted.toValue u := by
  cases form with
  | triple => exact ⟨.update u, rfl, rfl⟩
  | record =>
    refine ⟨.raw (u.toJson .record).sorted.toValue, rfl, ?_⟩
    have hfield := Json.field?_sorted [("address", .int u.address),
      ("old_value", .int u.oldValue), ("new_value", .int u.newValue)] (by simp)
    -- wherever sorting has put the fields, each is found under its name
    rw [StepEntry.decode, Update.toJson, Json.sorted, Json.toValue]
    generalize Json.fieldsToValue _ = es at hfield ⊢
    have haddress : Decode.required "address" Decode.integer es = .ok u.address :=
      Decode.required_of_field (hfield (v := .int u.address) (by simp)) rfl
    have hold : Decode.required "old_value" Decode.integer es = .ok u.oldValue :=
      Decode.required_of_field (hfield (v := .int u.oldValue) (by simp)) rfl
    have hnew : Decode.required "new_value" Decode.integer es = .ok u.newValue :=
      Decode.required_of_field (hfield (v := .int u.newValue) (by simp)) rfl
    rw [Update.decode, Decode.record, haddress, hold, hnew]
    rfl

/-- A raw step from which a step is made. -/
def Step.MadeFrom (v : Value) (step : Step) : Prop :=
  ∃ d, stepDraft v = .ok d ∧ d.decode = .ok step

theorem Step.madeFrom_list {vs : List Value} {step : Step}
    (h : List.Forall₂ Update.MadeFrom vs step) : MadeFrom (.list vs) step := by
  obtain ⟨es, hes, hdecode⟩ := exists_mapM_of_forall₂ h
  refine ⟨.entries es, ?_, Decoded.each_of_forall₂ hdecode⟩
  rw [stepDraft, entryDrafts_eq_mapM, hes]
  rfl

theorem Log.decode_list {vs : List Value} {log : Log} (h : List.Forall₂ Step.MadeFrom vs log) :
    Log.decode (.list vs) = .ok log := by
  obtain ⟨ds, hds, hdecode⟩ := exists_mapM_of_forall₂ h
  rw [Log.decode, stepDrafts_eq_mapM, hds]
  exact Decoded.each_of_forall₂ hdecode

theorem Json.toValue_sorted_list (items : List Json) :
    (Json.list items).sorted.toValue = .list (items.map fun v => v.sorted.toValue) := by
  rw [sorted, toValue, sortedItems_eq_map, itemsToValue_eq_map, List.map_map]
  rfl

/-- A log is decoded from each of its written forms. -/
theorem Log.decode_toJson (log : Log) (form : Nat → Nat → UpdateForm) :
    Log.decode (log.toJson form).sorted.toValue = .ok log := by
  rw [Log.toJson, Json.toValue_sorted_list]
  refine Log.decode_list (List.forall₂_map_left_iff.mpr (forall₂_mapIdx fun i step _ => ?_))
  rw [Step.toJson, Json.toValue_sorted_list]
  exact Step.madeFrom_list (List.forall₂_map_left_iff.mpr
    (forall₂_mapIdx fun j u _ => u.madeFrom_toJson (form i j)))

/-! ## Traces -/

theorem Command.decode_toJson (c : Command) : Command.decode c.toJson.sorted.toValue = .ok c := by
  have hinteger : ∀ n : Option Int, Decode.optional Decode.integer
      ((n.map Json.int).getD .null).sorted.toValue = .ok n := by
    intro n
    cases n <;> rfl
  have htext : ∀ s : Option Text, Decode.optional Decode.text
      ((s.map Json.text).getD .null).sorted.toValue = .ok s := by
    intro s
    cases s <;> rfl
  have hfield := Json.field?_sorted [("address", .int c.address),
    ("mnemonic", .text c.mnemonic), ("argument", (c.argument.map Json.int).getD .null),
    ("label", (c.label.map Json.text).getD .null), ("line", (c.line.map Json.int).getD .null),
    ("value", .int c.value)] (by simp)
  rw [Command.toJson, Json.sorted, Json.toValue]
  -- what matters from here on is what is found under each name
  generalize Json.fieldsToValue _ = es at hfield ⊢
  have haddress : Decode.required "address" Decode.integer es = .ok c.address :=
    Decode.required_of_field (hfield (v := .int c.address) (by simp)) rfl
  have hmnemonic : Decode.withDefault "mnemonic" Decode.text "" es = .ok c.mnemonic :=
    Decode.withDefault_of_field (hfield (v := .text c.mnemonic) (by simp)) rfl
  have hargument : Decode.withDefault "argument" (Decode.optional Decode.integer) none es
      = .ok c.argument :=
    Decode.withDefault_of_field (hfield (by simp)) (hinteger c.argument)
  have hlabel : Decode.withDefault "label" (Decode.optional Decode.text) none es = .ok c.label :=
    Decode.withDefault_of_field (hfield (by simp)) (htext c.label)
  have hline : Decode.withDefault "line" (Decode.optional Decode.integer) none es = .ok c.line :=
    Decode.withDefault_of_field (hfield (by simp)) (hinteger c.line)
  have hvalue : Decode.withDefault "value" Decode.integer 0 es = .ok c.value :=
    Decode.withDefault_of_field (hfield (v := .int c.value) (by simp)) rfl
  rw [Command.decode, Decode.record, haddress, hmnemonic, hargument, hlabel, hline, hvalue]
  rfl

namespace Trace

/-- A cell as a field of JSON: its address in decimal, and its value. -/
def cellField (e : Int × Int) : Text × Json := (Text.ofString (toString e.1), .int e.2)

/-- A trace as JSON, with a form for the place of each update in its log. -/
def toJson (form : Nat → Nat → UpdateForm) (t : Trace) : Json :=
  .object [("schema_version", .text t.schemaVersion), ("source", .text t.source),
    ("labels", .object (t.labels.entries.map fun e => (e.1, .int e.2))),
    ("commands", .list (t.commands.map Command.toJson)),
    ("initial_values", .object (t.initialValues.entries.map cellField)),
    ("updates", t.log.toJson form)]

/-- The name of an address is decoded to it. -/
theorem decode_cellName {a : Int} (h : Integer.isWritable a = true) :
    Decode.integer (.text (Text.ofString (toString a))) = .ok a := by
  simp only [Decode.integer, Decode.textOf?, Decode.whole, Text.string?_ofString,
    Decode.integerOfText, Integer.ofField_toString h]

/-- A trace is decoded from each of its written forms, if its addresses can be written as names. -/
theorem decode_toJson {t : Trace}
    (hwritable : ∀ e ∈ t.initialValues.entries, Integer.isWritable e.1 = true)
    (form : Nat → Nat → UpdateForm) : Trace.decode (t.toJson form).sorted.toValue = .ok t := by
  have hlabels : Decode.sortedMap Decode.text Decode.integer
      (Json.object (t.labels.entries.map fun e => (e.1, .int e.2))).sorted.toValue = .ok t.labels :=
    Json.sortedMap_sorted (fun _ _ => rfl) (fun _ _ => rfl)
  have hcells : Decode.sortedMap Decode.integer Decode.integer
      (Json.object (t.initialValues.entries.map cellField)).sorted.toValue
        = .ok t.initialValues :=
    Json.sortedMap_sorted (fun e he => decode_cellName (hwritable e he)) (fun _ _ => rfl)
  have hcommands : Decode.list Command.decode
      (Json.list (t.commands.map Command.toJson)).sorted.toValue = .ok t.commands := by
    rw [Json.toValue_sorted_list, List.map_map]
    exact Decode.list_of_forall₂ (List.forall₂_map_left_iff.mpr
      (List.forall₂_same.mpr fun c _ => c.decode_toJson))
  have hfield := Json.field?_sorted [("schema_version", .text t.schemaVersion),
    ("source", .text t.source),
    ("labels", .object (t.labels.entries.map fun e => (e.1, .int e.2))),
    ("commands", .list (t.commands.map Command.toJson)),
    ("initial_values", .object (t.initialValues.entries.map cellField)),
    ("updates", t.log.toJson form)] (by simp)
  -- the document is an object, so its fields are found by name as those of a command are
  rw [toJson, Json.sorted, Json.toValue]
  generalize Json.fieldsToValue _ = es at hfield ⊢
  have hschema : Decode.withDefault "schema_version" Decode.text "1.0" es = .ok t.schemaVersion :=
    Decode.withDefault_of_field (hfield (v := .text t.schemaVersion) (by simp)) rfl
  have hsource : Decode.withDefault "source" Decode.text "" es = .ok t.source :=
    Decode.withDefault_of_field (hfield (v := .text t.source) (by simp)) rfl
  have hlabels : Decode.withDefault "labels" (Decode.sortedMap Decode.text Decode.integer) .empty es
      = .ok t.labels :=
    Decode.withDefault_of_field (hfield (by simp)) hlabels
  have hcommands : Decode.withDefault "commands" (Decode.list Command.decode) [] es
      = .ok t.commands :=
    Decode.withDefault_of_field (hfield (by simp)) hcommands
  have hcells : Decode.withDefault "initial_values"
      (Decode.sortedMap Decode.integer Decode.integer) .empty es = .ok t.initialValues :=
    Decode.withDefault_of_field (hfield (by simp)) hcells
  have hlog : Decode.withDefault "updates" Log.decode [] es = .ok t.log :=
    Decode.withDefault_of_field (hfield (by simp)) (Log.decode_toJson t.log form)
  rw [Trace.decode, Decode.record, hschema, hsource, hlabels, hcommands, hcells, hlog]
  rfl

end Trace

/-! ## Written so that it can be read -/

section Plain

variable {P : Text → Prop}

theorem Command.plain_toJson {c : Command} (h : ∀ n ∈ c.integers, Integer.isWritable n = true)
    (htexts : ∀ t ∈ c.texts, P t) (d : Nat) : Json.Plain P (d + 1) c.toJson := by
  refine .object (by simp) (by simp) ?_
  simp only [List.forall_mem_cons, List.not_mem_nil, false_implies, implies_true, and_true]
  exact ⟨.int (h _ (by simp [integers])), .text (htexts _ (by simp [texts])),
    .orNull fun m hm => .int (h m (by simp [integers, Option.mem_def.mp hm])),
    .orNull fun t ht => .text (htexts t (by simp [texts, Option.mem_def.mp ht])),
    .orNull fun m hm => .int (h m (by simp [integers, Option.mem_def.mp hm])),
    .int (h _ (by simp [integers]))⟩

theorem Update.plain_toJson {u : Update} (h : ∀ n ∈ u.triple, Integer.isWritable n = true)
    (form : UpdateForm) (d : Nat) : Json.Plain P (d + 1) (u.toJson form) := by
  cases form with
  | triple =>
    refine .list fun v hv => ?_
    obtain ⟨n, hn, rfl⟩ := List.mem_map.mp hv
    exact .int (h n hn)
  | record =>
    simp only [triple, List.forall_mem_cons, List.not_mem_nil, false_implies, implies_true,
      and_true] at h
    refine .object (by simp) (by simp) ?_
    simp only [List.forall_mem_cons, List.not_mem_nil, false_implies, implies_true, and_true]
    exact ⟨.int h.1, .int h.2.1, .int h.2.2⟩

theorem mem_mapIdx {α β : Type} {f : Nat → α → β} {as : List α} {b : β} (h : b ∈ as.mapIdx f) :
    ∃ i, ∃ a ∈ as, b = f i a := by
  obtain ⟨i, hi, rfl⟩ := List.mem_mapIdx.mp h
  exact ⟨i, as[i], List.getElem_mem hi, rfl⟩

/-- Every written form of a trace can be read back if its integers can be written and its texts have
no halves. -/
theorem Trace.plain_toJson {t : Trace} (h : ∀ n ∈ t.integers, Integer.isWritable n = true)
    (htexts : ∀ s ∈ t.texts, s.isWhole = true) (form : Nat → Nat → UpdateForm) (d : Nat) :
    Json.Plain (·.isWhole = true) (d + 4) (t.toJson form) := by
  have hlabels : Json.Plain (·.isWhole = true) (d + 3)
      (.object (t.labels.entries.map fun e => (e.1, .int e.2))) := by
    -- labels have different names, for a name is read back as itself
    have hname : ∀ e ∈ t.labels.entries, Decode.text (.text e.1) = .ok e.1 := fun _ _ => rfl
    refine .object (Json.nodup_names hname) ?_ ?_
    · intro f hf
      obtain ⟨e, he, rfl⟩ := List.mem_map.mp hf
      refine htexts _ ?_
      simp only [texts, List.mem_append, List.mem_cons]
      exact .inl (.inr (.inr (List.mem_map_of_mem he)))
    · intro f hf
      obtain ⟨e, he, rfl⟩ := List.mem_map.mp hf
      exact .int (h _ (mem_integers_of_label he))
  have hcommands : Json.Plain (·.isWhole = true) (d + 3)
      (.list (t.commands.map Command.toJson)) := by
    refine .list fun v hv => ?_
    obtain ⟨c, hc, rfl⟩ := List.mem_map.mp hv
    refine Command.plain_toJson (fun n hn => h n (mem_integers_of_command hc hn))
      (fun s hs => htexts s ?_) _
    exact List.mem_append_right _ (List.mem_flatMap.mpr ⟨c, hc, hs⟩)
  have hcells : Json.Plain (·.isWhole = true) (d + 3)
      (.object (t.initialValues.entries.map cellField)) := by
    refine .object (Json.nodup_names fun e he =>
      decode_cellName (h _ (mem_integers_of_cell he).1)) ?_ ?_
    · intro f hf
      obtain ⟨e, he, rfl⟩ := List.mem_map.mp hf
      exact Text.isWhole_ofString _
    · intro f hf
      obtain ⟨e, he, rfl⟩ := List.mem_map.mp hf
      exact .int (h _ (mem_integers_of_cell he).2)
  have hlog : Json.Plain (·.isWhole = true) (d + 3) (t.log.toJson form) := by
    refine .list fun v hv => ?_
    obtain ⟨i, step, hstep, rfl⟩ := mem_mapIdx hv
    refine .list fun w hw => ?_
    obtain ⟨j, u, hu, rfl⟩ := mem_mapIdx hw
    exact Update.plain_toJson (fun n hn => h n (mem_integers_of_update hstep hu hn)) _ d
  refine .object (by simp) (by simp) ?_
  simp only [List.forall_mem_cons, List.not_mem_nil, false_implies, implies_true, and_true]
  exact ⟨.text (htexts _ (by simp [texts])), .text (htexts _ (by simp [texts])), hlabels,
    hcommands, hcells, hlog⟩

end Plain

/-! ## Files -/

/-- Printable ASCII has no breaks of lines. -/
theorem unixLines_of_printable {cs : List Char} (h : ∀ c ∈ cs, ' ' ≤ c ∧ c ≤ '~') :
    unixLines cs = cs := by
  induction cs with
  | nil => rfl
  | cons c cs ih =>
    have hc : c ≠ '\r' := by
      rintro rfl
      exact absurd (h _ (List.mem_cons_self ..)).1 (by decide)
    have hcs := ih fun d hd => h d (List.mem_cons_of_mem _ hd)
    simp [unixLines, hc, hcs]

theorem Files.text_of_canonical {files : Files} {path : Path} {v : Json} {P : Text → Prop} {d : Nat}
    (h : v.Plain P d)
    (hfile : files path.text = .ok (v.canonicalChars.flatMap String.utf8EncodeChar)) :
    files.text path.text = .ok (String.ofList v.canonicalChars) := by
  refine text_of_bytes hfile ?_
  rw [textOfBytes?, decodeUtf8?_encode, Option.map_some,
    unixLines_of_printable fun c => h.printable_canonical]

theorem Trace.ofData_of_decode {v : Value} {t : Trace} (h : decode v = .ok t) :
    ofData v = .ok t := by
  cases v with
  | map entries =>
    rw [ofData, h]
    rfl
  | _ => cases h

/-- A JSON file with the canonical form of a trace loads as the trace, if its integers can be read
and its texts have no halves. -/
theorem Trace.load_written {t : Trace} {form : Nat → Nat → UpdateForm} {files : Files} {path : Path}
    (hwritable : ∀ n ∈ t.integers, Integer.isWritable n = true)
    (htexts : ∀ s ∈ t.texts, s.isWhole = true) (hroom : 4 ≤ files.jsonDepth)
    (hjson : path.isJson = true)
    (hfile : files path.text
      = .ok ((t.toJson form).canonicalChars.flatMap String.utf8EncodeChar)) :
    (load files path).result = .ok t := by
  obtain ⟨d, hd⟩ := Nat.exists_eq_add_of_le' hroom
  have hplain := plain_toJson hwritable htexts form d
  have hdata : files.data path = .ok (t.toJson form).sorted.toValue := by
    rw [Files.data_of_text (Files.text_of_canonical hplain hfile), if_pos hjson, Files.ofJson, hd,
      Json.ofText_canonical hplain, hplain.joined_sorted]
  have hdecode := decode_toJson (fun e he => hwritable _ (mem_integers_of_cell he).1) form
  rw [load_result, hdata, Except.bind]
  exact ofData_of_decode hdecode

/-- **Loading undoes canonical writing.**  A trace, whatever the forms of its updates, has a canonical
text.  A JSON file with that text loads as the trace, and opening it under any options ends as
building the trace does: with the same violation, or with the same timeline.  Its integers have
fewer digits than are read at most, no text in it has a half, and there is room for the four levels
of the text. -/
theorem Trace.load_canonical {t : Trace} {form : Nat → Nat → UpdateForm}
    (hdigits : ∀ n ∈ t.integers, (Nat.toDigits 10 n.natAbs).length < Integer.maxDigits)
    (htexts : ∀ s ∈ t.texts, s.isWhole = true) :
    ∃ text, (t.toJson form).canonical? = some text ∧
      ∀ (files : Files) (path : Path), 4 ≤ files.jsonDepth → path.isJson = true →
        files path.text = .ok (text.toList.flatMap String.utf8EncodeChar) →
        (load files path).result = .ok t ∧
          ∀ {ι : Type} (options : Options),
            (∃ v, (Timeline.build t options : Journaled Fault (Timeline ι)).result
                = .error (.inconsistentLog v) ∧
              (Timeline.ofFile files path options : Journaled OpenFailure (Timeline ι)).result
                = .error (.fault (.inconsistentLog v))) ∨
            ∃ s : Timeline ι, (Timeline.build t options).result = .ok s ∧
              (Timeline.ofFile files path options).result = .ok s := by
  have hwritable : ∀ n ∈ t.integers, Integer.isWritable n = true :=
    Integer.forall_isWritable fun n hn => Nat.le_of_lt (hdigits n hn)
  have hplain := plain_toJson hwritable htexts form 0
  refine ⟨_, if_pos hplain.isWritable, fun files path hroom hjson hfile => ?_⟩
  rw [String.toList_ofList] at hfile
  have hload : (load files path).result = .ok t := load_written hwritable htexts hroom hjson hfile
  refine ⟨hload, fun {ι} options => ?_⟩
  rw [Timeline.ofFile_of_load hload]
  cases hbuild : (Timeline.build t options : Journaled Fault (Timeline ι)).result with
  | ok s => exact .inr ⟨s, rfl, rfl⟩
  | error e =>
    -- whatever the violation names are integers of the trace, so its wording can be written
    obtain ⟨v, rfl⟩ := Timeline.build_violation_of_writable hwritable hbuild
    exact .inl ⟨v, rfl, rfl⟩

/-- Both forms of an update in one step, and a label with a quote and a character that is written as
a pair of halves. -/
theorem Trace.load_canonical_both_forms :
    let t : Trace := {
      labels := .ofList [("\"😀", 5)]
      commands := [⟨0, "LOADK", some (-7), none, some 1, 3⟩]
      initialValues := .ofList [(5, -12)]
      log := [[⟨5, -12, 3⟩, ⟨-2, 0, 3⟩]] }
    let form : Nat → Nat → UpdateForm := fun _ j => if j = 0 then .triple else .record
    let path : Path := ⟨"", ["t.JSON"]⟩
    ∃ text, (t.toJson form).canonical? = some text ∧
      let files : Files := ⟨fun _ => .ok (text.toList.flatMap String.utf8EncodeChar), 990, 490⟩
      (load files path).result = .ok t ∧
        ∀ {ι : Type} (options : Options),
          (∃ v, (Timeline.build t options : Journaled Fault (Timeline ι)).result
              = .error (.inconsistentLog v) ∧
            (Timeline.ofFile files path options : Journaled OpenFailure (Timeline ι)).result
              = .error (.fault (.inconsistentLog v))) ∨
          ∃ s : Timeline ι, (Timeline.build t options).result = .ok s ∧
            (Timeline.ofFile files path options).result = .ok s := by
  intro t form path
  have hdigits : ∀ n ∈ t.integers, (Nat.toDigits 10 n.natAbs).length < Integer.maxDigits := by
    decide
  have hroom : 4 ≤ 990 := by decide
  obtain ⟨text, htext, hload⟩ := @load_canonical t form hdigits (by decide)
  exact ⟨text, htext, hload _ path hroom (by decide) rfl⟩

end Rewind
