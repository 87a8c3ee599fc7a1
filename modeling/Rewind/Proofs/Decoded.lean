import Mathlib.Data.List.Forall2
import Mathlib.Tactic.Common
import Rewind.Decoding.Trace

/-!
# Two views of decoding

A decoded value is looked at from two sides.  `Except.toOption` keeps the value that was accepted and
forgets what is wrong; `Decoded.issues` keeps what is wrong and forgets the value.  Each way of
putting decoders together has one equation for either view: the values of the parts are put together
where all are there, and their issues are put behind each other.
-/

namespace Rewind

/-- The issue as seen from one step further out. -/
def Issue.behind (place : Place) (i : Issue) : Issue := { i with path := place :: i.path }

namespace Decoded

variable {α β : Type}

/-- What is wrong; nothing, if a value was accepted. -/
def issues : Decoded α → List Issue
  | .ok _ => []
  | .error issues => issues

theorem toOption_eq_some_iff {d : Decoded α} {a : α} : d.toOption = some a ↔ d = .ok a := by
  cases d <;> simp [Except.toOption]

@[simp] theorem toOption_map (f : α → β) (d : Decoded α) :
    (d.map f).toOption = d.toOption.map f := by
  cases d <;> rfl

@[simp] theorem toOption_within (place : Place) (d : Decoded α) :
    (d.within place).toOption = d.toOption := by
  cases d <;> rfl

@[simp] theorem toOption_ap (f : Decoded (α → β)) (d : Decoded α) :
    (ap f d).toOption = f.toOption.bind d.toOption.map := by
  cases f <;> cases d <;> rfl

theorem toOption_all (ds : List (Decoded α)) : (all ds).toOption = ds.mapM Except.toOption := by
  induction ds with
  | nil => rfl
  | cons d ds ih =>
    rw [all, toOption_ap, toOption_map, ih, List.mapM_cons]
    cases d.toOption <;> cases ds.mapM Except.toOption <;> rfl

theorem toOption_eachFrom (decode : α → Decoded β) (i : Nat) (as : List α) :
    (eachFrom decode i as).toOption = as.mapM fun a => (decode a).toOption := by
  induction as generalizing i with
  | nil => rfl
  | cons a as ih =>
    rw [eachFrom, toOption_ap, toOption_map, toOption_within, ih, List.mapM_cons]
    cases (decode a).toOption <;> cases as.mapM fun a => (decode a).toOption <;> rfl

theorem toOption_each (decode : α → Decoded β) (as : List α) :
    (each decode as).toOption = as.mapM fun a => (decode a).toOption :=
  toOption_eachFrom decode 0 as

/-! ## What is wrong -/

end Decoded

/-! ## Fields by name -/

namespace Value

/-- Whether a key is the name. -/
def isName (name : String) : Value → Bool
  | .text k => k = name
  | _ => false

theorem field?_eq_find? (name : String) (entries : List (Value × Value)) :
    field? name entries = (entries.find? fun e => e.1.isName name).map Prod.snd := by
  fun_induction field? name entries with
  | case1 => rfl
  | case2 v rest => simp [isName]
  | case3 k v rest hk ih =>
    rw [ih]
    simp [isName, hk]
  | case4 e rest hkey ih =>
    obtain ⟨k, v⟩ := e
    have hk : k.isName name = false := by
      cases k with
      | text k => exact (hkey k v rfl).elim
      | _ => rfl
    rw [ih, List.find?_cons_of_neg (by simp [hk])]

theorem field?_cons (name : String) (e : Value × Value) (entries : List (Value × Value)) :
    field? name (e :: entries) = if e.1.isName name then some e.2 else field? name entries := by
  rw [field?_eq_find?, field?_eq_find?, List.find?_cons]
  cases e.1.isName name <;> rfl

end Value

/-! ## Traversals that stop -/

section Traversals

variable {α β γ ε : Type}

/-- Two passes over a list are one, as far as success is concerned. -/
theorem mapM_bind_mapM (f : α → Option β) (g : β → Option γ) (as : List α) :
    (as.mapM f).bind (·.mapM g) = as.mapM fun a => (f a).bind g := by
  induction as with
  | nil => rfl
  | cons a as ih =>
    rw [List.mapM_cons, List.mapM_cons, ← ih]
    cases f a with
    | none => rfl
    | some b =>
      cases as.mapM f with
      | none => cases h : g b <;> simp [h]
      | some bs => simp [List.mapM_cons]

theorem mapM_congr_of_forall₂ {f : α → Option γ} {g : β → Option γ} {as : List α} {bs : List β}
    (h : List.Forall₂ (fun a b => f a = g b) as bs) : as.mapM f = bs.mapM g := by
  induction h with
  | nil => rfl
  | cons hab _ ih => rw [List.mapM_cons, List.mapM_cons, hab, ih]

variable {f : α → Except ε β}

theorem toOption_mapM (f : α → Except ε β) (as : List α) :
    (as.mapM f).toOption = as.mapM fun a => (f a).toOption := by
  induction as with
  | nil => rfl
  | cons a as ih =>
    rw [List.mapM_cons, List.mapM_cons, ← ih]
    cases f a with
    | error e => rfl
    | ok b => cases as.mapM f <;> rfl

/-- A traversal in which nothing fails succeeds, and its results are related as the single ones. -/
theorem exists_mapM_of_forall₂ {R : β → γ → Prop} {as : List α} {cs : List γ}
    (h : List.Forall₂ (fun a c => ∃ b, f a = .ok b ∧ R b c) as cs) :
    ∃ bs, as.mapM f = .ok bs ∧ List.Forall₂ R bs cs := by
  induction h with
  | nil => exact ⟨[], rfl, .nil⟩
  | cons hac _ ih =>
    obtain ⟨b, hb, hbc⟩ := hac
    obtain ⟨bs, hbs, hall⟩ := ih
    refine ⟨b :: bs, ?_, .cons hbc hall⟩
    rw [List.mapM_cons, hb, hbs]
    rfl

end Traversals

theorem entryDrafts_eq_mapM (vs : List Value) : entryDrafts vs = vs.mapM entryDraft := by
  induction vs with
  | nil => rfl
  | cons v vs ih =>
    rw [entryDrafts, List.mapM_cons, ih]
    cases entryDraft v with
    | error m => rfl
    | ok e => cases vs.mapM entryDraft <;> rfl

theorem stepDrafts_eq_mapM (vs : List Value) : stepDrafts vs = vs.mapM stepDraft := by
  induction vs with
  | nil => rfl
  | cons v vs ih =>
    rw [stepDrafts, List.mapM_cons, ih]
    cases stepDraft v with
    | error m => rfl
    | ok d => cases vs.mapM stepDraft <;> rfl

end Rewind
