import Mathlib.Data.List.Forall2
import CqlDispatch.Failure
/-!
# Checks of settings

What is wrong with settings is found step by step.  `Checks` puts a step as what must be for it to go on and what it
then gives, or the refusal; steps one after the other are checked by `Checks.bind`, and an entry that may be left out
by `Checks.option`.  What an entry means for a setting, and what holds without it, is `Follows`.
-/
namespace CqlDispatch

/-- A step that goes on exactly where `valid` holds and then gives what `gives`; else the settings are refused. -/
inductive Checks {α : Type} (valid : Prop) (gives : α → Prop) : Except Failure α → Prop
  | accepts {x} (ok : valid) (h : gives x) : Checks valid gives (.ok x)
  | refuses {m} (bad : ¬valid) : Checks valid gives (.error (.configuration m))

/-- What an entry means is in effect, and where it is left out the usual. -/
def Follows {α β : Type} (means : α → β → Prop) (entry : Option α) (usual x : β) : Prop :=
  match entry with
  | some e => means e x
  | none => x = usual

namespace Checks

variable {α β : Type} {P P' : Prop} {Q : α → Prop} {R : β → Prop} {x : Except Failure α}

theorem done {a : α} (h : Q a) : Checks True Q (.ok a) := .accepts trivial h

theorem iff (h : Checks P Q x) (hP : P ↔ P') : Checks P' Q x := by
  cases h with
  | accepts ok h => exact .accepts (hP.1 ok) h
  | refuses bad => exact .refuses (mt hP.2 bad)

theorem imp {Q' : α → Prop} (h : Checks P Q x) (hQ : ∀ a, Q a → Q' a) : Checks P Q' x := by
  cases h with
  | accepts ok h => exact .accepts ok (hQ _ h)
  | refuses bad => exact .refuses bad

theorem bind {f : α → Except Failure β} (hx : Checks P Q x) (hf : ∀ a, Q a → Checks P' R (f a)) :
    Checks (P ∧ P') R (x >>= f) := by
  cases hx with
  | refuses bad => exact .refuses fun h => bad h.1
  | @accepts a ok h =>
    show Checks (P ∧ P') R (f a)
    exact (hf a h).iff (by simp [ok])

theorem refusing {c : Prop} {_ : Decidable c} {m : String} (h : Checks P Q x) :
    Checks (¬c ∧ P) Q (if c then .error (.configuration m) else x) := by
  by_cases hc : c
  · rw [if_pos hc]
    exact .refuses fun h => h.1 hc
  · rw [if_neg hc]
    exact h.iff (by simp [hc])

section Each

variable {f : α → Except Failure β} {valid : α → Prop} {means : α → β → Prop}
  (hf : ∀ e, Checks (valid e) (means e) (f e))
include hf

theorem option (entry : Option α) : Checks (∀ e ∈ entry, valid e) (Option.Rel means entry) (entry.mapM f) := by
  cases entry with
  | none => exact .accepts (by simp) .none
  | some e =>
    have steps : Checks (valid e ∧ True) (Option.Rel means (some e)) (f e >>= fun x => .ok (some x)) :=
      (hf e).bind fun x h => .done (.some h)
    exact steps.iff (by simp)

theorem list : ∀ es : List α, Checks (∀ e ∈ es, valid e) (List.Forall₂ means es) (es.mapM f)
  | [] => .accepts (by simp) .nil
  | e :: es => by
    have steps : Checks (valid e ∧ (∀ e ∈ es, valid e) ∧ True) (List.Forall₂ means (e :: es))
        (f e >>= fun x => es.mapM f >>= fun xs => .ok (x :: xs)) :=
      (hf e).bind fun x h => (list es).bind fun xs hs => .done (.cons h hs)
    rw [List.mapM_cons]
    exact steps.iff (by simp)

end Each

end Checks

namespace Follows

variable {α β : Type} {means : α → β → Prop} {entry : Option α}

theorem of_rel {value : Option β} (h : Option.Rel means entry value) (usual : β) :
    Follows means entry usual (value.getD usual) := by
  cases h with
  | none => rfl
  | some h => exact h

theorem of_rel_some {value : Option β} (h : Option.Rel means entry value) :
    Follows (fun e x => ∃ v, means e v ∧ x = some v) entry none value := by
  cases h with
  | none => rfl
  | some h => exact ⟨_, h, rfl⟩

theorem of_map (f : α → β) (entry : Option α) (usual : β) :
    Follows (fun e x => x = f e) entry usual ((entry.map f).getD usual) := by
  cases entry <;> rfl

theorem of_getD (entry : Option α) (usual : α) : Follows (fun e x => x = e) entry usual (entry.getD usual) := by
  cases entry <;> rfl

theorem of_or (entry usual : Option α) : Follows (fun e x => x = some e) entry usual (entry.or usual) := by
  cases entry <;> rfl

end Follows

/-- What is read from an entry is all that can be. -/
theorem rel_ok_iff {α β ε : Type} {f : α → Except ε β} {p : β → Prop} {entry : Option α} {value : Option β}
    (h : Option.Rel (fun e x => f e = .ok x) entry value) :
    (∀ x ∈ value, p x) ↔ ∀ e ∈ entry, ∀ x, f e = .ok x → p x := by
  cases h with
  | none => simp
  | some h => simp [h]

theorem getD_ne_iff {α : Type} {o : Option α} {a b : α} (h : a ≠ b) : o.getD a ≠ b ↔ o ≠ some b := by
  cases o <;> simp [h]

theorem or_ne_iff {α : Type} {o p : Option α} {a : α} (h : p ≠ some a) : o.or p ≠ some a ↔ o ≠ some a := by
  cases o <;> simp [h]

end CqlDispatch
