import Mathlib.Data.List.Forall2

/-!
Lists whose items are related one by one. Main statement: what is found in two such lists, or picked from them, is
related if the test answers alike on related items.
-/

namespace StoryGraph

variable {α β γ : Type} {R : α → α → Prop} {S : β → γ → Prop} {l l' : List α}

theorem rel_find? {p q : α → Bool} (same : ∀ a b, R a b → q b = p a) (h : List.Forall₂ R l l') :
    Option.Rel R (l.find? p) (l'.find? q) := by
  induction h with
  | nil => exact .none
  | @cons a b l l' head _ ih =>
    have here := same a b head
    cases found : p a with
    | true => simpa [found, here] using Option.Rel.some head
    | false => simpa [found, here] using ih

theorem rel_filter {p q : α → Bool} (same : ∀ a b, R a b → q b = p a) (h : List.Forall₂ R l l') :
    List.Forall₂ R (l.filter p) (l'.filter q) :=
  List.rel_filter (R := R) (fun a b related => iff_of_eq (congrArg (· = true) (same a b related).symm)) h

theorem rel_head? (h : List.Forall₂ R l l') : Option.Rel R l.head? l'.head? := by
  cases h with
  | nil => exact .none
  | cons head _ => exact .some head

theorem rel_map {f : α → β} {g : α → γ} {o o' : Option α} (same : ∀ a b, R a b → S (f a) (g b))
    (h : Option.Rel R o o') : Option.Rel S (o.map f) (o'.map g) := by
  cases h with
  | none => exact .none
  | some related => exact .some (same _ _ related)

/-- What relates items under a condition relates them where all of them meet it. -/
theorem forall₂_of_forall {P : β → Prop} {l : List β} {l' : List γ}
    (h : List.Forall₂ (fun b c => P b → S b c) l l') (all : ∀ b ∈ l, P b) : List.Forall₂ S l l' := by
  induction h with
  | nil => exact .nil
  | cons head _ ih =>
    obtain ⟨here, there⟩ := List.forall_mem_cons.1 all
    exact .cons (head here) (ih there)

theorem forall_of_forall₂ {P : β → Prop} {Q : γ → Prop} {l : List β} {l' : List γ}
    (h : List.Forall₂ (fun b c => P b → Q c) l l') (all : ∀ b ∈ l, P b) : ∀ c ∈ l', Q c := by
  induction h with
  | nil => simp
  | cons head _ ih =>
    obtain ⟨here, there⟩ := List.forall_mem_cons.1 all
    exact List.forall_mem_cons.2 ⟨head here, ih there⟩

end StoryGraph
