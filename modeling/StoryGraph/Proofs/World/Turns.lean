import Mathlib.Data.List.Forall2
import StoryGraph.Proofs.Engine.Serve
import StoryGraph.Proofs.Number.Range
import StoryGraph.Proofs.Walk.Routing

/-!
Turns. Main statement: as long as no graph waits for the end of a turn, turns add up. So many of them take their number
from what every modifier has left, end those that have no more than that left, add it to the counts of turns and
rounds, and change nothing else.
-/

namespace StoryGraph

/-- The count is higher by so many, or at the end of the range if that comes first. -/
def Whole.RaisedBy (n : Nat) (a b : Int64) : Prop := b.toInt = min (a.toInt + n) Int64.maxValue.toInt

/-- The same modifier, with so many turns less to go. -/
structure Modifier.LoweredBy (n : Nat) (m m' : Modifier) : Prop where
  same : m' = { m with remainingTurns := m'.remainingTurns }
  less : m'.remainingTurns.toInt = m.remainingTurns.toInt - n

/-- The same combat, so many rounds later. -/
structure Combat.RaisedBy (n : Nat) (c c' : Combat) : Prop where
  same : c' = { c with round := c'.round }
  more : Whole.RaisedBy n c.round c'.round

def Modifier.outlasts (n : Nat) (m : Modifier) : Bool := decide (n < m.remainingTurns.toInt)

/-- The world so many turns later, if nothing else happens. -/
structure World.LaterBy (n : Nat) (w w' : World) : Prop where
  turn : Whole.RaisedBy n w.game.turn w'.game.turn
  modifiers : List.Forall₂ (Modifier.LoweredBy n) (w.modifiers.filter (Modifier.outlasts n)) w'.modifiers
  combat : Option.Rel (Combat.RaisedBy n) w.combat w'.combat
  rest : w' = { w with
    game := { w.game with turn := w'.game.turn }, modifiers := w'.modifiers, combat := w'.combat }

variable {m n : Nat}

/-! One turn. -/

theorem Whole.raisedBy_plus (a : Int64) : RaisedBy 1 a (plus a 1) := toInt_next a

theorem Whole.toInt_minus_one (a : Int64) : (minus a 1).toInt = max Int64.minValue.toInt (a.toInt - 1) := by
  have greatest := a.toInt_le
  have one : (1 : Int64).toInt = 1 := rfl
  rw [toInt_minus, nearest, one]
  omega

namespace Modifier

theorem outlasts_iff {a : Modifier} : a.outlasts n = true ↔ n < a.remainingTurns.toInt := decide_eq_true_iff

/-- The modifier at the end of the turn. -/
def lower (a : Modifier) : Modifier := { a with remainingTurns := Whole.minus a.remainingTurns 1 }

/-- At the lower end of the range a modifier stays where it is, so it does not come back as one that lasts. -/
theorem lower_lasts_iff (a : Modifier) : 0 < a.lower.remainingTurns ↔ a.outlasts 1 = true := by
  have order : Int64.minValue.toInt < 0 := by decide
  have zero : (0 : Int64).toInt = 0 := rfl
  rw [outlasts_iff, Int64.lt_iff_toInt_lt, lower, Whole.toInt_minus_one, zero]
  omega

theorem loweredBy_lower {a : Modifier} (lasts : a.outlasts 1 = true) : a.LoweredBy 1 a.lower := by
  have order : Int64.minValue.toInt < 0 := by decide
  have long := outlasts_iff.1 lasts
  refine ⟨rfl, ?_⟩
  rw [lower, Whole.toInt_minus_one]
  omega

theorem loweredBy_tick (l : List Modifier) : List.Forall₂ (LoweredBy 1) (l.filter (outlasts 1))
    ((l.map lower).filter fun a => decide (0 < a.remainingTurns)) := by
  induction l with
  | nil => exact .nil
  | cons a rest ih =>
    rw [List.map_cons, List.filter_cons, List.filter_cons]
    by_cases lasts : a.outlasts 1 = true
    · rw [if_pos lasts, if_pos (decide_eq_true (a.lower_lasts_iff.2 lasts))]
      exact .cons (loweredBy_lower lasts) ih
    · have ended : ¬ 0 < a.lower.remainingTurns := mt a.lower_lasts_iff.1 lasts
      rw [if_neg lasts, if_neg (by simpa using ended)]
      exact ih

end Modifier

theorem World.laterBy_tick (w : World) : w.LaterBy 1 w.tick where
  turn := Whole.raisedBy_plus w.game.turn
  modifiers := Modifier.loweredBy_tick w.modifiers
  combat := by
    cases combat : w.combat with
    | none => simp [tick, combat]
    | some c => simpa [tick, combat] using ⟨rfl, Whole.raisedBy_plus c.round⟩
  rest := rfl

/-! One turn after the other. -/

theorem Whole.RaisedBy.trans {a b c : Int64} (h : RaisedBy m a b) (h' : RaisedBy n b c) : RaisedBy (m + n) a c := by
  simp only [RaisedBy] at *
  omega

namespace Modifier

theorem LoweredBy.trans {a b c : Modifier} (h : LoweredBy m a b) (h' : LoweredBy n b c) : LoweredBy (m + n) a c where
  same := by rw [h'.same, h.same]
  less := by
    have first := h.less
    have second := h'.less
    omega

theorem LoweredBy.outlasts_iff {a b : Modifier} (h : LoweredBy m a b) :
    a.outlasts (m + n) = true ↔ b.outlasts n = true := by
  have less := h.less
  rw [Modifier.outlasts_iff, Modifier.outlasts_iff]
  omega

theorem outlasts_of_add {a : Modifier} (h : a.outlasts (m + n) = true) : a.outlasts m = true := by
  rw [outlasts_iff] at *
  omega

/-- What is left after some turns and then after some more is what is left after all of them. -/
theorem loweredBy_add {l l' l'' : List Modifier} (h : List.Forall₂ (LoweredBy m) (l.filter (outlasts m)) l')
    (h' : List.Forall₂ (LoweredBy n) (l'.filter (outlasts n)) l'') :
    List.Forall₂ (LoweredBy (m + n)) (l.filter (outlasts (m + n))) l'' := by
  induction l generalizing l' l'' with
  | nil =>
    cases h
    cases h'
    exact .nil
  | cons a rest ih =>
    rw [List.filter_cons] at h ⊢
    by_cases first : a.outlasts m = true
    · rw [if_pos first] at h
      cases h with
      | @cons _ b _ _ low later =>
        rw [List.filter_cons] at h'
        by_cases second : b.outlasts n = true
        · rw [if_pos second] at h'
          cases h' with
          | cons low' later' =>
            rw [if_pos (low.outlasts_iff.2 second)]
            exact .cons (low.trans low') (ih later later')
        · rw [if_neg second] at h'
          rw [if_neg (mt low.outlasts_iff.1 second)]
          exact ih later h'
    · rw [if_neg first] at h
      rw [if_neg (mt outlasts_of_add first)]
      exact ih h h'

end Modifier

theorem Combat.RaisedBy.trans {a b c : Combat} (h : RaisedBy m a b) (h' : RaisedBy n b c) : RaisedBy (m + n) a c where
  same := by rw [h'.same, h.same]
  more := h.more.trans h'.more

theorem World.LaterBy.trans {w w' w'' : World} (h : w.LaterBy m w') (h' : w'.LaterBy n w'') :
    w.LaterBy (m + n) w'' where
  turn := h.turn.trans h'.turn
  modifiers := Modifier.loweredBy_add h.modifiers h'.modifiers
  combat := by
    have first := h.combat
    have second := h'.combat
    generalize w.combat = a, w'.combat = b, w''.combat = c at first second ⊢
    cases first with
    | none =>
      cases second
      exact .none
    | some first =>
      cases second with
      | some second => exact .some (first.trans second)
  rest := by rw [h'.rest, h.rest]

namespace Surroundings

variable {s : Surroundings}

theorem entriesForAnyOwner_of_deaf {l : Library} {tag : String} (deaf : ∀ g ∈ l, ¬ g.Awaits tag) :
    l.entriesForAnyOwner tag = [] := by
  refine List.filterMap_eq_nil_iff.2 fun g mem => ?_
  have none : g.entryNode? tag = none := by
    rw [← Option.not_isSome_iff_eq_none, Graph.isSome_entryNode?_iff]
    exact deaf g mem
  rw [none, Option.map_none]

theorem advanceTurn_of_deaf (deaf : ∀ g ∈ s.library, ¬ g.Awaits "Event_OnTurnEnd") (r : Run) :
    (s.advanceTurn r).2 = { r with world := r.world.tick } := by
  have none : s.library.entriesForAnyOwner (NodeType.event .onTurnEnd).tag = [] := entriesForAnyOwner_of_deaf deaf
  rw [advanceTurn, broadcast, none]
  rfl

/-- Turns, one or more of them and each at an instant of its own, add up. -/
theorem turns_add_up (s : Surroundings) (deaf : ∀ g ∈ s.library, ¬ g.Awaits "Event_OnTurnEnd") (times : List Nat)
    (several : 1 ≤ times.length) (r : Run) :
    r.world.LaterBy times.length (s.serve (times.map fun t => (t, .advanceTurn)) r).2.world := by
  induction times generalizing r with
  | nil => simp at several
  | cons t rest ih =>
    have here : ((Command.advanceTurn.perform s (r.resume t)).2).world = r.world.tick := by
      show (s.advanceTurn (r.resume t)).2.world = _
      rw [advanceTurn_of_deaf deaf]
      rfl
    have turned := r.world.laterBy_tick
    rw [← here] at turned
    cases rest with
    | nil => exact turned
    | cons next others =>
      have later := ih (by simp) (Command.advanceTurn.perform s (r.resume t)).2
      rw [List.length_cons, Nat.add_comm]
      exact turned.trans later

/-- Of three modifiers two turns leave one; the one from the lower end of the range stays away. -/
theorem turns_add_up_twice :
    let talk : Graph := { id := "talk", nodes := [{ id := "start", typeTag := "Event_OnTalk" }] }
    let s : Surroundings := { registry := .builtins, library := [talk], settings := {}, draws := .ofSeed 7 }
    let w : World :=
      { modifiers := [⟨"short", "Health", 1, 1⟩, ⟨"long", "Health", 1, 3⟩, ⟨"cursed", "Health", -1, Int64.minValue⟩]
        combat := some ⟨"guard", 4⟩
        game := { turn := 9223372036854775806 } }
    let calls := [3, 8].map fun t => (t, Command.advanceTurn)
    let w' := (s.serve calls { world := w }).2.world
    (∀ g ∈ s.library, ¬ g.Awaits "Event_OnTurnEnd") ∧ w.LaterBy 2 w' ∧
      w'.modifiers = [⟨"long", "Health", 1, 1⟩] ∧ w'.combat = some ⟨"guard", 6⟩ ∧ w'.game.turn = Int64.maxValue := by
  intro talk s w calls w'
  have deaf : ∀ g ∈ s.library, ¬ g.Awaits "Event_OnTurnEnd" := by
    refine List.forall_mem_singleton.2 ?_
    rintro ⟨n, mem, -, same⟩
    cases List.mem_singleton.1 mem
    exact absurd same (by decide +kernel)
  have later := s.turns_add_up deaf [3, 8] (by decide) { world := w }
  have world : w' = w.tick.tick := by
    simp only [w', calls, List.map_cons, List.map_nil, serve, Command.perform, advanceTurn_of_deaf deaf]
    rfl
  refine ⟨deaf, later, ?_⟩
  rw [world]
  decide +kernel

end Surroundings

end StoryGraph
