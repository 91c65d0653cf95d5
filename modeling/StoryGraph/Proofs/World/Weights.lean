import StoryGraph.Proofs.Engine.Invariant
import StoryGraph.Proofs.Handler.Footprint
import StoryGraph.Proofs.Json.Numeric
import StoryGraph.Proofs.Property.Writing
import StoryGraph.Proofs.World.Document

/-!
The weights of a world's objects. Main statement: in a world that is read from a document every weight is a
number, and whatever the built-in handlers and the host do, every weight stays one.
-/

namespace StoryGraph

open Json (Record.get_cases hereditary_numeric numeric_float)

def GameObject.Weighed (e : GameObject) : Prop := e.weight.isNaN = false

/-- Every object's weight is a number. -/
def World.Weighed (w : World) : Prop := ∀ e ∈ w.objects, e.Weighed

/-! Reading. -/

theorem Json.isNaN_number? {j : Json} {x : Float} (h : j.number? = some x) (numbers : j.Numeric) :
    x.isNaN = false := by
  cases j with
  | int i =>
    cases h
    exact Binary.isNaN_ofInt i
  | float y =>
    cases h
    exact numeric_float.1 numbers
  | null | bool b | str s | arr items | obj fields | unreadable => cases h

theorem GameObject.weighed_ofJson? {j : Json} {e : GameObject} (h : ofJson? j = some e) (numbers : j.Numeric) :
    e.Weighed := by
  simp only [ofJson?, Option.bind_eq_bind, Option.bind_eq_some_iff] at h
  obtain ⟨r, record, _, -, _, -, _, -, _, -, _, -, _, -, _, -, _, -, _, -, weight, given, made⟩ := h
  cases made
  cases Record.get_cases given with
  | inl left => exact left ▸ Binary.isNaN_ofScientific _ _ _
  | inr given =>
    obtain ⟨f, mem, read⟩ := given
    exact Json.isNaN_number? read (hereditary_numeric.record? record numbers f mem)

theorem World.weighed_ofJson? {j : Json} {w : World} (h : ofJson? j = some w) (numbers : j.Numeric) :
    w.Weighed := by
  simp only [ofJson?, Option.bind_eq_bind, Option.bind_eq_some_iff] at h
  obtain ⟨r, record, _, -, _, -, _, -, objects, given, _, -, _, -, _, -, _, -, _, -, _, -, _, -, made⟩ := h
  cases made
  cases Record.get_cases given with
  | inl left =>
    intro e mem
    cases left ▸ mem
  | inr given =>
    obtain ⟨f, mem, read⟩ := given
    intro e inside
    obtain ⟨i, clean, item⟩ := hereditary_numeric.list? read inside (hereditary_numeric.record? record numbers f mem)
    exact GameObject.weighed_ofJson? item clean

/-! Writing properties. -/

theorem GameObject.weighed_set {p : Property GameObject} (listed : p ∈ properties) (v : Value) {e : GameObject}
    (h : e.Weighed) : (p.set v e).Weighed := by
  simp only [properties_eq, List.mem_cons, List.not_mem_nil, or_false] at listed
  obtain rfl | rfl | rfl | rfl | rfl | rfl | rfl | rfl | rfl := listed
  case inr.inr.inr.inr.inr.inr.inr.inr => exact Property.isNaN_notNegative _
  all_goals exact h

namespace World

variable {w w' : World}

/-- Weights are in the objects only. -/
theorem Weighed.of_changesOnly {parts : List Part} (h : w.Weighed) (change : ChangesOnly parts w w')
    (others : Part.objects ∉ parts) : w'.Weighed := by
  have same : w'.objects = w.objects := change .objects others
  rw [Weighed, same]
  exact h

theorem Weighed.modifyObject (h : w.Weighed) (id : String) {f : GameObject → GameObject}
    (keeps : ∀ e : GameObject, e.Weighed → (f e).Weighed) : (w.modifyObject id f).Weighed := by
  intro e mem
  cases mem_modifyFirst mem with
  | inl mem => exact h e mem
  | inr changed =>
    obtain ⟨e, found, rfl⟩ := changed
    exact keeps e (h e (List.mem_of_find?_eq_some found))

theorem Weighed.setProperty? (h : w.Weighed) {t : EntityType} {id property : String} {v : Value}
    (written : w.setProperty? t id property v = some w') : w'.Weighed := by
  cases t with
  | object =>
    obtain ⟨_, p, -, found, rfl⟩ := exists_of_setProperty? written
    exact h.modifyObject id fun e he => GameObject.weighed_set (List.mem_of_find?_eq_some found) v he
  | room | door | npc | player | game => exact h.of_changesOnly (changesOnly_setProperty? written) (by decide)

theorem Weighed.writeProperty (h : w.Weighed) (t : EntityType) (id property : String) (v : Value) :
    (w.writeProperty t id property v).1.Weighed :=
  writeProperty_induction h fun _ => h.setProperty?

end World

/-! Handlers. -/

namespace Act

/-- The action leaves every weight a number. -/
def Weighed (a : Act) : Prop := a.world.Weighed

theorem weighed_of (t : ActionType) {c : Call} (h : c.world.Weighed) : (of t c).Weighed := by
  have idle : (idle c).Weighed := h
  cases t with
  | giveItem | setObjectVisible | setObjectDescription =>
    exact withObject_induction idle fun o => h.modifyObject _ fun _ he => he
  | moveObject =>
    exact withObject_induction idle fun o => withRoom_induction idle fun r => h.modifyObject _ fun _ he => he
  | setProperty => exact setProperty_induction h h.writeProperty
  | _ => exact h.of_changesOnly (changesOnly_of _ c) (by decide)

end Act

theorem World.invariant_weighed : Invariant Weighed where
  act t _ := Act.weighed_of t
  dialogue t c h := h.of_changesOnly (Dialogue.changesOnly_act t c) (by cases t <;> decide)
  write _ t id property v h := h.writeProperty t id property v
  tick w h := h.of_changesOnly w.changesOnly_tick (by decide)

end StoryGraph
