import StoryGraph.Proofs.Property.Agreement

/-!
What a written property does to the world: there is something to write to exactly if there is something to read,
and then the one entity that is named is changed, by the one property that is named.
-/

namespace StoryGraph

namespace World

variable {w : World} {t : EntityType} {id property : String} {v : Value}

theorem isSome_setProperty? :
    (w.setProperty? t id property v).isSome = (w.getProperty? t id property).isSome := by
  rw [setProperty?_eq, getProperty?_eq]
  cases w.entity? t id with
  | none => rfl
  | some e => rw [Option.bind_some, Option.bind_some, Option.isSome_map, Option.isSome_map]

theorem world_writeProperty :
    (w.writeProperty t id property v).1 = (w.setProperty? t id property v).getD w := by
  simp only [writeProperty]
  split
  case h_1 written =>
    rw [written]
    split <;> rfl
  case h_2 unmet =>
    cases written : w.setProperty? t id property v with
    | none => rfl
    | some w' =>
      have read : (w.getProperty? t id property).isSome := by
        rw [← isSome_setProperty? (v := v), written]
        rfl
      obtain ⟨old, read⟩ := Option.isSome_iff_exists.1 read
      exact absurd written (unmet old w' read)

/-- Where there is nothing to write to, the world stays as it is. -/
theorem writeProperty_induction {P : World → Prop} (start : P w)
    (write : ∀ w', w.setProperty? t id property v = some w' → P w') : P (w.writeProperty t id property v).1 := by
  rw [world_writeProperty]
  cases written : w.setProperty? t id property v with
  | none => exact start
  | some w' => exact write w' written

end World

end StoryGraph
