import StoryGraph.Proofs.World.Entities

/-!
Entities of all types in one view: what is found under a type and an id, and what a change of it does to what is found
elsewhere. Main statements: a property is read from the entity that is found, a write changes that entity by that
property, and nothing else is found changed.
-/

namespace StoryGraph

namespace EntityType

/-- The id of an entity. There is one player and one game, and they have none. -/
def key : (t : EntityType) → t.Entity → String
  | room => Room.id
  | door => Door.id
  | npc => Npc.id
  | object => GameObject.id
  | player => fun _ => ""
  | game => fun _ => ""

/-- Whether two ids name one entity of the type. -/
def sameEntity (t : EntityType) (a b : String) : Bool := t.isSingleton || Text.sameName a b

theorem key_set {t : EntityType} {p : Property t.Entity} (listed : p ∈ t.table) (v : Value) (e : t.Entity) :
    t.key (p.set v e) = t.key e := by
  cases t with
  | room => exact Room.id_set listed v e
  | door => exact Door.id_set listed v e
  | npc => exact Npc.id_set listed v e
  | object => exact GameObject.id_set listed v e
  | player | game => rfl

end EntityType

namespace World

variable {w : World} {t t' : EntityType} {id id' property : String} {v : Value}

theorem canonicalId_eq (w : World) (t : EntityType) (id : String) :
    w.canonicalId t id = if t.isSingleton then id else ((w.entity? t id).map t.key).getD id := by
  cases t <;> rfl

theorem entity?_congr (same : t.sameEntity id' id = true) : w.entity? t id' = w.entity? t id := by
  have found {ε : Type} (key : ε → String) (l : List ε) (same : Text.sameName id' id = true) :
      (l.find? fun e => Text.sameName (key e) id') = l.find? fun e => Text.sameName (key e) id :=
    congrArg l.find? (funext fun e => Text.sameName_congr same (key e))
  cases t with
  | room => exact found Room.id w.rooms same
  | door => exact found Door.id w.doors same
  | npc => exact found Npc.id w.npcs same
  | object => exact found GameObject.id w.objects same
  | player | game => rfl

theorem sameEntity_refl (t : EntityType) (id : String) : t.sameEntity id id = true := by
  rw [EntityType.sameEntity, Text.sameName_refl, Bool.or_true]

theorem sameEntity_join {a b : String} (here : t.sameEntity a id = true) (there : t.sameEntity b id = true) :
    t.sameEntity a b = true := by
  simp only [EntityType.sameEntity, Bool.or_eq_true] at *
  obtain alone | same := here
  · exact .inl alone
  · exact there.imp_right fun also => Text.sameName_trans same (Text.sameName_comm b id ▸ also)

theorem sameEntity_key {e : t.Entity} (found : w.entity? t id = some e) : t.sameEntity (t.key e) id = true := by
  cases t with
  | room => exact sameName_of_room? found
  | door => exact sameName_of_door? found
  | npc => exact sameName_of_npc? found
  | object => exact sameName_of_object? found
  | player | game => rfl

theorem sameEntity_canonicalId (w : World) (t : EntityType) (id : String) :
    t.sameEntity (w.canonicalId t id) id = true := by
  rw [canonicalId_eq]
  split
  case isTrue alone => rw [EntityType.sameEntity, alone, Bool.true_or]
  case isFalse =>
    cases found : w.entity? t id with
    | none => simp [EntityType.sameEntity, Text.sameName_refl]
    | some e => exact sameEntity_key found

theorem entity?_modifyEntity {f : t.Entity → t.Entity} (keeps : ∀ e, t.key (f e) = t.key e)
    (same : t.sameEntity id' id = true) : (w.modifyEntity t id f).entity? t id' = (w.entity? t id).map f := by
  rw [entity?_congr same]
  cases t with
  | room => exact find?_modifyFirst (fun e => congrArg (Text.sameName · id) (keeps e)) w.rooms
  | door => exact find?_modifyFirst (fun e => congrArg (Text.sameName · id) (keeps e)) w.doors
  | npc => exact find?_modifyFirst (fun e => congrArg (Text.sameName · id) (keeps e)) w.npcs
  | object => exact find?_modifyFirst (fun e => congrArg (Text.sameName · id) (keeps e)) w.objects
  | player | game => rfl

end World

/-- An element of one id is not of another, before and after a change that keeps its id. -/
theorem unlike_of_sameName {ε : Type} {key : ε → String} {f : ε → ε} (keeps : ∀ e, key (f e) = key e) {id id' : String}
    (unlike : Text.sameName id' id = false) (e : ε) (same : Text.sameName (key e) id = true) :
    Text.sameName (key e) id' = false ∧ Text.sameName (key (f e)) id' = false := by
  have away : Text.sameName (key e) id' = false := by
    rw [Text.sameName_comm, Text.sameName_congr same, unlike]
  exact ⟨away, by rw [keeps, away]⟩

namespace World

variable {w : World} {t t' : EntityType} {id id' : String}

theorem entity?_modifyEntity_other {f : t.Entity → t.Entity} (keeps : ∀ e, t.key (f e) = t.key e)
    (other : ¬ (t' = t ∧ t.sameEntity id' id = true)) : (w.modifyEntity t id f).entity? t' id' = w.entity? t' id' := by
  by_cases type : t' = t
  · subst type
    have unlike := Bool.eq_false_iff.2 fun same => other ⟨rfl, same⟩
    cases t' with
    | room => exact find?_modifyFirst_other (unlike_of_sameName keeps unlike) w.rooms
    | door => exact find?_modifyFirst_other (unlike_of_sameName keeps unlike) w.doors
    | npc => exact find?_modifyFirst_other (unlike_of_sameName keeps unlike) w.npcs
    | object => exact find?_modifyFirst_other (unlike_of_sameName keeps unlike) w.objects
    | player | game => exact absurd ⟨rfl, rfl⟩ other
  · cases t <;> cases t' <;> first | rfl | exact absurd rfl type

/-- What is done to an entity that is not the one found does not matter. -/
theorem modifyEntity_congr {f g : t.Entity → t.Entity} (same : ∀ e, w.entity? t id = some e → f e = g e) :
    w.modifyEntity t id f = w.modifyEntity t id g := by
  cases t with
  | room => exact congrArg (fun l => { w with rooms := l }) (modifyFirst_congr same)
  | door => exact congrArg (fun l => { w with doors := l }) (modifyFirst_congr same)
  | npc => exact congrArg (fun l => { w with npcs := l }) (modifyFirst_congr same)
  | object => exact congrArg (fun l => { w with objects := l }) (modifyFirst_congr same)
  | player => exact congrArg (fun e => { w with player := e }) (same w.player rfl)
  | game => exact congrArg (fun e => { w with game := e }) (same w.game rfl)

theorem modifyEntity_id (w : World) (t : EntityType) (id : String) : w.modifyEntity t id (fun e => e) = w := by
  cases t with
  | room => exact congrArg (fun l => { w with rooms := l }) (modifyFirst_id _ w.rooms)
  | door => exact congrArg (fun l => { w with doors := l }) (modifyFirst_id _ w.doors)
  | npc => exact congrArg (fun l => { w with npcs := l }) (modifyFirst_id _ w.npcs)
  | object => exact congrArg (fun l => { w with objects := l }) (modifyFirst_id _ w.objects)
  | player | game => rfl

/-- What a write comes to: it meets nothing, or it changes the entity that it meets, and tells so if the value is
another one. -/
theorem writeProperty_cases (w : World) (t : EntityType) (id property : String) (v : Value) :
    (w.writeProperty t id property v = (w, .unmatched) ∧
      (w.entity? t id = none ∨ Property.find? t.table property = none)) ∨
    ∃ e p, w.entity? t id = some e ∧ Property.find? t.table property = some p ∧
      ((w.writeProperty t id property v = (w.modifyEntity t id (p.set v), .unchanged) ∧
          (p.get e).same (p.get (p.set v e)) = true) ∨
        (w.writeProperty t id property v = (w.modifyEntity t id (p.set v),
            .changed ⟨t, (w.modifyEntity t id (p.set v)).canonicalId t id, p.name, p.get e, p.get (p.set v e)⟩) ∧
          (p.get e).same (p.get (p.set v e)) = false)) := by
  cases found : w.entity? t id with
  | none => exact .inl ⟨by simp [writeProperty, getProperty?_eq, found], .inl rfl⟩
  | some e =>
    cases listed : Property.find? t.table property with
    | none => exact .inl ⟨by simp [writeProperty, getProperty?_eq, found, listed], .inr rfl⟩
    | some p =>
      have read : w.getProperty? t id property = some (p.get e) := getProperty?_of_found found listed
      have written : w.setProperty? t id property v = some (w.modifyEntity t id (p.set v)) :=
        setProperty?_of_found found listed
      have again : (w.modifyEntity t id (p.set v)).getProperty? t id property = some (p.get (p.set v e)) := by
        have keeps := EntityType.key_set (Property.find?_eq_some listed).1 v
        rw [getProperty?_eq, entity?_modifyEntity keeps (sameEntity_refl t id), found, listed]; rfl
      have name : t.canonicalProperty? property = some p.name := by
        rw [EntityType.canonicalProperty?_eq, listed, Option.map_some]
      refine .inr ⟨e, p, rfl, rfl, ?_⟩
      simp only [writeProperty, read, written, again, name, Option.getD_some]
      cases same : (p.get e).same (p.get (p.set v e)) with
      | true => exact .inl ⟨rfl, rfl⟩
      | false => exact .inr ⟨rfl, rfl⟩

end World

/-! The white space around a name does not matter. -/

theorem EntityType.ofName?_trim (type : String) : ofName? (Text.trim type) = ofName? type := by
  simp only [ofName?, Text.trim_trim]

theorem Property.find?_trim {ε : Type} (table : List (Property ε)) (property : String) :
    find? table (Text.trim property) = find? table property := by
  simp only [find?, Text.trim_trim]

theorem EntityType.find?_blank (t : EntityType) {property : String} (blank : Text.trim property = "") :
    Property.find? t.table property = none := by
  have named : ∀ q ∈ t.properties, Text.sameName q.1 "" = false := by cases t <;> decide
  rw [properties_eq, List.forall_mem_map] at named
  rw [Property.find?, blank, List.find?_eq_none]
  exact fun p listed => Bool.eq_false_iff.1 (named p listed)

namespace World

variable (w : World) (t : EntityType) (id : String) {property : String} (v : Value)

theorem writeProperty_trim (property : String) :
    w.writeProperty t id (Text.trim property) v = w.writeProperty t id property v := by
  simp only [writeProperty, getProperty?_eq, setProperty?_eq, EntityType.canonicalProperty?_eq, Property.find?_trim,
    Text.trim_trim]

theorem writeProperty_blank (blank : Text.trim property = "") :
    w.writeProperty t id property v = (w, .unmatched) := by
  rw [writeProperty, getProperty?_eq, t.find?_blank blank]
  cases w.entity? t id <;> rfl

end World

end StoryGraph
