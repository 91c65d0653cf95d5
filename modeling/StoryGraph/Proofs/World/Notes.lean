import Mathlib.Data.Finset.Dedup
import Mathlib.Data.Finset.Erase
import Mathlib.Data.Finset.Insert
import StoryGraph.Proofs.World.Lookup

/-!
Flags and what the player carries, which are kept under the spellings they came in, as sets of lowered names. Main
statement: whatever is done to them, in any number of calls, they answer as these sets do, and nothing else in the
world changes, save that an object that is given is in no room.
-/

namespace StoryGraph

/-! Names as sets. -/

namespace Text

/-- The names, lowered, as a set. -/
def folded (names : List String) : Finset String := (names.map fold).toFinset

variable {names names' : List String} {k : String}

theorem mem_folded {names : List String} {x : String} : x ∈ folded names ↔ ∃ a ∈ names, fold a = x := by
  simp [folded]

theorem fold_mem_folded : fold k ∈ folded names ↔ names.any (sameName · k) = true := by
  simp [mem_folded, sameName_iff]

theorem folded_insert (mem : ∀ a, a ∈ names' ↔ a = k ∨ a ∈ names) : folded names' = insert (fold k) (folded names) := by
  ext x
  simp only [mem_folded, mem, or_and_right, exists_or, exists_eq_left, Finset.mem_insert, @eq_comm _ x]

theorem folded_filter (names : List String) (k : String) :
    folded (names.filter fun a => !sameName a k) = (folded names).erase (fold k) := by
  ext x
  simp only [Finset.mem_erase, mem_folded, List.mem_filter, Bool.not_eq_true']
  constructor
  · rintro ⟨a, ⟨mem, unlike⟩, rfl⟩
    refine ⟨fun same => ?_, a, mem, rfl⟩
    exact absurd (sameName_iff.2 same) (Bool.eq_false_iff.1 unlike)
  · rintro ⟨unlike, a, mem, rfl⟩
    exact ⟨a, ⟨mem, Bool.eq_false_iff.2 fun same => unlike (sameName_iff.1 same)⟩, rfl⟩

end Text

/-! What is done, to a world and to two sets. -/

/-- A call that sets or clears a flag or has the player carry something or carry it no more. -/
inductive Noting where
  | setFlag (flag : String)
  | clearFlag (flag : String)
  | addItem (id : String)
  | removeItem (id : String)
  | giveItem (id : String)
  | takeItem (id : String)

/-- The flags that are set and the items that are carried, as lowered names. -/
structure Noted where
  flags : Finset String
  items : Finset String
deriving DecidableEq

def World.noted (w : World) : Noted := ⟨Text.folded w.flags.names, Text.folded w.player.inventory⟩

namespace Noting

/-- The answer, where the call has one, and the world afterwards. -/
def perform (n : Noting) (w : World) : Option Bool × World :=
  match n with
  | setFlag flag => (none, w.setFlag flag)
  | clearFlag flag => (none, w.clearFlag flag)
  | addItem id => (some (w.player.addsItem id), { w with player := w.player.addItem id })
  | removeItem id => (some (w.player.removesItem id), { w with player := w.player.removeItem id })
  | giveItem id => (none, w.giveItem id)
  | takeItem id => (some (w.player.removesItem id), w.takeItem id)

/-- The sets after the name was put in or taken out. -/
def enter (n : Noting) (a : Noted) : Noted :=
  match n with
  | setFlag flag => { a with flags := insert (Text.fold flag) a.flags }
  | clearFlag flag => { a with flags := a.flags.erase (Text.fold flag) }
  | addItem id | giveItem id => { a with items := insert (Text.fold id) a.items }
  | removeItem id | takeItem id => { a with items := a.items.erase (Text.fold id) }

/-- Whether the sets change, where the call answers this. -/
def answer (n : Noting) (a : Noted) : Option Bool :=
  match n with
  | addItem _ | removeItem _ | takeItem _ => some (decide (n.enter a ≠ a))
  | setFlag _ | clearFlag _ | giveItem _ => none

/-- Calls one after the other, with their answers. -/
def performAll : List Noting → World → List (Option Bool) × World
  | [], w => ([], w)
  | n :: rest, w => ((n.perform w).1 :: (performAll rest (n.perform w).2).1, (performAll rest (n.perform w).2).2)

def enterAll : List Noting → Noted → List (Option Bool) × Noted
  | [], a => ([], a)
  | n :: rest, a => (n.answer a :: (enterAll rest (n.enter a)).1, (enterAll rest (n.enter a)).2)

/-- Among objects of these ids, the call gives the one at this place to the player. -/
def gives (ids : List String) (i : Nat) : Noting → Bool
  | giveItem id => ids.findIdx? (fun a => Text.sameName a id) == some i
  | _ => false

end Noting

namespace World

variable {w : World}

theorem fold_mem_flags {flag : String} : Text.fold flag ∈ w.noted.flags ↔ w.hasFlag flag = true := Text.fold_mem_folded

theorem fold_mem_items {id : String} : Text.fold id ∈ w.noted.items ↔ w.player.hasItem id = true :=
  Text.fold_mem_folded

theorem noted_setFlag (w : World) (flag : String) :
    (w.setFlag flag).noted = { w.noted with flags := insert (Text.fold flag) w.noted.flags } := by
  rw [setFlag]
  split
  case isTrue set => rw [Finset.insert_eq_of_mem (fold_mem_flags.2 set)]
  case isFalse => exact congrArg (Noted.mk · w.noted.items) (Text.folded_insert fun _ => NameSet.mem_putName)

theorem noted_clearFlag (w : World) (flag : String) :
    (w.clearFlag flag).noted = { w.noted with flags := w.noted.flags.erase (Text.fold flag) } :=
  congrArg (Noted.mk · w.noted.items) (Text.folded_filter w.flags.names flag)

theorem folded_addItem (p : Player) (id : String) :
    Text.folded (p.addItem id).inventory = insert (Text.fold id) (Text.folded p.inventory) := by
  rw [Player.addItem]
  split
  case isTrue held => rw [Finset.insert_eq_of_mem (Text.fold_mem_folded.2 held)]
  case isFalse => exact Text.folded_insert fun a => by simp [or_comm]

/-- The objects, of which those at some places are in no room. -/
def unplaced (objects : List GameObject) (places : Nat → Bool) : List GameObject :=
  objects.mapIdx fun i o => if places i then { o with roomId := "" } else o

theorem getElem?_unplaced (objects : List GameObject) (places : Nat → Bool) (i : Nat) :
    (unplaced objects places)[i]? = objects[i]?.map fun o => if places i then { o with roomId := "" } else o :=
  List.getElem?_mapIdx

theorem ids_unplaced (objects : List GameObject) (places : Nat → Bool) :
    (unplaced objects places).map GameObject.id = objects.map GameObject.id := by
  refine List.ext_getElem? fun i => ?_
  rw [List.getElem?_map, List.getElem?_map, getElem?_unplaced, Option.map_map]
  refine congrArg (Option.map · objects[i]?) (funext fun o => ?_)
  rw [Function.comp_apply]
  split <;> rfl

theorem unplaced_none (objects : List GameObject) : unplaced objects (fun _ => false) = objects := by
  refine List.ext_getElem? fun i => ?_
  rw [getElem?_unplaced]
  exact Option.map_id'

theorem unplaced_unplaced (objects : List GameObject) (places later : Nat → Bool) :
    unplaced (unplaced objects places) later = unplaced objects fun i => places i || later i := by
  refine List.ext_getElem? fun i => ?_
  rw [getElem?_unplaced, getElem?_unplaced, getElem?_unplaced, Option.map_map]
  refine congrArg (Option.map · objects[i]?) (funext fun o => ?_)
  rw [Function.comp_apply]
  by_cases here : places i = true <;> by_cases there : later i = true <;> simp [here, there]

theorem objects_giveItem (w : World) (id : String) :
    (w.giveItem id).objects = unplaced w.objects fun i => (Noting.giveItem id).gives (w.objects.map GameObject.id) i := by
  have named : (fun o : GameObject => Text.sameName o.id (w.canonicalObjectId id)) = fun o => Text.sameName o.id id :=
    funext fun o => Text.sameName_congr (w.sameName_canonicalObjectId id) o.id
  refine List.ext_getElem? fun i => ?_
  have given : (Noting.giveItem id).gives (w.objects.map GameObject.id) i =
      (w.objects.findIdx? (fun o => Text.sameName o.id id) == some i) := by
    rw [Noting.gives, List.findIdx?_map]
    rfl
  rw [getElem?_unplaced, given, giveItem, modifyObject, getElem?_modifyFirst, named]
  by_cases here : w.objects.findIdx? (fun o => Text.sameName o.id id) = some i
  · simp [here]
  · simp [here]

end World

/-! One call, and any number of them. -/

namespace Noting

theorem perform_noted (n : Noting) (w : World) : (n.perform w).2.noted = n.enter w.noted := by
  cases n with
  | setFlag flag => exact w.noted_setFlag flag
  | clearFlag flag => exact w.noted_clearFlag flag
  | addItem id => exact congrArg (Noted.mk w.noted.flags) (World.folded_addItem w.player id)
  | removeItem id | takeItem id => exact congrArg (Noted.mk w.noted.flags) (Text.folded_filter w.player.inventory id)
  | giveItem id =>
    have added := World.folded_addItem w.player (w.canonicalObjectId id)
    rw [Text.sameName_iff.1 (w.sameName_canonicalObjectId id)] at added
    exact congrArg (Noted.mk w.noted.flags) added

theorem perform_answer (n : Noting) (w : World) : (n.perform w).1 = n.answer w.noted := by
  have adds (id : String) : w.player.addsItem id = decide ((addItem id).enter w.noted ≠ w.noted) := by
    have unchanged : (addItem id).enter w.noted = w.noted ↔ w.player.hasItem id = true := by
      rw [← World.fold_mem_items, ← Finset.insert_eq_self]
      exact ⟨congrArg Noted.items, congrArg (Noted.mk w.noted.flags)⟩
    rw [Bool.eq_iff_iff, decide_eq_true_iff, Ne, unchanged, Player.addsItem, Bool.not_eq_true', Bool.not_eq_true]
  have removes (id : String) : w.player.removesItem id = decide ((removeItem id).enter w.noted ≠ w.noted) := by
    have unchanged : (removeItem id).enter w.noted = w.noted ↔ ¬ w.player.hasItem id = true := by
      rw [← World.fold_mem_items, ← Finset.erase_eq_self]
      exact ⟨congrArg Noted.items, congrArg (Noted.mk w.noted.flags)⟩
    have kept : (w.player.removeItem id).inventory.length = w.player.inventory.length ↔ ¬ w.player.hasItem id = true := by
      rw [Player.removeItem, List.length_filter_eq_length_iff]
      simp [Player.hasItem]
    rw [Bool.eq_iff_iff, decide_eq_true_iff, Ne, unchanged, ← kept, Player.removesItem, bne_iff_ne]
  cases n with
  | setFlag | clearFlag | giveItem => rfl
  | addItem id => exact congrArg some (adds id)
  | removeItem id | takeItem id => exact congrArg some (removes id)

/-- The part of the world that is left alone. -/
theorem perform_rest (n : Noting) (w : World) :
    (n.perform w).2 = { w with
      flags := (n.perform w).2.flags
      player := { w.player with inventory := (n.perform w).2.player.inventory }
      objects := World.unplaced w.objects fun i => n.gives (w.objects.map GameObject.id) i } := by
  have added (id : String) : w.player.addItem id = { w.player with inventory := (w.player.addItem id).inventory } := by
    rw [Player.addItem]
    split <;> rfl
  cases n with
  | setFlag flag =>
    simp only [perform, gives, World.unplaced_none]
    rw [World.setFlag]
    split <;> rfl
  | addItem id =>
    simp only [perform, gives, World.unplaced_none]
    rw [← added]
  | clearFlag | removeItem | takeItem =>
    simp only [perform, gives, World.unplaced_none]
    rfl
  | giveItem id =>
    rw [← World.objects_giveItem]
    simp only [perform, World.giveItem]
    exact congrArg (fun p => ({ w.modifyObject _ _ with player := p } : World)) (added _)

theorem performAll_noted (calls : List Noting) (w : World) :
    ((performAll calls w).1, (performAll calls w).2.noted) = enterAll calls w.noted := by
  induction calls generalizing w with
  | nil => rfl
  | cons n rest ih => rw [performAll, enterAll, perform_answer, ← perform_noted, ← ih]

theorem performAll_rest (calls : List Noting) (w : World) :
    (performAll calls w).2 = { w with
      flags := (performAll calls w).2.flags
      player := { w.player with inventory := (performAll calls w).2.player.inventory }
      objects := World.unplaced w.objects fun i => calls.any fun n => n.gives (w.objects.map GameObject.id) i } := by
  induction calls generalizing w with
  | nil => simp only [List.any_nil, World.unplaced_none, performAll]
  | cons n rest ih =>
    have first := n.perform_rest w
    have later := ih (n.perform w).2
    rw [performAll]
    generalize (n.perform w).2 = w' at first later ⊢
    generalize (performAll rest w').2 = w'' at later ⊢
    have ids : w'.objects.map GameObject.id = w.objects.map GameObject.id := by rw [first, World.ids_unplaced]
    rw [ids, first, World.unplaced_unplaced] at later
    exact later

end Noting

namespace World

/-- Flags and items answer as sets of lowered names do into which the same names are put and from which they are
taken. An item that is added or removed is answered with whether the set of items changed. -/
theorem noted_as_sets (w : World) (calls : List Noting) :
    let after := (Noting.performAll calls w).2
    let sets := (Noting.enterAll calls w.noted).2
    (∀ flag, after.hasFlag flag = decide (Text.fold flag ∈ sets.flags)) ∧
      (∀ id, after.player.hasItem id = decide (Text.fold id ∈ sets.items)) ∧
      (Noting.performAll calls w).1 = (Noting.enterAll calls w.noted).1 ∧
      after = { w with
        flags := after.flags
        player := { w.player with inventory := after.player.inventory }
        objects := unplaced w.objects fun i => calls.any fun n => n.gives (w.objects.map GameObject.id) i } := by
  have noted := Noting.performAll_noted calls w
  have sets : (Noting.performAll calls w).2.noted = (Noting.enterAll calls w.noted).2 := congrArg Prod.snd noted
  refine ⟨fun flag => ?_, fun id => ?_, congrArg Prod.fst noted, Noting.performAll_rest calls w⟩
  · rw [Bool.eq_iff_iff, decide_eq_true_iff, ← sets, fold_mem_flags]
  · rw [Bool.eq_iff_iff, decide_eq_true_iff, ← sets, fold_mem_items]

/-- Two spellings of one item are one item, and both are removed at once. -/
example :
    (Noting.performAll [.addItem "lamp", .removeItem "lAMP", .removeItem "Lamp", .giveItem "lamp", .addItem "Lamp"]
      { player := { inventory := ["Lamp", "LAMP"] } }).1 = [some false, some true, some false, none, some false] := by
  decide

end World

end StoryGraph
