import StoryGraph.Text.Casing
import StoryGraph.World.Basic

/-!
Finding and changing things by id. Ids are matched without case; of several matches the first one is
found, and only that one is changed.
-/

namespace StoryGraph

/-- Changes the first element that satisfies `p`. -/
def modifyFirst {α : Type} (p : α → Bool) (f : α → α) : List α → List α
  | [] => []
  | a :: rest => if p a then f a :: rest else a :: modifyFirst p f rest

theorem map_modifyFirst {α β : Type} (p : α → Bool) (f : α → α) (key : α → β)
    (h : ∀ a, key (f a) = key a) (l : List α) : (modifyFirst p f l).map key = l.map key := by
  induction l with
  | nil => rfl
  | cons a rest ih =>
    simp only [modifyFirst]
    split <;> simp [h, ih]

namespace World

def room? (w : World) (id : String) : Option Room := w.rooms.find? fun e => Text.sameName e.id id
def door? (w : World) (id : String) : Option Door := w.doors.find? fun e => Text.sameName e.id id
def npc? (w : World) (id : String) : Option Npc := w.npcs.find? fun e => Text.sameName e.id id

def object? (w : World) (id : String) : Option GameObject :=
  w.objects.find? fun e => Text.sameName e.id id

def quest? (w : World) (id : String) : Option Quest := w.quests.find? fun e => Text.sameName e.id id

def modifier? (w : World) (id : String) : Option Modifier :=
  w.modifiers.find? fun e => Text.sameName e.id id

def modifyRoom (w : World) (id : String) (f : Room → Room) : World :=
  { w with rooms := modifyFirst (fun e => Text.sameName e.id id) f w.rooms }

def modifyDoor (w : World) (id : String) (f : Door → Door) : World :=
  { w with doors := modifyFirst (fun e => Text.sameName e.id id) f w.doors }

def modifyNpc (w : World) (id : String) (f : Npc → Npc) : World :=
  { w with npcs := modifyFirst (fun e => Text.sameName e.id id) f w.npcs }

def modifyObject (w : World) (id : String) (f : GameObject → GameObject) : World :=
  { w with objects := modifyFirst (fun e => Text.sameName e.id id) f w.objects }

/-- The world with a quest of this id: a new one at the end unless there is one. -/
def withQuest (w : World) (id : String) : World :=
  if w.quests.any fun e => Text.sameName e.id id then w
  else { w with quests := w.quests ++ [{ id, name := id }] }

/-- Changes a quest, which is created first if there is none of this id. -/
def modifyQuest (w : World) (id : String) (f : Quest → Quest) : World :=
  let w := w.withQuest id
  { w with quests := modifyFirst (fun e => Text.sameName e.id id) f w.quests }

def questState (w : World) (id : String) : QuestState :=
  ((w.quest? id).map Quest.state).getD .notStarted

end World

end StoryGraph
