import StoryGraph.World.Document
import StoryGraph.Proofs.Json.Record

/-!
Worlds written to documents and read again. Main statement: a world without an infinite weight, and without one
that is no number, comes back as it was, but for the variables that hold such floats: a document has no numbers
for them, and they come back as null.
-/

namespace StoryGraph

open Json

/-! Sets and maps of names. -/

namespace NameMap

variable {β γ : Type}

def map (f : β → γ) (m : NameMap β) : NameMap γ :=
  ⟨m.entries.map fun e => (e.1, f e.2), List.pairwise_map.2 m.ascending⟩

theorem putEntry_above {k : String} (v : β) {l : List (String × β)} (h : ∀ e ∈ l, e.1 < k) :
    putEntry k v l = l ++ [(k, v)] := by
  induction l with
  | nil => rfl
  | cons e rest ih =>
    obtain ⟨a, b⟩ := e
    obtain ⟨here, there⟩ := List.forall_mem_cons.1 h
    rw [putEntry, if_neg (String.lt_asymm here), if_neg, ih there, List.cons_append]
    intro same
    exact String.lt_irrefl a (same ▸ here)

theorem foldl_insert {l : List (String × β)} {m : NameMap β}
    (h : (m.entries ++ l).Pairwise fun a b => a.1 < b.1) :
    (l.foldl (fun m e => m.insert e.1 e.2) m).entries = m.entries ++ l := by
  induction l generalizing m with
  | nil => simp
  | cons e rest ih =>
    have above : ∀ a ∈ m.entries, a.1 < e.1 := fun a mem =>
      (List.pairwise_append.1 h).2.2 a mem e List.mem_cons_self
    have inserted : (m.insert e.1 e.2).entries = m.entries ++ [e] := putEntry_above e.2 above
    rw [List.append_cons, ← inserted] at h ⊢
    exact ih h

theorem eq_of_entries : {m m' : NameMap β} → m.entries = m'.entries → m = m'
  | ⟨_, _⟩, ⟨_, _⟩, rfl => rfl

theorem ofList_entries (m : NameMap β) : ofList m.entries = m := eq_of_entries (foldl_insert m.ascending)

theorem map_eq_self {f : β → β} {m : NameMap β} (h : ∀ e ∈ m.entries, f e.2 = e.2) : m.map f = m := by
  have same : ∀ e ∈ m.entries, (e.1, f e.2) = e := fun e mem => Prod.ext rfl (h e mem)
  exact eq_of_entries ((List.map_congr_left same).trans (List.map_id' _))

end NameMap

namespace NameSet

theorem putName_above {k : String} {l : List String} (h : ∀ a ∈ l, a < k) : putName k l = l ++ [k] := by
  induction l with
  | nil => rfl
  | cons a rest ih =>
    obtain ⟨here, there⟩ := List.forall_mem_cons.1 h
    rw [putName, if_neg (String.lt_asymm here), if_neg, ih there, List.cons_append]
    intro same
    exact String.lt_irrefl a (same ▸ here)

theorem foldl_insert {l : List String} {s : NameSet} (h : (s.names ++ l).Pairwise (· < ·)) :
    (l.foldl insert s).names = s.names ++ l := by
  induction l generalizing s with
  | nil => simp
  | cons k rest ih =>
    have above : ∀ a ∈ s.names, a < k := fun a mem => (List.pairwise_append.1 h).2.2 a mem k List.mem_cons_self
    have inserted : (s.insert k).names = s.names ++ [k] := putName_above above
    rw [List.append_cons, ← inserted] at h ⊢
    exact ih h

theorem eq_of_names : {s s' : NameSet} → s.names = s'.names → s = s'
  | ⟨_, _⟩, ⟨_, _⟩, rfl => rfl

theorem ofList_names (s : NameSet) : ofList s.names = s := eq_of_names (foldl_insert s.ascending)

end NameSet

/-! Values. -/

/-- Not a float that is infinite or no number. -/
def Value.isFinite : Value → Bool
  | float x => x.isFinite
  | null | bool _ | int _ | string _ => true

/-- What a document keeps of a value. -/
def Value.settled (v : Value) : Value := if v.isFinite then v else null

theorem Value.ofJson?_toJson (v : Value) : ofJson? v.toJson = some v.settled := by
  cases v with
  | null | bool b | string s => rfl
  | int i => simp [ofJson?, toJson, settled, isFinite]
  | float x =>
    cases size : x.isFinite with
    | true => simp [ofJson?, toJson, settled, isFinite, size]
    | false => simp [ofJson?, toJson, settled, isFinite, size]

/-! The things in a world. -/

theorem Room.ofJson?_toJson (e : Room) : ofJson? e.toJson = some e := rfl

theorem Door.ofJson?_toJson (e : Door) : ofJson? e.toJson = some e := rfl

theorem Npc.ofJson?_toJson (e : Npc) : ofJson? e.toJson = some e := by
  simp [ofJson?, toJson, record?, Record.get, Record.find?]

theorem GameObject.ofJson?_toJson {e : GameObject} (h : e.weight.isFinite = true) : ofJson? e.toJson = some e := by
  simp [ofJson?, toJson, record?, Record.get, Record.find?, number?, Value.toJson, h]

theorem Player.ofJson?_toJson (e : Player) : ofJson? e.toJson = some e := by
  have inventory : (arr (e.inventory.map .str)).list? text? = some e.inventory := list?_map fun _ _ => rfl
  simp [ofJson?, toJson, record?, Record.get, Record.find?, inventory]

theorem QuestState.ofJson?_name (s : QuestState) : ofJson? (.str s.name) = some s := by
  cases s <;> rfl

theorem Quest.ofJson?_toJson (e : Quest) : ofJson? e.toJson = some e := by
  simp [ofJson?, toJson, record?, Record.get, Record.find?, QuestState.ofJson?_name]

theorem Modifier.ofJson?_toJson (e : Modifier) : ofJson? e.toJson = some e := by
  simp [ofJson?, toJson, record?, Record.get, Record.find?]

theorem Combat.ofJson?_toJson (e : Combat) : ofJson? e.toJson = some e := by
  simp [ofJson?, toJson, record?, Record.get, Record.find?]

theorem GameState.ofJson?_toJson (e : GameState) : ofJson? e.toJson = some e := by
  simp [ofJson?, toJson, record?, Record.get, Record.find?]

namespace World

/-- The world that its document keeps. -/
def settled (w : World) : World := { w with vars := w.vars.map Value.settled }

theorem settled_eq {w : World} (finite : ∀ e ∈ w.vars.entries, e.2.isFinite = true) : w.settled = w := by
  have same : w.vars.map Value.settled = w.vars := NameMap.map_eq_self fun e mem => if_pos (finite e mem)
  rw [settled, same]

theorem ofJson?_toJson {w : World} (finite : ∀ o ∈ w.objects, o.weight.isFinite = true) :
    ofJson? w.toJson = some w.settled := by
  have rooms : (arr (w.rooms.map Room.toJson)).list? Room.ofJson? = some w.rooms :=
    list?_map fun e _ => e.ofJson?_toJson
  have doors : (arr (w.doors.map Door.toJson)).list? Door.ofJson? = some w.doors :=
    list?_map fun e _ => e.ofJson?_toJson
  have npcs : (arr (w.npcs.map Npc.toJson)).list? Npc.ofJson? = some w.npcs :=
    list?_map fun e _ => e.ofJson?_toJson
  have objects : (arr (w.objects.map GameObject.toJson)).list? GameObject.ofJson? = some w.objects :=
    list?_map fun e mem => GameObject.ofJson?_toJson (finite e mem)
  have quests : (arr (w.quests.map Quest.toJson)).list? Quest.ofJson? = some w.quests :=
    list?_map fun e _ => e.ofJson?_toJson
  have modifiers : (arr (w.modifiers.map Modifier.toJson)).list? Modifier.ofJson? = some w.modifiers :=
    list?_map fun e _ => e.ofJson?_toJson
  have flags : (arr (w.flags.names.map .str)).list? text? = some w.flags.names := list?_map fun _ _ => rfl
  have vars : ((obj (w.vars.entries.map fun e => (e.1, e.2.toJson))).pairs? Value.ofJson?).map NameMap.ofList =
      some (w.vars.map Value.settled) := by
    rw [pairs?_map Value.ofJson?_toJson, Option.map_some]
    exact congrArg some (w.vars.map Value.settled).ofList_entries
  cases combat : w.combat with
  | none =>
    simp [ofJson?, toJson, sections, combat, record?, Record.get, Record.find?, rooms, doors, npcs, objects, quests,
      modifiers, flags, vars, Player.ofJson?_toJson, GameState.ofJson?_toJson, NameSet.ofList_names, settled]
  | some k =>
    have fight : optional? Combat.ofJson? k.toJson = some (some k) := congrArg (Option.map some) k.ofJson?_toJson
    simp [ofJson?, toJson, sections, combat, record?, Record.get, Record.find?, rooms, doors, npcs, objects, quests,
      modifiers, flags, vars, fight, Player.ofJson?_toJson, GameState.ofJson?_toJson, NameSet.ofList_names, settled]

end World

end StoryGraph
