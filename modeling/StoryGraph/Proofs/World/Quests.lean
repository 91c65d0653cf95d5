import StoryGraph.Proofs.Engine.Deeds
import StoryGraph.Proofs.Handler.Footprint
import StoryGraph.Proofs.NodeType.Tags
import StoryGraph.Proofs.Number.Range

/-!
The course of quests. Main statement: whatever is done to a world, its quests stay in their places and keep their
names, new ones come at the end, and no quest goes back to a state before the one that it has come to. Advancing a
quest counts one stage on, and only while the quest is active.
-/

namespace StoryGraph

/-- The states that a quest can be in from now on. What is over stays over, but may yet come out the other way. -/
def QuestState.ahead : QuestState → List QuestState
  | notStarted => [notStarted, active, completed, failed]
  | active => [active, completed, failed]
  | completed | failed => [completed, failed]

theorem QuestState.ahead_refl (s : QuestState) : s ∈ s.ahead := by cases s <;> decide

theorem QuestState.ahead_trans {s s' s'' : QuestState} (h : s' ∈ s.ahead) (h' : s'' ∈ s'.ahead) : s'' ∈ s.ahead := by
  cases s <;> cases s' <;> first | exact absurd h (by decide) | cases s'' <;> first | decide | exact absurd h' (by decide)

/-- The same quest, not before where it was. -/
structure Quest.Advances (q q' : Quest) : Prop where
  id : q'.id = q.id
  name : q'.name = q.name
  state : q'.state ∈ q.state.ahead

namespace Quest.Advances

variable {q q' q'' : Quest}

theorem refl (q : Quest) : q.Advances q := ⟨rfl, rfl, q.state.ahead_refl⟩

theorem trans (h : q.Advances q') (h' : q'.Advances q'') : q.Advances q'' :=
  ⟨h'.id.trans h.id, h'.name.trans h.name, QuestState.ahead_trans h.state h'.state⟩

theorem activate (h : q.Advances q') : q.Advances (Act.activate q') := by
  refine h.trans ?_
  rw [Act.activate]
  split
  case h_1 unstarted =>
    refine ⟨rfl, rfl, ?_⟩
    show QuestState.active ∈ q'.state.ahead
    rw [unstarted]
    decide
  case h_2 => exact refl q'

/-- Any quest can be over. -/
theorem finish (q : Quest) {s : QuestState} (last : s ∈ [QuestState.completed, .failed]) :
    q.Advances { q with state := s } := by
  refine ⟨rfl, rfl, ?_⟩
  cases state : q.state with
  | notStarted | active => simp_all [QuestState.ahead]
  | completed | failed => exact last

end Quest.Advances

namespace World

/-- Every quest is where it was, the same one, and has not gone back. -/
def QuestsAdvance (w w' : World) : Prop :=
  ∀ (i : Nat) q, w.quests[i]? = some q → ∃ q', w'.quests[i]? = some q' ∧ q.Advances q'

namespace QuestsAdvance

variable {w w' w'' : World}

theorem refl (w : World) : w.QuestsAdvance w := fun _ q here => ⟨q, here, .refl q⟩

theorem trans (h : w.QuestsAdvance w') (h' : w'.QuestsAdvance w'') : w.QuestsAdvance w'' := by
  intro i q here
  obtain ⟨q', there, goes⟩ := h i q here
  obtain ⟨q'', last, goes'⟩ := h' i q' there
  exact ⟨q'', last, goes.trans goes'⟩

theorem of_changesOnly {parts : List Part} (change : ChangesOnly parts w w') (others : Part.quests ∉ parts) :
    w.QuestsAdvance w' := by
  have same : w'.quests = w.quests := change .quests others
  intro i q here
  rw [same]
  exact ⟨q, here, .refl q⟩

theorem modifyFirst (p : Quest → Bool) {f : Quest → Quest} (goes : ∀ q : Quest, q.Advances (f q)) :
    w.QuestsAdvance { w with quests := StoryGraph.modifyFirst p f w.quests } := by
  intro i q here
  simp only [getElem?_modifyFirst, here]
  split
  case isTrue => exact ⟨f q, rfl, goes q⟩
  case isFalse => exact ⟨q, rfl, .refl q⟩

theorem withQuest (w : World) (id : String) : w.QuestsAdvance (w.withQuest id) := by
  rw [World.withQuest]
  split
  case isTrue => exact refl w
  case isFalse =>
    intro i q here
    exact ⟨q, List.getElem?_append_left (List.getElem?_eq_some_iff.1 here).1 ▸ here, .refl q⟩

theorem modifyQuest (w : World) (id : String) {f : Quest → Quest} (goes : ∀ q : Quest, q.Advances (f q)) :
    w.QuestsAdvance (w.modifyQuest id f) :=
  (withQuest w id).trans (modifyFirst _ goes)

end QuestsAdvance

end World

/-! Handlers. -/

/-- The place of the quest that a node names. -/
def Call.questNamed? (c : Call) : Option Nat :=
  (c.arg "QuestId").bind fun id => c.world.quests.findIdx? fun q => Text.sameName q.id id

namespace Act

variable {c : Call}

theorem quests_advanceQuest (c : Call) (i : Nat) :
    (advanceQuest c).world.quests[i]? = (c.world.quests[i]?).map fun q =>
      if c.questNamed? = some i ∧ q.state = .active then { q with stage := Whole.plus q.stage 1 } else q := by
  obtain unnamed | ⟨id, named⟩ := Option.eq_none_or_eq_some (c.arg "QuestId")
  · simp [advanceQuest, withArg, Call.questNamed?, unnamed, idle]
  · simp only [advanceQuest, withArg, Call.questNamed?, named, getElem?_modifyFirst, Option.bind_some, beq_iff_eq]
    split
    case isTrue here => simp only [here, true_and]
    case isFalse elsewhere => simp [elsewhere]

theorem length_quests_advanceQuest (c : Call) :
    (advanceQuest c).world.quests.length = c.world.quests.length :=
  withArg_induction (P := fun a => a.world.quests.length = c.world.quests.length) rfl fun _ => length_modifyFirst _ _ _

/-- The action takes no quest back. -/
def QuestsAdvance (c : Call) (a : Act) : Prop := c.world.QuestsAdvance a.world

theorem questsAdvance_of (t : ActionType) (c : Call) : (of t c).QuestsAdvance c := by
  have idle : (idle c).QuestsAdvance c := .refl c.world
  cases t with
  | startQuest => exact withArg_induction idle fun id => .modifyQuest _ id fun q => (Quest.Advances.refl q).activate
  | advanceQuest =>
    refine withArg_induction idle fun id => World.QuestsAdvance.modifyFirst _ fun q => ?_
    split
    case isTrue => exact ⟨rfl, rfl, q.state.ahead_refl⟩
    case isFalse => exact .refl q
  | setQuestStage =>
    refine withArg_induction idle fun id => withAmount_induction idle fun stage => .modifyQuest _ id fun q => ?_
    exact Quest.Advances.activate ⟨rfl, rfl, q.state.ahead_refl⟩
  | completeQuest => exact withArg_induction idle fun id => .modifyQuest _ id fun q => .finish q (.head _)
  | failQuest => exact withArg_induction idle fun id => .modifyQuest _ id fun q => .finish q (.tail _ (.head _))
  | _ => exact .of_changesOnly (changesOnly_of _ c) (by decide)

end Act

/-- No quest goes back from where it is in one world. -/
theorem World.invariant_questsAdvance (start : World) : Invariant start.QuestsAdvance where
  act t c h := h.trans (Act.questsAdvance_of t c)
  dialogue t c h := h.trans (.of_changesOnly (Dialogue.changesOnly_act t c) (by cases t <;> decide))
  write w t id property v h := h.trans (.of_changesOnly (changesOnly_writeProperty w t id property v) (by cases t <;> decide))
  tick w h := h.trans (.of_changesOnly w.changesOnly_tick (by decide))

/-- Starts the hunt, under another spelling. -/
def Node.callToHunt : Node where
  id := "call"
  typeTag := "Action_StartQuest"
  properties := .ofList [("QuestId", .string "Hunt")]

namespace Surroundings

/-- Whatever a host has the engine do, no quest is lost, moved or renamed, and none goes back; nor does any at a deed
on the way. Only the quest that is named is advanced, only while it is active, and by one stage unless the count is at
its end. -/
theorem served_quests_advance (s : Surroundings) (builtins : s.registry.IsBuiltin) (calls : List (Nat × Command))
    (r : Run) :
    r.world.QuestsAdvance (s.serve calls r).2.world ∧
      (∀ d, s.Does calls r d → r.world.QuestsAdvance d.before ∧ d.before.QuestsAdvance d.after) ∧
      ∀ c : Call,
        let after := (builtin (.action .advanceQuest) c).world
        after.quests.length = c.world.quests.length ∧
          ∀ (i : Nat) q q', c.world.quests[i]? = some q → after.quests[i]? = some q' →
            if c.questNamed? = some i ∧ q.state = .active then
              q' = { q with stage := q'.stage } ∧
                q'.stage.toInt = min (q.stage.toInt + 1) Int64.maxValue.toInt
            else q' = q := by
  have kept := World.invariant_questsAdvance r.world
  refine ⟨kept.serve builtins calls (.refl _), fun d does => ?_, fun c => ?_⟩
  · have before := kept.before builtins does (.refl _)
    exact ⟨before, (World.invariant_questsAdvance d.before).after d (.refl _)⟩
  · intro after
    refine ⟨Act.length_quests_advanceQuest c, fun i q q' here there => ?_⟩
    have moved := (Act.quests_advanceQuest c i).symm.trans there
    rw [here, Option.map_some, Option.some.injEq] at moved
    by_cases forth : c.questNamed? = some i ∧ q.state = .active
    · rw [if_pos forth] at moved
      rw [if_pos forth, ← moved]
      exact ⟨rfl, Whole.toInt_next q.stage⟩
    · rw [if_neg forth] at moved
      rw [if_neg forth, moved]

/-- A quest that was failed is not started again. -/
theorem served_quests_advance_hunt :
    let s : Surroundings := { registry := .builtins, library := [], settings := {}, draws := .ofSeed 7 }
    let r : Run := { world := { quests := [{ id := "hunt", state := .failed }, { id := "feast" }] } }
    let w := (s.serve [(0, .executeNode .callToHunt)] r).2.world
    s.registry.IsBuiltin ∧ r.world.QuestsAdvance w ∧ w.quests = r.world.quests := by
  intro s r w
  have kind : Node.callToHunt.kind? = some (.action .startQuest) := by
    rw [Node.kind?, NodeType.ofTag?_eq]
    decide +kernel
  have after := world_serve_action (s := s) rfl (by decide) kind (w := r.world) rfl
  have advanced := (s.served_quests_advance Registry.isBuiltin_builtins [(0, .executeNode .callToHunt)] r).1
  refine ⟨Registry.isBuiltin_builtins, advanced, ?_⟩
  rw [show w = _ from after]
  decide +kernel

end Surroundings

end StoryGraph
