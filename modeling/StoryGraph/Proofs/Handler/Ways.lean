import StoryGraph.Handler.Builtin
import StoryGraph.Proofs.Handler.Domain
import StoryGraph.Proofs.Walk.Course
import StoryGraph.Proofs.World.Lookup

/-!
What the built-in handlers answer. Main statement: each answers, goes on by ports that the catalog lists
for its type, and asks for at most one effect.
-/

namespace StoryGraph

/-- A way on by ports from a list: at once, in branches or after a pause. -/
def Next.Selects (ports : List String) : Next → Prop
  | .goOn port => port ∈ ports
  | .fork branches => ∀ port ∈ branches, port ∈ ports
  | .wait pause => pause.port ∈ ports
  | .stop | .fail _ => False

theorem Next.Selects.mem_ports {ports : List String} {next : Next} (h : next.Selects ports) :
    ∀ p ∈ next.ports, p ∈ ports := by
  cases next with
  | goOn port | wait pause => exact List.forall_mem_singleton.2 h
  | fork branches => exact h
  | stop | fail _ => exact h.elim

namespace Act

variable {P : Act → Prop} {c : Call}

theorem withArg_induction {key : String} {f : String → Act} (hi : P (idle c)) (hf : ∀ s, P (f s)) :
    P (withArg c key f) := by
  rw [withArg]
  split
  · exact hf _
  · exact hi

theorem withAmount_induction {key : String} {f : Int64 → Act} (hi : P (idle c)) (hf : ∀ n, P (f n)) :
    P (withAmount c key f) := by
  rw [withAmount]
  split
  · exact hf _
  · exact hi

theorem withAmount_given {key : String} {f : Int64 → Act} (hi : P (idle c))
    (hf : ∀ n, c.amount key = some n → P (f n)) : P (withAmount c key f) := by
  rw [withAmount]
  split
  · rename_i given
    exact hf _ given
  · exact hi

theorem withRoom_induction {f : Room → Act} (hi : P (idle c)) (hf : ∀ r, P (f r)) :
    P (withRoom c f) := by
  rw [withRoom]
  split
  · exact hf _
  · exact hi

theorem withDoor_induction {f : Door → Door} (hi : P (idle c))
    (hf : ∀ d : Door, P { world := c.world.modifyDoor d.id f }) : P (withDoor c f) := by
  rw [withDoor]
  split
  · exact hf _
  · exact hi

theorem withNpc_induction {f : Npc → Act} (hi : P (idle c)) (hf : ∀ n, P (f n)) : P (withNpc c f) := by
  rw [withNpc]
  split
  · exact hf _
  · exact hi

theorem withNpc_named {f : Npc → Act} (hi : P (idle c))
    (hf : ∀ n, (c.arg "NpcId").bind c.world.npc? = some n → P (f n)) : P (withNpc c f) := by
  rw [withNpc]
  split
  · rename_i named
    exact hf _ named
  · exact hi

theorem withRoom_named {f : Room → Act} (hi : P (idle c))
    (hf : ∀ r, (c.arg "RoomId").bind c.world.room? = some r → P (f r)) : P (withRoom c f) := by
  rw [withRoom]
  split
  · rename_i named
    exact hf _ named
  · exact hi

theorem withDoor_named {f : Door → Door} (hi : P (idle c))
    (hf : ∀ d, (c.arg "DoorId").bind c.world.door? = some d → P { world := c.world.modifyDoor d.id f }) :
    P (withDoor c f) := by
  rw [withDoor]
  split
  · rename_i named
    exact hf _ named
  · exact hi

theorem withObject_named {f : GameObject → Act} (hi : P (idle c))
    (hf : ∀ o, (c.arg "ObjectId").bind c.world.object? = some o → P (f o)) : P (withObject c f) := by
  rw [withObject]
  split
  · rename_i named
    exact hf _ named
  · exact hi

/-- The person that is named is the one that its own id finds. -/
theorem npc?_of_named {n : Npc} (named : (c.arg "NpcId").bind c.world.npc? = some n) :
    c.world.npc? n.id = some n := by
  obtain ⟨id, -, found⟩ := Option.bind_eq_some_iff.1 named
  exact World.npc?_id found

theorem withObject_induction {f : GameObject → Act} (hi : P (idle c)) (hf : ∀ o, P (f o)) :
    P (withObject c f) := by
  rw [withObject]
  split
  · exact hf _
  · exact hi

/-- Goes on by one of these ports, with at most one effect, and does not break down. -/
def Fits (ports : List String) (a : Act) : Prop :=
  a.broken = none ∧ a.port ∈ ports ∧ a.effects.length ≤ 1

theorem Fits.response {ports : List String} {a : Act} (h : a.Fits ports) :
    a.response.result = .ok { next := .goOn a.port, effects := a.effects } := by
  simp only [Act.response, h.1]

/-- An action without effects goes on by `Exec`. -/
theorem fits_plain {ports : List String} (h : Port.exec ∈ ports) (w : World) (notices : List HostEvent)
    (logs : List LogLine) : Fits ports { world := w, notices := notices, logs := logs } :=
  ⟨rfl, h, Nat.zero_le 1⟩

theorem fits_port {ports : List String} {port : String} (h : port ∈ ports) (w : World) :
    Fits ports { world := w, port := port } :=
  ⟨rfl, h, Nat.zero_le 1⟩

theorem fits_effect {ports : List String} (h : Port.exec ∈ ports) (w : World) (effect : Effect) :
    Fits ports { world := w, effects := [effect] } :=
  ⟨rfl, h, Nat.le_refl 1⟩

theorem fits_of (t : ActionType) (c : Call) : (of t c).Fits (NodeType.action t).ports := by
  have exec : Port.exec ∈ (NodeType.action t).ports := by cases t <;> decide
  have plain := fits_plain exec
  have idle : (idle c).Fits (NodeType.action t).ports := plain c.world [] []
  cases t with
  | showMessage | playSound | removeItem | startQuest | completeQuest | failQuest | advanceQuest | setFlag
  | clearFlag | setVariable | incrementVariable | removeModifier | setWeather =>
    exact withArg_induction idle fun _ => plain ..
  | healPlayer | addGold | addExperience | addScore => exact withAmount_induction idle fun _ => plain ..
  | advanceTime =>
    refine withAmount_induction idle fun hours => ?_
    obtain ⟨sum, added⟩ := Whole.exists_add_hours c.world.game.hour hours
    simp only [added]
    exact plain ..
  | teleportPlayer | setRoomDark | setRoomDescription => exact withRoom_induction idle fun _ => plain ..
  | openDoor | closeDoor | lockDoor | unlockDoor | setDoorVisible =>
    exact withDoor_induction idle fun _ => plain ..
  | startConversation | startTrade | setNpcHostile | killNpc => exact withNpc_induction idle fun _ => plain ..
  | giveItem | setObjectVisible | setObjectDescription => exact withObject_induction idle fun _ => plain ..
  | endCombat | completeAdventure | log => exact plain ..
  | setRoomMusic => exact withArg_induction idle fun _ => withRoom_induction idle fun _ => plain ..
  | moveNpc => exact withNpc_induction idle fun _ => withRoom_induction idle fun _ => plain ..
  | moveObject => exact withObject_induction idle fun _ => withRoom_induction idle fun _ => plain ..
  | setQuestStage => exact withArg_induction idle fun _ => withAmount_induction idle fun _ => plain ..
  | startCombat =>
    refine withNpc_induction idle fun n => ?_
    split
    · exact plain ..
    · exact idle
  | healNpc =>
    refine withAmount_induction idle fun _ => withNpc_induction idle fun n => ?_
    split
    · exact idle
    · exact plain ..
  | addModifier =>
    refine withArg_induction idle fun _ => withArg_induction idle fun _ => ?_
    split
    · exact plain ..
    · exact plain ..
  | consumeItem =>
    have short : Port.onInsufficient ∈ (NodeType.action .consumeItem).ports := by decide
    simp only [of, consumeItem]
    split
    · split
      · exact plain ..
      · exact fits_port short _
    · exact fits_port short _
  | damageNpc =>
    have death : Port.onDeath ∈ (NodeType.action .damageNpc).ports := by decide
    refine withAmount_induction idle fun _ => withNpc_induction idle fun n => ?_
    dsimp only
    split
    · exact plain ..
    · exact fits_port death _
  | damagePlayer =>
    have died : Port.playerDied ∈ (NodeType.action .damagePlayer).ports := by decide
    refine withAmount_induction idle fun n => fits_port ?_ _
    split
    · exact died
    · exact exec
  | removeGold =>
    have poor : Port.notEnough ∈ (NodeType.action .removeGold).ports := by decide
    refine withAmount_induction idle fun _ => ?_
    split
    · exact fits_port poor _
    · exact plain ..
  | setProperty =>
    simp only [of, setProperty]
    split
    · exact idle
    · split
      · exact fits_effect exec _ _
      · exact plain ..
  | triggerEvent =>
    exact withArg_induction idle fun _ => withArg_induction idle fun _ => withArg_induction idle fun _ =>
      fits_effect exec _ _

end Act

theorem Dialogue.fits_act (t : DialogueType) (c : Call) :
    (Dialogue.act t c).Fits (NodeType.dialogue t).ports := by
  have exec : Port.exec ∈ (NodeType.dialogue t).ports := by cases t <;> decide
  have plain := Act.fits_plain exec
  have idle : (Act.idle c).Fits (NodeType.dialogue t).ports := plain c.world [] []
  cases t with
  | say | narrate | playVoice => exact Act.withArg_induction idle fun _ => plain ..
  | setGreeting => exact Act.withNpc_induction idle fun _ => plain ..

theorem Flow.exists_next (t : FlowType) (c : Call) :
    ∃ n, next t c = .ok n ∧ n.Selects (NodeType.flow t).ports := by
  cases t with
  | branch =>
    refine ⟨_, rfl, ?_⟩
    show _ ∈ _
    split <;> decide
  | sequence => exact ⟨_, rfl, fun _ h => h⟩
  | delay =>
    refine ⟨_, rfl, ?_⟩
    show Port.exec ∈ _
    decide
  | randomBranch =>
    obtain ⟨port, listed, drawn⟩ := exists_randomBranch c
    exact ⟨_, drawn, listed⟩

theorem builtin_fits (t : NodeType) (c : Call) :
    ∃ out, (builtin t c).result = .ok out ∧ out.next.Selects t.ports ∧ out.effects.length ≤ 1 := by
  cases t with
  | event t =>
    refine ⟨_, rfl, ?_, Nat.zero_le 1⟩
    show Port.exec ∈ _
    cases t <;> decide
  | condition t =>
    refine ⟨_, rfl, ?_, Nat.zero_le 1⟩
    show _ ∈ _
    split <;> cases t <;> decide
  | action t =>
    have fits := Act.fits_of t c
    exact ⟨_, fits.response, fits.2⟩
  | flow t =>
    obtain ⟨n, result, selects⟩ := Flow.exists_next t c
    exact ⟨{ next := n }, congrArg (Except.map _) result, selects, Nat.zero_le 1⟩
  | source t =>
    obtain ⟨v, result⟩ := Source.exists_value t c
    refine ⟨_, congrArg (Except.map _) result, ?_, Nat.zero_le 1⟩
    show Port.exec ∈ _
    cases t <;> decide
  | dialogue t =>
    have fits := Dialogue.fits_act t c
    exact ⟨_, fits.response, fits.2⟩

/-- Of the built-in handlers, that of the delay asks for a pause, and no other does. -/
theorem builtin_waits (t : NodeType) (c : Call) :
    ∃ out, (builtin t c).result = .ok out ∧ ((∃ pause, out.next = .wait pause) ↔ t = .flow .delay) := by
  have goes {port : String} (h : t ≠ .flow .delay) :
      (∃ pause, Next.goOn port = .wait pause) ↔ t = .flow .delay := by simp [h]
  cases t with
  | event t => exact ⟨_, rfl, goes (by simp)⟩
  | condition t => exact ⟨_, rfl, goes (by simp)⟩
  | action t => exact ⟨_, (Act.fits_of t c).response, goes (by simp)⟩
  | source t =>
    obtain ⟨v, result⟩ := Source.exists_value t c
    exact ⟨_, congrArg (Except.map _) result, goes (by simp)⟩
  | dialogue t => exact ⟨_, (Dialogue.fits_act t c).response, goes (by simp)⟩
  | flow t =>
    cases t with
    | branch => exact ⟨_, rfl, goes (by simp)⟩
    | sequence => exact ⟨_, rfl, by simp⟩
    | delay => exact ⟨_, rfl, by simp⟩
    | randomBranch =>
      obtain ⟨port, -, drawn⟩ := Flow.exists_randomBranch c
      exact ⟨{ next := .goOn port }, congrArg (Except.map _) drawn, goes (by simp)⟩

theorem builtin_selects {t : NodeType} {c : Call} {out : Output} (h : (builtin t c).result = .ok out) :
    out.next.Selects t.ports := by
  obtain ⟨answer, result, selects, -⟩ := builtin_fits t c
  cases result.symm.trans h
  exact selects

theorem builtin_listed {t : NodeType} {c : Call} {out : Output} (h : (builtin t c).result = .ok out) :
    ∀ p ∈ out.next.ports, p ∈ t.ports := (builtin_selects h).mem_ports

theorem builtin_effects {t : NodeType} {c : Call} {out : Output} (h : (builtin t c).result = .ok out) :
    out.effects.length ≤ 1 := by
  obtain ⟨answer, result, -, effects⟩ := builtin_fits t c
  cases result.symm.trans h
  exact effects

/-- Every handler in use is the built-in one of its type. -/
def Registry.IsBuiltin (registry : Registry) : Prop := ∀ t h, registry t = some h → h = builtin t

theorem Registry.IsBuiltin.of_handlerFor {registry : Registry} (builtins : registry.IsBuiltin) {n : Node}
    {h : Handler} (hn : registry.handlerFor n = some h) :
    ∃ t, n.kind? = some t ∧ registry.contains t = true ∧ h = builtin t := by
  obtain ⟨t, kind, found⟩ := Option.bind_eq_some_iff.1 hn
  exact ⟨t, kind, by rw [contains, found]; rfl, builtins t h found⟩

theorem Registry.IsBuiltin.effects_le {registry : Registry} (builtins : registry.IsBuiltin) {n : Node}
    {h : Handler} {c : Call} {out : Output} (hn : registry.handlerFor n = some h)
    (result : (h c).result = .ok out) : out.effects.length ≤ 1 := by
  obtain ⟨t, -, -, rfl⟩ := builtins.of_handlerFor hn
  exact builtin_effects result

theorem Registry.isBuiltin_builtins : Registry.builtins.IsBuiltin := fun _ _ h => (Option.some.inj h).symm

end StoryGraph
