import StoryGraph.Proofs.Handler.Arguments
import StoryGraph.Proofs.Property.Stored
import StoryGraph.Proofs.Value.Spelling

/-!
Whole numbers among the properties of nodes, as such and as text. Main statement: a built-in handler answers alike,
however a number is spelled, save under the few names whose value it takes as it stands.
-/

namespace StoryGraph

namespace NodeType

/-- The properties that a handler reads as whole numbers. -/
def wholes : NodeType → List String
  | .action .damageNpc | .action .healNpc | .action .damagePlayer | .action .healPlayer | .action .addGold
  | .action .removeGold | .action .addExperience | .action .addScore => ["Amount"]
  | .action .setQuestStage => ["Stage"]
  | .action .advanceTime => ["Hours"]
  | .action .addModifier => ["Amount", "Turns"]
  | .condition .playerHealthAbove | .condition .playerHealthBelow => ["Value"]
  | .condition .playerGoldAtLeast => ["Amount"]
  | .condition .questStageIs => ["Stage"]
  | .condition .timeOfDayBetween => ["From", "To"]
  | .source .randomNumber => ["Min", "Max"]
  | _ => []

/-- The properties whose value is kept, added or ordered as it stands, so that a number is one thing and its text is
another. -/
def verbatim : NodeType → List String
  | .action .setVariable | .source .constant => ["Value"]
  | .action .incrementVariable => ["Amount"]
  | .condition .variableGreaterThan | .condition .variableLessThan | .condition .compareValues => ["Value"]
  | _ => []

/-- The properties whose text is kept with the white space around it. -/
def literal : NodeType → List String
  | .action .setRoomDescription | .action .setObjectDescription | .dialogue .setGreeting => ["Text"]
  | .action .log => ["Message", "Level"]
  | .action .setProperty => ["Value"]
  | _ => []

/-- What may stand under a name in place of a value. -/
def Allows (t : NodeType) (name : String) : Value → Value → Prop :=
  if t.verbatim.any (Text.sameName name) then fun v v' => v' = v
  else if t.literal.any (Text.sameName name) then Value.RespelledBare
  else Value.Respelled

variable {t : NodeType} {name key : String} {v v' : Value}

theorem Allows.respelled (h : t.Allows name v v') : v.Respelled v' := by
  rw [Allows] at h
  split at h
  · exact .inl h
  · split at h
    · exact h.respelled
    · exact h

theorem any_sameName {names : List String} (same : Text.sameName name key = true) :
    names.any (Text.sameName name) = names.any (Text.sameName key) := by
  refine congrArg names.any (funext fun k => ?_)
  rw [Text.sameName, Text.sameName, Text.sameName_iff.1 same]

theorem Allows.eq (listed : t.verbatim.any (Text.sameName key) = true) (same : Text.sameName name key = true)
    (h : t.Allows name v v') : v' = v := by
  rwa [Allows, any_sameName same, if_pos listed] at h

theorem Allows.bare (listed : t.literal.any (Text.sameName key) = true) (same : Text.sameName name key = true)
    (h : t.Allows name v v') : v.RespelledBare v' := by
  rw [Allows] at h
  split at h
  · exact .inl h
  · rwa [any_sameName same, if_pos listed] at h

theorem wholes_free (t : NodeType) : ∀ key ∈ t.wholes,
    t.verbatim.any (Text.sameName key) = false ∧ t.literal.any (Text.sameName key) = false := by
  cases t with
  | event t | condition t | action t | flow t | source t | dialogue t => cases t <;> decide

/-- A whole number may be spelled in any way where it is read as one. -/
theorem allows_whole (t : NodeType) (key : String) (listed : key ∈ t.wholes) (same : Text.sameName name key = true)
    (h : v.Respelled v') : t.Allows name v v' := by
  obtain ⟨verbatim, literal⟩ := t.wholes_free key listed
  rwa [Allows, any_sameName same, any_sameName same, verbatim, literal, if_neg Bool.false_ne_true,
    if_neg Bool.false_ne_true]

theorem Allows.refl (t : NodeType) (name : String) (v : Value) : t.Allows name v v := by
  rw [Allows]
  split
  · rfl
  · split <;> exact .inl rfl

end NodeType

/-! Writing. -/

namespace Value

variable (v : Value)

@[simp] theorem toBool_ofKind : (v.ofKind .bool).toBool = v.toBool := rfl
@[simp] theorem toInt_ofKind : (v.ofKind .int).toInt = v.toInt := rfl
@[simp] theorem toFloat_ofKind : (v.ofKind .float).toFloat = v.toFloat := rfl
@[simp] theorem toText_ofKind : (v.ofKind .string).toText = v.toText := rfl

end Value

/-- Nothing but the value in the kind of a property is written. -/
def Property.Casts {ε : Type} (table : List (Property ε)) : Prop :=
  ∀ p ∈ table, ∀ v, p.set (v.ofKind p.kind) = p.set v

theorem EntityType.casts_table (t : EntityType) : Property.Casts t.table := by
  have room : Property.Casts Room.properties := by simp [Property.Casts, Room.properties_eq]
  have door : Property.Casts Door.properties := by simp [Property.Casts, Door.properties_eq]
  have npc : Property.Casts Npc.properties := by simp [Property.Casts, Npc.properties_eq]
  have object : Property.Casts GameObject.properties := by simp [Property.Casts, GameObject.properties_eq]
  have player : Property.Casts Player.properties := by simp [Property.Casts, Player.properties_eq]
  have game : Property.Casts GameState.properties := by simp [Property.Casts, GameState.properties_eq]
  cases t with
  | room => exact room
  | door => exact door
  | npc => exact npc
  | object => exact object
  | player => exact player
  | game => exact game

theorem Value.RespelledBare.ofKind {v v' : Value} (h : v.RespelledBare v') (kind : Kind) :
    v'.ofKind kind = v.ofKind kind := by
  cases kind with
  | bool => exact congrArg (fun b => Value.bool (b.getD false)) h.respelled.toBool?
  | int => exact congrArg (fun i => Value.int (i.getD 0)) h.respelled.toInt?
  | float => exact congrArg (fun x => Value.float (x.getD 0.0)) h.respelled.toFloat?
  | string => exact congrArg (fun s => Value.string (s.getD "")) h.toText?

theorem World.writeProperty_respelled {v v' : Value} (h : v.RespelledBare v') (w : World) (t : EntityType)
    (id property : String) : w.writeProperty t id property v' = w.writeProperty t id property v := by
  have same : w.setProperty? t id property v' = w.setProperty? t id property v := by
    rw [setProperty?_eq, setProperty?_eq]
    refine congrArg (w.entity? t id).bind (funext fun _ => ?_)
    cases found : Property.find? t.table property with
    | none => rfl
    | some p =>
      have casts := t.casts_table p (Property.find?_eq_some found).1
      rw [Option.map_some, Option.map_some, ← casts v', h.ofKind, casts]
  rw [writeProperty, writeProperty, same]

/-! Calls. -/

namespace Call

/-- The call of a node with other properties. -/
def written (c : Call) (b : Bag) : Call := { c with node := { c.node with properties := b } }

variable {t : NodeType} {c : Call} {b : Bag}

@[simp] theorem written_id : (c.written b).node.id = c.node.id := rfl
@[simp] theorem written_properties : (c.written b).node.properties = b := rfl
@[simp] theorem written_graphId : (c.written b).graphId = c.graphId := rfl
@[simp] theorem written_outputs : (c.written b).outputs = c.outputs := rfl
@[simp] theorem written_world : (c.written b).world = c.world := rfl
@[simp] theorem written_draws : (c.written b).draws = c.draws := rfl

section

variable (like : Bag.Like t.Allows c.node.properties b)
include like

theorem arg_written (key : String) : (c.written b).arg key = c.arg key :=
  like.getText? (fun _ _ _ => NodeType.Allows.respelled) key

theorem amount_written (key : String) : (c.written b).amount key = c.amount key :=
  like.bind_toInt? (fun _ _ _ => NodeType.Allows.respelled) key

theorem target?_written : (c.written b).target? = c.target? := by
  simp only [target?, arg_written like]

theorem getInt_written (key : String) (default : Int64) :
    b.getInt key default = Bag.getInt c.node.properties key default :=
  like.getInt (fun _ _ _ => NodeType.Allows.respelled) key default

theorem getFloat_written (key : String) (default : Float) :
    b.getFloat key default = Bag.getFloat c.node.properties key default :=
  like.getFloat (fun _ _ _ => NodeType.Allows.respelled) key default

theorem getBool_written (key : String) (default : Bool) :
    b.getBool key default = Bag.getBool c.node.properties key default :=
  like.getBool (fun _ _ _ => NodeType.Allows.respelled) key default

theorem getString_written (key : String) (listed : t.literal.any (Text.sameName key) = true) (default : String) :
    b.getString key default = Bag.getString c.node.properties key default :=
  like.getString (fun _ _ _ => NodeType.Allows.bare listed) default

theorem getValue_written (key : String) (listed : t.literal.any (Text.sameName key) = true) :
    (Bag.getValue c.node.properties key).RespelledBare (b.getValue key) := by
  have related := like.find? key
  rw [Bag.getValue, Bag.getValue]
  generalize Bag.find? c.node.properties key = o at related ⊢
  generalize b.find? key = o' at related ⊢
  cases related with
  | none => exact .inl rfl
  | some related =>
    obtain ⟨name, same, related⟩ := related
    exact related.bare listed same

theorem find?_written (key : String) (listed : t.verbatim.any (Text.sameName key) = true) :
    b.find? key = Bag.find? c.node.properties key := by
  have same : (b.find? key).bind some = (Bag.find? c.node.properties key).bind some :=
    like.bind_find? fun _ _ _ same related => congrArg some (related.eq listed same)
  simpa only [Option.bind_fun_some] using same

end

end Call

namespace Act

variable {c : Call} {b : Bag}

theorem of_written {t : ActionType} (like : Bag.Like (NodeType.action t).Allows c.node.properties b) :
    of t (c.written b) = of t c := by
  have args := Call.arg_written like
  have amounts := Call.amount_written like
  have flags := Call.getBool_written like
  cases t with
  | endCombat | completeAdventure => rfl
  | showMessage | playSound | removeItem | startQuest | completeQuest | failQuest | setFlag | clearFlag | removeModifier
  | setWeather | advanceQuest | triggerEvent =>
    simp only [of, withArg, finishQuest, advanceQuest, triggerEvent, game, idle, args, Call.written_world]
  | setRoomMusic | teleportPlayer | setRoomDark =>
    simp only [of, setRoomMusic, teleportPlayer, withArg, withRoom, idle, args, flags, Call.written_world,
      Call.written_properties]
  | openDoor | closeDoor | lockDoor | unlockDoor | setDoorVisible =>
    simp only [of, withDoor, idle, args, flags, Call.written_world, Call.written_properties]
  | startConversation | startCombat | startTrade | killNpc | setNpcHostile | moveNpc =>
    simp only [of, withNpc, withRoom, startCombat, killNpc, idle, args, flags, Call.written_world,
      Call.written_properties]
  | giveItem | setObjectVisible | moveObject =>
    simp only [of, withObject, withRoom, moveObject, idle, args, flags, Call.written_world, Call.written_properties]
  | consumeItem =>
    simp only [of, consumeItem, args]
    rfl
  | damageNpc | healNpc =>
    simp only [of, damageNpc, healNpc, withAmount, withNpc, idle, args, amounts, Call.written_world]
  | damagePlayer | healPlayer | addGold | removeGold | addExperience | addScore | advanceTime =>
    simp only [of, damagePlayer, removeGold, advanceTime, withAmount, amounts]
    rfl
  | setQuestStage => simp only [of, setQuestStage, withArg, withAmount, idle, args, amounts, Call.written_world]
  | addModifier =>
    have numbers := Call.getInt_written like
    simp only [of, addModifier, withArg, idle, args, numbers, Call.written_world, Call.written_properties]
  | setRoomDescription =>
    have text := Call.getString_written like "Text" (by decide)
    simp only [of, withRoom, idle, args, text, Call.written_world, Call.written_properties]
  | setObjectDescription =>
    have text := Call.getString_written like "Text" (by decide)
    simp only [of, withObject, idle, args, text, Call.written_world, Call.written_properties]
  | log =>
    have message := Call.getString_written like "Message" (by decide)
    have level := Call.getString_written like "Level" (by decide)
    simp only [of, log, message, level, Call.written_world, Call.written_properties, Call.written_id,
      Call.written_graphId]
  | setVariable =>
    have value := Call.find?_written like "Value" (by decide)
    simp only [of, withArg, idle, args, Bag.getValue, value, Call.written_world, Call.written_properties]
  | incrementVariable =>
    have amount := Call.find?_written like "Amount" (by decide)
    simp only [of, incrementVariable, withArg, idle, args, amount, Call.written_world, Call.written_properties]
  | setProperty =>
    have value := Call.getValue_written like "Value" (by decide)
    simp only [of, setProperty, Call.target?_written like, Call.written_world, Call.written_properties,
      World.writeProperty_respelled value]
    rfl

end Act

namespace Condition

variable {c : Call} {b : Bag}

theorem variableAndValue?_eq (c : Call) :
    variableAndValue? c = ((c.arg "Name").bind c.world.variableValue?).bind fun current =>
      (Bag.find? c.node.properties "Value").bind fun expected => some (current, expected) :=
  (Option.bind_assoc _ _ _).symm

section

variable {t : NodeType} (like : Bag.Like t.Allows c.node.properties b)
include like

/-- A variable that is equal to a number is so in any spelling. -/
theorem compareVariable_written : compareVariable (c.written b) .eq = compareVariable c .eq := by
  have related := like.find? "Value"
  simp only [compareVariable, variableAndValue?_eq, Call.arg_written like, Call.written_world, Call.written_properties]
  generalize Bag.find? c.node.properties "Value" = o at related ⊢
  generalize b.find? "Value" = o' at related ⊢
  cases (c.arg "Name").bind c.world.variableValue? with
  | none => rfl
  | some current =>
    cases related with
    | none => rfl
    | some related =>
      obtain ⟨name, -, related⟩ := related
      exact related.respelled.looselyEquals current

theorem propertyEquals_written : propertyEquals (c.written b) = propertyEquals c := by
  have related := like.find? "Value"
  simp only [propertyEquals, Call.target?_written like, Call.written_world, Call.written_properties]
  generalize Bag.find? c.node.properties "Value" = o at related ⊢
  generalize b.find? "Value" = o' at related ⊢
  cases related with
  | none => rfl
  | some related =>
    obtain ⟨name, -, related⟩ := related
    cases c.target? with
    | none => rfl
    | some target => exact congrArg (Option.any · _) (funext related.respelled.looselyEquals)

theorem percent?_written : percent? (c.written b) = percent? c :=
  like.bind_toFloat? (fun _ _ _ => NodeType.Allows.respelled) "Percent"

theorem source?_written : source? (c.written b) = source? c :=
  funext fun node => by rw [source?, source?, Call.arg_written like, Call.written_outputs]

end

theorem holds_written {t : ConditionType} (like : Bag.Like (NodeType.condition t).Allows c.node.properties b) :
    holds t (c.written b) = holds t c := by
  have args := Call.arg_written like
  have amounts := Call.amount_written like
  cases t with
  | isNight | inCombat => rfl
  | variableEquals => exact compareVariable_written like
  | propertyEquals => exact propertyEquals_written like
  | randomChance =>
    simp only [holds, percent?_written like]
    rfl
  | variableGreaterThan | variableLessThan =>
    have value := Call.find?_written like "Value" (by decide)
    simp only [holds, compareVariable, variableAndValue?, args, value, Call.written_world, Call.written_properties]
  | compareValues =>
    have value := Call.find?_written like "Value" (by decide)
    simp only [holds, compareValues, source?_written like, args, Bag.getValue, value, Call.written_properties]
  | playerHealthAbove | playerHealthBelow | playerGoldAtLeast | questStageIs | timeOfDayBetween =>
    simp only [holds, timeOfDay, args, amounts]
    rfl
  | _ => simp only [holds, room, door, npc, object, quest, args, Call.written_world]

theorem drawn_written {t : ConditionType} (like : Bag.Like (NodeType.condition t).Allows c.node.properties b) :
    drawn t (c.written b) = drawn t c := by
  cases t with
  | randomChance => simp only [drawn, percent?_written like]
  | _ => rfl

end Condition

namespace Flow

variable {c : Call} {b : Bag}

theorem next_written {t : FlowType} (like : Bag.Like (NodeType.flow t).Allows c.node.properties b) :
    next t (c.written b) = next t c := by
  cases t with
  | sequence | randomBranch => rfl
  | branch =>
    have same : branch (c.written b) = branch c := by
      simp only [branch, Condition.source?_written like, Call.arg_written like, Call.getBool_written like,
        Call.written_properties]
    rw [next, next, same]
  | delay => simp only [next, Call.getFloat_written like, Call.written_properties, Call.written_id]

end Flow

namespace Source

variable {c : Call} {b : Bag}

theorem value_written {t : SourceType} (like : Bag.Like (NodeType.source t).Allows c.node.properties b) :
    value t (c.written b) = value t c := by
  have args := Call.arg_written like
  cases t with
  | playerHealth | playerGold | playerRoom | timeOfDay | turnCount | inventoryCount => rfl
  | constant =>
    have value := Call.find?_written like "Value" (by decide)
    simp only [Source.value, Bag.getValue, value, Call.written_properties]
  | getProperty => simp only [value, property, Call.target?_written like, Call.written_world]
  | randomNumber =>
    simp only [value, randomNumber, Call.getInt_written like, Call.written_draws, Call.written_properties]
  | getVariable | getFlag | npcHealth | questStage => simp only [value, args, Call.written_world]

end Source

namespace Dialogue

variable {c : Call} {b : Bag}

theorem act_written {t : DialogueType} (like : Bag.Like (NodeType.dialogue t).Allows c.node.properties b) :
    act t (c.written b) = act t c := by
  have args := Call.arg_written like
  cases t with
  | say | narrate | playVoice => simp only [act, Act.withArg, Act.idle, line, speaker?, args, Call.written_world]
  | setGreeting =>
    have text := Call.getString_written like "Text" (by decide)
    simp only [act, Act.withNpc, Act.idle, args, text, Call.written_world, Call.written_properties]

end Dialogue

/-- A handler answers alike to two calls of a node whose properties differ in what may stand there in place of
something else. -/
theorem builtin_written {t : NodeType} {c : Call} {b : Bag} (like : Bag.Like t.Allows c.node.properties b) :
    builtin t (c.written b) = builtin t c := by
  cases t with
  | event => rfl
  | condition t =>
    simp only [builtin, Condition.handle, Condition.holds_written like, Condition.drawn_written like, Call.written_world]
  | action t => exact congrArg Act.response (Act.of_written like)
  | flow t => simp only [builtin, Flow.handle, Flow.next_written like, Call.written_world]
  | source t => simp only [builtin, Source.handle, Source.value_written like, Call.written_world]
  | dialogue t => exact congrArg Act.response (Dialogue.act_written like)

/-- Whole numbers may be authored as text. The decimal text of a number reads as exactly that number, with any white
space around it, also from a bag; a bag that holds the bare text reads as the one that holds the number, as a number and
as a text; and a handler answers alike to both, however the numbers are spelled that it reads as whole ones. -/
theorem whole_numbers_as_text :
    (∀ (i : Int64) (before after : String), Text.isBlank before = true → Text.isBlank after = true →
      (Value.string (before ++ Whole.write i ++ after)).toInt? = some i ∧
      (Value.string (before ++ (Value.int i).toText ++ after)).toInt? = some i) ∧
    (∀ (b : Bag) (key : String) (v : Value), b.find? key = some v → ∀ i,
      (v.Spells i → ∀ default, b.getInt key default = i) ∧
        (v.SpellsBare i → ∀ default, b.getString key default = Whole.write i)) ∧
    (∀ b b' : Bag, b.Like (fun _ => Value.RespelledBare) b' → ∀ key,
      (∀ default, b'.getInt key default = b.getInt key default) ∧
      ∀ default, b'.getString key default = b.getString key default) ∧
    (∀ (t : NodeType) (c : Call) (b : Bag), Bag.Like t.Allows c.node.properties b →
      builtin t (c.written b) = builtin t c) ∧
    ∀ (t : NodeType) (c : Call), ∀ key ∈ t.wholes, ∀ name, Text.sameName name key = true →
      ∀ i v v', Value.Spells i v → Value.Spells i v' → builtin t (c.given name v') = builtin t (c.given name v) := by
  refine ⟨fun i before after blank blank' => ?_, fun b key v found i => ⟨?_, ?_⟩, fun b b' like key => ⟨?_, ?_⟩,
    fun t c b => builtin_written, ?_⟩
  · exact ⟨(Value.Spells.text blank blank').toInt?, (Value.Spells.text blank blank').toInt?⟩
  · exact Bag.getInt_of_spells found
  · exact Bag.getString_of_spellsBare found
  · exact like.getInt (fun _ _ _ => Value.RespelledBare.respelled) key
  · exact like.getString fun _ _ _ _ bare => bare
  · intro t c key listed name same i v v' here there
    have allowed := t.allows_whole key listed same (.inr ⟨i, here, there⟩)
    have like : Bag.Like t.Allows (c.given name v).node.properties (Table.insert c.node.properties name v') :=
      (Bag.Like.refl (NodeType.Allows.refl t) c.node.properties).insert allowed
    exact builtin_written like

/-- A number that no float is equal to, as such, as its text and with white space around it. -/
theorem whole_numbers_as_text_hoard :
    let hoard : Value := .int 9007199254740993
    let bare : Value := .string "9007199254740993"
    let padded : Value := .string "\t9007199254740993 "
    let c := cellarCall "Action_AddGold" [("Amount", hoard)]
    padded.toInt? = some 9007199254740993 ∧
      (Decimal.read? "9007199254740993").bind Binary.truncate? = some 9007199254740992 ∧
      Bag.getInt (.ofList [("Amount", padded)]) "amount" 0 = 9007199254740993 ∧
      Bag.getString (.ofList [("Amount", hoard)]) "amount" "" = Whole.write 9007199254740993 ∧
      Bag.getInt (.ofList [("Amount", bare)]) "amount" 0 = Bag.getInt (.ofList [("Amount", hoard)]) "amount" 0 ∧
      builtin (.action .addGold) (c.written (.ofList [("Amount", padded)])) = builtin (.action .addGold) c ∧
      builtin (.action .addGold) (c.given "AMOUNT" padded) = builtin (.action .addGold) (c.given "AMOUNT" hoard) := by
  intro hoard bare padded c
  obtain ⟨reads, precise, bags, handlers, wholes⟩ := whole_numbers_as_text
  have written : "\t" ++ Whole.write 9007199254740993 ++ " " = "\t9007199254740993 " := by decide
  have text : Value.Spells 9007199254740993 padded := by
    have spelled := @Value.Spells.text 9007199254740993 "\t" " " (by decide) (by decide)
    rwa [written] at spelled
  have read : padded.toInt? = some 9007199254740993 := by
    have read := (reads 9007199254740993 "\t" " " (by decide) (by decide)).1
    rwa [written] at read
  have alike : Bag.Like (fun _ => Value.RespelledBare) (.ofList [("Amount", hoard)]) (.ofList [("Amount", bare)]) :=
    (Bag.Like.refl (fun _ _ => .inl rfl) Table.empty).insert (.inr ⟨9007199254740993, .number, .text⟩)
  have allowed : (NodeType.action .addGold).Allows "Amount" hoard padded :=
    NodeType.allows_whole _ "Amount" (by decide) (by decide) (.inr ⟨_, .number, text⟩)
  have like : Bag.Like (NodeType.action .addGold).Allows c.node.properties (.ofList [("Amount", padded)]) :=
    (Bag.Like.refl (NodeType.Allows.refl _) Table.empty).insert allowed
  have counted := (precise (.ofList [("Amount", padded)]) "amount" padded (by decide) _).1 text 0
  have shown := (precise (.ofList [("Amount", hoard)]) "amount" hoard (by decide) _).2 .number ""
  exact ⟨read, by decide, counted, shown, (bags _ _ alike "amount").1 0, handlers _ c _ like,
    wholes _ c "Amount" (by decide) "AMOUNT" (by decide) _ hoard padded .number text⟩

end StoryGraph
