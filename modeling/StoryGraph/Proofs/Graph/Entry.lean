import StoryGraph.Library
import StoryGraph.Proofs.Graph.Lookup
import StoryGraph.Proofs.NodeType.Tags
import StoryGraph.Proofs.Validation.Findings

/-!
The node at which a graph is entered: the first one that waits for what has happened. Main statements: of the nodes that
the catalog knows as an event, those wait for it whose type is written without white space around it; and the node that
is entered is what its id names, unless a node before it has the same id.
-/

namespace StoryGraph

namespace Graph

variable {g : Graph}

/-- The first node of which something holds, behind those of which it does not. -/
structure First (g : Graph) (P : Node → Prop) (before : List Node) (n : Node) : Prop where
  split : ∃ after, g.nodes = before ++ n :: after
  holds : P n
  earlier : ∀ m ∈ before, ¬ P m

section First

variable {P : Node → Prop} {p : Node → Bool} {before : List Node} {n : Node} (reads : ∀ n, p n = true ↔ P n)
include reads

theorem find?_eq_some_iff : g.nodes.find? p = some n ↔ ∃ before, g.First P before n := by
  have unread (m : Node) : (!p m) = true ↔ ¬ P m := by rw [Bool.not_eq_true', ← reads, Bool.not_eq_true]
  simp only [List.find?_eq_some_iff_append, reads, unread]
  constructor
  · rintro ⟨holds, before, after, split, earlier⟩
    exact ⟨before, ⟨after, split⟩, holds, earlier⟩
  · rintro ⟨before, ⟨after, split⟩, holds, earlier⟩
    exact ⟨holds, before, after, split, earlier⟩

theorem find?_eq_none_iff : g.nodes.find? p = none ↔ ∀ n ∈ g.nodes, ¬ P n := by
  simp only [List.find?_eq_none, reads]

end First

/-- The first node of an id. -/
theorem node?_eq_some_iff {id : String} {n : Node} :
    g.node? id = some n ↔ ∃ before, g.First (fun m => Text.fold m.id = Text.fold id) before n :=
  find?_eq_some_iff fun _ => Text.sameName_iff

/-- The node that is found first is what its id names exactly if no node before it has the same id. -/
theorem First.named_iff {P : Node → Prop} {before : List Node} {n m : Node} (first : g.First P before n)
    (named : g.node? n.id = some m) : m = n ↔ ∀ x ∈ before, Text.fold x.id ≠ Text.fold n.id := by
  constructor
  · rintro rfl x mem same
    obtain ⟨after, split⟩ := first.split
    -- The id names a node that stands at this place or before it.
    have seen : (before.find? fun y => Text.sameName y.id m.id).isSome = true :=
      List.find?_isSome.2 ⟨x, mem, Text.sameName_iff.2 same⟩
    obtain ⟨y, found⟩ := Option.isSome_iff_exists.1 seen
    rw [node?, split, List.find?_append, found, Option.some_or] at named
    cases named
    exact first.earlier m (List.mem_of_find?_eq_some found) first.holds
  · intro none
    have here : g.node? n.id = some n := node?_eq_some_iff.2 ⟨before, first.split, rfl, none⟩
    exact Option.some.inj (named.symm.trans here)

/-- In a graph without errors no two nodes have the same id. -/
theorem ids_distinct_of_isValid {handled : NodeType → Bool} (valid : g.isValid handled = true)
    {before after : List Node} {n : Node} (split : g.nodes = before ++ n :: after) :
    ∀ x ∈ before, Text.fold x.id ≠ Text.fold n.id := by
  intro x mem same
  have twice : (before.any fun e => Text.sameName e.id n.id) = true :=
    List.any_eq_true.2 ⟨x, mem, Text.sameName_iff.2 same⟩
  have found : Finding.duplicateId n.id ∈ g.findings handled :=
    mem_findings_of_node split (by simp [nodeFindings, twice])
  have told : (Finding.duplicateId n.id).message ∈ g.errors handled :=
    List.mem_map_of_mem (List.mem_filter.2 ⟨found, rfl⟩)
  rw [isValid, List.isEmpty_iff] at valid
  rw [valid] at told
  exact List.not_mem_nil told

end Graph

/-! Events. -/

/-- An event node with this tag, around which white space does not count. -/
def Node.AwaitsEvent (tag : String) (n : Node) : Prop :=
  n.category? = some .event ∧ Text.fold n.typeTag = Text.fold (Text.trim tag)

/-- No white space stands around the type. -/
def Node.TidilyTyped (n : Node) : Prop := Text.trim n.typeTag = n.typeTag

instance (n : Node) : Decidable n.TidilyTyped := inferInstanceAs (Decidable (_ = _))

theorem Node.awaitsEvent_iff {tag : String} {n : Node} :
    (n.isEvent && Text.sameName n.typeTag (Text.trim tag)) = true ↔ n.AwaitsEvent tag := by
  simp [AwaitsEvent, isEvent, Text.sameName_iff]

theorem Graph.entryNode?_eq_find? (g : Graph) (tag : String) :
    g.entryNode? tag = g.nodes.find? fun n => n.isEvent && Text.sameName n.typeTag (Text.trim tag) := by
  rw [entryNode?, entryNodes, List.head?_filter]

theorem Graph.entryNode?_eq_some_iff {g : Graph} {tag : String} {n : Node} :
    g.entryNode? tag = some n ↔ ∃ before, g.First (Node.AwaitsEvent tag) before n := by
  rw [entryNode?_eq_find?, find?_eq_some_iff fun _ => Node.awaitsEvent_iff]

/-- Of the nodes that the catalog knows as an event, those wait for it whose type is tidy. -/
theorem Node.awaitsEvent_tag_iff {n : Node} {t : EventType} {tag : String}
    (named : Text.fold (Text.trim tag) = Text.fold (NodeType.event t).tag) :
    n.AwaitsEvent tag ↔ n.kind? = some (.event t) ∧ n.TidilyTyped := by
  rw [AwaitsEvent, named, kind?, NodeType.ofTag?_eq_some_event_iff]
  constructor
  · rintro ⟨-, same⟩
    have trimmed : Text.fold (Text.trim n.typeTag) = Text.fold n.typeTag := by
      rw [Text.fold_trim_congr same, NodeType.trim_tag_event, same]
    exact ⟨trimmed.trans same, Text.trim_eq_of_fold_trim trimmed⟩
  · rintro ⟨same, tidy⟩
    have kind : n.kind? = some (.event t) := NodeType.ofTag?_eq_some_event_iff.2 same
    rw [TidilyTyped] at tidy
    rw [tidy] at same
    exact ⟨by rw [category?, kind]; rfl, same⟩

namespace Graph

/-- A graph is entered at the first tidy node of an event. That is the first of all nodes of the event, unless white
space stands around the type of this one. -/
theorem entryNode?_of_event (g : Graph) (t : EventType) {tag : String}
    (named : Text.fold (Text.trim tag) = Text.fold (NodeType.event t).tag) :
    (∀ n, g.entryNode? tag = some n ↔
      ∃ before, g.First (fun m => m.kind? = some (.event t) ∧ m.TidilyTyped) before n) ∧
    (g.entryNode? tag = none ↔ ∀ n ∈ g.nodes, n.kind? = some (.event t) → ¬ n.TidilyTyped) ∧
    ((g.entryNode? tag = g.nodes.find? fun n => n.kind? = some (.event t)) ↔
      ∀ before n, g.First (fun m => m.kind? = some (.event t)) before n → n.TidilyTyped) := by
  have waits : Node.AwaitsEvent tag = fun m => m.kind? = some (.event t) ∧ m.TidilyTyped :=
    funext fun _ => propext (Node.awaitsEvent_tag_iff named)
  have entered (n : Node) : g.entryNode? tag = some n ↔ ∃ before, g.First (Node.AwaitsEvent tag) before n :=
    entryNode?_eq_some_iff
  rw [waits] at entered
  have shut : g.entryNode? tag = none ↔ ∀ n ∈ g.nodes, n.kind? = some (.event t) → ¬ n.TidilyTyped := by
    rw [entryNode?_eq_find?, find?_eq_none_iff fun _ => Node.awaitsEvent_iff, waits]
    simp only [not_and]
  have known {n : Node} : (g.nodes.find? fun n => n.kind? = some (.event t)) = some n ↔ _ :=
    find?_eq_some_iff fun _ => decide_eq_true_iff
  refine ⟨entered, shut, ?_⟩
  constructor
  · intro agrees before n first
    obtain ⟨_, tidy⟩ := (entered n).1 (agrees.trans (known.2 ⟨before, first⟩))
    exact tidy.holds.2
  · intro tidy
    cases found : g.nodes.find? fun n => n.kind? = some (.event t) with
    | none => exact shut.2 fun n mem kind => absurd (decide_eq_true kind) (List.find?_eq_none.1 found n mem)
    | some n =>
      obtain ⟨before, first⟩ := known.1 found
      exact (entered n).2 ⟨before, first.split, ⟨first.holds, tidy before n first⟩,
        fun m mem waits => first.earlier m mem waits.1⟩

theorem entryNode?_of_event_enter :
    let g : Graph := { id := "hall", nodes := [{ id := "leave", typeTag := "Event_OnExit" },
      { id := "start", typeTag := "event_ONENTER" }] }
    Text.fold (Text.trim " Event_onEnter ") = Text.fold (NodeType.event .onEnter).tag ∧
      (g.entryNode? " Event_onEnter ").map Node.id = some "start" ∧
      (∀ n, g.entryNode? " Event_onEnter " = some n ↔
        ∃ before, g.First (fun m => m.kind? = some (.event .onEnter) ∧ m.TidilyTyped) before n) ∧
      (g.entryNode? " Event_onEnter " = none ↔
        ∀ n ∈ g.nodes, n.kind? = some (.event .onEnter) → ¬ n.TidilyTyped) ∧
      ((g.entryNode? " Event_onEnter " = g.nodes.find? fun n => n.kind? = some (.event .onEnter)) ↔
        ∀ before n, g.First (fun m => m.kind? = some (.event .onEnter)) before n → n.TidilyTyped) := by
  intro g
  have named : Text.fold (Text.trim " Event_onEnter ") = Text.fold (NodeType.event .onEnter).tag := by decide +kernel
  exact ⟨named, by decide +kernel, g.entryNode?_of_event .onEnter named⟩

/-- A node that the catalog knows as an event, and in which no fault is found, is not entered. -/
theorem untidy_not_entered :
    let n : Node := { id := "start", typeTag := " Event_OnEnter" }
    let g : Graph := { id := "hall", nodes := [n] }
    n.kind? = some (.event .onEnter) ∧ n.isEvent = true ∧ g.isValid (fun _ => true) = true ∧
      (g.nodes.find? fun n => n.kind? = some (.event .onEnter)).map Node.id = some "start" ∧
      g.entryNode? "Event_OnEnter" = none := by
  intro n g
  have kind : n.kind? = some (.event .onEnter) := NodeType.ofTag?_eq_some_event_iff.2 (by decide +kernel)
  have event : n.isEvent = true := by
    rw [Node.isEvent, Node.category?, kind]
    rfl
  have sound : g.findings (fun _ => true) = [] := by
    have unchained : g.cycles = [] := by
      simp [cycles, targets, closingNodes, without, g]
    have plain : nodeFindings (fun _ => true) [] n = [] := by
      rw [nodeFindings, kind]
      decide +kernel
    simp [findings, findingsAlong, plain, unchained, g]
  exact ⟨kind, event, by rw [isValid, errors, sound]; rfl, by decide +kernel, by decide +kernel⟩

end Graph

/-! Changes. -/

/-- The settings of a node that waits for this change. Each is read without the white space around it, and one that is
blank counts as missing. -/
structure Node.ListensFor (c : Change) (n : Node) : Prop where
  event : Text.fold n.typeTag = Text.fold (NodeType.event .onPropertyChanged).tag
  entityType : (Bag.getText? n.properties "EntityType").bind EntityType.ofName? = some c.entityType
  property : ∃ name, Bag.getText? n.properties "PropertyName" = some name ∧ Text.fold name = Text.fold c.property
  entityId : ∀ id, Bag.getText? n.properties "EntityId" = some id → Text.fold id = Text.fold c.entityId

theorem Library.listensTo_iff {c : Change} {n : Node} : listensTo c n = true ↔
    (Bag.getText? n.properties "EntityType").bind EntityType.ofName? = some c.entityType ∧
    (∃ name, Bag.getText? n.properties "PropertyName" = some name ∧ Text.fold name = Text.fold c.property) ∧
    ∀ id, Bag.getText? n.properties "EntityId" = some id → Text.fold id = Text.fold c.entityId := by
  rw [listensTo, Bool.and_eq_true, Bool.and_eq_true, beq_iff_eq, and_assoc]
  cases Bag.getText? n.properties "PropertyName" <;> cases Bag.getText? n.properties "EntityId" <;>
    simp [Text.sameName_iff]

theorem Node.listensFor_iff {c : Change} {n : Node} :
    n.AwaitsEvent (NodeType.event .onPropertyChanged).tag ∧ Library.listensTo c n = true ↔ n.ListensFor c := by
  rw [AwaitsEvent, NodeType.trim_tag_event, Library.listensTo_iff]
  constructor
  · rintro ⟨⟨-, event⟩, entityType, property, entityId⟩
    exact ⟨event, entityType, property, entityId⟩
  · rintro ⟨event, entityType, property, entityId⟩
    -- A node with the tag of an event is one.
    have kind : n.kind? = some (.event .onPropertyChanged) := by
      rw [kind?, NodeType.ofTag?_eq_some_event_iff, Text.fold_trim_congr event, NodeType.trim_tag_event]
    exact ⟨⟨by rw [category?, kind]; rfl, event⟩, entityType, property, entityId⟩

namespace Graph

variable {g : Graph}

/-- The first node that waits for a change. -/
def listener? (g : Graph) (c : Change) : Option Node :=
  (g.entryNodes (NodeType.event .onPropertyChanged).tag).find? (Library.listensTo c)

theorem listener?_eq_find? (g : Graph) (c : Change) : g.listener? c = g.nodes.find? fun n =>
    (n.isEvent && Text.sameName n.typeTag (Text.trim (NodeType.event .onPropertyChanged).tag)) = true ∧
      Library.listensTo c n = true := List.find?_filter

theorem listens_iff {c : Change} {n : Node} :
    decide ((n.isEvent && Text.sameName n.typeTag (Text.trim (NodeType.event .onPropertyChanged).tag)) = true ∧
      Library.listensTo c n = true) = true ↔ n.ListensFor c := by
  rw [decide_eq_true_iff, Node.awaitsEvent_iff, Node.listensFor_iff]

theorem listener?_eq_some_iff {c : Change} {n : Node} :
    g.listener? c = some n ↔ ∃ before, g.First (Node.ListensFor c) before n := by
  rw [listener?_eq_find?, find?_eq_some_iff fun _ => listens_iff]

theorem listener?_eq_none_iff {c : Change} : g.listener? c = none ↔ ∀ n ∈ g.nodes, ¬ n.ListensFor c := by
  rw [listener?_eq_find?, find?_eq_none_iff fun _ => listens_iff]

end Graph

end StoryGraph
