import StoryGraph.Library
import StoryGraph.Proofs.Correspondence
import StoryGraph.Proofs.Graph.Lookup

/-!
Graphs that are written alike: they differ in the case of letters at most, and only where case does not count.
Main statement: whatever is looked up in two such libraries, what is found is alike.
-/

namespace StoryGraph

/-- The same node, but for the case in which its type is written. -/
structure Node.Alike (n n' : Node) : Prop where
  id : n'.id = n.id
  declared : n'.declared = n.declared
  properties : n'.properties = n.properties
  typeTag : Text.fold n'.typeTag = Text.fold n.typeTag

structure Connection.Alike (c c' : Connection) : Prop where
  fromNode : Text.fold c'.fromNode = Text.fold c.fromNode
  fromPort : Text.fold c'.fromPort = Text.fold c.fromPort
  toNode : Text.fold c'.toNode = Text.fold c.toNode
  toPort : Text.fold c'.toPort = Text.fold c.toPort

/-- The same graph, but for the case in which its connections, its owner and the types of its nodes are written. -/
structure Graph.Alike (g g' : Graph) : Prop where
  id : g'.id = g.id
  ownerType : Text.fold g'.ownerType = Text.fold g.ownerType
  ownerId : Text.fold g'.ownerId = Text.fold g.ownerId
  name : g'.name = g.name
  nodes : List.Forall₂ Node.Alike g.nodes g'.nodes
  connections : List.Forall₂ Connection.Alike g.connections g'.connections

/-- The same graphs in the same order, each written alike. -/
def Library.Alike (l l' : Library) : Prop := List.Forall₂ Graph.Alike l l'

theorem Node.Alike.refl (n : Node) : n.Alike n := ⟨rfl, rfl, rfl, rfl⟩

theorem Connection.Alike.refl (c : Connection) : c.Alike c := ⟨rfl, rfl, rfl, rfl⟩

theorem Graph.Alike.refl (g : Graph) : g.Alike g :=
  ⟨rfl, rfl, rfl, rfl, List.forall₂_same.2 fun n _ => .refl n, List.forall₂_same.2 fun c _ => .refl c⟩

theorem Library.Alike.refl (l : Library) : l.Alike l := List.forall₂_same.2 fun g _ => .refl g

theorem NodeType.ofTag?_congr {a b : String} (h : Text.fold a = Text.fold b) : ofTag? a = ofTag? b := by
  simp only [ofTag?, Text.sameName, Text.fold_trim_congr h]

namespace Node.Alike

variable {n n' : Node}

theorem kind? (h : n.Alike n') : n'.kind? = n.kind? := NodeType.ofTag?_congr h.typeTag

theorem isEvent (h : n.Alike n') : n'.isEvent = n.isEvent := by
  rw [Node.isEvent, Node.isEvent, category?, category?, h.kind?, h.declared]

end Node.Alike

namespace Graph.Alike

variable {g g' : Graph}

theorem node? (h : g.Alike g') {a b : String} (same : Text.fold b = Text.fold a) :
    Option.Rel Node.Alike (g.node? a) (g'.node? b) :=
  rel_find? (fun n n' alike => by rw [Text.sameName, Text.sameName, alike.id, same]) h.nodes

theorem node?_none (h : g.Alike g') {a b : String} (same : Text.fold b = Text.fold a) (found : g.node? a = none) :
    g'.node? b = none := by
  have related := h.node? same
  rw [found] at related
  cases there : g'.node? b with
  | none => rfl
  | some n' =>
    rw [there] at related
    cases related

theorem node?_some (h : g.Alike g') {a b : String} (same : Text.fold b = Text.fold a) {n : Node}
    (found : g.node? a = some n) : ∃ n', g'.node? b = some n' ∧ n.Alike n' := by
  have related := h.node? same
  rw [found] at related
  cases there : g'.node? b with
  | none =>
    rw [there] at related
    cases related
  | some n' =>
    rw [there] at related
    cases related with
    | some node => exact ⟨n', rfl, node⟩

theorem connectionFrom? (h : g.Alike g') (node port : String) :
    Option.Rel Connection.Alike (g.connectionFrom? node port) (g'.connectionFrom? node port) :=
  rel_find? (fun c c' alike => by
    simp only [Connection.leaves, Text.sameName, alike.fromNode, alike.fromPort]) h.connections

theorem isOwnedBy (h : g.Alike g') {type type' id id' : String} (sameType : Text.fold type' = Text.fold type)
    (sameId : Text.fold id' = Text.fold id) : g'.isOwnedBy type' id' = g.isOwnedBy type id := by
  have star : (g'.ownerId == "*") = (g.ownerId == "*") := by
    rw [Bool.eq_iff_iff, beq_iff_eq, beq_iff_eq, ← Text.fold_eq_star_iff, h.ownerId, Text.fold_eq_star_iff]
  simp only [Graph.isOwnedBy, Text.sameName, h.ownerType, h.ownerId, sameType, sameId, star]

theorem entryNodes (h : g.Alike g') {tag tag' : String} (same : Text.fold tag' = Text.fold tag) :
    List.Forall₂ Node.Alike (g.entryNodes tag) (g'.entryNodes tag') :=
  rel_filter (fun n n' alike => by
    rw [alike.isEvent, Text.sameName, Text.sameName, alike.typeTag, Text.fold_trim_congr same]) h.nodes

theorem entryNode? (h : g.Alike g') {tag tag' : String} (same : Text.fold tag' = Text.fold tag) :
    Option.Rel Node.Alike (g.entryNode? tag) (g'.entryNode? tag') := rel_head? (h.entryNodes same)

end Graph.Alike

structure Entry.Alike (e e' : Entry) : Prop where
  graph : e.graph.Alike e'.graph
  node : e'.node = e.node

namespace Library.Alike

variable {l l' : Library}

theorem filterMap {node? node?' : Graph → Option Node} (h : l.Alike l')
    (same : ∀ g g', g.Alike g' → Option.Rel Node.Alike (node? g) (node?' g')) :
    List.Forall₂ Entry.Alike (l.filterMap fun g => (node? g).map fun n => ⟨g, n.id⟩)
      (l'.filterMap fun g => (node?' g).map fun n => ⟨g, n.id⟩) := by
  refine List.rel_filterMap (R := Graph.Alike) (fun g g' alike => ?_) h
  exact rel_map (fun n n' node => ⟨alike, node.id⟩) (same g g' alike)

theorem entriesFor (h : l.Alike l') {type type' id id' tag tag' : String}
    (sameType : Text.fold type' = Text.fold type) (sameId : Text.fold id' = Text.fold id)
    (sameTag : Text.fold tag' = Text.fold tag) :
    List.Forall₂ Entry.Alike (l.entriesFor type id tag) (l'.entriesFor type' id' tag') := by
  have owned : Library.Alike (l.filter fun g => g.isOwnedBy type id) (l'.filter fun g => g.isOwnedBy type' id') :=
    rel_filter (fun g g' alike => alike.isOwnedBy sameType sameId) h
  exact owned.filterMap fun g g' alike => alike.entryNode? sameTag

theorem entriesForAnyOwner (h : l.Alike l') {tag tag' : String} (sameTag : Text.fold tag' = Text.fold tag) :
    List.Forall₂ Entry.Alike (l.entriesForAnyOwner tag) (l'.entriesForAnyOwner tag') :=
  h.filterMap fun _ _ alike => alike.entryNode? sameTag

theorem listeners (h : l.Alike l') (c : Change) : List.Forall₂ Entry.Alike (l.listeners c) (l'.listeners c) :=
  h.filterMap fun _ _ alike =>
    rel_find? (fun n n' node => by rw [Library.listensTo, Library.listensTo, node.properties])
      (alike.entryNodes rfl)

end Library.Alike

end StoryGraph
