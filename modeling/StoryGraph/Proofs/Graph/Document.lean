import StoryGraph.Graph.Document
import StoryGraph.Proofs.Graph.Lookup
import StoryGraph.Proofs.Json.Bounded
import StoryGraph.Proofs.Json.Reordered
import StoryGraph.Proofs.World.Document

/-!
Graphs written to documents and read again. Main statements: a document holds the graph of which each part is what its
field gives, or its default; and whatever graph a document holds, what is written for it is read as the same graph, in
which the look-ups answer the same, in whatever order the writer lists the fields of objects.
-/

namespace StoryGraph

open Json (Gives Reordered)

/-- The same node, but for the order in which its properties are listed. -/
structure Node.Relisted (n n' : Node) : Prop where
  id : n'.id = n.id
  typeTag : n'.typeTag = n.typeTag
  declared : n'.declared = n.declared
  properties : n.properties.entries.Perm n'.properties.entries

/-- The same graph, but for the order in which the properties of its nodes are listed. -/
structure Graph.Relisted (g g' : Graph) : Prop where
  id : g'.id = g.id
  ownerType : g'.ownerType = g.ownerType
  ownerId : g'.ownerId = g.ownerId
  name : g'.name = g.name
  nodes : List.Forall₂ Node.Relisted g.nodes g'.nodes
  connections : g'.connections = g.connections

/-! Look-ups. -/

namespace Node.Relisted

variable {n n' : Node}

theorem isEvent (h : n.Relisted n') : n'.isEvent = n.isEvent := by
  simp only [Node.isEvent, category?, kind?, h.typeTag, h.declared]

end Node.Relisted

namespace Graph.Relisted

variable {g g' : Graph}

theorem node? (h : g.Relisted g') (id : String) : Option.Rel Node.Relisted (g.node? id) (g'.node? id) :=
  rel_find? (fun n n' same => by rw [same.id]) h.nodes

theorem connectionFrom? (h : g.Relisted g') (node port : String) :
    g'.connectionFrom? node port = g.connectionFrom? node port := by
  rw [Graph.connectionFrom?, Graph.connectionFrom?, h.connections]

theorem entryNodes (h : g.Relisted g') (tag : String) :
    List.Forall₂ Node.Relisted (g.entryNodes tag) (g'.entryNodes tag) :=
  rel_filter (fun n n' same => by rw [same.isEvent, same.typeTag]) h.nodes

theorem isOwnedBy (h : g.Relisted g') (type id : String) : g'.isOwnedBy type id = g.isOwnedBy type id := by
  simp only [Graph.isOwnedBy, h.ownerType, h.ownerId]

end Graph.Relisted

/-! Writing and reading. -/

theorem Category.ofName?_name (c : Category) : ofName? c.name = some c := by
  cases c <;> rfl

theorem Value.isLeaf_toJson (v : Value) : v.toJson.isLeaf = true := by
  cases v with
  | null | bool | int | string => rfl
  | float x =>
    rw [toJson]
    split <;> rfl

theorem Bag.ofJson?_reordered {b : Bag} (finite : ∀ e ∈ b.entries, e.2.isFinite = true) {j' : Json}
    (h : Reordered b.toJson j') : ∃ b', ofJson? j' = some b' ∧ b.entries.Perm b'.entries := by
  have kept : (b.entries.map fun e => (e.1, e.2.settled)) = b.entries := by
    have same : ∀ e ∈ b.entries, (e.1, e.2.settled) = e := fun e mem => Prod.ext rfl (if_pos (finite e mem))
    exact (List.map_congr_left same).trans (List.map_id' _)
  have written : b.toJson.pairs? Value.ofJson? = some b.entries := by
    rw [toJson, Json.pairs?_map Value.ofJson?_toJson, kept]
  obtain ⟨l, pairs, order⟩ := h.pairs? (List.forall_mem_map.2 fun e _ => e.2.isLeaf_toJson) written
  refine ⟨Table.ofList l, by rw [ofJson?, pairs, Option.map_some], ?_⟩
  rwa [Table.entries_ofList ((order.map Prod.fst).nodup_iff.1 b.nodup)]

/-- No property is a float that is infinite or no number. -/
def Node.Finite (n : Node) : Prop := ∀ e ∈ n.properties.entries, e.2.isFinite = true

theorem Node.declared?_str (s : String) : declared? (.str s) = some (Category.ofName? s) := by
  simp only [declared?, Json.canonical?, Option.map_some, Json.text?_str, Option.bind_some]

theorem Node.ofJson?_of_fields {n : Node} (finite : n.Finite) {j : Json} {r : Json.Record}
    (record : j.record? ["id", "type", "category", "properties"] = some r) (id : r.find? "id" = some (.str n.id))
    (typeTag : r.find? "type" = some (.str n.typeTag)) (declared : r.get "category" declared? none = some n.declared)
    (properties : Option.Rel Reordered (some n.properties.toJson) (r.find? "properties")) :
    ∃ n', ofJson? j = some n' ∧ n.Relisted n' := by
  obtain ⟨listed, found, same⟩ := Json.Record.find?_reordered properties
  obtain ⟨b, read, order⟩ := Bag.ofJson?_reordered finite same
  have bag : r.get "properties" Bag.ofJson? Table.empty = some b := by
    simp only [Json.Record.get, found, read]
  refine ⟨⟨n.id, n.typeTag, n.declared, b⟩, ?_, rfl, rfl, rfl, order⟩
  simp [ofJson?, record, Json.Record.need, id, typeTag, declared, bag]

theorem Node.ofJson?_reordered {n : Node} (finite : n.Finite) {j' : Json} (h : Reordered n.toJson j') :
    ∃ n', ofJson? j' = some n' ∧ n.Relisted n' := by
  -- A family that is not declared is left out of what is written.
  cases family : n.declared with
  | none =>
    simp only [toJson, family] at h
    obtain ⟨r, record, found⟩ := h.record? (by simp) ["id", "type", "category", "properties"] (by simp)
    have left := Json.Record.find?_none (found "category")
    refine ofJson?_of_fields finite record (Json.Record.find?_leaf (found "id") rfl)
      (Json.Record.find?_leaf (found "type") rfl) ?_ (found "properties")
    rw [Json.Record.get, left, family]
  | some c =>
    simp only [toJson, family] at h
    obtain ⟨r, record, found⟩ := h.record? (by simp) ["id", "type", "category", "properties"] (by simp)
    have named := Json.Record.find?_leaf (found "category") rfl
    refine ofJson?_of_fields finite record (Json.Record.find?_leaf (found "id") rfl)
      (Json.Record.find?_leaf (found "type") rfl) ?_ (found "properties")
    rw [Json.Record.get, named, family]
    exact (declared?_str c.name).trans (by rw [c.ofName?_name])

theorem Connection.ofJson?_reordered {c : Connection} {j' : Json} (h : Reordered c.toJson j') :
    ofJson? j' = some c := by
  obtain ⟨r, record, found⟩ := h.record? (by simp) ["fromNodeId", "fromPort", "toNodeId", "toPort"] (by simp)
  have fromNode := Json.Record.find?_leaf (found "fromNodeId") rfl
  have fromPort := Json.Record.find?_leaf (found "fromPort") rfl
  have toNode := Json.Record.find?_leaf (found "toNodeId") rfl
  have toPort := Json.Record.find?_leaf (found "toPort") rfl
  simp [ofJson?, record, Json.Record.need, Json.Record.get, fromNode, fromPort, toNode, toPort]

/-- No property of a node is a float that is infinite or no number. -/
def Graph.Finite (g : Graph) : Prop := ∀ n ∈ g.nodes, n.Finite

theorem Graph.ofJson?_reordered {g : Graph} (finite : g.Finite) {j' : Json} (h : Reordered g.toJson j') :
    ∃ g', ofJson? j' = some g' ∧ g.Relisted g' := by
  obtain ⟨r, record, found⟩ := h.record? (by simp)
    ["id", "ownerType", "ownerId", "name", "nodes", "connections"] (by simp)
  have id := Json.Record.find?_leaf (found "id") rfl
  have ownerType := Json.Record.find?_leaf (found "ownerType") rfl
  have ownerId := Json.Record.find?_leaf (found "ownerId") rfl
  have name := Json.Record.find?_leaf (found "name") rfl
  obtain ⟨j, nodes, same⟩ := Json.Record.find?_reordered (found "nodes")
  obtain ⟨ns, items, related⟩ := Json.list?_reordered (fun n mem _ => Node.ofJson?_reordered (finite n mem)) same
  obtain ⟨j', connections, same'⟩ := Json.Record.find?_reordered (found "connections")
  obtain ⟨cs, items', related'⟩ :=
    Json.list?_reordered (R := Eq) (fun c _ _ kept => ⟨c, Connection.ofJson?_reordered kept, rfl⟩) same'
  have listed : cs = g.connections := (List.forall₂_eq_eq_eq ▸ related').symm
  refine ⟨⟨g.id, g.ownerType, g.ownerId, g.name, ns, cs⟩, ?_, rfl, rfl, rfl, rfl, related, listed⟩
  simp [ofJson?, record, Json.Record.need, Json.Record.get, id, ownerType, ownerId, name, nodes, items, connections,
    items']

/-! What a document says: what is read for each field, and nothing of the fields that are not declared. -/

theorem Node.ofJson?_eq_some_iff {j : Json} {n : Node} : ofJson? j = some n ↔
    ∃ fields, Json.Fields ["id", "type", "category", "properties"] j fields ∧
      Gives fields "id" Json.text? none n.id ∧ Gives fields "type" Json.text? none n.typeTag ∧
      Gives fields "category" declared? (some none) n.declared ∧
      Gives fields "properties" Bag.ofJson? (some .empty) n.properties := by
  simp only [ofJson?, Option.bind_eq_bind, Option.bind_eq_some_iff]
  refine Json.exists_record_iff (by decide) fun r fields holds => ?_
  simp only [holds.need_eq_some_iff, holds.get_eq_some_iff, List.mem_cons, true_or, or_true]
  constructor
  · rintro ⟨id, first, typeTag, second, declared, third, properties, fourth, made⟩
    cases made
    exact ⟨first, second, third, fourth⟩
  · rintro ⟨id, typeTag, declared, properties⟩
    exact ⟨_, id, _, typeTag, _, declared, _, properties, rfl⟩

theorem Connection.ofJson?_eq_some_iff {j : Json} {c : Connection} : ofJson? j = some c ↔
    ∃ fields, Json.Fields ["fromNodeId", "fromPort", "toNodeId", "toPort"] j fields ∧
      Gives fields "fromNodeId" Json.text? none c.fromNode ∧ Gives fields "fromPort" Json.text? none c.fromPort ∧
      Gives fields "toNodeId" Json.text? none c.toNode ∧
      Gives fields "toPort" Json.text? (some Port.exec) c.toPort := by
  simp only [ofJson?, Option.bind_eq_bind, Option.bind_eq_some_iff]
  refine Json.exists_record_iff (by decide) fun r fields holds => ?_
  simp only [holds.need_eq_some_iff, holds.get_eq_some_iff, List.mem_cons, true_or, or_true]
  constructor
  · rintro ⟨fromNode, first, fromPort, second, toNode, third, toPort, fourth, made⟩
    cases made
    exact ⟨first, second, third, fourth⟩
  · rintro ⟨fromNode, fromPort, toNode, toPort⟩
    exact ⟨_, fromNode, _, fromPort, _, toNode, _, toPort, rfl⟩

theorem Graph.ofJson?_eq_some_iff {j : Json} {g : Graph} : ofJson? j = some g ↔
    ∃ fields, Json.Fields ["id", "ownerType", "ownerId", "name", "nodes", "connections"] j fields ∧
      Gives fields "id" Json.text? none g.id ∧ Gives fields "ownerType" Json.text? (some "") g.ownerType ∧
      Gives fields "ownerId" Json.text? (some "") g.ownerId ∧ Gives fields "name" Json.text? (some "") g.name ∧
      Gives fields "nodes" (Json.list? Node.ofJson?) (some []) g.nodes ∧
      Gives fields "connections" (Json.list? Connection.ofJson?) (some []) g.connections := by
  simp only [ofJson?, Option.bind_eq_bind, Option.bind_eq_some_iff]
  refine Json.exists_record_iff (by decide) fun r fields holds => ?_
  simp only [holds.need_eq_some_iff, holds.get_eq_some_iff, List.mem_cons, true_or, or_true]
  constructor
  · rintro ⟨id, first, ownerType, second, ownerId, third, name, fourth, nodes, fifth, connections, sixth, made⟩
    cases made
    exact ⟨first, second, third, fourth, fifth, sixth⟩
  · rintro ⟨id, ownerType, ownerId, name, nodes, connections⟩
    exact ⟨_, id, _, ownerType, _, ownerId, _, name, _, nodes, _, connections, rfl⟩

/-! What is read. -/

theorem Value.isFinite_ofJson? {j : Json} {v : Value} (h : ofJson? j = some v) (bounded : j.Bounded) :
    v.isFinite = true := by
  cases bounded with
  | null | bool | str =>
    cases h
    rfl
  | @int i least most =>
    simp only [ofJson?] at h
    split at h
    · cases h
      rfl
    · cases h
      have lower : Int64.minValue.toInt = -2 ^ 63 := rfl
      have upper : UInt64.size = 2 ^ 64 := rfl
      exact Binary.isFinite_ofInt (by omega) (by omega)
  | float finite =>
    cases h
    exact finite
  | arr | obj =>
    obtain ⟨c, -, rfl⟩ := Option.map_eq_some_iff.1 h
    rfl
  | unreadable => cases h

theorem Bag.isFinite_ofJson? {j : Json} {b : Bag} (h : ofJson? j = some b) (bounded : j.Bounded) :
    ∀ e ∈ b.entries, e.2.isFinite = true := by
  obtain ⟨l, pairs, rfl⟩ := Option.map_eq_some_iff.1 h
  intro e mem
  cases bounded with
  | obj inner =>
    obtain ⟨f, field, read⟩ := Json.exists_of_mem_mapM pairs (Table.mem_ofList mem)
    obtain ⟨v, value, rfl⟩ := Option.map_eq_some_iff.1 read
    exact Value.isFinite_ofJson? value (inner f field)
  | null | bool | int | float | str | arr | unreadable => cases pairs

theorem Node.finite_ofJson? {j : Json} {n : Node} (h : ofJson? j = some n) (bounded : j.Bounded) : n.Finite := by
  obtain ⟨fields, here, -, -, -, properties⟩ := ofJson?_eq_some_iff.1 h
  cases properties with
  | given mem read => exact Bag.isFinite_ofJson? read (Json.hereditary_bounded.fields here bounded _ mem)
  | missing _ left =>
    intro e mem
    cases Option.some.inj left ▸ mem

theorem Graph.finite_ofJson? {j : Json} {g : Graph} (h : ofJson? j = some g) (bounded : j.Bounded) : g.Finite := by
  obtain ⟨fields, here, -, -, -, -, nodes, -⟩ := ofJson?_eq_some_iff.1 h
  intro n inside
  cases nodes with
  | given mem read =>
    obtain ⟨i, part, item⟩ := Json.hereditary_bounded.list? read inside
      (Json.hereditary_bounded.fields here bounded _ mem)
    exact Node.finite_ofJson? item part
  | missing _ left => cases Option.some.inj left ▸ inside

/-! The sorted form of what is written. -/

theorem Bag.distinct_toJson (b : Bag) : b.toJson.Distinct := by
  refine .obj ?_ (List.forall_mem_map.2 fun e _ => .leaf e.2.isLeaf_toJson)
  rw [List.map_map]
  exact b.nodup

theorem Node.distinct_toJson (n : Node) : n.toJson.Distinct := by
  cases family : n.declared with
  | none =>
    simp only [toJson, family]
    exact .obj (by simp) (by simp [Json.Distinct.str, Bag.distinct_toJson])
  | some c =>
    simp only [toJson, family]
    exact .obj (by simp) (by simp [Json.Distinct.str, Bag.distinct_toJson])

theorem Connection.distinct_toJson (c : Connection) : c.toJson.Distinct :=
  .obj (by simp) (by simp [Json.Distinct.str])

theorem Graph.distinct_toJson (g : Graph) : g.toJson.Distinct := by
  have nodes : (Json.arr (g.nodes.map Node.toJson)).Distinct :=
    .arr (List.forall_mem_map.2 fun n _ => n.distinct_toJson)
  have connections : (Json.arr (g.connections.map Connection.toJson)).Distinct :=
    .arr (List.forall_mem_map.2 fun c _ => c.distinct_toJson)
  exact .obj (by simp) (by simp [Json.Distinct.str, nodes, connections])

/-! Every document. -/

/-- Trees that are read from texts are in range, and so are their sorted forms. Whatever graph is read from a tree in
range, what is written for it, sorted or in any other order, is read as that graph again, and the look-ups answer the
same. The index leads to the first declared node of an id. -/
theorem Graph.document_kept :
    (∀ text j, Json.read? text = some j → j.Bounded) ∧
    (∀ j c : Json, j.Bounded → j.canonical? = some c → c.Bounded) ∧
    (∀ (g : Graph) (c : Json), g.toJson.canonical? = some c → Reordered g.toJson c) ∧
    (∀ (g : Graph) (id : String), g.indexed? id = g.nodes.find? fun n => Text.sameName n.id id) ∧
    ∀ (j : Json) (g : Graph), j.Bounded → ofJson? j = some g → ∀ j', Reordered g.toJson j' →
      ∃ g', ofJson? j' = some g' ∧ g.Relisted g' ∧
        (∀ id, Option.Rel Node.Relisted (g.indexed? id) (g'.indexed? id)) ∧
        (∀ node port, g'.connectionFrom? node port = g.connectionFrom? node port) ∧
        (∀ tag, List.Forall₂ Node.Relisted (g.entryNodes tag) (g'.entryNodes tag)) ∧
        ∀ type id, g'.isOwnedBy type id = g.isOwnedBy type id := by
  refine ⟨fun _ _ => Json.bounded_read?, fun _ _ bounded => Json.hereditary_bounded.canonical? bounded,
    fun g _ => g.distinct_toJson.canonical?, indexed?_eq_node?, ?_⟩
  intro j g bounded read j' written
  obtain ⟨g', again, same⟩ := ofJson?_reordered (finite_ofJson? read bounded) written
  refine ⟨g', again, same, fun id => ?_, same.connectionFrom?, same.entryNodes, same.isOwnedBy⟩
  rw [indexed?_eq_node?, indexed?_eq_node?]
  exact same.node? id

/-- A document with an id given twice, a family that is none, a nested setting and a number beyond 64 bits. -/
def Graph.guardTalk : Json :=
  .obj [("id", .str "guard_talk"), ("ownerId", .str "*"),
    ("nodes", .arr [
      .obj [("id", .str "Start"), ("type", .str "Event_OnTalk"), ("category", .int 3)],
      .obj [("id", .str "start"), ("type", .str "Action_Log"),
        ("properties", .obj [("Text", .arr [.int 1, .null]), ("Delay", .int 9223372036854775808)])]]),
    ("connections", .arr [
      .obj [("fromNodeId", .str "START"), ("fromPort", .str "Exec"), ("toNodeId", .str "start")]])]

theorem Graph.document_kept_talk :
    Json.read? "[]" = some (.arr []) ∧ (Json.arr []).Bounded ∧ guardTalk.Bounded ∧
    ((ofJson? guardTalk).bind fun g => g.toJson.canonical?).isSome = true ∧
    ∀ g c, ofJson? guardTalk = some g → g.toJson.canonical? = some c →
      (∃ g', ofJson? g.toJson = some g' ∧ g.Relisted g') ∧ ∃ g', ofJson? c = some g' ∧ g.Relisted g' := by
  obtain ⟨ranges, -, sorted, -, kept⟩ := document_kept
  have read : Json.read? "[]" = some (.arr []) := rfl
  have bounded : guardTalk.Bounded := by
    have family : (Json.int 3).Bounded := .int (by decide) (by decide)
    have item : (Json.int 1).Bounded := .int (by decide) (by decide)
    have delay : (Json.int 9223372036854775808).Bounded := .int (by decide) (by decide)
    simp [guardTalk, Json.hereditary_bounded.arr, Json.hereditary_bounded.obj, Json.Bounded.str, Json.Bounded.null,
      family, item, delay]
  have accepted : ((ofJson? guardTalk).bind fun g => g.toJson.canonical?).isSome = true := by decide +kernel
  refine ⟨read, ranges "[]" _ read, bounded, accepted, fun g c reads canonical => ?_⟩
  obtain ⟨g', again, same, -⟩ := kept guardTalk g bounded reads g.toJson (.refl _)
  obtain ⟨g'', again', same', -⟩ := kept guardTalk g bounded reads c (sorted g c canonical)
  exact ⟨⟨g', again, same⟩, g'', again', same'⟩

end StoryGraph
