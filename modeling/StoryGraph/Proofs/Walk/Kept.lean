import Mathlib.Data.List.Find
import StoryGraph.Proofs.Engine.Deeds
import StoryGraph.Proofs.Graph.Entry
import StoryGraph.Proofs.NodeType.Tags
import StoryGraph.Proofs.Walk.Alone
import StoryGraph.Proofs.Walk.Outputs

/-!
Which node put out the value that another node looks at. Values are kept under the trimmed id of the node, but a graph
tells ids apart by the white space around them. Main statements: a node finds what was put out last under the trimmed
id that it names; this is what was put out last by the node that it names, if no other node of the graph has that id but
for white space. Two nodes whose ids differ in white space only find each other's values.
-/

namespace StoryGraph

/-- A value that a node has put out under a port. -/
structure Kept where
  node : Node
  port : String
  value : Value

namespace Kept

variable {history : List Kept} {o : Outputs} {name port : String}

def put (o : Outputs) (k : Kept) : Outputs := o.put k.node.id k.port k.value

/-- What a node puts out. -/
def ofValues (n : Node) (values : Table String Value) : List Kept := values.entries.map fun e => ⟨n, e.1, e.2⟩

/-- The last value of those that were chosen. -/
def latest? (history : List Kept) (chosen : Kept → Bool) : Option Value :=
  (history.reverse.find? chosen).map Kept.value

/-- It is kept under the same key as these names, which are folded and trimmed. -/
def isUnder (name port : String) (k : Kept) : Bool := Outputs.key k.node.id k.port == Outputs.key name port

/-- It was put out by the node that the graph finds under this id. -/
def isOf (id port : String) (k : Kept) : Bool :=
  Text.sameName k.node.id id && Text.sameName (Text.trim k.port) (Text.trim port)

theorem keep_eq (n : Node) (values : Table String Value) (o : Outputs) :
    Walk.keep n.id values o = (ofValues n values).foldl put o := by
  rw [ofValues, List.foldl_map]
  rfl

/-- What is found was put out last. -/
theorem find?_foldl_put :
    (history.foldl put o).find? name port = (latest? history (isUnder name port)).or (o.find? name port) := by
  induction history generalizing o with
  | nil => rfl
  | cons k rest ih =>
    rw [List.foldl_cons, ih, put, Outputs.find?_put, latest?, latest?, List.reverse_cons, List.find?_append]
    by_cases same : Outputs.key k.node.id k.port = Outputs.key name port <;>
      cases rest.reverse.find? (isUnder name port) <;> simp [isUnder, same]

theorem latest?_congr {chosen chosen' : Kept → Bool} (same : ∀ k ∈ history, chosen k = chosen' k) :
    latest? history chosen = latest? history chosen' := by
  rw [latest?, latest?]
  refine congrArg (Option.map value) (List.find?_congr fun k mem => ?_)
  exact same k (List.mem_reverse.1 mem)

/-- The trimmed id names the node, unless the value is of another node that has this id but for white space. -/
theorem isUnder_eq_isOf {k : Kept} {id : String}
    (apart : Text.fold (Text.trim k.node.id) = Text.fold (Text.trim id) → Text.fold k.node.id = Text.fold id) :
    k.isUnder id port = k.isOf id port := by
  rw [Bool.eq_iff_iff, isUnder, isOf, beq_iff_eq, Bool.and_eq_true, Text.sameName_iff, Text.sameName_iff, Outputs.key,
    Outputs.key, Prod.mk.injEq]
  exact and_congr_left fun _ => ⟨apart, Text.fold_trim_congr⟩

end Kept

/-! The values that a walk keeps on its way. -/

namespace Walk

/-- From one place to a later one, by the values that are put out between them. -/
inductive Keeps (s : Surroundings) (F : Firing) (depth : Nat) (g : Graph) : Place → List Kept → Place → Prop where
  | here {p} : Keeps s F depth g p [] p
  | missing {steps chain v rest w kept q} (found : g.node? v.node = none)
      (next : Keeps s F depth g ⟨steps, rest, w⟩ kept q) : Keeps s F depth g ⟨steps, (chain, v) :: rest, w⟩ kept q
  | bare {steps chain v rest w n kept q} (found : g.node? v.node = some n) (trail : Text.fold n.id ∉ v.trail)
      (limit : steps < s.settings.maxWalkSteps) (handler : s.registry.handlerFor n = none)
      (next : Keeps s F depth g ⟨steps + 1, rest, w⟩ kept q) :
      Keeps s F depth g ⟨steps, (chain, v) :: rest, w⟩ kept q
  | went {steps chain v rest w n h out reports r visits r' kept q} (found : g.node? v.node = some n)
      (trail : Text.fold n.id ∉ v.trail) (limit : steps < s.settings.maxWalkSteps)
      (handler : s.registry.handlerFor n = some h) (result : (h (w.call s g depth n v)).result = .ok out)
      (effects : F depth g out.effects (w.run.absorb (h (w.call s g depth n v))) reports r)
      (ways : after s g n.id (Text.fold n.id :: v.trail) out.next r = (.ok visits, r'))
      (next : Keeps s F depth g ⟨steps + 1, extend chain n visits ++ rest, w.served n v out reports r'⟩ kept q) :
      Keeps s F depth g ⟨steps, (chain, v) :: rest, w⟩ (Kept.ofValues n out.values ++ kept) q

variable {s : Surroundings} {F : Firing} {depth : Nat} {g : Graph} {p q : Place} {kept : List Kept}

/-- A walk keeps some values, or none, on its way from place to place exactly if it takes the way. -/
theorem exists_keeps_iff : (∃ kept, Keeps s F depth g p kept q) ↔ ∃ stops, Passes s F depth g p stops q := by
  constructor
  · rintro ⟨kept, keeps⟩
    induction keeps with
    | here => exact ⟨_, .here⟩
    | missing found _ ih => exact ih.imp' _ fun _ => .missing found
    | bare found trail limit handler _ ih => exact ih.imp' _ fun _ => .bare found trail limit handler
    | went found trail limit handler result effects ways _ ih =>
      exact ih.imp' _ fun _ => .went found trail limit handler result effects ways
  · rintro ⟨stops, passes⟩
    induction passes with
    | here => exact ⟨_, .here⟩
    | missing found _ ih => exact ih.imp' _ fun _ => .missing found
    | bare found trail limit handler _ ih => exact ih.imp' _ fun _ => .bare found trail limit handler
    | went found trail limit handler result effects ways _ ih =>
      exact ih.imp' _ fun _ => .went found trail limit handler result effects ways

theorem Keeps.outputs (h : Keeps s F depth g p kept q) : q.walk.outputs = kept.foldl Kept.put p.walk.outputs := by
  induction h with
  | here => rfl
  | missing _ _ ih | bare _ _ _ _ _ ih => exact ih
  | @went _ _ _ _ w n _ out _ _ _ _ _ _ _ _ _ _ _ _ _ _ ih =>
    rw [ih, List.foldl_append, ← Kept.keep_eq]
    rfl

/-- What is kept was put out by nodes that the graph finds under their ids. -/
theorem Keeps.node? (h : Keeps s F depth g p kept q) : ∀ k ∈ kept, g.node? k.node.id = some k.node := by
  induction h with
  | here => exact fun k mem => absurd mem List.not_mem_nil
  | missing _ _ ih | bare _ _ _ _ _ ih => exact ih
  | went found _ _ _ _ _ _ _ ih =>
    intro k mem
    cases List.mem_append.1 mem with
    | inl own =>
      obtain ⟨e, -, rfl⟩ := List.mem_map.1 own
      exact (Graph.node?_congr (Graph.node?_eq_some found).2).trans found
    | inr later => exact ih k later

/-- What a walk is given on its way at its entry: nothing, or the change that its first node waits for. -/
inductive Begins (g : Graph) (entry : String) : Outputs → List Kept → Prop where
  | bare : Begins g entry .empty []
  | announced {c : Change} {n : Node} (found : g.node? entry = some n) :
      Begins g entry (Fanout.announce c ⟨g, entry⟩)
        [⟨n, Port.entityId, .string c.entityId⟩, ⟨n, Port.oldValue, c.oldValue⟩, ⟨n, Port.newValue, c.newValue⟩]

theorem Begins.outputs {entry : String} {o : Outputs} {seeds : List Kept} (h : Begins g entry o seeds) :
    o = seeds.foldl Kept.put .empty := by
  cases h with
  | bare => rfl
  | @announced c n found =>
    have named (port : String) : Outputs.key entry port = Outputs.key n.id port :=
      Prod.ext (Text.fold_trim_congr (Graph.node?_eq_some found).2).symm rfl
    simp only [Fanout.announce, Outputs.put, named, List.foldl_cons, List.foldl_nil, Kept.put]

theorem Begins.node? {entry : String} {o : Outputs} {seeds : List Kept} (h : Begins g entry o seeds) :
    ∀ k ∈ seeds, g.node? k.node.id = some k.node := by
  cases h with
  | bare => exact fun k mem => absurd mem List.not_mem_nil
  | announced found =>
    have again := (Graph.node?_congr (Graph.node?_eq_some found).2).trans found
    simp [again]

/-- A handler is called in a walk over the graph in which these values were put out before. -/
inductive Recalls (s : Surroundings) (depth : Nat) (g : Graph) : List Kept → Call → Prop where
  | mk {entry outputs seeds r kept p c} (begins : Begins g entry outputs seeds)
      (keeps : Keeps s (Fanout.Fires s) depth g (.entrance entry outputs r) kept p) (calls : Calls s depth g p c) :
      Recalls s depth g (seeds ++ kept) c

namespace Recalls

variable {history : List Kept} {c : Call}

theorem outputs (h : Recalls s depth g history c) : c.outputs = history.foldl Kept.put .empty := by
  cases h with
  | @mk entry outputs seeds r kept p c begins keeps calls =>
    have held : c.outputs = p.walk.outputs := by cases calls; rfl
    rw [held, keeps.outputs, List.foldl_append, ← begins.outputs]
    rfl

theorem node? (h : Recalls s depth g history c) : ∀ k ∈ history, g.node? k.node.id = some k.node := by
  cases h with
  | mk begins keeps _ => exact List.forall_mem_append.2 ⟨begins.node?, keeps.node?⟩

theorem find?_outputs (h : Recalls s depth g history c) {id port : String} {m : Node} (found : g.node? id = some m) :
    c.outputs.find? id port = Kept.latest? history (Kept.isUnder m.id port) := by
  have named : Outputs.key id port = Outputs.key m.id port :=
    Prod.ext (Text.fold_trim_congr (Graph.node?_eq_some found).2).symm rfl
  rw [Outputs.find?, named, h.outputs]
  exact Kept.find?_foldl_put.trans Option.or_none

end Recalls

end Walk

/-! Every call is made in such a walk. -/

namespace Library

theorem begins_listeners {l : Library} {c : Change} {e : Entry} (mem : e ∈ l.listeners c) :
    ∃ seeds, Walk.Begins e.graph e.node (Fanout.announce c e) seeds := by
  obtain ⟨g, -, named⟩ := List.mem_filterMap.1 mem
  obtain ⟨n, first, rfl⟩ := Option.map_eq_some_iff.1 named
  have listed : n ∈ g.nodes := (List.mem_filter.1 (List.mem_of_find?_eq_some first)).1
  have declared : (g.node? n.id).isSome = true := Graph.isSome_node?.2 (List.mem_map_of_mem listed)
  obtain ⟨m, found⟩ := Option.isSome_iff_exists.1 declared
  exact ⟨_, .announced found⟩

end Library

namespace Fanout

variable {s : Surroundings} {depth : Nat}

theorem begins_seed (l : Library) (effect : Effect) {e : Entry} (mem : e ∈ entries l effect) :
    ∃ seeds, Walk.Begins e.graph e.node (seed effect e) seeds := by
  cases effect with
  | changed c => exact Library.begins_listeners mem
  | trigger ownerType ownerId tag => exact ⟨[], .bare⟩

theorem Makes.exists_recalls {entries : List Entry} {seed : Entry → Outputs} {r : Run} {c : Call}
    (h : Makes s depth entries seed r c) (begin : ∀ e ∈ entries, ∃ seeds, Walk.Begins e.graph e.node (seed e) seeds) :
    ∃ depth g history, Walk.Recalls s depth g history c := by
  induction h with
  | here passes calls =>
    obtain ⟨seeds, begins⟩ := begin _ List.mem_cons_self
    obtain ⟨kept, keeps⟩ := Walk.exists_keeps_iff.2 ⟨_, passes⟩
    exact ⟨_, _, _, .mk begins keeps calls⟩
  | within _ _ _ _ ih => exact ih fun e mem => begins_seed _ _ mem
  | later _ ih => exact ih fun e mem => begin e (List.mem_cons_of_mem _ mem)

end Fanout

theorem Command.begins_starts (s : Surroundings) (command : Command) (r : Run) :
    ∀ e ∈ (command.starts s r).1, ∃ seeds, Walk.Begins e.graph e.node ((command.starts s r).2 e) seeds := by
  cases command with
  | trigger | executeNode | advanceTurn | getProperty | snapshot => exact fun _ _ => ⟨[], .bare⟩
  | setProperty type id property v =>
    rw [starts]
    cases (EntityType.ofName? type).map fun t => (r.world.writeProperty t id property v).2 with
    | none => exact fun _ _ => ⟨[], .bare⟩
    | some outcome =>
      cases outcome with
      | unmatched | unchanged => exact fun _ _ => ⟨[], .bare⟩
      | changed c => exact fun _ mem => Library.begins_listeners mem

/-- None of the nodes has the id of this one but for white space around it. -/
def Node.SingledOut (m : Node) (nodes : List Node) : Prop :=
  ∀ n ∈ nodes, Text.fold (Text.trim n.id) = Text.fold (Text.trim m.id) → Text.fold n.id = Text.fold m.id

instance (m : Node) (nodes : List Node) : Decidable (m.SingledOut nodes) :=
  inferInstanceAs (Decidable (∀ n ∈ nodes, _ → _))

/-- The way on from a question with this answer. -/
def Next.answer (yes : Bool) : Next := .goOn (if yes then Port.yes else Port.no)

namespace Surroundings

/-- A node that looks at a value of another node finds what was put out last, in its own walk and under the port, by
any node whose trimmed id is that of the other node. This is what the other node itself put out last, if it is singled
out among the nodes that put out something, as it is if it is singled out in the graph. -/
theorem values_read_by_name (s : Surroundings) :
    (∀ (command : Command) r c,
      Fanout.Makes s 0 (command.starts s r).1 (command.starts s r).2 (command.opening r) c →
        ∃ depth g history, Walk.Recalls s depth g history c) ∧
    ∀ depth g history c, Walk.Recalls s depth g history c →
      (∀ k ∈ history, g.node? k.node.id = some k.node) ∧
      ∀ id m, c.arg "SourceNodeId" = some id → g.node? id = some m →
        let port := (c.arg "SourcePort").getD Port.value
        let read := Kept.latest? history (Kept.isUnder m.id port)
        let compared : Value → Bool := fun left => (Operator.ofText? ((c.arg "Operator").getD "==")).any fun op =>
          op.holds left (Bag.getValue c.node.properties "Value")
        (builtin (.flow .branch) c).result = .ok { next := .answer (read.any Value.toBool) } ∧
        (builtin (.condition .compareValues) c).result = .ok { next := .answer (read.any compared) } ∧
        (m.SingledOut (history.map Kept.node) → read = Kept.latest? history (Kept.isOf m.id port)) ∧
        (m.SingledOut g.nodes → m.SingledOut (history.map Kept.node)) := by
  refine ⟨fun command r c makes => makes.exists_recalls (command.begins_starts s r), fun depth g history c recalls => ?_⟩
  refine ⟨recalls.node?, fun id m named found => ?_⟩
  intro port read compared
  have source : Condition.source? c id = read := recalls.find?_outputs found
  refine ⟨?_, ?_, fun single => Kept.latest?_congr fun k mem => ?_, fun single n mem => ?_⟩
  · have branch : Flow.branch c = read.any Value.toBool := by rw [Flow.branch, named, ← source]
    rw [← branch]
    rfl
  · have holds : Condition.compareValues c = read.any compared := by
      rw [Condition.compareValues, named, Option.bind_some, source]
      cases read <;> rfl
    rw [← holds]
    rfl
  · exact Kept.isUnder_eq_isOf (single k.node (List.mem_map_of_mem mem))
  · obtain ⟨k, kept, rfl⟩ := List.mem_map.1 mem
    exact single k.node (Graph.node?_eq_some (recalls.node? k kept)).1

end Surroundings

/-! Walks over built-in nodes that go straight on. -/

namespace Walk

variable {s : Surroundings} {depth : Nat} {g : Graph} {kept : List Kept}

/-- From a place the walk comes to a node that is called, by the values that are put out before. -/
def KeepsUpTo (s : Surroundings) (depth : Nat) (g : Graph) (m : Node) (p : Place) (kept : List Kept) : Prop :=
  ∃ q c, Keeps s (Fanout.Fires s) depth g p kept q ∧ Calls s depth g q c ∧ c.node = m

/-- A built-in node puts out the same values in any walk, and the walk goes on by a connection. -/
theorem KeepsUpTo.onward {m n : Node} {t : NodeType} {steps : Nat} {chain : List Node} {v : Visit}
    {rest : List (List Node × Visit)} {values : Table String Value} {port : String} {way : Connection}
    (builtins : s.registry = .builtins) (found : g.node? v.node = some n) (trail : Text.fold n.id ∉ v.trail)
    (limit : steps < s.settings.maxWalkSteps) (kind : n.kind? = some t)
    (result : ∀ w : Walk, (builtin t (w.call s g depth n v)).result = .ok { values := values, next := .goOn port })
    (leaves : g.connectionFrom? n.id port = some way)
    (next : ∀ w, KeepsUpTo s depth g m
      ⟨steps + 1, (n :: chain, ⟨way.toNode, way.toPort, Text.fold n.id :: v.trail⟩) :: rest, w⟩ kept) :
    ∀ w, KeepsUpTo s depth g m ⟨steps, (chain, v) :: rest, w⟩ (Kept.ofValues n values ++ kept) := by
  intro w
  have handler : s.registry.handlerFor n = some (builtin t) := by
    rw [builtins, Registry.handlerFor_builtins kind]
  have ways (r : Run) : after s g n.id (Text.fold n.id :: v.trail) (.goOn port) r =
      (.ok [⟨way.toNode, way.toPort, Text.fold n.id :: v.trail⟩], r) := by
    rw [after, follow, List.filterMap_cons, leaves, List.filterMap_nil]
    rfl
  obtain ⟨q, c, keeps, calls, node⟩ := next (w.served n v { values := values, next := .goOn port } []
    (w.run.absorb (builtin t (w.call s g depth n v))))
  exact ⟨q, c, .went found trail limit handler (result w) .nil (ways _) keeps, calls, node⟩

end Walk

/-! A lantern that is lit if there is oil. Before, the water is looked after, whose id is that of the oil and a space, or
another one. -/

namespace Lantern

def enter : Node := { id := "enter", typeTag := "Event_OnEnter" }

/-- Tells whether there is any. -/
def gauge (id : String) (full : Bool) : Node where
  id := id
  typeTag := "Variable_Constant"
  properties := .ofList [("Value", .bool full)]

def oil : Node := gauge "oil" true

def waterId (alike : Bool) : String := if alike then "oil " else "water"

def water (alike : Bool) : Node := gauge (waterId alike) false

def light : Node where
  id := "light"
  typeTag := "Flow_Branch"
  properties := .ofList [("SourceNodeId", .string "oil")]

def graph (alike : Bool) : Graph where
  id := "lantern"
  ownerType := "Room"
  ownerId := "shed"
  nodes := [enter, oil, water alike, light]
  connections :=
    [⟨"enter", "Exec", "oil", "Exec"⟩, ⟨"oil", "Exec", waterId alike, "Exec"⟩, ⟨waterId alike, "Exec", "light", "Exec"⟩]

def engine (alike : Bool) : Surroundings :=
  { registry := .builtins, library := [graph alike], settings := {}, draws := .ofSeed 7 }

/-- What is put out before the lantern is to be lit. -/
def history (alike : Bool) : List Kept := [⟨oil, Port.value, .bool true⟩, ⟨water alike, Port.value, .bool false⟩]

theorem kind_enter : enter.kind? = some (.event .onEnter) := NodeType.ofTag?_eq_some_event_iff.2 (by decide)

theorem kind_gauge (id : String) (full : Bool) : (gauge id full).kind? = some (.source .constant) := by
  have known : NodeType.ofTag? "Variable_Constant" = some (.source .constant) := by
    rw [NodeType.ofTag?_eq]
    decide
  exact known

theorem kind_light : light.kind? = some (.flow .branch) := by
  rw [Node.kind?, NodeType.ofTag?_eq]
  decide

theorem result_gauge {c : Call} {id : String} {full : Bool} (node : c.node = gauge id full) :
    (builtin (.source .constant) c).result =
      .ok { values := Table.empty.insert Port.value (.bool full), next := .goOn Port.exec } := by
  have value : Bag.getValue (.ofList [("Value", .bool full)]) "Value" = .bool full := by cases full <;> decide
  rw [builtin, Source.handle, Source.value, node, gauge, value]
  rfl

/-- The light looks at what the oil puts out. -/
theorem names_oil {c : Call} (node : c.node = light) :
    c.arg "SourceNodeId" = some "oil" ∧ (c.arg "SourcePort").getD Port.value = Port.value := by
  rw [Call.arg, Call.arg, node]
  decide

/-- The walk comes to the light when both have been looked after. -/
theorem keepsUpTo_light (alike : Bool) : Walk.KeepsUpTo (engine alike) 0 (graph alike) light
    (.entrance enter.id .empty { world := {} }) (history alike) := by
  have limit {steps : Nat} (few : steps < 4) : steps < (engine alike).settings.maxWalkSteps :=
    Nat.lt_of_lt_of_le few (show 4 ≤ ({} : Settings).maxWalkSteps by decide)
  have fromEnter : (graph alike).connectionFrom? enter.id Port.exec = some ⟨"enter", "Exec", "oil", "Exec"⟩ := by
    cases alike <;> decide
  have fromOil : (graph alike).connectionFrom? oil.id Port.exec = some ⟨"oil", "Exec", waterId alike, "Exec"⟩ := by
    cases alike <;> decide
  have fromWater : (graph alike).connectionFrom? (water alike).id Port.exec =
      some ⟨waterId alike, "Exec", "light", "Exec"⟩ := by
    cases alike <;> decide
  have trailWater : Text.fold (water alike).id ∉ [Text.fold "oil", Text.fold "enter"] := by
    cases alike <;> decide
  have trailLight : Text.fold light.id ∉ [Text.fold (waterId alike), Text.fold "oil", Text.fold "enter"] := by
    cases alike <;> decide
  have foundWater : (graph alike).node? (waterId alike) = some (water alike) := by cases alike <;> rfl
  have foundLight : (graph alike).node? "light" = some light := by cases alike <;> rfl
  have lit : ∀ w, Walk.KeepsUpTo (engine alike) 0 (graph alike) light
      ⟨3, [([water alike, oil, enter],
        ⟨"light", "Exec", [Text.fold (waterId alike), Text.fold "oil", Text.fold "enter"]⟩)], w⟩ [] :=
    fun w => ⟨_, _, .here,
      .mk foundLight trailLight (limit (by decide)) (Registry.handlerFor_builtins kind_light), rfl⟩
  have watered : ∀ w, Walk.KeepsUpTo (engine alike) 0 (graph alike) light
      ⟨2, [([oil, enter], ⟨waterId alike, "Exec", [Text.fold "oil", Text.fold "enter"]⟩)], w⟩
      (Kept.ofValues (water alike) (Table.empty.insert Port.value (.bool false)) ++ []) :=
    Walk.KeepsUpTo.onward rfl foundWater trailWater (limit (by decide)) (kind_gauge _ false)
      (fun _ => result_gauge rfl) fromWater lit
  have oiled : ∀ w, Walk.KeepsUpTo (engine alike) 0 (graph alike) light
      ⟨1, [([enter], ⟨"oil", "Exec", [Text.fold "enter"]⟩)], w⟩
      (Kept.ofValues oil (Table.empty.insert Port.value (.bool true)) ++
        (Kept.ofValues (water alike) (Table.empty.insert Port.value (.bool false)) ++ [])) :=
    Walk.KeepsUpTo.onward rfl rfl (by decide) (limit (by decide)) (kind_gauge "oil" true)
      (fun _ => result_gauge rfl) fromOil watered
  have entered : ∀ w, Walk.KeepsUpTo (engine alike) 0 (graph alike) light
      ⟨0, [([], ⟨"enter", Port.exec, []⟩)], w⟩ (Kept.ofValues enter .empty ++ history alike) :=
    Walk.KeepsUpTo.onward rfl rfl List.not_mem_nil (limit (by decide)) kind_enter (fun _ => rfl) fromEnter oiled
  exact entered { run := { world := {} } }

theorem entries_enter (alike : Bool) :
    Library.entriesFor [graph alike] "Room" "shed" "Event_OnEnter" = [⟨graph alike, enter.id⟩] := by
  have chosen : (graph alike).First (Node.AwaitsEvent "Event_OnEnter") [] enter :=
    ⟨⟨_, rfl⟩, ⟨by rw [Node.category?, kind_enter]; rfl, by decide⟩, fun _ mem => absurd mem List.not_mem_nil⟩
  refine Library.entriesFor_single (by cases alike <;> decide) ?_
  rw [Graph.entryNode?_eq_some_iff.2 ⟨_, chosen⟩, Option.map_some]

end Lantern

namespace Surroundings

/-- The water has another id. Both are looked after when the lantern is lit. -/
theorem values_read_by_name_lantern :
    let s := Lantern.engine false
    let g := Lantern.graph false
    let command : Command := .trigger "Room" "shed" "Event_OnEnter"
    let r : Run := { world := {} }
    ∃ c, Fanout.Makes s 0 (command.starts s r).1 (command.starts s r).2 (command.opening r) c ∧
      (∃ depth g history, Walk.Recalls s depth g history c) ∧
      Walk.Recalls s 0 g (Lantern.history false) c ∧ c.arg "SourceNodeId" = some "oil" ∧
      g.node? "oil" = some Lantern.oil ∧ Lantern.oil.SingledOut g.nodes ∧
      Kept.latest? (Lantern.history false) (Kept.isOf "oil" Port.value) = some (.bool true) ∧
      (builtin (.flow .branch) c).result = .ok { next := .answer true } := by
  intro s g command r
  obtain ⟨p, c, keeps, calls, node⟩ := Lantern.keepsUpTo_light false
  obtain ⟨made, reads⟩ := s.values_read_by_name
  obtain ⟨stops, passes⟩ := Walk.exists_keeps_iff.1 ⟨_, keeps⟩
  have makes : Fanout.Makes s 0 (command.starts s r).1 (command.starts s r).2 (command.opening r) c := by
    have started : (command.starts s r).1 = [⟨g, Lantern.enter.id⟩] := Lantern.entries_enter false
    rw [started]
    exact .here passes calls
  have recalls : Walk.Recalls s 0 g (Lantern.history false) c := .mk .bare keeps calls
  obtain ⟨named, port⟩ := Lantern.names_oil node
  have single : Lantern.oil.SingledOut g.nodes := by decide +kernel
  obtain ⟨branch, -, latest, among⟩ := (reads 0 g _ c recalls).2 "oil" Lantern.oil named rfl
  have held : Kept.latest? (Lantern.history false) (Kept.isOf "oil" Port.value) = some (.bool true) := by decide +kernel
  refine ⟨c, makes, made command r c makes, recalls, named, rfl, single, held, ?_⟩
  rw [branch, latest (among single), port, show Lantern.oil.id = "oil" from rfl, held]
  rfl

/-- The id of the water is that of the oil and a space. The oil has put out that there is some, but the lantern stays
dark, because the water has put out that there is none. -/
theorem other_value_read :
    let s := Lantern.engine true
    let g := Lantern.graph true
    g.node? "oil" = some Lantern.oil ∧ g.node? "oil " = some (Lantern.water true) ∧
      Kept.latest? (Lantern.history true) (Kept.isOf "oil" Port.value) = some (.bool true) ∧
      ∃ c, Walk.Recalls s 0 g (Lantern.history true) c ∧ c.node.kind? = some (.flow .branch) ∧
        c.arg "SourceNodeId" = some "oil" ∧ Condition.source? c "oil" = some (.bool false) ∧
        (builtin (.flow .branch) c).result = .ok { next := .answer false } := by
  intro s g
  obtain ⟨p, c, keeps, calls, node⟩ := Lantern.keepsUpTo_light true
  have recalls : Walk.Recalls s 0 g (Lantern.history true) c := .mk .bare keeps calls
  obtain ⟨named, port⟩ := Lantern.names_oil node
  have source : Condition.source? c "oil" = some (.bool false) := by
    rw [Condition.source?, port, recalls.find?_outputs (m := Lantern.oil) rfl]
    decide +kernel
  have branch : Flow.branch c = false := by
    rw [Flow.branch, named]
    dsimp only
    rw [source]
    rfl
  refine ⟨rfl, rfl, by decide +kernel, c, recalls, ?_, named, source, ?_⟩
  · rw [node, Lantern.kind_light]
  · rw [builtin, Flow.handle, Flow.next, branch]
    rfl

end Surroundings

end StoryGraph
