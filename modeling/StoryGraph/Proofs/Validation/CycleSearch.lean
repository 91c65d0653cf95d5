import Mathlib.Logic.Relation
import StoryGraph.Proofs.Graph.Lookup
import StoryGraph.Validation.Cycles

/-!
The search in depth meets every cycle. A node is left for good only when all nodes that it leads to are
left already or close a cycle; so what is left for good lies on no cycle that avoids the closing nodes.
-/

namespace StoryGraph

open Relation

variable {targets : String → List String}

theorem mem_without {l : List String} {x y : String} : y ∈ without l x ↔ y ∈ l ∧ y ≠ x := by
  simp [without]

/-- The frames of a path, above which `child` is being searched: what a node leads to is still to be
tried, or has been left, or closes a cycle, or is the node above. -/
def Tried (targets : String → List String) (closing left : List String) : Option String → SearchPath → Prop
  | _, [] => True
  | child, (node, rest) :: outer =>
    (∀ b ∈ rest, b ∈ targets node) ∧
      (∀ b ∈ targets node, b ∈ rest ∨ b ∈ left ∨ b ∈ closing ∨ child = some b) ∧
      Tried targets closing left (some node) outer

theorem Tried.mono {closing left left' : List String} {child child' : Option String} {path : SearchPath}
    (h : Tried targets closing left child path) (hl : ∀ b ∈ left, b ∈ left')
    (hc : ∀ b, child = some b → b ∈ left' ∨ child' = some b) : Tried targets closing left' child' path := by
  induction path generalizing child child' with
  | nil => trivial
  | cons f outer ih =>
    obtain ⟨rest, tried, outer⟩ := h
    refine ⟨rest, fun b mem => ?_, ih outer fun b hb => .inr hb⟩
    rcases tried b mem with later | done | back | above
    · exact .inl later
    · exact .inr (.inl (hl b done))
    · exact .inr (.inr (.inl back))
    · rcases hc b above with done | above
      · exact .inr (.inl done)
      · exact .inr (.inr (.inr above))

/-- A target that is not to be tried again has been left, closes a cycle, or is searched next. -/
theorem Tried.next {closing left : List String} {node target : String} {rest : List String}
    {outer : SearchPath} {child : Option String}
    (h : Tried targets closing left none ((node, target :: rest) :: outer))
    (ht : target ∈ left ∨ target ∈ closing ∨ child = some target) :
    Tried targets closing left child ((node, rest) :: outer) := by
  obtain ⟨all, tried, outer⟩ := h
  refine ⟨fun b hb => all b (List.mem_cons_of_mem _ hb), fun b hb => ?_, outer⟩
  rcases tried b hb with mem | done | back | above
  · rcases List.mem_cons.1 mem with rfl | mem
    · exact .inr ht
    · exact .inl mem
  · exact .inr (.inl done)
  · exact .inr (.inr (.inl back))
  · cases above

theorem Tried.enter {closing left : List String} {node : String} {path : SearchPath}
    (h : Tried targets closing left (some node) path) :
    Tried targets closing left none ((node, targets node) :: path) :=
  ⟨fun _ hb => hb, fun _ hb => .inl hb, h⟩

/-- How far a search has come whose answer will be `closing`: which nodes have been left, which are
fresh, and which are on the path. -/
structure Searched (targets : String → List String) (closing left fresh path : List String) : Prop where
  settled : ∀ a ∈ left, ∀ b ∈ targets a, b ∈ left ∨ b ∈ closing
  acyclic : ∀ a ∈ left, ¬ TransGen (fun a b => b ∈ targets a ∧ b ∉ closing) a a
  known : ∀ a, ∀ b ∈ targets a, b ∈ left ∨ b ∈ path ∨ b ∈ fresh
  nodup : path.Nodup
  fresh_left : ∀ a ∈ fresh, a ∉ left
  fresh_path : ∀ a ∈ fresh, a ∉ path
  path_left : ∀ a ∈ path, a ∉ left

namespace Searched

variable {closing left fresh path : List String} {node : String}

theorem start (h : ∀ a, ∀ b ∈ targets a, b ∈ fresh) : Searched targets closing [] fresh [] where
  settled := by simp
  acyclic := by simp
  known a b hb := .inr (.inr (h a b hb))
  nodup := .nil
  fresh_left := by simp
  fresh_path := by simp
  path_left := by simp

theorem enter (h : Searched targets closing left fresh path) (hn : node ∈ fresh) :
    Searched targets closing left (without fresh node) (node :: path) where
  settled := h.settled
  acyclic := h.acyclic
  known a b hb := by
    by_cases same : b = node
    · simp [same]
    · rcases h.known a b hb with h | h | h
      · exact .inl h
      · exact .inr (.inl (List.mem_cons_of_mem _ h))
      · exact .inr (.inr (mem_without.2 ⟨h, same⟩))
  nodup := List.nodup_cons.2 ⟨h.fresh_path node hn, h.nodup⟩
  fresh_left a ha := h.fresh_left a (mem_without.1 ha).1
  fresh_path a ha := by
    obtain ⟨ha, ne⟩ := mem_without.1 ha
    simpa [ne] using h.fresh_path a ha
  path_left a ha := by
    rcases List.mem_cons.1 ha with rfl | ha
    · exact h.fresh_left _ hn
    · exact h.path_left a ha

/-- A node is left when nothing is to be tried there: no way from it comes back to it. -/
theorem leave (h : Searched targets closing left fresh (node :: path))
    (tried : ∀ b ∈ targets node, b ∈ left ∨ b ∈ closing) :
    Searched targets closing (node :: left) fresh path := by
  have settled : ∀ a ∈ node :: left, ∀ b ∈ targets a, b ∈ left ∨ b ∈ closing := by
    intro a ha b hb
    rcases List.mem_cons.1 ha with rfl | ha
    · exact tried b hb
    · exact h.settled a ha b hb
  have stays : ∀ a ∈ node :: left, ∀ c,
      TransGen (fun a b => b ∈ targets a ∧ b ∉ closing) a c → c ∈ left := by
    intro a ha c way
    induction way with
    | single step => exact (settled a ha _ step.1).resolve_right step.2
    | tail _ step ih => exact (settled _ (List.mem_cons_of_mem _ ih) _ step.1).resolve_right step.2
  have absent : node ∉ left := h.path_left node (by simp)
  have unique := List.nodup_cons.1 h.nodup
  constructor
  case settled => exact fun a ha b hb => (settled a ha b hb).imp_left (List.mem_cons_of_mem _)
  case acyclic =>
    intro a ha way
    rcases List.mem_cons.1 ha with rfl | ha
    · exact absent (stays a (by simp) a way)
    · exact h.acyclic a ha way
  case known =>
    intro a b hb
    rcases h.known a b hb with mem | mem | mem
    · exact .inl (List.mem_cons_of_mem _ mem)
    · rcases List.mem_cons.1 mem with rfl | mem
      · exact .inl (by simp)
      · exact .inr (.inl mem)
    · exact .inr (.inr mem)
  case nodup => exact unique.2
  case fresh_left =>
    intro a ha mem
    rcases List.mem_cons.1 mem with rfl | mem
    · exact h.fresh_path a ha (by simp)
    · exact h.fresh_left a ha mem
  case fresh_path => exact fun a ha mem => h.fresh_path a ha (List.mem_cons_of_mem _ mem)
  case path_left =>
    intro a ha mem
    rcases List.mem_cons.1 mem with rfl | mem
    · exact unique.1 ha
    · exact h.path_left a (List.mem_cons_of_mem _ ha) mem

/-- When all has been searched, every way stays in what has been left. -/
theorem finish (h : Searched targets closing left [] []) (a : String) :
    ¬ TransGen (fun a b => b ∈ targets a ∧ b ∉ closing) a a := by
  intro way
  obtain ⟨c, -, step⟩ := TransGen.tail'_iff.1 way
  have ha : a ∈ left := by simpa using h.known c a step.1
  exact h.acyclic a ha way

end Searched

theorem without_cons_self (x : String) (l : List String) : without (x :: l) x = without l x := by
  simp [without]

theorem any_fst_iff {path : SearchPath} {x : String} :
    (path.any fun f => f.1 == x) = true ↔ x ∈ path.map Prod.fst := by
  simp

theorem mem_closingNodes_of_found {fresh : List String} {path : SearchPath} {found : List String} {x : String}
    (h : x ∈ found) : x ∈ closingNodes targets fresh path found := by
  fun_induction closingNodes targets fresh path found with
  | case1 => exact h
  | case2 _ _ _ ih | case3 _ _ _ _ ih | case4 _ _ _ _ _ _ _ _ ih | case6 _ _ _ _ _ _ _ _ _ ih => exact ih h
  | case5 _ _ _ _ _ _ _ _ _ ih =>
    apply ih
    split
    · exact h
    · exact List.mem_append_left _ h

theorem mem_of_mem_closingNodes {fresh : List String} {path : SearchPath} {found : List String} {x : String}
    (h : x ∈ closingNodes targets fresh path found) : x ∈ found ∨ x ∈ path.map Prod.fst ∨ x ∈ fresh := by
  fun_induction closingNodes targets fresh path found with
  | case1 => exact .inl h
  | case2 found root rest ih =>
    rcases ih h with mem | mem | mem
    · exact .inl mem
    · simp_all
    · simp [(mem_without.1 mem).1]
  | case3 fresh found node outer ih =>
    rcases ih h with mem | mem | mem
    · exact .inl mem
    · simp [mem]
    · exact .inr (.inr mem)
  | case4 fresh found node target rest outer path ht ih =>
    rcases ih h with mem | mem | mem
    · exact .inl mem
    · rcases List.mem_cons.1 mem with rfl | mem
      · exact .inr (.inr ht)
      · exact .inr (.inl mem)
    · exact .inr (.inr (mem_without.1 mem).1)
  | case5 fresh found node target rest outer path _ on ih =>
    rcases ih h with mem | mem | mem
    · split at mem
      · exact .inl mem
      · rcases List.mem_append.1 mem with mem | mem
        · exact .inl mem
        · rw [List.mem_singleton.1 mem]
          exact .inr (.inl (any_fst_iff.1 on))
    · exact .inr (.inl mem)
    · exact .inr (.inr mem)
  | case6 fresh found node target rest outer path _ _ ih =>
    exact ih h

/-- No cycle avoids the closing nodes. -/
theorem Searched.meets {closing left fresh found : List String} {path : SearchPath}
    (hc : closingNodes targets fresh path found = closing)
    (h : Searched targets closing left fresh (path.map Prod.fst)) (tried : Tried targets closing left none path)
    (a : String) : ¬ TransGen (fun a b => b ∈ targets a ∧ b ∉ closing) a a := by
  fun_induction closingNodes targets fresh path found generalizing left with
  | case1 => exact h.finish a
  | case2 found root rest ih =>
    have entered := h.enter (List.mem_cons_self ..)
    rw [without_cons_self] at entered
    exact ih hc entered (Tried.enter trivial)
  | case3 fresh found node outer ih =>
    refine ih hc (h.leave fun b hb => by simpa using tried.2.1 b hb) ?_
    exact tried.2.2.mono (fun b => List.mem_cons_of_mem _) (by simp)
  | case4 fresh found node target rest outer path ht =>
    rename_i ih
    exact ih hc (h.enter ht) (tried.next (.inr (.inr rfl))).enter
  | case5 fresh found node target rest outer path _ on =>
    rename_i ih
    -- The target is on the path, so it closes a cycle and is in the answer from here on.
    refine ih hc h (tried.next (.inr (.inl ?_)))
    rw [← hc]
    apply mem_closingNodes_of_found
    split
    case isTrue mem => simpa using mem
    case isFalse => simp
  | case6 fresh found node target rest outer path old off =>
    rename_i ih
    -- Neither fresh nor on the path: the target was left before.
    refine ih hc h (tried.next (.inl ?_))
    rcases h.known node target (tried.1 target (List.mem_cons_self ..)) with done | on | new
    · exact done
    · exact absurd (any_fst_iff.2 on) off
    · exact absurd new old

namespace Graph

theorem mem_targets {g : Graph} {a b : String} :
    b ∈ g.targets a ↔
      ∃ c ∈ g.connections, (Text.fold c.fromNode = a ∧ (g.node? c.toNode).isSome) ∧ Text.fold c.toNode = b := by
  simp [targets]

theorem targets_subset {g : Graph} {a b : String} (h : b ∈ g.targets a) :
    b ∈ g.nodes.map fun n => Text.fold n.id := by
  obtain ⟨c, -, ⟨-, hc⟩, rfl⟩ := mem_targets.1 h
  exact isSome_node?.1 hc

/-- The nodes that close cycles are all declared, so none is lost from the answer. -/
theorem closingNodes_eq_nil {g : Graph} (h : g.cycles = []) :
    closingNodes g.targets (g.nodes.map fun n => Text.fold n.id) [] [] = [] := by
  rw [List.eq_nil_iff_forall_not_mem]
  intro id closes
  have fresh : id ∈ g.nodes.map fun n => Text.fold n.id := by
    simpa using mem_of_mem_closingNodes closes
  have found : (g.node? id).isSome := by
    rw [isSome_node?]
    obtain ⟨n, mem, rfl⟩ := List.mem_map.1 fresh
    simpa using ⟨n, mem, rfl⟩
  obtain ⟨n, hn⟩ := Option.isSome_iff_exists.1 found
  have : n.id ∈ g.cycles := List.mem_filterMap.2 ⟨id, closes, by rw [hn]; rfl⟩
  rw [h] at this
  cases this

/-- Where no cycle is found, no way along the connections comes back to where it started. -/
theorem acyclic_of_cycles {g : Graph} (h : g.cycles = []) (a : String) :
    ¬ TransGen (fun a b => b ∈ g.targets a) a a := by
  let path : SearchPath := []
  have start : Searched g.targets [] [] (g.nodes.map fun n => Text.fold n.id) (path.map Prod.fst) :=
    Searched.start fun _ _ => targets_subset
  have meets := start.meets (closingNodes_eq_nil h) trivial a
  simpa using meets

end Graph

end StoryGraph
