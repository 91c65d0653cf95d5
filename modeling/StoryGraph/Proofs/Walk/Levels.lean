import Mathlib.Algebra.Ring.GeomSum
import StoryGraph.Proofs.Handler.Ways
import StoryGraph.Proofs.Walk.Budget
import StoryGraph.Proofs.Walk.Nested

/-!
Triggers do a bounded amount of work. A walk calls a handler at most once for each step, a built-in
handler asks for one trigger at most, a trigger starts one walk for each graph at most, and triggers go
no deeper than the limit. Main statement: whatever the graphs, a trigger comes to its end, with no more
walks than these bounds allow.
-/

namespace StoryGraph

/-- What starts walks from outside. -/
inductive Occasion where
  | event (ownerType ownerId tag : String)
  | broadcast (tag : String)
  | change (c : Change)

namespace Occasion

def entries (l : Library) : Occasion → List Entry
  | event ownerType ownerId tag => l.entriesFor ownerType ownerId tag
  | broadcast tag => l.entriesForAnyOwner tag
  | change c => l.listeners c

def seed : Occasion → Entry → Outputs
  | change c => Fanout.announce c
  | _ => fun _ => .empty

end Occasion

namespace Library

/-- Whether entries are entries of the library, one for each of its graphs at most. -/
def Serves (l : Library) (entries : List Entry) : Prop :=
  entries.length ≤ l.length ∧ ∀ e ∈ entries, e.graph ∈ l

theorem serves_filterMap {l part : Library} (h : part.Sublist l) (node? : Graph → Option Node) :
    l.Serves (part.filterMap fun g => (node? g).map fun n => ⟨g, n.id⟩) := by
  constructor
  · exact (List.length_filterMap_le _ _).trans h.length_le
  · intro e he
    obtain ⟨g, hg, hn⟩ := List.mem_filterMap.1 he
    obtain ⟨n, -, rfl⟩ := Option.map_eq_some_iff.1 hn
    exact h.subset hg

theorem serves_entriesFor (l : Library) (ownerType ownerId tag : String) :
    l.Serves (l.entriesFor ownerType ownerId tag) :=
  serves_filterMap List.filter_sublist fun g => g.entryNode? tag

theorem serves_entriesForAnyOwner (l : Library) (tag : String) : l.Serves (l.entriesForAnyOwner tag) :=
  serves_filterMap (List.Sublist.refl l) fun g => g.entryNode? tag

theorem serves_listeners (l : Library) (c : Change) : l.Serves (l.listeners c) :=
  serves_filterMap (List.Sublist.refl l) fun g =>
    (g.entryNodes (NodeType.event .onPropertyChanged).tag).find? (listensTo c)

end Library

theorem Fanout.serves_entries (l : Library) (effect : Effect) : l.Serves (entries l effect) := by
  cases effect with
  | changed c => exact l.serves_listeners c
  | trigger ownerType ownerId tag => exact l.serves_entriesFor ownerType ownerId tag

theorem Occasion.serves_entries (l : Library) (o : Occasion) : l.Serves (o.entries l) := by
  cases o with
  | event ownerType ownerId tag => exact l.serves_entriesFor ownerType ownerId tag
  | broadcast tag => exact l.serves_entriesForAnyOwner tag
  | change c => exact l.serves_listeners c

namespace Walk

variable {s : Surroundings} {F : Firing} {steps : Nat} {pending : List (List Node × Visit)} {w : Walk}
  {depth : Nat} {g : Graph} {stops : List Stop} {e : Ending}

/-- Where each effect starts at most `size` walks, so does each call of a built-in handler. -/
theorem Course.length_nested_le {size : Nat} (builtins : s.registry.IsBuiltin)
    (fires : ∀ effects r reports r', F depth g effects r reports r' → reports.length ≤ effects.length * size)
    (c : Course s F steps pending w depth g stops e) :
    e.walk.nested.length ≤ w.nested.length + (called stops).length * size := by
  induction c with
  | done => exact Nat.le_add_right _ _
  | cycle | spent | broke => exact Nat.le_add_right _ _
  | missing found next ih => exact ih fires
  | bare found trail limit handler next ih => exact ih fires
  | halted found trail limit handler result effects ways =>
    have few := (fires _ _ _ _ effects).trans (Nat.mul_le_mul_right size (builtins.effects_le handler result))
    simp only [served, List.length_append, called_ran, List.length_cons, Nat.succ_mul]
    omega
  | went found trail limit handler result effects ways next ih =>
    have few := (fires _ _ _ _ effects).trans (Nat.mul_le_mul_right size (builtins.effects_le handler result))
    have later := ih fires
    simp only [served, List.length_append] at later
    simp only [called_ran, List.length_cons, Nat.succ_mul]
    omega

end Walk

namespace Surroundings

/-- A report of a walk at some depth over a graph of the library. The walks within it are such walks one level
deeper, no more than a library for each step. -/
inductive Grown (s : Surroundings) : Nat → WalkReport → Prop where
  | mk {depth g entry outputs r stops e} (home : g ∈ s.library) (tour : s.Tour depth g entry outputs r stops e)
      (few : e.walk.nested.length ≤ s.settings.maxWalkSteps * s.library.length)
      (limit : ∀ x ∈ e.walk.nested, depth + 1 ≤ s.settings.maxFanoutDepth)
      (nested : ∀ x ∈ e.walk.nested, Grown s (depth + 1) x) :
      Grown s depth (Walk.conclude s g entry e).1

variable {s : Surroundings} {depth : Nat}

theorem Grown.of_tour (builtins : s.registry.IsBuiltin) {g : Graph} {entry : String} {outputs : Outputs}
    {r : Run} {stops : List Stop} {e : Ending} (home : g ∈ s.library)
    (tour : s.Tour depth g entry outputs r stops e)
    (fires : ∀ effects r reports r', Fanout.Fires s depth g effects r reports r' →
      reports.length ≤ effects.length * s.library.length ∧
        ∀ x ∈ reports, depth + 1 ≤ s.settings.maxFanoutDepth ∧ s.Grown (depth + 1) x) :
    s.Grown depth (Walk.conclude s g entry e).1 := by
  have below := tour.forall_nested (Fanout.Fires.leads depth g) (fun _ _ _ _ f _ => (fires _ _ _ _ f).2) (by simp)
  have many := Walk.Course.length_nested_le builtins (fun _ _ _ _ f => (fires _ _ _ _ f).1) tour
  have calls : (called stops).length ≤ s.settings.maxWalkSteps := by simpa using tour.called_le (Nat.zero_le _)
  have few : e.walk.nested.length ≤ s.settings.maxWalkSteps * s.library.length :=
    many.trans (by simpa using Nat.mul_le_mul_right _ calls)
  exact .mk home tour few (fun x hx => (below x hx).1) fun x hx => (below x hx).2

end Surroundings

namespace Fanout

variable {s : Surroundings} {depth : Nat}

theorem Conducts.length_eq {F : Firing} {entries : List Entry} {seed : Entry → Outputs} {r r' : Run}
    {walks : List WalkReport} (c : Conducts s F entries r depth seed walks r') :
    walks.length = entries.length := by
  induction c with
  | nil => rfl
  | cons walk next ih => rw [List.length_cons, List.length_cons, ih]

theorem Fires.grown {g : Graph} {effects : List Effect} {r r' : Run} {reports : List WalkReport}
    (deeper : ∀ entries r seed walks r', (∀ e ∈ entries, e.graph ∈ s.library) →
      depth + 1 ≤ s.settings.maxFanoutDepth → Conducts s (Fires s) entries r (depth + 1) seed walks r' →
      ∀ x ∈ walks, s.Grown (depth + 1) x)
    (f : Fires s depth g effects r reports r') :
    reports.length ≤ effects.length * s.library.length ∧
      ∀ x ∈ reports, depth + 1 ≤ s.settings.maxFanoutDepth ∧ s.Grown (depth + 1) x := by
  induction effects generalizing r reports with
  | nil =>
    cases f
    simp
  | cons effect rest ih =>
    rw [List.length_cons, Nat.succ_mul]
    cases f with
    | dropped limit next => exact ⟨(ih next).1.trans (Nat.le_add_right _ _), (ih next).2⟩
    | walked limit walks next =>
      obtain ⟨few, home⟩ := serves_entries s.library effect
      obtain ⟨many, later⟩ := ih next
      have here := walks.length_eq
      refine ⟨by rw [List.length_append]; omega, fun x hx => ?_⟩
      rcases List.mem_append.1 hx with hx | hx
      · exact ⟨limit, deeper _ _ _ _ _ home limit walks x hx⟩
      · exact later x hx

theorem Conducts.grown (builtins : s.registry.IsBuiltin) (depth : Nat) :
    ∀ entries r seed walks r', (∀ e ∈ entries, e.graph ∈ s.library) →
      Conducts s (Fires s) entries r depth seed walks r' → ∀ x ∈ walks, s.Grown depth x := by
  induction depth using depth_induction (D := s.settings.maxFanoutDepth) with
  | step depth deeper =>
    intro entries r seed walks r' home c
    refine c.forall_walk (Fires.leads depth) fun entry he r stops e tour _ => ?_
    exact .of_tour builtins (home entry he) tour fun effects r reports r' f =>
      f.grown fun entries r seed walks r' home limit => deeper limit entries r seed walks r' home

end Fanout

/-- A graph that starts itself again. -/
def Graph.echo : Graph where
  id := "echo"
  ownerType := "Game"
  ownerId := "*"
  nodes := [{ id := "start", typeTag := "Event_OnGameStart" },
    { id := "again", typeTag := "Action_TriggerEvent",
      properties := ((Table.empty.insert "OwnerType" (.string "Game")).insert "OwnerId" (.string "g")).insert
        "EventTag" (.string "Event_OnGameStart") }]
  connections := [⟨"start", "Exec", "again", "Exec"⟩]

namespace Surroundings

variable {s : Surroundings} {depth : Nat}

/-- Walks some levels below lie that much deeper, and so not too deep. -/
theorem Grown.level {walks : List WalkReport} (h : ∀ x ∈ walks, s.Grown depth x) (k : Nat) :
    ∀ x ∈ WalkReport.level k walks, s.Grown (depth + k) x ∧ k ≤ s.settings.maxFanoutDepth - depth := by
  induction k with
  | zero => exact fun x hx => ⟨h x hx, Nat.zero_le _⟩
  | succ k ih =>
    intro x hx
    obtain ⟨y, hy, within⟩ := WalkReport.mem_level_succ.1 hx
    cases (ih y hy).1 with
    | mk home tour few limit nested =>
      have shallow := limit x within
      exact ⟨nested x within, by omega⟩

theorem Grown.length_all_le {x : WalkReport} (h : s.Grown depth x) :
    (WalkReport.all x).length ≤ ∑ k ∈ Finset.range (s.settings.maxFanoutDepth - depth + 1),
      (s.settings.maxWalkSteps * s.library.length) ^ k := by
  induction h with
  | @mk depth g entry outputs r stops e home tour few limit nested ih =>
    have within : (WalkReport.allOf e.walk.nested).length ≤ e.walk.nested.length *
        ∑ k ∈ Finset.range (s.settings.maxFanoutDepth - depth),
          (s.settings.maxWalkSteps * s.library.length) ^ k := by
      refine WalkReport.length_allOf_le fun y hy => ?_
      have levels : s.settings.maxFanoutDepth - depth = s.settings.maxFanoutDepth - (depth + 1) + 1 := by
        have := limit y hy
        omega
      rw [levels]
      exact ih y hy
    -- The walk itself is the first term of the sum, the walks within it share out the others.
    rw [Walk.conclude, WalkReport.all, List.length_cons, geom_sum_succ]
    exact Nat.succ_le_succ (within.trans (Nat.mul_le_mul_right _ few))

/-- The walks of a trigger that starts so many levels below the limit: where they lie, what each of them
calls, and how many they are. -/
structure Bounded (s : Surroundings) (depth : Nat) (walks : List WalkReport) : Prop where
  levels : ∀ k, s.settings.maxFanoutDepth - depth < k → WalkReport.level k walks = []
  all : ∀ x ∈ WalkReport.allOf walks, ∃ k, x ∈ WalkReport.level k walks
  calls : ∀ k, ∀ x ∈ WalkReport.level k walks, ∃ g ∈ s.library, ∃ entry outputs r stops e,
    s.Tour (depth + k) g entry outputs r stops e ∧ x = (Walk.conclude s g entry e).1 ∧
      (called stops).length ≤ s.settings.maxWalkSteps
  total : (WalkReport.allOf walks).length ≤ s.library.length *
    ∑ k ∈ Finset.range (s.settings.maxFanoutDepth - depth + 1),
      (s.settings.maxWalkSteps * s.library.length) ^ k

theorem Grown.bounded {walks : List WalkReport} (h : ∀ x ∈ walks, s.Grown depth x)
    (few : walks.length ≤ s.library.length) : s.Bounded depth walks where
  levels k hk := List.eq_nil_iff_forall_not_mem.2 fun x hx => absurd (Grown.level h k x hx).2 (Nat.not_le.2 hk)
  all x hx := WalkReport.exists_level_of_mem_allOf walks hx
  calls k x hx := by
    cases (Grown.level h k x hx).1 with
    | mk home tour =>
      exact ⟨_, home, _, _, _, _, _, tour, rfl, by simpa using tour.called_le (Nat.zero_le _)⟩
  total :=
    (WalkReport.length_allOf_le fun x hx => (h x hx).length_all_le).trans (Nat.mul_le_mul_right _ few)

def start (s : Surroundings) (depth : Nat) (o : Occasion) (r : Run) : List WalkReport × Run :=
  match o with
  | .event ownerType ownerId tag =>
    let (report, r) := s.trigger depth ownerType ownerId tag r
    (report.walks, r)
  | .broadcast tag =>
    let (report, r) := s.broadcast depth tag r
    (report.walks, r)
  | .change c => s.announce depth c r

theorem start_eq (s : Surroundings) (depth : Nat) (o : Occasion) (r : Run) :
    s.start depth o r = Fanout.walkAll (s.conduct depth) o.seed (o.entries s.library) r := by
  cases o <;> rfl

/-- Every trigger, over any library and with built-in handlers, ends and does a bounded amount of work. -/
theorem start_ends_bounded (s : Surroundings) (builtins : s.registry.IsBuiltin) (depth : Nat) (o : Occasion)
    (r : Run) :
    Fanout.Conducts s (Fanout.Fires s) (o.entries s.library) r depth o.seed (s.start depth o r).1
        (s.start depth o r).2 ∧
      s.Bounded depth (s.start depth o r).1 := by
  obtain ⟨few, home⟩ := o.serves_entries s.library
  have c := Fanout.conducts_walkAll s depth o.seed (o.entries s.library) r
  rw [← start_eq] at c
  have grown := Fanout.Conducts.grown builtins depth _ _ _ _ _ home c
  exact ⟨c, Grown.bounded grown (c.length_eq.trans_le few)⟩

theorem start_echo_ends_bounded :
    let s : Surroundings :=
      { registry := .builtins, library := [Graph.echo],
        settings := { maxWalkSteps := 2, maxFanoutDepth := 3 }, draws := .ofSeed 7 }
    let o : Occasion := .event "Game" "g" "Event_OnGameStart"
    s.registry.IsBuiltin ∧ (o.entries s.library).length = 1 ∧
      Fanout.Conducts s (Fanout.Fires s) (o.entries s.library) { world := {} } 0 o.seed
          (s.start 0 o { world := {} }).1 (s.start 0 o { world := {} }).2 ∧
        s.Bounded 0 (s.start 0 o { world := {} }).1 := by
  intro s o
  have builtins : s.registry.IsBuiltin := Registry.isBuiltin_builtins
  exact ⟨builtins, by decide +kernel, s.start_ends_bounded builtins 0 o { world := {} }⟩

end Surroundings

end StoryGraph
