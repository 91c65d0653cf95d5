import Mathlib.Data.List.Forall2
import StoryGraph.Loading
import StoryGraph.Proofs.Text.Bytes

/-!
Loading graphs from a folder. Main statement: the order in which the folder lists its files decides nothing. Where every
graph file reads, their graphs come one file after the other by name; else the first file that does not read is refused,
and nothing is loaded.
-/

namespace StoryGraph.Loading

/-- A document of graphs: an array of them, or a single one. -/
inductive Holds : Json → List Graph → Prop where
  | array {items graphs} (each : List.Forall₂ (fun j g => Graph.ofJson? j = some g) items graphs) :
      Holds (.arr items) graphs
  | single {j g} (alone : ∀ items, j ≠ .arr items) (read : Graph.ofJson? j = some g) : Holds j [g]

/-- The text of a file reads as graphs. -/
inductive ReadsAs : Option String → List Graph → Prop where
  | intro {text tree j graphs} (read : Json.read? text = some tree) (canonical : tree.canonical? = some j)
      (holds : Holds j graphs) : ReadsAs (some text) graphs

def Readable (text : Option String) : Prop := ∃ graphs, ReadsAs text graphs

/-- The graph files of a folder, in the order of the bytes of their names. -/
structure InOrder (entries files : List (String × Option String)) : Prop where
  listed : ∀ e, e ∈ files ↔ e ∈ entries ∧ ∃ stem, e.1 = stem ++ ".graph.json"
  sorted : files.Pairwise fun e later => Text.Precedes e.1 later.1

variable {entries entries' files : List (String × Option String)} {path : String} {text : Option String}
  {graphs : List Graph}

theorem mapM_eq_some_iff {α β : Type} {f : α → Option β} {l : List α} {l' : List β} :
    l.mapM f = some l' ↔ List.Forall₂ (fun a b => f a = some b) l l' := by
  induction l generalizing l' with
  | nil => simp [eq_comm]
  | cons a rest ih =>
    simp only [List.mapM_cons, Option.bind_eq_bind, Option.bind_eq_some_iff, Option.pure_def, Option.some.injEq,
      List.forall₂_cons_left_iff, ih]
    constructor
    · rintro ⟨b, here, bs, later, rfl⟩
      exact ⟨b, bs, here, later, rfl⟩
    · rintro ⟨b, bs, here, later, rfl⟩
      exact ⟨b, here, bs, later, rfl⟩

theorem graphsOf?_of_alone {j : Json} (alone : ∀ items, j ≠ .arr items) :
    graphsOf? j = (Graph.ofJson? j).map fun g => [g] := by
  cases j with
  | arr items => exact absurd rfl (alone items)
  | null | bool | int | float | str | obj | unreadable => rfl

theorem graphsOf?_eq_some_iff {j : Json} : graphsOf? j = some graphs ↔ Holds j graphs := by
  constructor
  · intro h
    by_cases alone : ∀ items, j ≠ .arr items
    · rw [graphsOf?_of_alone alone] at h
      obtain ⟨g, read, rfl⟩ := Option.map_eq_some_iff.1 h
      exact .single alone read
    · push Not at alone
      obtain ⟨items, rfl⟩ := alone
      exact .array (mapM_eq_some_iff.1 h)
  · intro h
    cases h with
    | array each => exact mapM_eq_some_iff.2 each
    | single alone read => rw [graphsOf?_of_alone alone, read, Option.map_some]

theorem readsAs_some_iff {s : String} :
    ReadsAs (some s) graphs ↔ ((Json.read? s).bind Json.canonical?).bind graphsOf? = some graphs := by
  simp only [Option.bind_eq_some_iff, graphsOf?_eq_some_iff]
  constructor
  · rintro ⟨read, canonical, holds⟩
    exact ⟨_, ⟨_, read, canonical⟩, holds⟩
  · rintro ⟨j, ⟨tree, read, canonical⟩, holds⟩
    exact ⟨read, canonical, holds⟩

/-- What is said of a file that does not read. -/
def refusal (path : String) : Option String → LoadError
  | none => .unreadable path
  | some _ => .malformed path

theorem graphFile_of_readsAs (h : ReadsAs text graphs) (path : String) : graphFile path text = .ok graphs := by
  cases h with
  | intro read canonical holds => rw [graphFile, readsAs_some_iff.1 ⟨read, canonical, holds⟩]

theorem ReadsAs.unique {graphs' : List Graph} (h : ReadsAs text graphs) (h' : ReadsAs text graphs') :
    graphs = graphs' :=
  Except.ok.inj ((graphFile_of_readsAs h "").symm.trans (graphFile_of_readsAs h' ""))

theorem graphFile_of_not_readable (h : ¬ Readable text) (path : String) :
    graphFile path text = .error (refusal path text) := by
  cases text with
  | none => rfl
  | some s =>
    cases read : ((Json.read? s).bind Json.canonical?).bind graphsOf? with
    | none => rw [graphFile, read, refusal]
    | some graphs => exact absurd ⟨graphs, readsAs_some_iff.2 read⟩ h

/-! One file after the other. -/

section Several

variable {α β ε : Type} {f : α → Except ε β}

theorem mapM_ok {l : List α} {l' : List β} (each : List.Forall₂ (fun a b => f a = .ok b) l l') :
    l.mapM f = .ok l' := by
  induction each with
  | nil => rfl
  | cons here _ ih =>
    rw [List.mapM_cons, here, ih]
    rfl

/-- The first element that is refused ends the pass. -/
theorem mapM_error {before after : List α} {a : α} {e : ε} (passed : ∀ b ∈ before, ∃ c, f b = .ok c)
    (refused : f a = .error e) : (before ++ a :: after).mapM f = .error e := by
  induction before with
  | nil =>
    rw [List.nil_append, List.mapM_cons, refused]
    rfl
  | cons b rest ih =>
    rw [List.forall_mem_cons] at passed
    obtain ⟨c, here⟩ := passed.1
    rw [List.cons_append, List.mapM_cons, here, ih passed.2]
    rfl

theorem exists_forall₂ {R : α → β → Prop} {l : List α} (each : ∀ a ∈ l, ∃ b, R a b) :
    ∃ l', List.Forall₂ R l l' := by
  induction l with
  | nil => exact ⟨[], .nil⟩
  | cons a rest ih =>
    rw [List.forall_mem_cons] at each
    obtain ⟨b, here⟩ := each.1
    obtain ⟨bs, later⟩ := ih each.2
    exact ⟨b :: bs, .cons here later⟩

theorem exists_first_not {p : α → Prop} {l : List α} (h : ¬ ∀ a ∈ l, p a) :
    ∃ before a after, l = before ++ a :: after ∧ (∀ b ∈ before, p b) ∧ ¬ p a := by
  induction l with
  | nil => exact absurd (by simp) h
  | cons a rest ih =>
    by_cases here : p a
    · obtain ⟨before, b, after, rfl, passed, refused⟩ :=
        ih fun later => h (List.forall_mem_cons.2 ⟨here, later⟩)
      exact ⟨a :: before, b, after, rfl, List.forall_mem_cons.2 ⟨here, passed⟩, refused⟩
    · exact ⟨[], a, rest, rfl, by simp, here⟩

end Several

/-! The order of the files. -/

theorem isGraphFile_iff {name : String} : isGraphFile name = true ↔ ∃ stem, name = stem ++ ".graph.json" := by
  rw [isGraphFile, List.isSuffixOf_iff_suffix]
  constructor
  · rintro ⟨stem, whole⟩
    refine ⟨String.ofList stem, String.toList_injective ?_⟩
    rw [String.toList_append, String.toList_ofList]
    exact whole.symm
  · rintro ⟨stem, rfl⟩
    rw [String.toList_append]
    exact List.suffix_append _ _

theorem mem_graphFiles {e : String × Option String} :
    e ∈ graphFiles entries ↔ e ∈ entries ∧ ∃ stem, e.1 = stem ++ ".graph.json" := by
  rw [graphFiles, List.mem_mergeSort, List.mem_filter, isGraphFile_iff]

theorem pairwise_graphFiles (entries : List (String × Option String)) :
    (graphFiles entries).Pairwise fun e later => e.1 ≤ later.1 := by
  have trans (a b c : String × Option String) (h : decide (a.1 ≤ b.1) = true) (h' : decide (b.1 ≤ c.1) = true) :
      decide (a.1 ≤ c.1) = true := by
    rw [decide_eq_true_eq] at *
    exact String.le_trans h h'
  have total (a b : String × Option String) : (decide (a.1 ≤ b.1) || decide (b.1 ≤ a.1)) = true := by
    rw [Bool.or_eq_true, decide_eq_true_eq, decide_eq_true_eq]
    exact String.le_total a.1 b.1
  exact (List.pairwise_mergeSort trans total _).imp of_decide_eq_true

theorem names_graphFiles (distinct : (entries.map Prod.fst).Nodup) :
    (graphFiles entries).Pairwise fun e later => e.1 ≠ later.1 := by
  have graph : ((entries.filter fun e => isGraphFile e.1).map Prod.fst).Nodup :=
    distinct.sublist (List.filter_sublist.map Prod.fst)
  have sorted : (graphFiles entries).Perm (entries.filter fun e => isGraphFile e.1) := List.mergeSort_perm _ _
  exact List.pairwise_map.1 ((sorted.map Prod.fst).nodup_iff.2 graph)

theorem inOrder_graphFiles (distinct : (entries.map Prod.fst).Nodup) : InOrder entries (graphFiles entries) where
  listed := fun _ => mem_graphFiles
  sorted := by
    refine ((pairwise_graphFiles entries).and (names_graphFiles distinct)).imp fun h => Text.precedes_iff.2 ?_
    exact Std.lt_of_le_of_ne h.1 h.2

theorem InOrder.of_filter (listed : (entries.filter fun e => isGraphFile e.1) = files)
    (sorted : files.Pairwise fun e later => e.1 < later.1) : InOrder entries files where
  listed := fun e => by rw [← listed, List.mem_filter, isGraphFile_iff]
  sorted := sorted.imp Text.precedes_iff.2

theorem InOrder.perm (h : InOrder entries files) (same : entries'.Perm entries) : InOrder entries' files :=
  ⟨fun e => by rw [h.listed, same.mem_iff], h.sorted⟩

/-- A folder has one list of graph files, whatever order it holds its entries in. -/
theorem InOrder.unique {files' : List (String × Option String)} (h : InOrder entries files)
    (h' : InOrder entries files') : files = files' := by
  have asymm {a b : String × Option String} (less : Text.Precedes a.1 b.1) : ¬ Text.Precedes b.1 a.1 := by
    rw [Text.precedes_iff] at *
    exact String.lt_asymm less
  have nodup {l : List (String × Option String)} (sorted : l.Pairwise fun e later => Text.Precedes e.1 later.1) :
      l.Nodup := by
    refine sorted.imp fun less => ?_
    rintro rfl
    exact asymm less less
  have perm : files.Perm files' :=
    (List.perm_ext_iff_of_nodup (nodup h.sorted) (nodup h'.sorted)).2 fun e => by rw [h.listed, h'.listed]
  exact List.Perm.eq_of_pairwise (fun _ _ _ _ less less' => absurd less' (asymm less)) h.sorted h'.sorted perm

theorem graphFiles_eq (distinct : (entries.map Prod.fst).Nodup) (h : InOrder entries files) :
    graphFiles entries = files := (inOrder_graphFiles distinct).unique h

theorem graphFolder_ok {parts : List (List Graph)}
    (read : List.Forall₂ (fun e graphs => ReadsAs e.2 graphs) (graphFiles entries) parts) (path : String) :
    graphFolder path entries = .ok parts.flatten := by
  have loaded (e : String × Option String) (graphs : List Graph) (here : ReadsAs e.2 graphs) :
      graphFile (path ++ "/" ++ e.1) e.2 = .ok graphs := graphFile_of_readsAs here _
  rw [graphFolder, mapM_ok (read.imp loaded)]
  rfl

theorem graphFolder_error {before after : List (String × Option String)} {e : String × Option String}
    (split : graphFiles entries = before ++ e :: after) (passed : ∀ b ∈ before, Readable b.2) (bad : ¬ Readable e.2)
    (path : String) : graphFolder path entries = .error (refusal (path ++ "/" ++ e.1) e.2) := by
  have passed (b) (mem : b ∈ before) : ∃ graphs, graphFile (path ++ "/" ++ b.1) b.2 = .ok graphs := by
    obtain ⟨graphs, read⟩ := passed b mem
    exact ⟨graphs, graphFile_of_readsAs read _⟩
  have refused := graphFile_of_not_readable bad (path ++ "/" ++ e.1)
  rw [graphFolder, split, mapM_error passed refused]
  rfl

/-- What a folder loads as, in whatever order it lists what is in it. -/
theorem folder_in_any_order (path : String) (distinct : (entries.map Prod.fst).Nodup) :
    ∃ files, InOrder entries files ∧ ∀ entries', entries'.Perm entries →
      loadGraphs path (.folder entries') = loadGraphs path (.folder entries) ∧
      ((∀ e ∈ files, Readable e.2) → ∃ parts, List.Forall₂ (fun e graphs => ReadsAs e.2 graphs) files parts ∧
        loadGraphs path (.folder entries') = .ok parts.flatten) ∧
      ((¬ ∀ e ∈ files, Readable e.2) → ∃ before e after, files = before ++ e :: after ∧
        (∀ e ∈ before, Readable e.2) ∧ ¬ Readable e.2 ∧
        loadGraphs path (.folder entries') = .error
          (if e.2 = none then .unreadable (path ++ "/" ++ e.1) else .malformed (path ++ "/" ++ e.1))) := by
  have ordered := inOrder_graphFiles distinct
  refine ⟨graphFiles entries, ordered, fun entries' same => ?_⟩
  have distinct' : (entries'.map Prod.fst).Nodup := (same.map Prod.fst).nodup_iff.2 distinct
  have files : graphFiles entries' = graphFiles entries := graphFiles_eq distinct' (ordered.perm same)
  refine ⟨?_, fun readable => ?_, fun spoilt => ?_⟩
  · show graphFolder path entries' = graphFolder path entries
    rw [graphFolder, graphFolder, files]
  · obtain ⟨parts, read⟩ := exists_forall₂ readable
    exact ⟨parts, read, graphFolder_ok (files ▸ read) path⟩
  · obtain ⟨before, e, after, split, passed, bad⟩ := exists_first_not spoilt
    have refused := graphFolder_error (files.trans split) passed bad path
    refine ⟨before, e, after, split, passed, bad, refused.trans ?_⟩
    cases e with
    | mk name text => cases text <;> rfl

/-- The ids of the graphs that a text reads as. -/
def idsIn? (s : String) : Option (List String) :=
  (((Json.read? s).bind Json.canonical?).bind graphsOf?).map (List.map Graph.id)

theorem readsAs_of_ids {s : String} {ids : List String} (h : idsIn? s = some ids) :
    ∃ graphs, ReadsAs (some s) graphs ∧ graphs.map Graph.id = ids := by
  obtain ⟨graphs, read, ids⟩ := Option.map_eq_some_iff.1 h
  exact ⟨graphs, readsAs_some_iff.2 read, ids⟩

theorem not_readable_of_ids {s : String} (h : idsIn? s = none) : ¬ Readable (some s) := by
  rintro ⟨graphs, read⟩
  rw [idsIn?, readsAs_some_iff.1 read] at h
  cases h

/-- A file of two graphs after a file of one, and a file that does not read before both of them. -/
theorem folder_in_any_order_of_files :
    let pair := ("pair.graph.json", some "[\x7b\"id\": \"first\"\x7d, \x7b\"id\": \"second\"\x7d]")
    let guard := ("guard.graph.json", some "\x7b\"id\": \"guard\"\x7d")
    let broken := ("Pair.graph.json", some "[")
    let notes := ("notes.json", some "not a graph")
    (loadGraphs "demos" (.folder [pair, notes, guard])).map (List.map Graph.id) = .ok ["guard", "first", "second"] ∧
      loadGraphs "demos" (.folder [guard, pair, broken]) = .error (.malformed "demos/Pair.graph.json") := by
  intro pair guard broken notes
  obtain ⟨pair_graphs, read_pair, pair_ids⟩ :
      ∃ graphs, ReadsAs pair.2 graphs ∧ graphs.map Graph.id = ["first", "second"] :=
    readsAs_of_ids (by decide +kernel)
  obtain ⟨guard_graphs, read_guard, guard_ids⟩ :
      ∃ graphs, ReadsAs guard.2 graphs ∧ graphs.map Graph.id = ["guard"] :=
    readsAs_of_ids (by decide +kernel)
  constructor
  · have distinct : ([guard, notes, pair].map Prod.fst).Nodup := by decide +kernel
    obtain ⟨files, ordered, load⟩ := folder_in_any_order "demos" distinct
    have here : InOrder [guard, notes, pair] [guard, pair] := .of_filter (by decide +kernel) (by decide +kernel)
    cases ordered.unique here
    have readable : ∀ e ∈ [guard, pair], Readable e.2 :=
      List.forall_mem_cons.2 ⟨⟨_, read_guard⟩, List.forall_mem_singleton.2 ⟨_, read_pair⟩⟩
    obtain ⟨parts, read, loaded⟩ := (load [pair, notes, guard] (by decide +kernel)).2.1 readable
    obtain ⟨first, rest, read_first, read_rest, rfl⟩ := List.forall₂_cons_left_iff.1 read
    obtain ⟨last, none, read_last, read_none, rfl⟩ := List.forall₂_cons_left_iff.1 read_rest
    cases read_none
    cases read_first.unique read_guard
    cases read_last.unique read_pair
    rw [loaded]
    simp [Except.map, guard_ids, pair_ids]
  · have bad : ¬ Readable broken.2 := not_readable_of_ids (by decide +kernel)
    have distinct : ([broken, guard, pair].map Prod.fst).Nodup := by decide +kernel
    obtain ⟨files, ordered, load⟩ := folder_in_any_order "demos" distinct
    have here : InOrder [broken, guard, pair] [broken, guard, pair] :=
      .of_filter (by decide +kernel) (by decide +kernel)
    cases ordered.unique here
    have spoilt : ¬ ∀ e ∈ [broken, guard, pair], Readable e.2 := fun all => bad (all broken List.mem_cons_self)
    obtain ⟨before, e, after, split, passed, -, refused⟩ :=
      (load [guard, pair, broken] (by decide +kernel)).2.2 spoilt
    cases before with
    | nil =>
      cases split
      exact refused
    | cons first rest =>
      obtain ⟨rfl, -⟩ := List.cons.inj split
      exact absurd (passed broken List.mem_cons_self) bad

end StoryGraph.Loading
