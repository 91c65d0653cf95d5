import Mathlib.Data.List.Nodup
import Mathlib.Data.List.SplitBy
import StoryGraph.Bag
import StoryGraph.Proofs.Table
import StoryGraph.Proofs.Text.Bytes

/-!
Reading from bags. Main statement: a name reads what stands under it or, if nothing does, what stands under the first of
the names that differ from it in case only, and all names that clash are listed, each once and in order. The order in
which a bag holds its entries decides nothing.
-/

namespace StoryGraph

/-! Lists that are cut into runs of elements that look alike. -/

section Runs

variable {α β : Type} [DecidableEq β] {look : α → β} {le : α → α → Prop}

theorem alike_of_mem_splitBy (look : α → β) {l run : List α} (mem : run ∈ l.splitBy fun a b => look a == look b) :
    ∀ a ∈ run, ∀ b ∈ run, look a = look b := by
  have chain := List.isChain_of_mem_splitBy mem
  clear mem
  induction run with
  | nil => simp
  | cons a rest ih =>
    have first : ∀ b ∈ rest, look a = look b := by
      cases rest with
      | nil => simp
      | cons next others =>
        have step : look a = look next := eq_of_beq (List.isChain_cons_cons.1 chain).1
        exact fun b mem => step.trans (ih chain.tail next List.mem_cons_self b mem)
    rw [List.forall_mem_cons]
    refine ⟨List.forall_mem_cons.2 ⟨rfl, first⟩, fun b mem => ?_⟩
    exact List.forall_mem_cons.2 ⟨(first b mem).symm, ih chain.tail b mem⟩

/-- In a list in which elements that look alike stand together, elements of different runs do not. -/
theorem pairwise_splitBy {l : List α} (together : ∀ {a b c}, le a b → le b c → look a = look c → look a = look b)
    (sorted : l.Pairwise le) : (l.splitBy fun a b => look a == look b).Pairwise fun run later =>
      ∀ a ∈ run, ∀ b ∈ later, look a ≠ look b := by
  have alike : ∀ run ∈ l.splitBy fun a b => look a == look b, ∀ a ∈ run, ∀ b ∈ run, look a = look b :=
    fun _ => alike_of_mem_splitBy look
  have parted := List.isChain_getLast_head_splitBy (fun a b => look a == look b) l
  rw [← List.flatten_splitBy (fun a b => look a == look b) l] at sorted
  generalize l.splitBy _ = runs at alike parted sorted ⊢
  induction runs with
  | nil => exact .nil
  | cons run rest ih =>
    rw [List.flatten_cons, List.pairwise_append] at sorted
    rw [List.forall_mem_cons] at alike
    refine List.pairwise_cons.2 ⟨fun later mem a ha b hb same => ?_, ih alike.2 parted.tail sorted.2.1⟩
    cases rest with
    | nil => cases mem
    | cons next others =>
      obtain ⟨some_run, some_next, unlike⟩ := (List.isChain_cons_cons.1 parted).1
      obtain ⟨y, ys, rfl⟩ := List.exists_cons_of_ne_nil some_next
      have parts : look (run.getLast some_run) ≠ look y := beq_eq_false_iff_ne.1 unlike
      -- The last of the run looks as `a` does, so all that stands between it and `b` looks as they do.
      have last := List.getLast_mem some_run
      have before : look (run.getLast some_run) = look b := (alike.1 _ last a ha).trans same
      have next_y := sorted.2.2 _ last y (by simp)
      have mem_b : b ∈ y :: (ys ++ others.flatten) := List.mem_flatten_of_mem mem hb
      have first : ∀ c ∈ ys ++ others.flatten, le y c := (List.pairwise_cons.1 sorted.2.1).1
      cases List.mem_cons.1 mem_b with
      | inl here => exact parts (here ▸ before)
      | inr after => exact parts (together next_y (first b after) before)

end Runs

namespace Bag

/-- Names in the order of their lowered bytes, and of their own bytes where those are the same. -/
def ComesBefore (a b : String) : Prop :=
  Text.Precedes (Text.fold a) (Text.fold b) ∨ Text.fold a = Text.fold b ∧ Text.Precedes a b

/-- A name reads what stands under it. Else it reads what stands under the first of the names that are like it. -/
inductive Reads (b : Bag) (key : String) (v : Value) : Prop where
  | under (mem : (key, v) ∈ b.entries) : Reads b key v
  | alike {k} (unused : key ∉ b.keys) (mem : (k, v) ∈ b.entries) (same : Text.sameName k key = true)
      (first : ∀ k' ∈ b.keys, k' ≠ k → Text.sameName k' key = true → Text.Precedes k k') : Reads b key v

variable {b b' : Bag} {k key key' : String} {v : Value}

theorem foldl_smaller (e : String × Value) (l : List (String × Value)) :
    l.foldl smaller e ∈ e :: l ∧ ∀ a ∈ e :: l, (l.foldl smaller e).1 ≤ a.1 := by
  induction l generalizing e with
  | nil => simp
  | cons next rest ih =>
    obtain ⟨mem, least⟩ := ih (smaller e next)
    have either : smaller e next = e ∨ smaller e next = next := by
      rw [smaller]
      split
      · exact .inr rfl
      · exact .inl rfl
    have below : (smaller e next).1 ≤ e.1 ∧ (smaller e next).1 ≤ next.1 := by
      rw [smaller]
      split
      case isTrue less => exact ⟨String.not_lt.1 (String.lt_asymm less), String.le_refl _⟩
      case isFalse least => exact ⟨String.le_refl _, String.not_lt.1 least⟩
    simp only [List.foldl_cons, List.forall_mem_cons] at least ⊢
    refine ⟨?_, String.le_trans least.1 below.1, String.le_trans least.1 below.2, least.2⟩
    cases either with
    | inl same =>
      rw [same] at mem ⊢
      exact List.cons_subset_cons e (List.subset_cons_self next rest) mem
    | inr same =>
      rw [same] at mem ⊢
      exact List.mem_cons_of_mem e mem

theorem smallest?_eq_some {l : List (String × Value)} {e : String × Value} (h : smallest? l = some e) :
    e ∈ l ∧ ∀ a ∈ l, e.1 ≤ a.1 := by
  cases l with
  | nil => cases h
  | cons first rest =>
    cases h
    exact foldl_smaller first rest

theorem isSome_smallest? {l : List (String × Value)} {e : String × Value} (mem : e ∈ l) : (smallest? l).isSome := by
  cases l with
  | nil => cases mem
  | cons => rfl

theorem mem_keys (mem : (k, v) ∈ b.entries) : k ∈ b.keys := List.mem_map.2 ⟨(k, v), mem, rfl⟩

theorem get?_eq_none_iff : b.get? key = none ↔ key ∉ b.keys := by
  rw [Option.eq_none_iff_forall_ne_some]
  constructor
  · intro none mem
    obtain ⟨⟨k, v⟩, here, rfl⟩ := List.mem_map.1 mem
    exact none v (Table.get?_eq_some_iff.2 here)
  · exact fun unused v found => unused (mem_keys (Table.get?_eq_some_iff.1 found))

theorem find?_eq_some_iff : b.find? key = some v ↔ b.Reads key v := by
  rw [find?]
  cases found : b.get? key with
  | some w =>
    have mem : (key, w) ∈ b.entries := Table.get?_eq_some_iff.1 found
    constructor
    · rintro ⟨⟩
      exact .under mem
    · intro reads
      cases reads with
      | under here => exact found.symm.trans (Table.get?_eq_some_iff.2 here)
      | alike unused => exact absurd (mem_keys mem) unused
  | none =>
    have unused : key ∉ b.keys := get?_eq_none_iff.1 found
    rw [Option.map_eq_some_iff]
    constructor
    · rintro ⟨⟨k, w⟩, least, rfl⟩
      obtain ⟨mem, least⟩ := smallest?_eq_some least
      obtain ⟨mem, same⟩ := List.mem_filter.1 mem
      refine .alike unused mem same fun k' used unlike same' => Text.precedes_iff.2 ?_
      obtain ⟨⟨k', w'⟩, mem', rfl⟩ := List.mem_map.1 used
      have le := least _ (List.mem_filter.2 ⟨mem', same'⟩)
      exact lt_of_not_lt_of_ne le (Ne.symm unlike)
    · intro reads
      cases reads with
      | under mem => exact absurd (mem_keys mem) unused
      | @alike k _ mem same first =>
        have mem_like : (k, v) ∈ b.entries.filter fun e => Text.sameName e.1 key := List.mem_filter.2 ⟨mem, same⟩
        obtain ⟨⟨k', w⟩, least⟩ := Option.isSome_iff_exists.1 (isSome_smallest? mem_like)
        obtain ⟨mem', le⟩ := smallest?_eq_some least
        obtain ⟨mem', same'⟩ := List.mem_filter.1 mem'
        have here : k' = k := by
          by_contra unlike
          have less := Text.precedes_iff.1 (first k' (mem_keys mem') unlike same')
          exact le _ mem_like less
        subst here
        have found := (Table.get?_eq_some_iff.2 mem').symm.trans (Table.get?_eq_some_iff.2 mem)
        cases found
        exact ⟨_, least, rfl⟩

theorem Reads.perm (h : b.Reads key v) (same : b'.entries.Perm b.entries) : b'.Reads key v := by
  have keys : b'.keys.Perm b.keys := same.map Prod.fst
  cases h with
  | under mem => exact .under (same.mem_iff.2 mem)
  | alike unused mem like first =>
    exact .alike (mt keys.mem_iff.1 unused) (same.mem_iff.2 mem) like fun k' used => first k' (keys.mem_iff.1 used)

theorem find?_perm (same : b'.entries.Perm b.entries) (key : String) : b'.find? key = b.find? key := by
  ext v
  rw [find?_eq_some_iff, find?_eq_some_iff]
  exact ⟨fun h => h.perm same.symm, fun h => h.perm same⟩

/-- Where no two names are alike, a name in any case reads the same. -/
theorem Reads.recased (h : b.Reads key v)
    (apart : ∀ k ∈ b.keys, ∀ k' ∈ b.keys, Text.sameName k' k = true → k' = k)
    (same : Text.sameName key key' = true) : b.Reads key' v := by
  obtain ⟨k, mem, like⟩ : ∃ k, (k, v) ∈ b.entries ∧ Text.sameName k key = true := by
    cases h with
    | under mem => exact ⟨key, mem, Text.sameName_refl key⟩
    | alike _ mem like => exact ⟨_, mem, like⟩
  have like' := Text.sameName_trans like same
  by_cases used : key' ∈ b.keys
  · cases apart key' used k (mem_keys mem) like'
    exact .under mem
  · refine .alike used mem like' fun k' used' unlike same' => absurd (apart k (mem_keys mem) k' used' ?_) unlike
    rw [Text.sameName_comm] at like'
    exact Text.sameName_trans same' like'

/-! The order of names. -/

theorem comesBefore_iff {a b : String} :
    ComesBefore a b ↔ Text.fold a < Text.fold b ∨ Text.fold a = Text.fold b ∧ a < b := by
  rw [ComesBefore, Text.precedes_iff, Text.precedes_iff]

theorem keyLe_iff {a b : String} :
    keyLe a b = true ↔ Text.fold a < Text.fold b ∨ Text.fold a = Text.fold b ∧ a ≤ b := by
  simp [keyLe]

theorem keyLe_trans (a b c : String) (h : keyLe a b = true) (h' : keyLe b c = true) : keyLe a c = true := by
  rw [keyLe_iff] at *
  obtain less | ⟨same, le⟩ := h <;> obtain less' | ⟨same', le'⟩ := h'
  · exact .inl (String.lt_trans less less')
  · exact .inl (same' ▸ less)
  · exact .inl (same ▸ less')
  · exact .inr ⟨same.trans same', String.le_trans le le'⟩

theorem keyLe_total (a b : String) : (keyLe a b || keyLe b a) = true := by
  rw [Bool.or_eq_true, keyLe_iff, keyLe_iff]
  by_cases same : Text.fold a = Text.fold b
  · exact (String.le_total a b).imp (fun le => .inr ⟨same, le⟩) fun le => .inr ⟨same.symm, le⟩
  · by_cases less : Text.fold a < Text.fold b
    · exact .inl (.inl less)
    · exact .inr (.inl (lt_of_not_lt_of_ne less (Ne.symm same)))

theorem ComesBefore.asymm {a b : String} (h : ComesBefore a b) : ¬ ComesBefore b a := by
  intro h'
  rw [comesBefore_iff] at h h'
  obtain less | ⟨same, less⟩ := h <;> obtain less' | ⟨same', less'⟩ := h'
  · exact String.lt_asymm less less'
  · exact String.lt_irrefl _ (same' ▸ less)
  · exact String.lt_irrefl _ (same ▸ less')
  · exact String.lt_asymm less less'

theorem comesBefore_of_keyLe {a b : String} (le : keyLe a b = true) (unlike : a ≠ b) : ComesBefore a b := by
  rw [comesBefore_iff]
  refine (keyLe_iff.1 le).imp_right fun h => ⟨h.1, lt_of_not_lt_of_ne h.2 unlike⟩

/-- The names of a bag in order. -/
def inOrder (b : Bag) : List String := b.keys.mergeSort keyLe

theorem inOrder_perm (b : Bag) : b.inOrder.Perm b.keys := List.mergeSort_perm b.keys keyLe

theorem nodup_inOrder (b : Bag) : b.inOrder.Nodup := (b.inOrder_perm.nodup_iff).2 b.nodup

theorem pairwise_inOrder (b : Bag) : b.inOrder.Pairwise ComesBefore := by
  have sorted : b.inOrder.Pairwise fun a c => keyLe a c = true :=
    List.pairwise_mergeSort keyLe_trans keyLe_total b.keys
  exact (sorted.and b.nodup_inOrder).imp fun h => comesBefore_of_keyLe h.1 h.2

theorem inOrder_congr (same : b'.keys.Perm b.keys) : b'.inOrder = b.inOrder := by
  have perm : b'.inOrder.Perm b.inOrder := (b'.inOrder_perm.trans same).trans b.inOrder_perm.symm
  exact List.Perm.eq_of_pairwise (fun _ _ _ _ h h' => absurd h' h.asymm) b'.pairwise_inOrder b.pairwise_inOrder perm

/-- Names that are alike stand together. -/
theorem fold_eq_of_between {a b c : String} (h : ComesBefore a b) (h' : ComesBefore b c)
    (same : Text.fold a = Text.fold c) : Text.fold a = Text.fold b := by
  rw [comesBefore_iff] at h h'
  obtain less | alike := h
  · refine (String.lt_irrefl (Text.fold c) ?_).elim
    rw [same] at less
    obtain less' | alike' := h'
    · exact String.lt_trans less less'
    · rwa [alike'.1] at less
  · exact alike.1

/-- The names that are alike, run by run. -/
def runs (b : Bag) : List (List String) := b.inOrder.splitBy Text.sameName

theorem flatten_runs (b : Bag) : b.runs.flatten = b.inOrder := List.flatten_splitBy _ _

theorem clashingKeys_eq (b : Bag) : b.clashingKeys = (b.runs.filter fun run => 1 < run.length).flatten := rfl

theorem clashingKeys_sublist (b : Bag) : b.clashingKeys.Sublist b.inOrder := by
  rw [← flatten_runs, clashingKeys_eq]
  exact List.filter_sublist.flatten

theorem alike_of_mem_runs {run : List String} (mem : run ∈ b.runs) {k k' : String} (h : k ∈ run) (h' : k' ∈ run) :
    Text.sameName k' k = true :=
  Text.sameName_iff.2 (alike_of_mem_splitBy Text.fold mem k' h' k h)

theorem pairwise_runs (b : Bag) : b.runs.Pairwise fun run later =>
    ∀ k ∈ run, ∀ k' ∈ later, Text.fold k ≠ Text.fold k' :=
  pairwise_splitBy fold_eq_of_between b.pairwise_inOrder

theorem eq_of_mem_runs {run run' : List String} (mem : run ∈ b.runs) (mem' : run' ∈ b.runs) {k k' : String}
    (h : k ∈ run) (h' : k' ∈ run') (same : Text.sameName k' k = true) : run = run' := by
  have : Std.Symm fun run later : List String => ∀ k ∈ run, ∀ k' ∈ later, Text.fold k ≠ Text.fold k' :=
    ⟨fun _ _ apart k hk k' hk' => (apart k' hk' k hk).symm⟩
  by_contra other
  exact b.pairwise_runs.forall mem mem' other k h k' h' (Text.sameName_iff.1 same).symm

/-- Another name of the bag differs from this one in case only. -/
def Clashes (b : Bag) (k : String) : Prop := ∃ k' ∈ b.keys, k' ≠ k ∧ Text.sameName k' k = true

theorem mem_clashingKeys : k ∈ b.clashingKeys ↔ k ∈ b.keys ∧ b.Clashes k := by
  have listed (a : String) : a ∈ b.keys ↔ ∃ run ∈ b.runs, a ∈ run := by
    rw [← b.inOrder_perm.mem_iff, ← flatten_runs, List.mem_flatten]
  simp only [clashingKeys_eq, List.mem_flatten, List.mem_filter, decide_eq_true_eq]
  constructor
  · rintro ⟨run, ⟨mem, long⟩, here⟩
    have distinct : run.Nodup := by
      have nodup := b.nodup_inOrder
      rw [← flatten_runs] at nodup
      exact nodup.sublist (List.sublist_flatten_of_mem mem)
    have several : run ≠ [k] := fun alone => absurd long (by simp [alone])
    obtain empty | ⟨k', there, unlike⟩ := (List.Nodup.ne_singleton_iff distinct k).1 several
    · simp [empty] at here
    · have same := alike_of_mem_runs mem here there
      exact ⟨(listed k).2 ⟨run, mem, here⟩, k', (listed k').2 ⟨run, mem, there⟩, unlike, same⟩
  · rintro ⟨used, k', used', unlike, same⟩
    obtain ⟨run, mem, here⟩ := (listed k).1 used
    obtain ⟨run', mem', there⟩ := (listed k').1 used'
    cases eq_of_mem_runs mem mem' here there same
    refine ⟨run, ⟨mem, ?_⟩, here⟩
    cases run with
    | nil => cases here
    | cons a rest =>
      cases rest with
      | nil => exact absurd ((List.mem_singleton.1 there).trans (List.mem_singleton.1 here).symm) unlike
      | cons => simp

/-- What a name reads, and which names clash. Neither depends on the order in which the bag holds its entries, and where
no names clash, case does not matter. -/
theorem lookup_and_clashes (b : Bag) :
    (∀ key v, b.find? key = some v ↔ b.Reads key v) ∧
      (∀ k, k ∈ b.clashingKeys ↔ k ∈ b.keys ∧ b.Clashes k) ∧
      b.clashingKeys.Nodup ∧ b.clashingKeys.Pairwise ComesBefore ∧
      (∀ b' : Bag, b'.entries.Perm b.entries →
        (∀ key, b'.find? key = b.find? key) ∧ b'.clashingKeys = b.clashingKeys) ∧
      (b.clashingKeys = [] → ∀ key key', Text.sameName key key' = true → b.find? key = b.find? key') := by
  have listed := b.clashingKeys_sublist
  refine ⟨fun key v => find?_eq_some_iff, fun k => mem_clashingKeys, b.nodup_inOrder.sublist listed,
    b.pairwise_inOrder.sublist listed, fun b' same => ⟨find?_perm same, ?_⟩, fun none key key' same => ?_⟩
  · rw [clashingKeys_eq, clashingKeys_eq, runs, runs, inOrder_congr (same.map Prod.fst)]
  · have apart : ∀ k ∈ b.keys, ∀ k' ∈ b.keys, Text.sameName k' k = true → k' = k := by
      intro k used k' used' like
      by_contra unlike
      have clash := mem_clashingKeys.2 ⟨used, k', used', unlike, like⟩
      rw [none] at clash
      cases clash
    have same' : Text.sameName key' key = true := Text.sameName_comm key key' ▸ same
    ext v
    rw [find?_eq_some_iff, find?_eq_some_iff]
    exact ⟨fun h => h.recased apart same, fun h => h.recased apart same'⟩

/-- Of three names that are alike, the one that is asked for is read, or else the first one. -/
theorem lookup_and_clashes_text :
    let b : Bag := .ofList [("text", .string "c"), ("TEXT", .string "a"), ("Text", .string "b"), ("Amount", .int 1)]
    let b' : Bag := .ofList [("Amount", .int 1)]
    b.find? "Text" = some (.string "b") ∧ b.find? "tExt" = some (.string "a") ∧ "text" ∈ b.clashingKeys ∧
      "Amount" ∉ b.clashingKeys ∧ b'.clashingKeys = [] ∧ b'.find? "AMOUNT" = b'.find? "amount" := by
  intro b b'
  have clashes (k : String) := b.lookup_and_clashes.2.1 k
  have clash : "text" ∈ b.clashingKeys :=
    (clashes "text").2 ⟨by decide +kernel, "Text", by decide +kernel, by decide, by decide +kernel⟩
  have alone : ∀ k ∈ b.keys, ¬ (k ≠ "Amount" ∧ Text.sameName k "Amount" = true) := by decide +kernel
  have quiet : b'.clashingKeys = [] := by decide +kernel
  have recased := b'.lookup_and_clashes.2.2.2.2.2 quiet "AMOUNT" "amount" (by decide +kernel)
  refine ⟨by decide +kernel, by decide +kernel, clash, fun mem => ?_, quiet, recased⟩
  obtain ⟨k, used, other⟩ := ((clashes "Amount").1 mem).2
  exact alone k used other

end Bag

end StoryGraph
