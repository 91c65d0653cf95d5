import StoryGraph.Json.Reader
import StoryGraph.Json.Record
import StoryGraph.Proofs.Correspondence
import StoryGraph.Proofs.Json.Record

/-!
Properties of trees that pass from the parts of a tree to the whole and back. Main statement: such a property holds
of every tree that is read from a text, if it holds of what numbers and words are read as, and of the sorted form of
every tree that has it.
-/

namespace StoryGraph.Json

/-- A container has the property if and only if all of its parts have it, and what the reader makes of a single
token has it. -/
structure Hereditary (P : Json → Prop) : Prop where
  null : P null
  bool (b : Bool) : P (bool b)
  str (s : String) : P (str s)
  unreadable : P unreadable
  number (l : Number.Literal) : P l.toJson
  arr {items : List Json} : P (arr items) ↔ ∀ i ∈ items, P i
  obj {fields : List (String × Json)} : P (obj fields) ↔ ∀ f ∈ fields, P f.2

/-- Neither an array nor an object. -/
def isLeaf : Json → Bool
  | null | bool _ | int _ | float _ | str _ | unreadable => true
  | arr _ | obj _ => false

/-- How the sorted tree comes from the sorted trees of the parts. -/
theorem canonical?_induction {R : Json → Json → Prop} (leaf : ∀ j, j.isLeaf = true → R j j)
    (arr : ∀ items is, List.Forall₂ R items is → R (.arr items) (.arr is))
    (obj : ∀ (fields fs : List (String × Json)), fields.map Prod.fst = fs.map Prod.fst →
      List.Forall₂ R (fields.map Prod.snd) (fs.map Prod.snd) → R (.obj fields) (.obj (NameMap.ofList fs).entries))
    {j c : Json} (h : j.canonical? = some c) : R j c := by
  revert c
  -- The trees, the rows of fields and the rows of items are taken together, as the function sorts them.
  refine Json.canonical?.induct (fun j => ∀ {c}, j.canonical? = some c → R j c)
    (fun fields => ∀ {fs}, canonicalFields? fields = some fs →
      fields.map Prod.fst = fs.map Prod.fst ∧ List.Forall₂ R (fields.map Prod.snd) (fs.map Prod.snd))
    (fun items => ∀ {is}, canonicalItems? items = some is → List.Forall₂ R items is)
    ?null ?bool ?int ?float ?str ?arr ?obj ?unreadable ?noItems ?items ?noFields ?fields j
  case null | bool | int | float | str =>
    intros
    rename_i c h
    cases h
    exact leaf _ rfl
  case unreadable =>
    intro c h
    cases h
  case arr =>
    intro items ih c h
    obtain ⟨is, parts, rfl⟩ := Option.map_eq_some_iff.1 h
    exact arr items is (ih parts)
  case obj =>
    intro fields ih c h
    obtain ⟨fs, parts, rfl⟩ := Option.map_eq_some_iff.1 h
    exact obj fields fs (ih parts).1 (ih parts).2
  case noItems =>
    intro l h
    cases h
    exact .nil
  case noFields =>
    intro l h
    cases h
    exact ⟨rfl, .nil⟩
  case items =>
    intro j rest ih ihs l h
    simp only [canonicalItems?, Option.bind_eq_bind, Option.bind_eq_some_iff] at h
    obtain ⟨c, first, is, others, same⟩ := h
    cases same
    exact .cons (ih first) (ihs others)
  case fields =>
    intro k j rest ih ihs l h
    simp only [canonicalFields?, Option.bind_eq_bind, Option.bind_eq_some_iff] at h
    obtain ⟨c, first, fs, others, same⟩ := h
    cases same
    obtain ⟨keys, parts⟩ := ihs others
    exact ⟨congrArg (k :: ·) keys, .cons (ih first) parts⟩

theorem exists_of_mem_mapM {α β : Type} {f : α → Option β} {l : List α} {l' : List β} (h : l.mapM f = some l')
    {b : β} (mem : b ∈ l') : ∃ a ∈ l, f a = some b := by
  induction l generalizing l' with
  | nil =>
    simp only [List.mapM_nil, Option.pure_def, Option.some.injEq] at h
    simp [← h] at mem
  | cons a rest ih =>
    simp only [List.mapM_cons, Option.bind_eq_bind, Option.bind_eq_some_iff, Option.pure_def,
      Option.some.injEq] at h
    obtain ⟨first, read, others, reads, rfl⟩ := h
    cases List.mem_cons.1 mem with
    | inl same => exact ⟨a, List.mem_cons_self, same ▸ read⟩
    | inr mem =>
      obtain ⟨a', mem', read'⟩ := ih reads mem
      exact ⟨a', List.mem_cons_of_mem a mem', read'⟩

variable {P : Json → Prop}

/-! Tokens. -/

namespace Token

/-- Whatever tree the token brings has the property. -/
def Brings (P : Json → Prop) : Token → Prop
  | .value j => P j
  | .openArr | .closeArr | .openObj | .closeObj | .comma | .colon | .text _ => True

theorem brings_ofWord? (hP : Hereditary P) {word : List Char} {t : Token} (h : ofWord? word = some t) :
    t.Brings P := by
  simp only [ofWord?] at h
  split at h
  · cases h
    exact hP.null
  · split at h
    · cases h
      exact hP.bool true
    · split at h
      · cases h
        exact hP.bool false
      · obtain ⟨j, read, rfl⟩ := Option.map_eq_some_iff.1 h
        obtain ⟨l, -, rfl⟩ := Option.map_eq_some_iff.1 read
        exact hP.number l

theorem brings_mark? {c : Char} {t : Token} (h : mark? c = some t) : t.Brings P := by
  simp only [mark?] at h
  split at h <;> cases h <;> trivial

theorem brings_start? {c : Char} {ts : List Token} {s : State} (h : start? c = some (ts, s)) :
    ∀ t ∈ ts, t.Brings P := by
  simp only [start?] at h
  split at h
  · cases h
    simp
  · split at h
    · cases h
      simp
    · split at h
      · cases h
        simp
      · obtain ⟨t, mark, same⟩ := Option.map_eq_some_iff.1 h
        cases same
        simpa using brings_mark? mark

theorem brings_step? (hP : Hereditary P) {s s' : State} {c : Char} {ts : List Token}
    (h : step? s c = some (ts, s')) : ∀ t ∈ ts, t.Brings P := by
  cases s with
  | between => exact brings_start? h
  | word cs =>
    simp only [step?] at h
    split at h
    · cases h
      simp
    · simp only [Option.bind_eq_bind, Option.bind_eq_some_iff] at h
      obtain ⟨t, word, ⟨ts', s''⟩, start, same⟩ := h
      cases same
      simpa using ⟨brings_ofWord? hP word, brings_start? start⟩
  | string p =>
    simp only [step?] at h
    split at h
    · cases h
      simp [Brings]
    · split at h
      · cases h
        simp
      · split at h
        · cases h
        · cases h
          simp
  | escape p =>
    simp only [step?] at h
    split at h
    · cases h
      simp
    · obtain ⟨c, -, same⟩ := Option.map_eq_some_iff.1 h
      cases same
      simp
  | unit p left n =>
    obtain ⟨d, -, same⟩ := Option.map_eq_some_iff.1 h
    cases same
    simp

theorem brings_finish? (hP : Hereditary P) {s : State} {ts : List Token} (h : finish? s = some ts) :
    ∀ t ∈ ts, t.Brings P := by
  cases s with
  | between =>
    cases h
    simp
  | word cs =>
    obtain ⟨t, word, rfl⟩ := Option.map_eq_some_iff.1 h
    simpa using brings_ofWord? hP word
  | string p | escape p | unit p left n => cases h

theorem brings_tokens? (hP : Hereditary P) {s : State} {done ts : List Token} {cs : List Char}
    (h : tokens? s done cs = some ts) (before : ∀ t ∈ done, t.Brings P) : ∀ t ∈ ts, t.Brings P := by
  induction cs generalizing s done with
  | nil =>
    obtain ⟨last, finish, rfl⟩ := Option.map_eq_some_iff.1 h
    intro t mem
    cases List.mem_append.1 mem with
    | inl mem => exact before t (List.mem_reverse.1 mem)
    | inr mem => exact brings_finish? hP finish t mem
  | cons c rest ih =>
    simp only [tokens?] at h
    split at h
    · cases h
    · rename_i new s' step
      refine ih h fun t mem => ?_
      cases List.mem_append.1 mem with
      | inl mem => exact brings_step? hP step t (List.mem_reverse.1 mem)
      | inr mem => exact before t mem

end Token

/-! The reader. -/

namespace Reader

/-- The trees that an open container holds so far. -/
def Frame.trees : Frame → List Json
  | .array items => items
  | .object fields _ => fields.map Prod.snd

/-- The trees that a state holds. -/
def State.trees : State → List Json
  | .value stack | .firstItem stack | .firstKey stack => stack.flatMap Frame.trees
  | .key stack fields | .colon stack fields _ => fields.map Prod.snd ++ stack.flatMap Frame.trees
  | .after stack j => j :: stack.flatMap Frame.trees

/-- Every tree that the state holds has the property. -/
def State.All (P : Json → Prop) (s : State) : Prop := ∀ j ∈ s.trees, P j

theorem all_after {stack : List Frame} {j : Json} (h : P j) (around : ∀ i ∈ stack.flatMap Frame.trees, P i) :
    (State.after stack j).All P :=
  List.forall_mem_cons.2 ⟨h, around⟩

theorem all_close (hP : Hereditary P) {outer : List Frame} {j : Json} (h : P j)
    (around : ∀ i ∈ outer.flatMap Frame.trees, P i) : (close outer j).All P := by
  refine all_after ?_ around
  split
  · exact h
  · exact hP.unreadable

theorem all_closeObject (hP : Hereditary P) {outer : List Frame} {fields : List (Key × Json)}
    (h : ∀ f ∈ fields, P f.2) (around : ∀ i ∈ outer.flatMap Frame.trees, P i) :
    (closeObject outer fields).All P := by
  simp only [closeObject]
  split
  · rename_i fs named
    refine all_close hP (hP.obj.2 fun f mem => ?_) around
    obtain ⟨f', mem', name⟩ := exists_of_mem_mapM named mem
    obtain ⟨k, -, rfl⟩ := Option.map_eq_some_iff.1 name
    exact h f' (List.mem_reverse.1 mem')
  · exact all_close hP hP.unreadable around

theorem all_begin? (hP : Hereditary P) {stack : List Frame} {t : Token} {s : State} (h : begin? stack t = some s)
    (ht : t.Brings P) (around : ∀ i ∈ stack.flatMap Frame.trees, P i) : s.All P := by
  simp only [begin?] at h
  split at h
  · cases h
    exact all_after ht around
  · cases h
    exact all_after (hP.str _) around
  · cases h
    exact all_after hP.unreadable around
  · cases h
    exact around
  · cases h
    exact around
  · cases h

theorem all_step? (hP : Hereditary P) {s s' : State} {t : Token} (h : step? s t = some s') (hs : s.All P)
    (ht : t.Brings P) : s'.All P := by
  unfold step? at h
  split at h
  case h_1 => exact all_begin? hP h ht hs
  case h_2 =>
    cases h
    exact all_close hP (hP.arr.2 (by simp)) hs
  case h_3 => exact all_begin? hP h ht hs
  case h_4 =>
    cases h
    exact all_closeObject hP (by simp) hs
  case h_5 =>
    cases h
    exact hs
  case h_6 =>
    cases h
    exact hs
  case h_7 =>
    cases h
    simpa [State.All, State.trees, Frame.trees] using hs
  case h_8 =>
    cases h
    simpa [State.All, State.trees, Frame.trees] using hs
  case h_9 items outer j =>
    cases h
    obtain ⟨last, held⟩ := List.forall_mem_cons.1 hs
    obtain ⟨before, around⟩ := List.forall_mem_append.1 held
    refine all_close hP (hP.arr.2 fun i mem => ?_) around
    cases List.mem_cons.1 (List.mem_reverse.1 mem) with
    | inl same => exact same ▸ last
    | inr mem => exact before i mem
  case h_10 =>
    cases h
    simpa [State.All, State.trees, Frame.trees] using hs
  case h_11 fields k outer j =>
    cases h
    obtain ⟨last, held⟩ := List.forall_mem_cons.1 hs
    obtain ⟨before, around⟩ := List.forall_mem_append.1 held
    exact all_closeObject hP (List.forall_mem_cons.2 ⟨last, List.forall_mem_map.1 before⟩) around
  case h_12 => cases h

theorem all_steps (hP : Hereditary P) {ts : List Token} {s s' : State} (h : ts.foldlM step? s = some s')
    (hs : s.All P) (hts : ∀ t ∈ ts, t.Brings P) : s'.All P := by
  induction ts generalizing s with
  | nil =>
    cases h
    exact hs
  | cons t rest ih =>
    simp only [List.foldlM_cons, Option.bind_eq_bind, Option.bind_eq_some_iff] at h
    obtain ⟨next, step, steps⟩ := h
    obtain ⟨ht, hrest⟩ := List.forall_mem_cons.1 hts
    exact ih steps (all_step? hP step hs ht) hrest

end Reader

namespace Hereditary

theorem read? (hP : Hereditary P) {text : String} {j : Json} (h : read? text = some j) : P j := by
  simp only [Json.read?, Option.bind_eq_bind, Option.bind_eq_some_iff] at h
  obtain ⟨ts, tokens, s, steps, ended⟩ := h
  have ended' := Reader.all_steps hP steps (by simp [Reader.State.All, Reader.State.trees])
    (Token.brings_tokens? hP tokens (by simp))
  split at ended
  · cases ended
    exact ended' j List.mem_cons_self
  · cases ended

/-! Parts of a tree. -/

theorem record? (hP : Hereditary P) {declared : List String} {j : Json} {r : Record}
    (h : j.record? declared = some r) (whole : P j) : ∀ f ∈ r.fields, P f.2 := by
  intro f mem
  cases j with
  | obj fields =>
    simp only [Json.record?] at h
    split at h
    · cases h
      exact hP.obj.1 whole f (List.mem_filter.1 mem).1
    · cases h
  | arr items =>
    simp only [Json.record?] at h
    split at h
    · cases h
      exact hP.arr.1 whole f.2 (List.of_mem_zip mem).2
    · cases h
  | null | bool b | int i | float x | str s | unreadable => cases h

theorem fields (hP : Hereditary P) {declared : List String} {j : Json} {fields : List (String × Json)}
    (h : Fields declared j fields) (whole : P j) : ∀ f ∈ fields, P f.2 := by
  cases h with
  | object => exact hP.obj.1 whole
  | row => exact fun f mem => hP.arr.1 whole f.2 (List.of_mem_zip mem).2

theorem list? {α : Type} (hP : Hereditary P) {read : Json → Option α} {j : Json} {l : List α}
    (h : j.list? read = some l) {a : α} (mem : a ∈ l) (whole : P j) : ∃ i, P i ∧ read i = some a := by
  cases j with
  | arr items =>
    obtain ⟨i, inside, item⟩ := exists_of_mem_mapM h mem
    exact ⟨i, hP.arr.1 whole i inside, item⟩
  | null | bool b | int i | float x | str s | obj fields | unreadable => cases h

/-- The tree that stands for a tree has no parts but those of the tree. -/
theorem canonical? (hP : Hereditary P) {j c : Json} (whole : P j) (h : j.canonical? = some c) : P c := by
  refine canonical?_induction (R := fun j c => P j → P c) (fun _ _ leaf => leaf) ?arr ?obj h whole
  case arr =>
    intro items is parts whole
    exact hP.arr.2 (forall_of_forall₂ parts (hP.arr.1 whole))
  case obj =>
    intro fields fs _ parts whole
    have all := forall_of_forall₂ parts (List.forall_mem_map.2 (hP.obj.1 whole))
    exact hP.obj.2 fun f mem => all f.2 (List.mem_map_of_mem (NameMap.mem_ofList mem))

end Hereditary

end StoryGraph.Json
