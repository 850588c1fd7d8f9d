import Mathlib.Data.List.Nodup
import Mathlib.Data.List.Perm.Basic

/-!
Insertion-ordered dictionaries, the maps of a Python program.

A dictionary is the list of its items in insertion order with pairwise distinct keys; the
distinctness is a field, so a dictionary with two items of one key cannot be built.

* `Dict.get?`, `Dict.set`, `Dict.erase`, `Dict.mapVals`: lookup, item assignment (a present
  key keeps its place, a new one goes to the end), deletion, and an update of every value;
* `get?_set`, `get?_erase`, `get?_mapVals`: what each of them does to every lookup, which is
  all that later proofs use;
* `mem_entries_iff`: the items are exactly the successful lookups, so a check over all values
  is a statement about lookups (`all_values_iff`).
-/

namespace OmarchyM1Video.Py

/-- A dictionary: its items in insertion order, no key twice. -/
@[ext]
structure Dict (κ α : Type) where
  entries : List (κ × α)
  nodup : (entries.map Prod.fst).Nodup
  deriving DecidableEq

namespace Dict

variable {κ α β : Type}

/-- `{}`. -/
def empty : Dict κ α := ⟨[], List.nodup_nil⟩

instance : EmptyCollection (Dict κ α) := ⟨empty⟩

instance : Inhabited (Dict κ α) := ⟨empty⟩

/-- `list(d)`. -/
def keys (d : Dict κ α) : List κ := d.entries.map Prod.fst

/-- `list(d.values())`. -/
def values (d : Dict κ α) : List α := d.entries.map Prod.snd

/-- `not d`. -/
def isEmpty (d : Dict κ α) : Bool := d.entries.isEmpty

/-- The values, each replaced by its image. -/
def mapVals (f : α → β) (d : Dict κ α) : Dict κ β :=
  ⟨d.entries.map fun p => (p.1, f p.2), by simpa [List.map_map, Function.comp_def] using d.nodup⟩

variable [DecidableEq κ]

/-- `d.get(k)`. -/
def get? (d : Dict κ α) (k : κ) : Option α :=
  (d.entries.find? fun p => decide (p.1 = k)).map Prod.snd

/-- `k in d`. -/
def contains (d : Dict κ α) (k : κ) : Bool := (d.get? k).isSome

/-- The items after `d[k] = v`: in place if `k` is present, at the end otherwise. -/
def setEntries (l : List (κ × α)) (k : κ) (v : α) : List (κ × α) :=
  match l with
  | [] => [(k, v)]
  | p :: l => if p.1 = k then (k, v) :: l else p :: setEntries l k v

lemma fst_mem_setEntries {l : List (κ × α)} {k k' : κ} {v : α} :
    k' ∈ (setEntries l k v).map Prod.fst ↔ k' = k ∨ k' ∈ l.map Prod.fst := by
  induction l with
  | nil => simp [setEntries]
  | cons p l ih =>
      by_cases h : p.1 = k
      · simp [setEntries, h]
      · rw [setEntries, if_neg h, List.map_cons, List.mem_cons, ih, List.map_cons, List.mem_cons]
        tauto

lemma nodup_setEntries {l : List (κ × α)} (h : (l.map Prod.fst).Nodup) (k : κ) (v : α) :
    ((setEntries l k v).map Prod.fst).Nodup := by
  induction l with
  | nil => simp [setEntries]
  | cons p l ih =>
      rw [List.map_cons, List.nodup_cons] at h
      by_cases hp : p.1 = k
      · rw [setEntries, if_pos hp, List.map_cons, List.nodup_cons]
        exact ⟨hp ▸ h.1, h.2⟩
      · rw [setEntries, if_neg hp, List.map_cons, List.nodup_cons, fst_mem_setEntries]
        exact ⟨fun hmem => hmem.elim hp h.1, ih h.2⟩

/-- `d[k] = v`. -/
def set (d : Dict κ α) (k : κ) (v : α) : Dict κ α :=
  ⟨setEntries d.entries k v, nodup_setEntries d.nodup k v⟩

/-- `d.pop(k, None)`. -/
def erase (d : Dict κ α) (k : κ) : Dict κ α :=
  ⟨d.entries.filter fun p => decide (p.1 ≠ k), by
    have hsub : (d.entries.filter fun p => decide (p.1 ≠ k)).Sublist d.entries :=
      List.filter_sublist
    exact (hsub.map Prod.fst).nodup d.nodup⟩

/-- `d.update(items)`. -/
def update (d : Dict κ α) (items : List (κ × α)) : Dict κ α :=
  items.foldl (fun d p => d.set p.1 p.2) d

/-- `not (d.keys() & d'.keys())`. -/
def disjoint (d d' : Dict κ α) : Bool := d.keys.all fun k => !d'.contains k

/-! ### Lookups after each operation -/

@[simp] lemma get?_empty (k : κ) : (∅ : Dict κ α).get? k = none := rfl

@[simp] lemma contains_empty (k : κ) : (∅ : Dict κ α).contains k = false := rfl

lemma contains_iff {d : Dict κ α} {k : κ} : d.contains k = true ↔ ∃ v, d.get? k = some v := by
  rw [contains, Option.isSome_iff_exists]

lemma not_contains_iff {d : Dict κ α} {k : κ} : d.contains k = false ↔ d.get? k = none := by
  rw [contains, Option.isSome_eq_false_iff, Option.isNone_iff_eq_none]

/-- The items are exactly the successful lookups. -/
lemma mem_entries_iff {d : Dict κ α} {k : κ} {v : α} :
    (k, v) ∈ d.entries ↔ d.get? k = some v := by
  obtain ⟨l, hl⟩ := d
  simp only [get?]
  induction l with
  | nil => simp
  | cons p l ih =>
      rw [List.map_cons, List.nodup_cons] at hl
      by_cases hp : p.1 = k
      · have hnot : (k, v) ∉ l := fun hmem => hl.1 (hp ▸ List.mem_map_of_mem hmem)
        simp only [List.mem_cons, hnot, or_false, List.find?_cons, hp, decide_true,
          Option.map_some, Option.some.injEq]
        exact ⟨fun h => by rw [← h], fun h => Prod.ext hp.symm h.symm⟩
      · have hne : (k, v) ≠ p := fun h => hp (by rw [← h])
        simp only [List.mem_cons, hne, false_or, List.find?_cons, hp, decide_false]
        exact ih hl.2

lemma mem_keys_iff {d : Dict κ α} {k : κ} : k ∈ d.keys ↔ ∃ v, d.get? k = some v := by
  simp only [keys, List.mem_map, Prod.exists, mem_entries_iff]
  constructor
  · rintro ⟨k', v, h, rfl⟩
    exact ⟨v, h⟩
  · rintro ⟨v, h⟩
    exact ⟨k, v, h, rfl⟩

/-- A check over all values is a statement about lookups. -/
lemma all_values_iff {d : Dict κ α} {p : α → Bool} :
    d.values.all p = true ↔ ∀ k v, d.get? k = some v → p v = true := by
  simp only [values, List.all_eq_true, List.mem_map, Prod.exists]
  constructor
  · intro h k v hv
    exact h v ⟨k, v, mem_entries_iff.mpr hv, rfl⟩
  · rintro h _ ⟨k, v, hmem, rfl⟩
    exact h k v (mem_entries_iff.mp hmem)

/-- An empty dictionary has no successful lookup. -/
lemma isEmpty_iff {d : Dict κ α} : d.isEmpty = true ↔ ∀ k, d.get? k = none := by
  rw [isEmpty, List.isEmpty_iff]
  constructor
  · intro h k
    simp [get?, h]
  · intro h
    refine List.eq_nil_iff_forall_not_mem.mpr ?_
    rintro ⟨k, v⟩ hmem
    rw [mem_entries_iff, h k] at hmem
    exact absurd hmem (by simp)

@[simp] lemma get?_set (d : Dict κ α) (k k' : κ) (v : α) :
    (d.set k v).get? k' = if k' = k then some v else d.get? k' := by
  obtain ⟨l, hl⟩ := d
  simp only [set, get?]
  clear hl
  induction l with
  | nil => by_cases h : k' = k <;> simp [setEntries, h, eq_comm]
  | cons p l ih =>
      by_cases hp : p.1 = k
      · rw [setEntries, if_pos hp]
        by_cases h : k' = k
        · simp [h]
        · have hk : ¬k = k' := fun hk => h hk.symm
          simp [hp, h, hk]
      · rw [setEntries, if_neg hp]
        by_cases hk : p.1 = k'
        · have hkk : k' ≠ k := fun h => hp (hk.trans h)
          simp [hk, hkk]
        · rw [List.find?_cons_of_neg (by simpa using hk), ih,
            List.find?_cons_of_neg (by simpa using hk)]

/-- Item assignment to a key that is present changes its item. -/
lemma entries_set_of_get? {d : Dict κ α} {k : κ} {v w : α} (h : d.get? k = some v) :
    (d.set k w).entries = d.entries.map fun p => if p.1 = k then (k, w) else p := by
  have hmem := mem_entries_iff.mpr h
  obtain ⟨l, hl⟩ := d
  simp only [set] at hmem ⊢
  clear h
  induction l with
  | nil => exact absurd hmem (by simp)
  | cons p l ih =>
      rw [List.map_cons, List.nodup_cons] at hl
      by_cases hp : p.1 = k
      · have hrest : ∀ q ∈ l, (if q.1 = k then (k, w) else q) = q := by
          intro q hq
          rw [if_neg]
          rintro rfl
          exact hl.1 (hp ▸ List.mem_map_of_mem hq)
        rw [setEntries, if_pos hp, List.map_cons, if_pos hp, List.map_congr_left hrest, List.map_id']
      · have hne : (k, v) ≠ p := fun heq => hp (by rw [← heq])
        rw [setEntries, if_neg hp, List.map_cons, if_neg hp,
          ih hl.2 ((List.mem_cons.mp hmem).resolve_left hne)]

/-- Item assignment to a key that is not present puts its item at the end. -/
lemma entries_set_of_notMem {d : Dict κ α} {k : κ} {v : α} (h : k ∉ d.keys) :
    (d.set k v).entries = d.entries ++ [(k, v)] := by
  obtain ⟨l, hl⟩ := d
  simp only [set, keys] at h ⊢
  clear hl
  induction l with
  | nil => rfl
  | cons p l ih =>
      rw [List.map_cons, List.mem_cons, not_or] at h
      rw [setEntries, if_neg fun hp => h.1 hp.symm, ih h.2, List.cons_append]

/-- Items under new names go to the end. -/
lemma entries_update {d : Dict κ α} {items : List (κ × α)}
    (h : (d.keys ++ items.map Prod.fst).Nodup) : (d.update items).entries = d.entries ++ items := by
  induction items generalizing d with
  | nil => simp [update]
  | cons p items ih =>
      rw [List.map_cons] at h
      have hnot : p.1 ∉ d.keys := fun hmem =>
        (List.disjoint_of_nodup_append h) hmem List.mem_cons_self
      have hset := entries_set_of_notMem (v := p.2) hnot
      have hnext : (d.update (p :: items)) = (d.set p.1 p.2).update items := rfl
      rw [hnext, ih, hset, List.append_assoc, List.singleton_append]
      rw [keys, hset, List.map_append, List.append_assoc]
      exact h

@[simp] lemma set_set (d : Dict κ α) (k : κ) (v w : α) : (d.set k v).set k w = d.set k w := by
  refine Dict.ext ?_
  obtain ⟨l, hl⟩ := d
  simp only [set]
  clear hl
  induction l with
  | nil => simp [setEntries]
  | cons p l ih =>
      by_cases hp : p.1 = k
      · simp [setEntries, hp]
      · simp [setEntries, hp, ih]

@[simp] lemma contains_set (d : Dict κ α) (k k' : κ) (v : α) :
    (d.set k v).contains k' = (decide (k' = k) || d.contains k') := by
  by_cases h : k' = k <;> simp [contains, h]

@[simp] lemma get?_erase (d : Dict κ α) (k k' : κ) :
    (d.erase k).get? k' = if k' = k then none else d.get? k' := by
  by_cases h : k' = k
  · rw [if_pos h, h]
    simp [erase, get?, List.find?_filter]
  · rw [if_neg h]
    have hpred : (fun p : κ × α => decide (decide (p.1 ≠ k) = true ∧ decide (p.1 = k') = true))
        = fun p => decide (p.1 = k') := by
      funext p
      by_cases hp : p.1 = k'
      · simp [hp, h]
      · simp [hp]
    rw [erase, get?, List.find?_filter, hpred, get?]

@[simp] lemma get?_mapVals (f : α → β) (d : Dict κ α) (k : κ) :
    (d.mapVals f).get? k = (d.get? k).map f := by
  simp [mapVals, get?, List.find?_map, Function.comp_def, Option.map_map]

lemma contains_update {d : Dict κ α} {items : List (κ × α)} {k : κ} :
    (d.update items).contains k = true ↔ d.contains k = true ∨ k ∈ items.map Prod.fst := by
  induction items generalizing d with
  | nil => simp [update]
  | cons p items ih =>
      have hnext : d.update (p :: items) = (d.set p.1 p.2).update items := rfl
      rw [hnext, ih, contains_set, Bool.or_eq_true, decide_eq_true_eq, List.map_cons, List.mem_cons]
      tauto

/-- An update of every value, after an item assignment. -/
lemma mapVals_set (f : α → β) (d : Dict κ α) (k : κ) (v : α) :
    (d.set k v).mapVals f = (d.mapVals f).set k (f v) := by
  refine Dict.ext ?_
  obtain ⟨l, hl⟩ := d
  simp only [set, mapVals]
  clear hl
  induction l with
  | nil => rfl
  | cons p l ih =>
      by_cases hp : p.1 = k
      · simp [setEntries, hp]
      · simp [setEntries, hp, ih]

@[simp] lemma contains_mapVals (f : α → β) (d : Dict κ α) (k : κ) :
    (d.mapVals f).contains k = d.contains k := by
  simp [contains]

omit [DecidableEq κ] in
@[simp] lemma values_mapVals (f : α → β) (d : Dict κ α) :
    (d.mapVals f).values = d.values.map f := by
  simp [mapVals, values, List.map_map, Function.comp_def]

end Dict

end OmarchyM1Video.Py
