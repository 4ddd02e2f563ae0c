import Mathlib.Data.List.Nodup
import Mathlib.Data.List.Perm.Basic
import Mathlib.Data.List.Sort

/-!
# Ordered maps with distinct keys

What a C++ `std::map` offers its users: entries with distinct keys in a fixed
visiting order, an `insert` that never overwrites, and updates in place. The order
of the entries is part of the value, because loops over a map can be observed.
-/

/-- Entries with distinct keys, in the order a loop visits them. -/
structure StdMap (κ ν : Type) where
  entries : List (κ × ν)
  nodup : (entries.map Prod.fst).Nodup

namespace StdMap

variable {κ ν : Type}

def keys (m : StdMap κ ν) : List κ := m.entries.map Prod.fst

def empty : StdMap κ ν := ⟨[], List.nodup_nil⟩

theorem nodup_keys (m : StdMap κ ν) : m.keys.Nodup := m.nodup

@[simp] theorem keys_empty : (empty : StdMap κ ν).keys = [] := rfl

section Lookup

variable [DecidableEq κ]

def find? (m : StdMap κ ν) (k : κ) : Option ν := m.entries.lookup k

/-- Changes the value at `k` and leaves the order alone. Nothing happens if `k` is absent. -/
def modify (m : StdMap κ ν) (k : κ) (f : ν → ν) : StdMap κ ν where
  entries := m.entries.map fun e => if e.1 = k then (e.1, f e.2) else e
  nodup := by
    have : (fun e : κ × ν => (if e.1 = k then (e.1, f e.2) else e).1) = Prod.fst := by
      funext e; split <;> rfl
    simpa [Function.comp_def, this] using m.nodup

/-- The other entries keep their order. -/
def erase (m : StdMap κ ν) (k : κ) : StdMap κ ν where
  entries := m.entries.filter fun e => e.1 ≠ k
  nodup := m.nodup.sublist ((List.filter_sublist (l := m.entries)).map Prod.fst)

theorem lookup_eq_some (l : List (κ × ν)) (hn : (l.map Prod.fst).Nodup) (k : κ) (v : ν) :
    l.lookup k = some v ↔ (k, v) ∈ l := by
  induction l with
  | nil => simp
  | cons e l ih =>
    obtain ⟨a, b⟩ := e
    rw [List.map_cons, List.nodup_cons] at hn
    rw [List.lookup_cons, List.mem_cons, Prod.mk.injEq]
    by_cases h : k = a
    · subst h
      have hk : (k, v) ∉ l := fun hm => hn.1 (List.mem_map.mpr ⟨_, hm, rfl⟩)
      simp [hk, eq_comm]
    · have hb : (k == a) = false := by simpa using h
      simp [hb, h, ih hn.2]

theorem find?_eq_some (m : StdMap κ ν) (k : κ) (v : ν) : m.find? k = some v ↔ (k, v) ∈ m.entries :=
  lookup_eq_some m.entries m.nodup k v

theorem find?_isSome (m : StdMap κ ν) (k : κ) : (m.find? k).isSome ↔ k ∈ m.keys := by
  rw [Option.isSome_iff_exists, keys, List.mem_map]
  constructor
  · rintro ⟨v, hv⟩
    exact ⟨(k, v), (m.find?_eq_some k v).mp hv, rfl⟩
  · rintro ⟨⟨a, v⟩, he, rfl⟩
    exact ⟨v, (m.find?_eq_some a v).mpr he⟩

theorem find?_eq_none (m : StdMap κ ν) (k : κ) : m.find? k = none ↔ k ∉ m.keys := by
  rw [← m.find?_isSome, Option.not_isSome_iff_eq_none]

theorem mem_keys_of_find? (m : StdMap κ ν) (k : κ) (v : ν) (h : m.find? k = some v) : k ∈ m.keys := by
  rw [← m.find?_isSome, h]; rfl

@[simp] theorem find?_empty (k : κ) : (empty : StdMap κ ν).find? k = none := rfl

@[simp] theorem keys_modify (m : StdMap κ ν) (k : κ) (f : ν → ν) : (m.modify k f).keys = m.keys := by
  simp only [keys, modify, List.map_map]
  apply List.map_congr_left
  intro e _
  simp only [Function.comp_apply]
  split <;> rfl

theorem find?_modify (m : StdMap κ ν) (k k' : κ) (f : ν → ν) :
    (m.modify k f).find? k' = if k' = k then (m.find? k').map f else m.find? k' := by
  apply Option.ext
  intro v
  rw [find?_eq_some]
  simp only [modify, List.mem_map]
  constructor
  · rintro ⟨⟨a, b⟩, he, heq⟩
    by_cases hak : a = k
    · simp only [hak, if_true, Prod.mk.injEq] at heq
      obtain ⟨rfl, rfl⟩ := heq
      rw [if_pos rfl, (m.find?_eq_some _ b).mpr (hak ▸ he)]; rfl
    · simp only [hak, if_false, Prod.mk.injEq] at heq
      obtain ⟨rfl, rfl⟩ := heq
      rw [if_neg hak, (m.find?_eq_some _ _).mpr he]
  · intro h
    by_cases hk : k' = k
    · rw [if_pos hk, Option.map_eq_some_iff] at h
      obtain ⟨b, hb, rfl⟩ := h
      exact ⟨(k', b), (m.find?_eq_some _ _).mp hb, by simp [hk]⟩
    · rw [if_neg hk] at h
      exact ⟨(k', v), (m.find?_eq_some _ _).mp h, by simp [hk]⟩

theorem find?_erase (m : StdMap κ ν) (k k' : κ) :
    (m.erase k).find? k' = if k' = k then none else m.find? k' := by
  apply Option.ext
  intro v
  rw [find?_eq_some]
  simp only [erase, List.mem_filter, ← find?_eq_some]
  by_cases hk : k' = k <;> simp [hk]

/-- The visiting order and the values determine a map. -/
theorem ext_find? (m n : StdMap κ ν) (hk : m.keys = n.keys) (hf : ∀ k ∈ m.keys, m.find? k = n.find? k) :
    m = n := by
  obtain ⟨l, hl⟩ := m
  obtain ⟨l', hl'⟩ := n
  simp only [keys, find?] at hk hf
  congr 1
  induction l generalizing l' with
  | nil => simpa using hk.symm
  | cons e l ih =>
    obtain ⟨a, b⟩ := e
    match l', hk with
    | (a', b') :: l', hk =>
      simp only [List.map_cons, List.cons.injEq] at hk hl hl' hf
      obtain ⟨rfl, hk⟩ := hk
      rw [List.nodup_cons] at hl hl'
      have hb : b = b' := by simpa using hf a List.mem_cons_self
      have hrest := ih hl.2 l' hl'.2 hk fun k hm => by
        have hne : (k == a) = false := by
          have : k ≠ a := fun h => hl.1 (h ▸ hm)
          simpa using this
        simpa [List.lookup_cons, hne] using hf k (List.mem_cons_of_mem _ hm)
      rw [hb, hrest]

end Lookup

/-- Changes the values, not the keys. -/
def mapVal (m : StdMap κ ν) (f : ν → ν) : StdMap κ ν where
  entries := m.entries.map fun e => (e.1, f e.2)
  nodup := by simpa [Function.comp_def] using m.nodup

@[simp] theorem keys_mapVal (m : StdMap κ ν) (f : ν → ν) : (m.mapVal f).keys = m.keys := by
  simp [keys, mapVal, Function.comp_def]

theorem find?_mapVal [DecidableEq κ] (m : StdMap κ ν) (f : ν → ν) (k : κ) :
    (m.mapVal f).find? k = (m.find? k).map f := by
  apply Option.ext
  intro v
  rw [find?_eq_some, Option.map_eq_some_iff]
  simp only [mapVal, List.mem_map]
  constructor
  · rintro ⟨⟨a, b⟩, he, heq⟩
    simp only [Prod.mk.injEq] at heq
    obtain ⟨rfl, rfl⟩ := heq
    exact ⟨b, (m.find?_eq_some _ _).mpr he, rfl⟩
  · rintro ⟨b, hb, rfl⟩
    exact ⟨(k, b), (m.find?_eq_some _ _).mp hb, rfl⟩

section Insert

variable [LinearOrder κ]

/-- `std::map::insert`: a key that is there keeps its old value. -/
def insert (m : StdMap κ ν) (k : κ) (v : ν) : StdMap κ ν :=
  if h : k ∈ m.keys then m
  else
    { entries := m.entries.orderedInsert (fun a b => a.1 ≤ b.1) (k, v)
      nodup := by
        have hp := (List.perm_orderedInsert (fun a b : κ × ν => a.1 ≤ b.1) (k, v) m.entries).map Prod.fst
        rw [hp.nodup_iff, List.map_cons, List.nodup_cons]
        exact ⟨h, m.nodup⟩ }

theorem insert_of_mem (m : StdMap κ ν) (k : κ) (v : ν) (h : k ∈ m.keys) : m.insert k v = m := by
  rw [insert, dif_pos h]

theorem find?_insert (m : StdMap κ ν) (k k' : κ) (v : ν) :
    (m.insert k v).find? k' = if k' = k ∧ k ∉ m.keys then some v else m.find? k' := by
  by_cases h : k ∈ m.keys
  · rw [insert_of_mem m k v h, if_neg fun hc => hc.2 h]
  · apply Option.ext
    intro w
    rw [find?_eq_some, insert, dif_neg h]
    simp only [List.mem_orderedInsert, Prod.mk.injEq]
    by_cases hk : k' = k
    · subst hk
      have hnone : ∀ w, (k', w) ∉ m.entries := fun w hm => h (List.mem_map.mpr ⟨_, hm, rfl⟩)
      simp [h, hnone, eq_comm]
    · simp [hk, find?_eq_some]

/-- After a loop of insertions the first one for a key counts, if the key was not there before. -/
theorem find?_foldl_insert {α : Type} (key : α → κ) (val : α → ν) (l : List α) (m : StdMap κ ν) (k : κ) :
    (l.foldl (fun m x => m.insert (key x) (val x)) m).find? k =
      (m.find? k).or ((l.find? fun x => key x = k).map val) := by
  induction l generalizing m with
  | nil => simp
  | cons x l ih =>
    rw [List.foldl_cons, ih, find?_insert]
    by_cases hk : key x = k
    · subst hk
      by_cases hmem : key x ∈ m.keys
      · obtain ⟨w, hw⟩ := Option.isSome_iff_exists.mp ((m.find?_isSome _).mpr hmem)
        simp [hmem, hw]
      · simp [hmem, (m.find?_eq_none _).mpr hmem]
    · simp [hk, Ne.symm hk]

/-- Assignment through `operator[]`: the new value replaces an old one. -/
def set (m : StdMap κ ν) (k : κ) (v : ν) : StdMap κ ν := (m.insert k v).modify k fun _ => v

theorem find?_set (m : StdMap κ ν) (k k' : κ) (v : ν) :
    (m.set k v).find? k' = if k' = k then some v else m.find? k' := by
  unfold set
  rw [find?_modify, find?_insert]
  by_cases hk : k' = k
  · subst hk
    by_cases hmem : k' ∈ m.keys
    · obtain ⟨w, hw⟩ := Option.isSome_iff_exists.mp ((m.find?_isSome k').mpr hmem)
      simp [hmem, hw]
    · simp [hmem]
  · simp [hk]

/-- After a loop of assignments the last one for a key counts. -/
theorem find?_foldl_set {α : Type} (key : α → κ) (val : α → ν) (l : List α) (m : StdMap κ ν) (k : κ) :
    (l.foldl (fun m x => m.set (key x) (val x)) m).find? k =
      ((l.reverse.find? fun x => key x = k).map val).or (m.find? k) := by
  induction l generalizing m with
  | nil => rfl
  | cons x l ih =>
    rw [List.foldl_cons, ih, find?_set, List.reverse_cons, List.find?_append]
    rcases l.reverse.find? fun x => key x = k with - | y
    · by_cases hk : key x = k
      · simp [hk]
      · simp [hk, Ne.symm hk]
    · rfl

end Insert

theorem find?_reverse_entries [DecidableEq κ] (m : StdMap κ ν) (k : κ) :
    (m.entries.reverse.find? fun e => e.1 = k).map Prod.snd = m.find? k := by
  cases h : m.entries.reverse.find? fun e => e.1 = k with
  | none =>
    symm
    rw [List.find?_eq_none] at h
    rw [Option.map_none, find?_eq_none, keys, List.mem_map]
    rintro ⟨e, he, rfl⟩
    exact h e (List.mem_reverse.mpr he) (by simp)
  | some e =>
    have hk : e.1 = k := by simpa using List.find?_some h
    have he : e ∈ m.entries := List.mem_reverse.mp (List.mem_of_find?_eq_some h)
    exact ((m.find?_eq_some k e.2).mpr (hk ▸ he)).symm

end StdMap
