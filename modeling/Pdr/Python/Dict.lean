import Mathlib.Data.List.Basic

/-!
# Dictionaries of Python

A dictionary is a list of its items in the order in which their keys came. Assigning to a key
that is there changes its value in place; a new key comes last.

## Main definitions

* `Python.Dict`: a dictionary.
* `Python.Dict.get?`, `Python.Dict.set`: `d.get(key)` and `d[key] = value`.
* `Python.Dict.update`: `d.update(other)`.

## Main results

* `Python.Dict.get?_set`, `Python.Dict.get?_update`: what is found after a change.
-/

namespace Python

variable {K V : Type} [DecidableEq K]

/-- The items of a dictionary. -/
abbrev Dict (K V : Type) : Type := List (K × V)

namespace Dict

/-- `d.get(key)`. -/
def get? (key : K) : Dict K V → Option V
  | [] => none
  | (k, value) :: rest => if k = key then some value else get? key rest

/-- `d[key] = value`. -/
def set (key : K) (value : V) : Dict K V → Dict K V
  | [] => [(key, value)]
  | (k, old) :: rest => if k = key then (k, value) :: rest else (k, old) :: set key value rest

/-- `list(d)`. -/
def keys (dict : Dict K V) : List K := dict.map (·.1)

/-- `d.update(other)`. -/
def update (dict other : Dict K V) : Dict K V :=
  other.foldl (fun dict item => dict.set item.1 item.2) dict

theorem get?_set (dict : Dict K V) (key other : K) (value : V) :
    (dict.set key value).get? other = if key = other then some value else dict.get? other := by
  induction dict with
  | nil => rfl
  | cons item rest ih =>
    obtain ⟨k, old⟩ := item
    rw [set]
    split
    · rename_i hsame
      subst hsame
      rw [get?, get?]
      split <;> rfl
    · rename_i hother
      rw [get?, get?, ih]
      split
      · rename_i hk
        subst hk
        rw [if_neg (Ne.symm hother)]
      · rfl

theorem get?_eq_none_iff {dict : Dict K V} {key : K} :
    dict.get? key = none ↔ key ∉ dict.keys := by
  induction dict with
  | nil => simp [get?, keys]
  | cons item rest ih =>
    obtain ⟨k, value⟩ := item
    rw [get?]
    split
    · rename_i hsame
      simp [keys, hsame]
    · rename_i hother
      rw [ih]
      simp [keys, Ne.symm hother]

theorem mem_of_get?_eq_some {dict : Dict K V} {key : K} {value : V}
    (h : dict.get? key = some value) : (key, value) ∈ dict := by
  induction dict with
  | nil => cases h
  | cons item rest ih =>
    obtain ⟨k, v⟩ := item
    rw [get?] at h
    split at h
    · rename_i hsame
      rw [← hsame, ← Option.some.inj h]
      exact List.mem_cons_self
    · exact List.mem_cons_of_mem _ (ih h)

/-- Where no key comes twice, an item is found by its key. -/
theorem get?_eq_some_iff {dict : Dict K V} (hkeys : dict.keys.Nodup) {key : K} {value : V} :
    dict.get? key = some value ↔ (key, value) ∈ dict := by
  refine ⟨mem_of_get?_eq_some, fun h => ?_⟩
  induction dict with
  | nil => cases h
  | cons item rest ih =>
    obtain ⟨hfirst, hrest⟩ := List.nodup_cons.1 hkeys
    rw [get?]
    rcases List.mem_cons.1 h with rfl | hlater
    · exact if_pos rfl
    · have hother : item.1 ≠ key := by
        rintro rfl
        exact hfirst (List.mem_map.2 ⟨(item.1, value), hlater, rfl⟩)
      rw [if_neg hother]
      exact ih hrest hlater

theorem get?_of_perm {a b : Dict K V} (hperm : a.Perm b) (h : b.keys.Nodup) (key : K) :
    a.get? key = b.get? key := by
  have ha : a.keys.Nodup := (hperm.map _).nodup_iff.2 h
  refine Option.ext fun value => ?_
  rw [get?_eq_some_iff ha, get?_eq_some_iff h, hperm.mem_iff]

theorem get?_map_values {W : Type} (f : V → W) (dict : Dict K V) (key : K) :
    get? key (dict.map fun item => (item.1, f item.2)) = (dict.get? key).map f := by
  induction dict with
  | nil => rfl
  | cons item rest ih =>
    rw [List.map_cons, get?, get?, ih]
    split <;> rfl

/-- What is there after a change was there before or is new. -/
theorem mem_set {dict : Dict K V} {key : K} {value : V} {item : K × V}
    (h : item ∈ dict.set key value) : item = (key, value) ∨ item ∈ dict := by
  induction dict with
  | nil => exact Or.inl (List.mem_singleton.1 h)
  | cons first rest ih =>
    obtain ⟨k, old⟩ := first
    rw [set] at h
    split at h
    · rename_i hsame
      rcases List.mem_cons.1 h with rfl | h
      · exact Or.inl (by rw [hsame])
      · exact Or.inr (List.mem_cons_of_mem _ h)
    · rcases List.mem_cons.1 h with rfl | h
      · exact Or.inr List.mem_cons_self
      · exact (ih h).imp_right (List.mem_cons_of_mem _)

theorem set_ne_nil (dict : Dict K V) (key : K) (value : V) : dict.set key value ≠ [] := by
  cases dict with
  | nil => exact List.cons_ne_nil _ _
  | cons item rest =>
    rw [set]
    split <;> exact List.cons_ne_nil _ _

theorem mem_keys_set {dict : Dict K V} {key other : K} {value : V} :
    other ∈ (dict.set key value).keys ↔ other = key ∨ other ∈ dict.keys := by
  rw [← not_iff_not, not_or, ← get?_eq_none_iff, ← get?_eq_none_iff, get?_set]
  split
  · rename_i hsame
    simp [hsame]
  · rename_i hother
    simp [Ne.symm hother]

/-- No key comes twice, however the dictionary is changed. -/
theorem nodup_keys_set {dict : Dict K V} (h : dict.keys.Nodup) (key : K) (value : V) :
    (dict.set key value).keys.Nodup := by
  induction dict with
  | nil => simp [set, keys]
  | cons item rest ih =>
    obtain ⟨k, old⟩ := item
    obtain ⟨hfirst, hrest⟩ := List.nodup_cons.1 h
    rw [set]
    split
    · exact List.nodup_cons.2 ⟨hfirst, hrest⟩
    · rename_i hother
      refine List.nodup_cons.2 ⟨fun hmem => ?_, ih hrest⟩
      exact (mem_keys_set.1 hmem).elim hother hfirst

/-- After an update the other dictionary comes first. -/
theorem get?_update {dict other : Dict K V} (h : other.keys.Nodup) (key : K) :
    (dict.update other).get? key = (other.get? key).or (dict.get? key) := by
  induction other generalizing dict with
  | nil => rfl
  | cons item rest ih =>
    obtain ⟨k, value⟩ := item
    obtain ⟨hfirst, hrest⟩ := List.nodup_cons.1 h
    have hlater : ((dict.set k value).update rest).get? key = _ := ih hrest
    rw [update] at hlater ⊢
    rw [List.foldl_cons, hlater, get?_set, get?]
    split
    · rename_i hsame
      subst hsame
      rw [get?_eq_none_iff.2 hfirst]
      rfl
    · rfl

theorem nodup_keys_update {dict : Dict K V} (h : dict.keys.Nodup) (other : Dict K V) :
    (dict.update other).keys.Nodup := by
  induction other generalizing dict with
  | nil => exact h
  | cons item rest ih => exact ih (nodup_keys_set h _ _)

theorem mem_update {dict other : Dict K V} {item : K × V} (h : item ∈ dict.update other) :
    item ∈ dict ∨ item ∈ other := by
  induction other generalizing dict with
  | nil => exact Or.inl h
  | cons first rest ih =>
    rcases ih h with hmem | hmem
    · rcases mem_set hmem with rfl | hmem
      · exact Or.inr List.mem_cons_self
      · exact Or.inl hmem
    · exact Or.inr (List.mem_cons_of_mem _ hmem)

/-- What is there after an update: the other dictionary, and of this one what the other does not
have. -/
theorem mem_update_iff {dict other : Dict K V} (hdict : dict.keys.Nodup) (hother : other.keys.Nodup)
    {item : K × V} :
    item ∈ dict.update other ↔ item ∈ other ∨ item ∈ dict ∧ item.1 ∉ other.keys := by
  rw [← get?_eq_some_iff (nodup_keys_update hdict other), get?_update hother, Option.or_eq_some_iff,
    get?_eq_some_iff hother, get?_eq_none_iff, get?_eq_some_iff hdict, and_comm (a := item.1 ∉ _)]

theorem set_of_not_mem {dict : Dict K V} {key : K} {value : V} (h : key ∉ dict.keys) :
    dict.set key value = dict ++ [(key, value)] := by
  induction dict with
  | nil => rfl
  | cons item rest ih =>
    obtain ⟨hfirst, hrest⟩ := List.ne_and_not_mem_of_not_mem_cons h
    rw [set, if_neg (Ne.symm hfirst), ih hrest]
    rfl

end Dict

end Python
