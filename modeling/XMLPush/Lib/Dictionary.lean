import Mathlib.Data.List.AList

/-!
# Dictionaries built one entry at a time

Two ways a program builds a dictionary from a list, and what the dictionary is at the end.

* **Assigning**: `d[k] = v` for each entry, where a later equal key overwrites an earlier
  one. `fill` is the fold of it. If the keys are distinct nothing is overwritten, and the
  dictionary is the list (`lookup_fill`, `length_fill`).
* **Filing**: `d[k]` is a list, made when its first entry comes, and `v` is appended to it.
  `Filed d entries` says that `d` is what filing these entries makes, and `Filed.file` that
  one more entry goes where it should and nowhere else. Filing only adds: at the end of a
  list (`extends_file`), and one value to all there are (`contents_file`).

A dictionary also enumerates its entries, in some order. `SameMapping` is what dictionaries
have in common that differ in that order alone (`SameMapping.of_perm`). To compare what two
dictionaries enumerate, keys with keys and values with values, is to compare the mappings and
the order of the keys (`forall₂_values_iff`).
-/

set_option autoImplicit false

namespace Dictionary

variable {K V : Type*} [DecidableEq K]

/-! ## Assigning -/

/-- `d[k] = v`, entry by entry. -/
def fill (d : AList (fun _ : K => V)) (entries : List (K × V)) : AList (fun _ : K => V) :=
  entries.foldl (fun d entry => d.insert entry.1 entry.2) d

theorem lookup_fill_of_notMem {d : AList (fun _ : K => V)} {entries : List (K × V)} {k : K}
    (h : k ∉ entries.map Prod.fst) : (fill d entries).lookup k = d.lookup k := by
  induction entries generalizing d with
  | nil => rfl
  | cons entry entries ih =>
    rw [List.map_cons, List.mem_cons, not_or] at h
    have hrest : (fill (d.insert entry.1 entry.2) entries).lookup k =
        (d.insert entry.1 entry.2).lookup k := ih h.2
    exact hrest.trans (AList.lookup_insert_ne h.1)

theorem lookup_fill_of_mem {d : AList (fun _ : K => V)} {entries : List (K × V)}
    (hdistinct : (entries.map Prod.fst).Nodup) {k : K} {v : V} (hmem : (k, v) ∈ entries) :
    (fill d entries).lookup k = some v := by
  induction entries generalizing d with
  | nil => cases hmem
  | cons entry entries ih =>
    rw [List.map_cons, List.nodup_cons] at hdistinct
    rcases List.mem_cons.mp hmem with heq | hmem
    · subst heq
      have hrest : (fill (d.insert k v) entries).lookup k = (d.insert k v).lookup k :=
        lookup_fill_of_notMem hdistinct.1
      exact hrest.trans (AList.lookup_insert d)
    · exact ih hdistinct.2 hmem

/-- **Under distinct keys every entry is found again, and nothing else.** -/
theorem lookup_fill {entries : List (K × V)} (hdistinct : (entries.map Prod.fst).Nodup)
    (k : K) (v : V) : (fill ∅ entries).lookup k = some v ↔ (k, v) ∈ entries := by
  constructor
  · intro hlookup
    by_cases hk : k ∈ entries.map Prod.fst
    · obtain ⟨⟨k', v'⟩, hmem, rfl⟩ := List.mem_map.mp hk
      rw [lookup_fill_of_mem hdistinct hmem] at hlookup
      rw [← Option.some.inj hlookup]
      exact hmem
    · rw [lookup_fill_of_notMem hk, AList.lookup_empty] at hlookup
      cases hlookup
  · exact lookup_fill_of_mem hdistinct

/-- **Of several entries under one key the last one is found**, and what was there before them if
    there is none. -/
theorem lookup_fill_last (d : AList (fun _ : K => V)) (entries : List (K × V)) (k : K) :
    (fill d entries).lookup k =
      ((entries.reverse.find? fun entry => entry.1 = k).map Prod.snd).or (d.lookup k) := by
  induction entries generalizing d with
  | nil => rfl
  | cons entry entries ih =>
    have hrest : (fill d (entry :: entries)).lookup k =
        (fill (d.insert entry.1 entry.2) entries).lookup k := rfl
    rw [hrest, ih, List.reverse_cons, List.find?_append]
    cases entries.reverse.find? fun entry => entry.1 = k with
    | some last => rfl
    | none =>
      by_cases hk : entry.1 = k
      · subst hk
        simp
      · simp [hk, AList.lookup_insert_ne (Ne.symm hk)]

theorem keys_fill_length {d : AList (fun _ : K => V)} {entries : List (K × V)}
    (hdistinct : (entries.map Prod.fst).Nodup) (hnew : ∀ k ∈ entries.map Prod.fst, k ∉ d) :
    (fill d entries).keys.length = d.keys.length + entries.length := by
  induction entries generalizing d with
  | nil => rfl
  | cons entry entries ih =>
    rw [List.map_cons, List.nodup_cons] at hdistinct
    have hhead : entry.1 ∉ d := hnew entry.1 List.mem_cons_self
    have hrest : (fill (d.insert entry.1 entry.2) entries).keys.length =
        (d.insert entry.1 entry.2).keys.length + entries.length := by
      apply ih hdistinct.2
      intro k hk
      rw [AList.mem_insert, not_or]
      refine ⟨?_, hnew k (List.mem_cons_of_mem _ hk)⟩
      intro heq
      exact hdistinct.1 (heq ▸ hk)
    have hkeys : (d.insert entry.1 entry.2).keys.length = d.keys.length + 1 := by
      rw [AList.keys_insert, List.erase_of_not_mem hhead]
      rfl
    rw [show fill d (entry :: entries) = fill (d.insert entry.1 entry.2) entries from rfl, hrest,
      hkeys, List.length_cons, Nat.add_assoc, Nat.add_comm 1]

/-! ## Enumerating -/

/-- The values, in the order the keys are enumerated in. -/
def values (d : AList (fun _ : K => V)) : List V := d.entries.map Sigma.snd

/-- Under every key the two have values that are the same in this sense, or none. -/
def SameMapping (same : V → V → Prop) (d d' : AList (fun _ : K => V)) : Prop :=
  ∀ k, Option.Rel same (d.lookup k) (d'.lookup k)

/-- Dictionaries with the same entries have the same mapping, in whatever order. -/
theorem SameMapping.of_perm {same : V → V → Prop} (hrefl : ∀ v, same v v)
    {d d' : AList (fun _ : K => V)} (h : d.entries.Perm d'.entries) : SameMapping same d d' := by
  intro k
  rw [AList.perm_lookup h]
  cases d'.lookup k with
  | none => exact .none
  | some v => exact .some (hrefl v)

/-- The values are what the keys find. -/
theorem map_some_values (d : AList (fun _ : K => V)) :
    (values d).map some = d.keys.map fun k => d.lookup k := by
  unfold values AList.keys List.keys
  rw [List.map_map, List.map_map]
  exact List.map_congr_left fun entry hmem => (AList.mem_lookup_iff.mpr hmem).symm

theorem rel_dlookup_of_forall₂ {same : V → V → Prop} {l l' : List (Sigma fun _ : K => V)}
    (hkeys : l.map Sigma.fst = l'.map Sigma.fst)
    (hvalues : List.Forall₂ same (l.map Sigma.snd) (l'.map Sigma.snd)) (k : K) :
    Option.Rel same (l.dlookup k) (l'.dlookup k) := by
  induction l generalizing l' with
  | nil =>
    obtain rfl := List.map_eq_nil_iff.mp hkeys.symm
    exact .none
  | cons entry l ih =>
    cases l' with
    | nil => cases hkeys
    | cons entry' l' =>
      obtain ⟨first, v⟩ := entry
      obtain ⟨first', v'⟩ := entry'
      obtain ⟨hfirst, hrest⟩ := List.cons.inj hkeys
      obtain ⟨hsame, hsames⟩ := List.forall₂_cons.mp hvalues
      obtain rfl : first = first' := hfirst
      by_cases hk : k = first
      · subst hk
        rw [List.dlookup_cons_eq, List.dlookup_cons_eq]
        exact .some hsame
      · rw [List.dlookup_cons_ne _ _ hk, List.dlookup_cons_ne _ _ hk]
        exact ih hrest hsames

/-- **Of dictionaries that enumerate the same keys**, comparing the values they enumerate is
    comparing the mappings. -/
theorem forall₂_values_iff {same : V → V → Prop} {d d' : AList (fun _ : K => V)}
    (hkeys : d.keys = d'.keys) :
    List.Forall₂ same (values d) (values d') ↔ SameMapping same d d' := by
  constructor
  · exact fun hvalues k => rel_dlookup_of_forall₂ hkeys hvalues k
  · intro h
    have hsome : List.Forall₂ (Option.Rel same) ((values d).map some) ((values d').map some) := by
      rw [map_some_values, map_some_values, ← hkeys, List.forall₂_map_left_iff,
        List.forall₂_map_right_iff, List.forall₂_same]
      exact fun k _ => h k
    rw [List.forall₂_map_left_iff, List.forall₂_map_right_iff] at hsome
    refine hsome.imp fun v v' hrel => ?_
    cases hrel with
    | some hsame => exact hsame

/-- The order in which distinct keys are assigned does not matter to the mapping. -/
theorem fill_sameMapping {same : V → V → Prop} (hrefl : ∀ v, same v v)
    {entries entries' : List (K × V)} (hperm : entries.Perm entries')
    (hdistinct : (entries.map Prod.fst).Nodup) :
    SameMapping same (fill ∅ entries) (fill ∅ entries') := by
  have hdistinct' : (entries'.map Prod.fst).Nodup := (hperm.map Prod.fst).nodup_iff.mp hdistinct
  apply SameMapping.of_perm hrefl
  apply List.lookup_ext (AList.nodupKeys _) (AList.nodupKeys _)
  intro k v
  have hfound : (fill ∅ entries).lookup k = some v ↔ (fill ∅ entries').lookup k = some v := by
    rw [lookup_fill hdistinct, lookup_fill hdistinct', hperm.mem_iff]
  exact hfound

/-! ## Filing -/

/-- The values filed under a key, in order. -/
def valuesAt (k : K) (entries : List (K × V)) : List V :=
  entries.filterMap fun entry => if entry.1 = k then some entry.2 else none

theorem valuesAt_cons_self (k : K) (v : V) (entries : List (K × V)) :
    valuesAt k ((k, v) :: entries) = v :: valuesAt k entries := by
  simp [valuesAt]

theorem valuesAt_cons_of_ne {k k' : K} (hne : k' ≠ k) (v : V) (entries : List (K × V)) :
    valuesAt k ((k', v) :: entries) = valuesAt k entries := by
  simp [valuesAt, hne]

theorem valuesAt_append_singleton (k : K) (entries : List (K × V)) (entry : K × V) :
    valuesAt k (entries ++ [entry]) =
      valuesAt k entries ++ if entry.1 = k then [entry.2] else [] := by
  unfold valuesAt
  rw [List.filterMap_append]
  by_cases h : entry.1 = k
  · simp [h]
  · simp [h]

/-- `d[k]`, made if it is nil, with `v` appended. -/
def file (k : K) (v : V) (d : AList (fun _ : K => List V)) : AList (fun _ : K => List V) :=
  d.insert k ((d.lookup k).getD [] ++ [v])

/-- The dictionary is what filing these entries makes: under every key its values, and no key
    for a value that never came. -/
def Filed (d : AList (fun _ : K => List V)) (entries : List (K × V)) : Prop :=
  ∀ k, d.lookup k = if valuesAt k entries = [] then none else some (valuesAt k entries)

theorem Filed.nil : Filed (∅ : AList (fun _ : K => List V)) [] := fun _ => rfl

theorem Filed.getD {d : AList (fun _ : K => List V)} {entries : List (K × V)}
    (h : Filed d entries) (k : K) : (d.lookup k).getD [] = valuesAt k entries := by
  rw [h k]
  by_cases hnil : valuesAt k entries = []
  · rw [if_pos hnil, hnil]
    rfl
  · rw [if_neg hnil]
    rfl

/-- **One more entry goes under its key, after what is there, and nowhere else.** -/
theorem Filed.file {d : AList (fun _ : K => List V)} {entries : List (K × V)}
    (h : Filed d entries) (k : K) (v : V) : Filed (file k v d) (entries ++ [(k, v)]) := by
  intro k'
  rw [valuesAt_append_singleton]
  by_cases hk : k = k'
  · subst hk
    have hne : valuesAt k entries ++ [v] ≠ [] := by simp
    rw [if_pos rfl, if_neg hne, Dictionary.file, AList.lookup_insert, h.getD]
  · rw [if_neg hk, List.append_nil, Dictionary.file, AList.lookup_insert_ne (Ne.symm hk)]
    exact h k'

/-- File each entry in turn. -/
def fileAll (entries : List (K × V)) (d : AList (fun _ : K => List V)) :
    AList (fun _ : K => List V) :=
  entries.foldl (fun d entry => file entry.1 entry.2 d) d

theorem fileAll_append (entries more : List (K × V)) (d : AList (fun _ : K => List V)) :
    fileAll (entries ++ more) d = fileAll more (fileAll entries d) := List.foldl_append

/-- **Filing in turn makes what was to be filed.** -/
theorem Filed.fileAll {d : AList (fun _ : K => List V)} {entries : List (K × V)}
    (h : Filed d entries) (more : List (K × V)) :
    Filed (fileAll more d) (entries ++ more) := by
  induction more generalizing d entries with
  | nil =>
    rw [List.append_nil]
    exact h
  | cons entry more ih =>
    rw [List.append_cons]
    exact ih (h.file entry.1 entry.2)

/-- Every list of the first is in the second, with more at its end. -/
def Extends (d d' : AList (fun _ : K => List V)) : Prop :=
  ∀ k vs, d.lookup k = some vs → ∃ more, d'.lookup k = some (vs ++ more)

theorem Extends.refl (d : AList (fun _ : K => List V)) : Extends d d :=
  fun _ vs h => ⟨[], by rw [List.append_nil]; exact h⟩

theorem Extends.trans {d d' d'' : AList (fun _ : K => List V)} (h : Extends d d')
    (h' : Extends d' d'') : Extends d d'' := by
  intro k vs hvs
  obtain ⟨more, hmore⟩ := h k vs hvs
  obtain ⟨more', hmore'⟩ := h' k _ hmore
  exact ⟨more ++ more', by rw [hmore', List.append_assoc]⟩

theorem extends_file (k : K) (v : V) (d : AList (fun _ : K => List V)) :
    Extends d (file k v d) := by
  intro k' vs hvs
  unfold file
  by_cases hk : k' = k
  · subst hk
    exact ⟨[v], by rw [AList.lookup_insert, hvs]; rfl⟩
  · exact ⟨[], by rw [AList.lookup_insert_ne hk, List.append_nil]; exact hvs⟩

/-- The values filed under any key. -/
def contents (d : AList (fun _ : K => List V)) : List V := (values d).flatten

/-- **Filing adds the one value.** -/
theorem contents_file (k : K) (v : V) (d : AList (fun _ : K => List V)) :
    (contents (file k v d)).Perm (v :: contents d) := by
  have hentries : (file k v d).entries =
      ⟨k, (d.lookup k).getD [] ++ [v]⟩ :: d.entries.kerase k := AList.entries_insert
  unfold contents values
  rw [hentries, List.map_cons, List.flatten_cons]
  by_cases hk : k ∈ d.entries.keys
  · obtain ⟨vs, before, after, -, hd, herase⟩ := List.exists_of_kerase hk
    have hlookup : d.lookup k = some vs := by
      apply AList.mem_lookup_iff.mpr
      rw [hd]
      simp
    rw [hlookup, herase, hd]
    simp only [Option.getD_some, List.map_append, List.map_cons, List.flatten_append,
      List.flatten_cons]
    -- The list under `k` moves to the front, with the new value at its end.
    refine (List.Perm.append_right _ (List.perm_append_singleton v vs)).trans ?_
    refine List.Perm.cons v ?_
    exact List.perm_append_comm_assoc vs _ _
  · have hlookup : d.lookup k = none := AList.lookup_eq_none.mpr hk
    rw [hlookup, List.kerase_of_notMem_keys hk]
    exact List.Perm.refl _

end Dictionary
