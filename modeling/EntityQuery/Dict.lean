/-!
# Dictionaries in key order

A dictionary from text keys to values that keeps its entries in strictly
increasing key order, so that equal dictionaries are equal as data and every
walk over one visits the keys in the same order.

## Main definitions

- `Dict` — entries in strictly increasing key order
- `Dict.find?` — the value under a key
- `Dict.insert` — set the value under a key, replacing an earlier one
- `Dict.ofList` — insert from left to right; the last value of a key wins
- `Dict.mapM` — rebuild every value, stopping at the first failure in key order

## Main statements

- `Dict.find?_insert` — what an insertion does to every key
- `Dict.ext_find?` — a dictionary is determined by the values of its keys
- `Dict.find?_ofList` — what stands under a key after several insertions
- `Dict.exists_mapM_iff`, `Dict.keys_mapM` — which dictionaries can be rebuilt, and
  under which keys
- `Dict.exists_of_find?_mapM` — where the values of a rebuilt dictionary come from

## Design notes

`Entries.insert` and `Entries.find?` work on bare lists of pairs. JSON objects
use them directly, because a tree of objects cannot carry the order as a field.
-/

namespace EntityQuery

universe u v

namespace Entries

variable {α : Type u}

/-- Set the value of a key in a list of entries kept in key order. -/
def insert (key : String) (value : α) : List (String × α) → List (String × α)
  | [] => [(key, value)]
  | (k, v) :: rest =>
    if key < k then (key, value) :: (k, v) :: rest
    else if key = k then (key, value) :: rest
    else (k, v) :: insert key value rest

/-- The value of the first entry with this key. -/
def find? (key : String) : List (String × α) → Option α
  | [] => none
  | (k, v) :: rest => if key = k then some v else find? key rest

/-- The keys of a list of entries, in order. -/
def keys (entries : List (String × α)) : List String :=
  entries.map Prod.fst

/-- Every key of the result is the inserted key or an old one. -/
theorem mem_keys_insert {key k : String} {value : α} {entries : List (String × α)}
    (h : k ∈ keys (insert key value entries)) : k = key ∨ k ∈ keys entries := by
  induction entries with
  | nil => simpa [insert, keys] using h
  | cons entry rest ih =>
    obtain ⟨k', v'⟩ := entry
    simp only [keys, insert] at h ih ⊢
    split at h
    · simpa using h
    · split at h
      · rename_i heq
        simp only [List.map_cons, List.mem_cons] at h ⊢
        exact h.imp_right Or.inr
      · simp only [List.map_cons, List.mem_cons] at h ⊢
        rcases h with h | h
        · exact Or.inr (Or.inl h)
        · exact (ih h).imp_right Or.inr

/-- Insertion keeps the keys strictly increasing. -/
theorem pairwise_keys_insert {key : String} {value : α} {entries : List (String × α)}
    (h : (keys entries).Pairwise (· < ·)) :
    (keys (insert key value entries)).Pairwise (· < ·) := by
  induction entries with
  | nil => simp [insert, keys]
  | cons entry rest ih =>
    obtain ⟨k, v⟩ := entry
    have hrest : (keys rest).Pairwise (· < ·) := (List.pairwise_cons.1 h).2
    have hhead : ∀ k' ∈ keys rest, k < k' := (List.pairwise_cons.1 h).1
    simp only [insert]
    split
    · rename_i hlt
      refine List.pairwise_cons.2 ⟨?_, h⟩
      intro k' hk'
      rcases List.mem_cons.1 hk' with rfl | hk'
      · exact hlt
      · exact String.lt_trans hlt (hhead k' hk')
    · split
      · rename_i heq
        subst heq
        exact List.pairwise_cons.2 ⟨hhead, hrest⟩
      · rename_i hlt hne
        refine List.pairwise_cons.2 ⟨?_, ih hrest⟩
        intro k' hk'
        rcases mem_keys_insert hk' with rfl | hk'
        · rcases Std.lt_trichotomy k' k with hc | hc | hc
          · exact absurd hc hlt
          · exact absurd hc hne
          · exact hc
        · exact hhead k' hk'

/-- Looking a key up after an insertion. -/
theorem find?_insert {key k : String} {value : α} {entries : List (String × α)} :
    find? k (insert key value entries) = if k = key then some value else find? k entries := by
  induction entries with
  | nil => simp [insert, find?]
  | cons entry rest ih =>
    obtain ⟨k', v'⟩ := entry
    simp only [insert]
    split
    · simp [find?]
    · split
      · rename_i heq
        subst heq
        by_cases hk : k = key <;> simp [find?, hk]
      · rename_i hne
        by_cases hk : k = k'
        · subst hk
          have : k ≠ key := fun h => hne h.symm
          simp [find?, this]
        · simp [find?, hk, ih]

/-- A key has a value exactly if it is one of the keys. -/
theorem isSome_find?_iff {key : String} {entries : List (String × α)} :
    (find? key entries).isSome = true ↔ key ∈ keys entries := by
  induction entries with
  | nil => simp [find?, keys]
  | cons entry rest ih =>
    obtain ⟨k, v⟩ := entry
    by_cases hk : key = k
    · simp [find?, keys, hk]
    · have hmem : key ∈ keys ((k, v) :: rest) ↔ key ∈ keys rest := by simp [keys, hk]
      rw [hmem, ← ih]
      simp [find?, hk]

/-- A key that is not there has no value. -/
theorem find?_eq_none_of_not_mem {key : String} {entries : List (String × α)}
    (h : key ∉ keys entries) : find? key entries = none := by
  rw [← Option.not_isSome_iff_eq_none]
  exact fun hs => h (isSome_find?_iff.1 hs)

/-- A key is looked up in the first list, then in the second. -/
theorem find?_append {key : String} {a b : List (String × α)} :
    find? key (a ++ b) = (find? key a).or (find? key b) := by
  induction a with
  | nil => rfl
  | cons entry rest ih =>
    obtain ⟨k, v⟩ := entry
    by_cases hk : key = k
    · simp [find?, hk]
    · simp [find?, hk, ih]

/-- The first key of an ordered list is less than every later key, so it is not
  among them. -/
theorem not_mem_keys_of_pairwise {k : String} {v : α} {rest : List (String × α)}
    (h : (keys ((k, v) :: rest)).Pairwise (· < ·)) : k ∉ keys rest :=
  fun hk => String.lt_irrefl k ((List.pairwise_cons.1 h).1 k hk)

theorem mem_of_find? {key : String} {a : α} {entries : List (String × α)}
    (h : find? key entries = some a) : (key, a) ∈ entries := by
  induction entries with
  | nil => simp [find?] at h
  | cons entry rest ih =>
    obtain ⟨k, v⟩ := entry
    rw [find?] at h
    split at h
    · rename_i hk
      cases h
      rw [hk]
      exact List.mem_cons_self
    · exact List.mem_cons_of_mem _ (ih h)

/-- In an ordered list every entry is found under its key. -/
theorem find?_eq_some_iff {key : String} {a : α} {entries : List (String × α)}
    (h : (keys entries).Pairwise (· < ·)) : find? key entries = some a ↔ (key, a) ∈ entries := by
  refine ⟨mem_of_find?, fun hmem => ?_⟩
  induction entries with
  | nil => cases hmem
  | cons entry rest ih =>
    obtain ⟨k, v⟩ := entry
    rcases List.mem_cons.1 hmem with heq | hrest
    · cases heq
      rw [find?, if_pos rfl]
    · have hne : key ≠ k := by
        rintro rfl
        exact not_mem_keys_of_pairwise h (List.mem_map.2 ⟨_, hrest, rfl⟩)
      rw [find?, if_neg hne]
      exact ih (List.pairwise_cons.1 h).2 hrest

/-- A key below the first key of an ordered list is not there. -/
theorem find?_eq_none_of_lt {key k : String} {v : α} {rest : List (String × α)}
    (h : (keys ((k, v) :: rest)).Pairwise (· < ·)) (hlt : key < k) :
    find? key ((k, v) :: rest) = none := by
  apply find?_eq_none_of_not_mem
  intro hk
  rcases List.mem_cons.1 hk with rfl | hk
  · exact String.lt_irrefl _ hlt
  · exact String.lt_irrefl _ (String.lt_trans hlt ((List.pairwise_cons.1 h).1 key hk))

/-- Ordered lists that give every key the same value are equal. -/
theorem eq_of_find?_eq {a b : List (String × α)} (ha : (keys a).Pairwise (· < ·))
    (hb : (keys b).Pairwise (· < ·)) (h : ∀ key, find? key a = find? key b) : a = b := by
  induction a generalizing b with
  | nil =>
    cases b with
    | nil => rfl
    | cons entry rest =>
      obtain ⟨k, v⟩ := entry
      have := h k
      simp [find?] at this
  | cons entry rest ih =>
    obtain ⟨k, v⟩ := entry
    cases b with
    | nil =>
      have := h k
      simp [find?] at this
    | cons entry' rest' =>
      obtain ⟨k', v'⟩ := entry'
      have hk : k = k' := by
        rcases Std.lt_trichotomy k k' with hlt | heq | hgt
        · have := h k
          rw [find?_eq_none_of_lt hb hlt] at this
          simp [find?] at this
        · exact heq
        · have := h k'
          rw [find?_eq_none_of_lt ha hgt] at this
          simp [find?] at this
      subst hk
      have hv : v = v' := by simpa [find?] using h k
      subst hv
      refine congrArg ((k, v) :: ·) (ih (List.pairwise_cons.1 ha).2 (List.pairwise_cons.1 hb).2 ?_)
      intro key
      by_cases hkey : key = k
      · subst hkey
        rw [find?_eq_none_of_not_mem (not_mem_keys_of_pairwise ha),
          find?_eq_none_of_not_mem (not_mem_keys_of_pairwise hb)]
      · simpa [find?, hkey] using h key

/-- An ordered list may be looked up from either end. -/
theorem find?_reverse {key : String} {entries : List (String × α)}
    (h : (keys entries).Pairwise (· < ·)) : find? key entries.reverse = find? key entries := by
  induction entries with
  | nil => rfl
  | cons entry rest ih =>
    obtain ⟨k, v⟩ := entry
    rw [List.reverse_cons, find?_append, ih (List.pairwise_cons.1 h).2]
    by_cases hk : key = k
    · subst hk
      rw [find?_eq_none_of_not_mem (not_mem_keys_of_pairwise h), Option.none_or]
      simp [find?]
    · simp [find?, hk]

end Entries

/-- A dictionary: entries in strictly increasing key order. -/
structure Dict (α : Type u) where
  /-- The entries, in key order. -/
  entries : List (String × α)
  /-- No key is repeated and the keys increase. -/
  sorted : (Entries.keys entries).Pairwise (· < ·)
deriving DecidableEq

namespace Dict

variable {α : Type u} {β : Type v}

/-- The dictionary without entries. -/
def empty : Dict α :=
  ⟨[], List.Pairwise.nil⟩

instance : Inhabited (Dict α) :=
  ⟨empty⟩

/-- The keys, in increasing order. -/
def keys (d : Dict α) : List String :=
  Entries.keys d.entries

/-- The values, in key order. -/
def values (d : Dict α) : List α :=
  d.entries.map Prod.snd

/-- The value under a key. -/
def find? (d : Dict α) (key : String) : Option α :=
  Entries.find? key d.entries

/-- Set the value under a key, replacing an earlier one. -/
def insert (d : Dict α) (key : String) (value : α) : Dict α :=
  ⟨Entries.insert key value d.entries, Entries.pairwise_keys_insert d.sorted⟩

/-- Insert entries from left to right: the last value of a key wins. -/
def ofList (entries : List (String × α)) : Dict α :=
  entries.foldl (fun d e => d.insert e.1 e.2) empty

/-- Looking a key up after an insertion. -/
theorem find?_insert {d : Dict α} {key k : String} {value : α} :
    (d.insert key value).find? k = if k = key then some value else d.find? k :=
  Entries.find?_insert

/-- A key has a value exactly if it is one of the keys. -/
theorem isSome_find?_iff {d : Dict α} {key : String} :
    (d.find? key).isSome = true ↔ key ∈ d.keys :=
  Entries.isSome_find?_iff

/-- Dictionaries that give every key the same value are equal. -/
theorem ext_find? {d e : Dict α} (h : ∀ key, d.find? key = e.find? key) : d = e := by
  obtain ⟨entries, hd⟩ := d
  obtain ⟨entries', he⟩ := e
  have : entries = entries' := Entries.eq_of_find?_eq hd he h
  subst this
  rfl

/-- The last value of a key wins. -/
theorem find?_ofList {entries : List (String × α)} {key : String} :
    (ofList entries).find? key = Entries.find? key entries.reverse := by
  -- A dictionary that is there before the insertions answers for the keys they leave alone.
  have hfold : ∀ d : Dict α, (entries.foldl (fun d e => d.insert e.1 e.2) d).find? key =
      (Entries.find? key entries.reverse).or (d.find? key) := by
    induction entries with
    | nil => exact fun d => rfl
    | cons entry rest ih =>
      obtain ⟨k, v⟩ := entry
      intro d
      rw [List.foldl_cons, ih, List.reverse_cons, Entries.find?_append, find?_insert,
        Option.or_assoc]
      by_cases hk : key = k <;> simp [Entries.find?, hk]
  rw [ofList, hfold, empty, find?, Entries.find?, Option.or_none]

/-- Inserting entries gives a dictionary with their keys. -/
theorem mem_keys_ofList {entries : List (String × α)} {key : String} :
    key ∈ (ofList entries).keys ↔ key ∈ Entries.keys entries := by
  rw [← isSome_find?_iff, find?_ofList, Entries.isSome_find?_iff, Entries.keys, Entries.keys,
    List.map_reverse, List.mem_reverse]

/-- A dictionary is made of its entries. -/
theorem ofList_entries (d : Dict α) : ofList d.entries = d := by
  apply ext_find?
  intro key
  rw [find?_ofList, find?]
  exact Entries.find?_reverse d.sorted

/-- Rebuild the value of every entry of a list, keeping the keys. -/
private def rebuild {ε : Type} (f : String → α → Except ε β) :
    (entries : List (String × α)) →
      Except ε { out : List (String × β) // Entries.keys out = Entries.keys entries }
  | [] => .ok ⟨[], rfl⟩
  | (k, a) :: rest =>
    match f k a with
    | .error e => .error e
    | .ok b =>
      match rebuild f rest with
      | .error e => .error e
      | .ok ⟨out, h⟩ => .ok ⟨(k, b) :: out, congrArg (k :: ·) h⟩

/-- Rebuild every value in key order, stopping at the first failure. -/
def mapM {ε : Type} (f : String → α → Except ε β) (d : Dict α) : Except ε (Dict β) :=
  match rebuild f d.entries with
  | .error e => .error e
  | .ok ⟨out, h⟩ => .ok ⟨out, h ▸ d.sorted⟩

/-- The values of a rebuilt list come from the old values under the same keys. -/
private theorem exists_of_find?_rebuild {ε : Type} {f : String → α → Except ε β}
    {entries : List (String × α)} {out : { out : List (String × β) //
      Entries.keys out = Entries.keys entries }} (h : rebuild f entries = .ok out)
    {key : String} {b : β} (hb : Entries.find? key out.1 = some b) :
    ∃ a, Entries.find? key entries = some a ∧ f key a = .ok b := by
  induction entries with
  | nil =>
    cases h
    simp [Entries.find?] at hb
  | cons entry rest ih =>
    obtain ⟨k, a⟩ := entry
    rw [rebuild] at h
    split at h
    · cases h
    · rename_i b' hb'
      split at h
      · cases h
      · rename_i out' hkeys hout'
        cases h
        by_cases hk : key = k
        · subst hk
          simp only [Entries.find?, ↓reduceIte, Option.some.injEq] at hb
          exact ⟨a, by simp [Entries.find?], hb ▸ hb'⟩
        · simp only [Entries.find?, hk, ↓reduceIte] at hb ⊢
          exact ih hout' hb

/-- A list in key order can be rebuilt exactly if the value of every key can. -/
private theorem exists_rebuild_iff {ε : Type} {f : String → α → Except ε β}
    {entries : List (String × α)} (hsorted : (Entries.keys entries).Pairwise (· < ·)) :
    (∃ out, rebuild f entries = .ok out) ↔
      ∀ key a, Entries.find? key entries = some a → ∃ b, f key a = .ok b := by
  induction entries with
  | nil => exact ⟨fun _ key a h => by simp [Entries.find?] at h, fun _ => ⟨_, rfl⟩⟩
  | cons entry rest ih =>
    obtain ⟨k, a⟩ := entry
    have hrest := ih (List.pairwise_cons.1 hsorted).2
    have hk : k ∉ Entries.keys rest := Entries.not_mem_keys_of_pairwise hsorted
    constructor
    · rintro ⟨out, hout⟩ key b hb
      rw [rebuild] at hout
      split at hout
      · cases hout
      rename_i first hfirst
      split at hout
      · cases hout
      rename_i more hkeys hmore
      by_cases hkey : key = k
      · subst hkey
        obtain rfl : a = b := by simpa [Entries.find?] using hb
        exact ⟨first, hfirst⟩
      · rw [Entries.find?, if_neg hkey] at hb
        exact hrest.1 ⟨_, hmore⟩ key b hb
    · intro hall
      obtain ⟨first, hfirst⟩ := hall k a (by simp [Entries.find?])
      obtain ⟨⟨more, hkeys⟩, hmore⟩ := hrest.2 fun key b hb => by
        have hne : key ≠ k := by
          rintro rfl
          rw [Entries.find?_eq_none_of_not_mem hk] at hb
          cases hb
        exact hall key b (by rw [Entries.find?, if_neg hne, hb])
      exact ⟨⟨(k, first) :: more, congrArg (k :: ·) hkeys⟩, by rw [rebuild, hfirst, hmore]⟩

/-- A dictionary can be rebuilt exactly if the value of every key can. -/
theorem exists_mapM_iff {ε : Type} {f : String → α → Except ε β} {d : Dict α} :
    (∃ d', d.mapM f = .ok d') ↔ ∀ key a, d.find? key = some a → ∃ b, f key a = .ok b := by
  have hlist := exists_rebuild_iff (f := f) d.sorted
  constructor
  · rintro ⟨d', hd'⟩
    rw [mapM] at hd'
    split at hd'
    · cases hd'
    · rename_i hout
      exact hlist.1 ⟨_, hout⟩
  · intro hall
    obtain ⟨⟨out, hkeys⟩, hout⟩ := hlist.2 hall
    exact ⟨⟨out, hkeys ▸ d.sorted⟩, by rw [mapM, hout]⟩

/-- A rebuilt dictionary keeps its keys. -/
theorem keys_mapM {ε : Type} {f : String → α → Except ε β} {d : Dict α} {d' : Dict β}
    (h : d.mapM f = .ok d') : d'.keys = d.keys := by
  rw [mapM] at h
  split at h
  · cases h
  · rename_i hkeys hout
    cases h
    exact hkeys

/-- The values of a rebuilt dictionary come from the old values under the same keys. -/
theorem exists_of_find?_mapM {ε : Type} {f : String → α → Except ε β} {d : Dict α} {d' : Dict β}
    (h : d.mapM f = .ok d') {key : String} {b : β} (hb : d'.find? key = some b) :
    ∃ a, d.find? key = some a ∧ f key a = .ok b := by
  rw [mapM] at h
  split at h
  · cases h
  · rename_i hout
    cases h
    exact exists_of_find?_rebuild hout hb

end Dict

end EntityQuery
