import EntityQuery.Json.Decode
import EntityQuery.Proofs.Json.Range

/-!
# Values that are read are normal

Reading puts every object into key order, with one value for each key, and gives no number that
is out of range. What holds of the values that the fields of a record take holds of the record,
as long as the fields are filled one by one.

## Main definitions

- `Json.Normal` — the values that reading gives
- `Json.Record.Keeps` — a record whose fields keep a property of the draft

## Main statements

- `Json.yields_readValue` — values that are read are normal
- `Json.Record.Keeps.reader` — what is read as a record has the property of finished drafts
-/

namespace EntityQuery.Json

variable {α β σ : Type} {P : α → Prop}

-- ════════════════════════════════════════════════════════════════════════
-- Any values
-- ════════════════════════════════════════════════════════════════════════

theorem map_eq_ok_iff {ε : Type} {x : Except ε α} {f : α → β} {b : β} :
    x.map f = .ok b ↔ ∃ a, x = .ok a ∧ f a = b := by
  cases x <;> simp [Except.map]

theorem Yields.map {Q : β → Prop} {g : α → β} {scanner : Scanner α} (h : Yields P scanner)
    (hg : ∀ a, P a → Q (g a)) : Yields Q fun s => (scanner s).map fun (a, r) => (g a, r) := by
  intro s b rest hmap
  obtain ⟨⟨a, r⟩, hread, heq⟩ := map_eq_ok_iff.1 hmap
  cases heq
  exact hg a (h hread)

theorem yields_readItems {item : Scanner α} (hitem : Yields P item) (rounds : ℕ) (first : Bool) :
    Yields (fun items => ∀ a ∈ items, P a) (readItems item rounds first) := by
  induction rounds generalizing first with
  | zero =>
    intro s items rest h
    cases h
  | succ n ih =>
    intro s items rest h
    rw [readItems] at h
    split at h
    · cases h
    · cases h
      exact fun a ha => nomatch ha
    · split at h
      · cases h
      · rename_i hread
        split at h
        · cases h
        · rename_i hmore
          cases h
          exact List.forall_mem_cons.2 ⟨hitem hread, ih false hmore⟩

theorem yields_readMembers {value : Scanner α} (hvalue : Yields P value) (rounds : ℕ)
    (first : Bool) :
    Yields (fun members => ∀ m ∈ members, P m.2) (readMembers value rounds first) := by
  induction rounds generalizing first with
  | zero =>
    intro s members rest h
    cases h
  | succ n ih =>
    intro s members rest h
    rw [readMembers] at h
    split at h
    · cases h
    · cases h
      exact fun m hm => nomatch hm
    · split at h
      · cases h
      · split at h
        · cases h
        · split at h
          · cases h
          · rename_i hread
            split at h
            · cases h
            · rename_i hmore
              cases h
              exact List.forall_mem_cons.2 ⟨hvalue hread, ih false hmore⟩

theorem Yields.decode {reader : Reader α} (h : ∀ n, Yields P (reader n)) {text : String} {a : α}
    (hread : decode reader text = .ok a) : P a := by
  rw [Json.decode, readAll] at hread
  split at hread
  · cases hread
  · rename_i hscan
    split at hread
    · cases hread
      exact h _ hscan
    · cases hread

-- ════════════════════════════════════════════════════════════════════════
-- JSON values
-- ════════════════════════════════════════════════════════════════════════

/-- A value as it is read: every number is in range, and the members of every object stand in
  key order, one for each key. -/
inductive Normal : Json → Prop
  | null : Normal .null
  | bool {b} : Normal (.bool b)
  | number {n} (hn : n.InRange) : Normal (.number n)
  | string {t} : Normal (.string t)
  | array {items} (h : ∀ j ∈ items, Normal j) : Normal (.array items)
  | object {members} (hkeys : (Entries.keys members).Pairwise (· < ·))
    (h : ∀ m ∈ members, Normal m.2) : Normal (.object members)

/-- Members are collected as in a dictionary. -/
theorem collect_eq_ofList (members : List (String × α)) :
    collect members = (Dict.ofList members).entries := by
  have hfold : ∀ d : Dict α, members.foldl (fun acc m => Entries.insert m.1 m.2 acc) d.entries =
      (members.foldl (fun d m => d.insert m.1 m.2) d).entries := by
    induction members with
    | nil => exact fun _ => rfl
    | cons m rest ih => exact fun d => ih (d.insert m.1 m.2)
  exact hfold Dict.empty

theorem pairwise_keys_collect (members : List (String × α)) :
    (Entries.keys (collect members)).Pairwise (· < ·) := by
  rw [collect_eq_ofList]
  exact (Dict.ofList members).sorted

theorem mem_of_mem_collect {members : List (String × α)} {m : String × α}
    (h : m ∈ collect members) : m ∈ members := by
  rw [collect_eq_ofList] at h
  have hfind : (Dict.ofList members).find? m.1 = some m.2 :=
    (Entries.find?_eq_some_iff (Dict.ofList members).sorted).2 h
  rw [Dict.find?_ofList] at hfind
  exact List.mem_reverse.1 (Entries.mem_of_find? hfind)

theorem Normal.collect {members : List (String × Json)} (h : ∀ m ∈ members, Normal m.2) :
    Normal (.object (collect members)) :=
  .object (pairwise_keys_collect members) fun m hm => h m (mem_of_mem_collect hm)

theorem yields_readValueWith {inner : Option (Scanner Json)}
    (hinner : ∀ scanner ∈ inner, Yields Normal scanner) : Yields Normal (readValueWith inner) := by
  intro s j rest h
  rw [readValueWith] at h
  split at h
  · cases h
  · obtain ⟨r, -, heq⟩ := map_eq_ok_iff.1 h
    cases heq
    exact .null
  · obtain ⟨r, -, heq⟩ := map_eq_ok_iff.1 h
    cases heq
    exact .bool
  · obtain ⟨r, -, heq⟩ := map_eq_ok_iff.1 h
    cases heq
    exact .bool
  · obtain ⟨⟨t, r⟩, -, heq⟩ := map_eq_ok_iff.1 h
    cases heq
    exact .string
  · split at h
    · cases h
    · rename_i item
      exact (yields_readItems (hinner item rfl) _ _).map (fun _ => Normal.array) h
  · split at h
    · cases h
    · rename_i value
      exact (yields_readMembers (hinner value rfl) _ _).map (fun _ => Normal.collect) h
  · split_ifs at h
    exact yields_scanNumber.map (fun _ => Normal.number) h

/-- Values that are read are normal. -/
theorem yields_readValue (brackets : ℕ) : Yields Normal (readValue brackets) := by
  induction brackets with
  | zero => exact yields_readValueWith fun _ h => nomatch h
  | succ n ih =>
    refine yields_readValueWith fun scanner h => ?_
    cases h
    exact ih

-- ════════════════════════════════════════════════════════════════════════
-- Records
-- ════════════════════════════════════════════════════════════════════════

/-- A record whose fields keep a property of the draft, from which the finished record gets
  its own. -/
structure Record.Keeps (Q : σ → Prop) (P : α → Prop) (r : Record σ α) : Prop where
  draft : Q r.draft
  fill : ∀ slot ∈ r.slots, ∀ draft, Q draft → ∀ n, Yields Q (slot.fill draft n)
  finish : ∀ draft a, Q draft → r.finish draft = .ok a → P a

theorem Slot.yields_fill {Q : σ → Prop} {name : String} {get : σ → Option α} {set : α → σ → σ}
    {reader : Reader α} (hreader : ∀ n, Yields P (reader n)) {draft : σ}
    (hset : ∀ a, P a → Q (set a draft)) (n : ℕ) :
    Yields Q ((Slot.of name get set reader).fill draft n) :=
  (hreader n).map hset

namespace Record.Keeps

variable {Q : σ → Prop} {r : Record σ α} {draft : σ}

theorem finishList (h : Record.Keeps Q P r) (hdraft : Q draft) :
    Yields P (r.finishList draft) := by
  intro s a rest hfinish
  rw [Record.finishList] at hfinish
  split at hfinish
  · rename_i hok
    cases hfinish
    exact h.finish _ _ hdraft hok
  · cases hfinish

theorem readList (h : Record.Keeps Q P r) (n : ℕ) {slots : List (Slot σ)}
    (hslots : slots ⊆ r.slots) (hdraft : Q draft) (first : Bool) :
    Yields P (r.readList n draft slots first) := by
  induction slots generalizing draft first with
  | nil =>
    intro s a rest hread
    rw [Record.readList] at hread
    split at hread
    · cases hread
    · exact h.finishList hdraft hread
  | cons slot slots ih =>
    intro s a rest hread
    obtain ⟨hslot, hmore⟩ := List.cons_subset.1 hslots
    rw [Record.readList] at hread
    split at hread
    · cases hread
    · exact h.finishList hdraft hread
    · split at hread
      · cases hread
      · rename_i hfill
        exact ih hmore (h.fill slot hslot draft hdraft n hfill) false hread

theorem readMember (h : Record.Keeps Q P r) (n : ℕ) (hdraft : Q draft) (key : String) :
    Yields Q (r.readMember n draft key) := by
  intro s draft' rest hread
  rw [Record.readMember] at hread
  split at hread
  · obtain ⟨r, -, heq⟩ := map_eq_ok_iff.1 hread
    cases heq
    exact hdraft
  · rename_i slot hslot
    split at hread
    · cases hread
    · cases hcolon : passColon s with
      | error f =>
        rw [hcolon] at hread
        cases hread
      | ok s' =>
        rw [hcolon] at hread
        exact h.fill slot (List.mem_of_find?_eq_some hslot) draft hdraft n hread

theorem readObject (h : Record.Keeps Q P r) (n rounds : ℕ) (hdraft : Q draft) (first : Bool) :
    Yields P (r.readObject n rounds draft first) := by
  induction rounds generalizing draft first with
  | zero =>
    intro s a rest hread
    cases hread
  | succ rounds ih =>
    intro s a rest hread
    rw [Record.readObject] at hread
    split at hread
    · cases hread
    · split at hread
      · rename_i hfinish
        cases hread
        exact h.finish _ _ hdraft hfinish
      · cases hread
    · split at hread
      · cases hread
      · split at hread
        · cases hread
        · rename_i hmember
          exact ih (h.readMember n hdraft _ hmember) false hread

/-- What is read as a record has the property of finished drafts. -/
theorem reader (h : Record.Keeps Q P r) (n : ℕ) : Yields P (r.reader n) := by
  intro s a rest hread
  simp only [Record.reader] at hread
  split at hread
  · cases hread
  · exact h.readList _ (List.Subset.refl _) h.draft true hread
  · cases hread
  · exact h.readObject _ _ h.draft true hread
  · cases hread

end Record.Keeps

end EntityQuery.Json
