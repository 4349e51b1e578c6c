import Mathlib.Data.List.Forall2
import EntityQuery.Json.Decode

/-!
# Readers that differ in what they make of a text

Two readers may take the same texts up to the same places, with the same faults, and differ in
what they make of them only. It is enough to know this of the fields of a record.

## Main definitions

- `Json.Images` — a reader gives the image of what another one gives
- `Json.Record.Images` — the same for the fields of records, and for how they are finished
- `Json.objectReader`, `Json.membersReader` — an object with something made of its members, and
  the members as they are written

## Main statements

- `Json.Record.Images.reader` — records with such fields have such readers
- `Json.images_dictReader` — a dictionary is made of the members as they are written
-/

namespace EntityQuery.Json

variable {α β σ τ : Type}

/-- The second reader takes what the first one takes, and gives its image. -/
def Images (g : α → β) (reader : Reader α) (reader' : Reader β) : Prop :=
  ∀ n s, reader' n s = (reader n s).map (Prod.map g id)

theorem images_id (reader : Reader α) : Images id reader reader := by
  intro n s
  cases reader n s <;> rfl

theorem Images.decode {g : α → β} {reader : Reader α} {reader' : Reader β}
    (h : Images g reader reader') (text : String) :
    decode reader' text = (decode reader text).map g := by
  rw [Json.decode, Json.decode, readAll, readAll, h]
  cases reader bracketLimit text.toList with
  | error f => rfl
  | ok read =>
    obtain ⟨a, rest⟩ := read
    simp only [Except.map, Prod.map, id]
    cases skipSpace rest <;> rfl

-- ════════════════════════════════════════════════════════════════════════
-- Records
-- ════════════════════════════════════════════════════════════════════════

/-- A field that fills the image of a draft. -/
structure Slot.Images (f : σ → τ) (slot : Slot σ) (slot' : Slot τ) : Prop where
  name : slot'.name = slot.name
  isFilled : ∀ draft, slot'.isFilled (f draft) = slot.isFilled draft
  fill : ∀ draft, Json.Images f (slot.fill draft) (slot'.fill (f draft))

theorem Slot.images_of {f : σ → τ} {g : α → β} {name : String} {get : σ → Option α}
    {set : α → σ → σ} {reader : Reader α} {get' : τ → Option β} {set' : β → τ → τ}
    {reader' : Reader β} (hreader : Json.Images g reader reader')
    (hget : ∀ draft, (get' (f draft)).isSome = (get draft).isSome)
    (hset : ∀ a draft, set' (g a) (f draft) = f (set a draft)) :
    Slot.Images f (.of name get set reader) (.of name get' set' reader') where
  name := rfl
  isFilled := hget
  fill draft n s := by
    simp only [Slot.of, hreader n s]
    cases reader n s with
    | error f => rfl
    | ok read => simp only [Except.map, Prod.map, id, hset]

/-- Records whose fields fill images of each other's drafts. -/
structure Record.Images (f : σ → τ) (g : α → β) (r : Record σ α) (r' : Record τ β) : Prop where
  name : r'.name = r.name
  draft : r'.draft = f r.draft
  slots : List.Forall₂ (Slot.Images f) r.slots r'.slots
  finish : ∀ draft, r'.finish (f draft) = (r.finish draft).map g

namespace Record.Images

variable {f : σ → τ} {g : α → β} {r : Record σ α} {r' : Record τ β}

/-- A key belongs to a field of both records or of none. -/
theorem find?_slot {slots : List (Slot σ)} {slots' : List (Slot τ)}
    (h : List.Forall₂ (Slot.Images f) slots slots') (key : String) :
    (slots.find? (·.name == key) = none ∧ slots'.find? (·.name == key) = none) ∨
      ∃ slot slot', slots.find? (·.name == key) = some slot ∧
        slots'.find? (·.name == key) = some slot' ∧ Slot.Images f slot slot' := by
  induction h with
  | nil => exact .inl ⟨rfl, rfl⟩
  | @cons slot slot' slots slots' hslot _ ih =>
    by_cases hkey : (slot.name == key) = true
    · refine .inr ⟨slot, slot', List.find?_cons_of_pos hkey, List.find?_cons_of_pos ?_, hslot⟩
      rwa [hslot.name]
    · have hkey' : ¬ (slot'.name == key) = true := by rwa [hslot.name]
      simpa only [List.find?_cons, hkey, hkey'] using ih

theorem findIdx_slot {slots : List (Slot σ)} {slots' : List (Slot τ)}
    (h : List.Forall₂ (Slot.Images f) slots slots') (key : String) :
    slots'.findIdx (·.name == key) = slots.findIdx (·.name == key) := by
  induction h with
  | nil => rfl
  | cons hslot _ ih => rw [List.findIdx_cons, List.findIdx_cons, hslot.name, ih]

theorem lengthWords (h : Record.Images f g r r') : r'.lengthWords = r.lengthWords := by
  rw [Record.lengthWords, Record.lengthWords, h.name, h.slots.length_eq]

theorem finishList (h : Record.Images f g r r') (draft : σ) (s : List Char) :
    r'.finishList (f draft) s = (r.finishList draft s).map (Prod.map g id) := by
  rw [Record.finishList, Record.finishList, h.finish, h.lengthWords]
  cases r.finish draft with
  | error name => simp only [Except.map, findIdx_slot h.slots]
  | ok a => rfl

theorem readList (h : Record.Images f g r r') {slots : List (Slot σ)} {slots' : List (Slot τ)}
    (hslots : List.Forall₂ (Slot.Images f) slots slots') (n : Nat) (draft : σ) (first : Bool)
    (s : List Char) : r'.readList n (f draft) slots' first s =
      (r.readList n draft slots first s).map (Prod.map g id) := by
  induction hslots generalizing draft first s with
  | nil =>
    rw [Record.readList, Record.readList]
    cases closeList s with
    | error e => rfl
    | ok rest => exact h.finishList draft rest
  | cons hslot _ ih =>
    rw [Record.readList, Record.readList]
    cases nextItem first s with
    | error e => rfl
    | ok step =>
      cases step with
      | close rest => exact h.finishList draft rest
      | more s =>
        simp only [hslot.fill draft n s]
        cases Slot.fill _ draft n s with
        | error e => rfl
        | ok read => exact ih read.1 false read.2

theorem readMember (h : Record.Images f g r r') (n : Nat) (draft : σ) (key : String)
    (s : List Char) : r'.readMember n (f draft) key s =
      (r.readMember n draft key s).map (Prod.map f id) := by
  rw [Record.readMember, Record.readMember]
  rcases find?_slot h.slots key with ⟨hr, hr'⟩ | ⟨slot, slot', hr, hr', hslot⟩
  · simp only [hr, hr']
    cases (passColon s).bind skipValue <;> rfl
  · simp only [hr, hr', hslot.isFilled]
    split
    · rfl
    · cases passColon s with
      | error e => rfl
      | ok s => exact hslot.fill draft n s

theorem readObject (h : Record.Images f g r r') (n rounds : Nat) (draft : σ) (first : Bool)
    (s : List Char) : r'.readObject n rounds (f draft) first s =
      (r.readObject n rounds draft first s).map (Prod.map g id) := by
  induction rounds generalizing draft first s with
  | zero => rfl
  | succ rounds ih =>
    rw [Record.readObject, Record.readObject]
    cases nextMember first s with
    | error e => rfl
    | ok step =>
      cases step with
      | close rest =>
        simp only [h.finish]
        cases r.finish draft <;> rfl
      | more key =>
        simp only [h.readMember]
        cases readText key with
        | error e => rfl
        | ok read =>
          obtain ⟨key, s⟩ := read
          simp only
          cases r.readMember n draft key s with
          | error e => rfl
          | ok read => exact ih read.1 false read.2

/-- Records with such fields read the same texts. -/
theorem reader (h : Record.Images f g r r') : Json.Images g r.reader r'.reader := by
  intro n s
  simp only [Record.reader]
  split
  · rfl
  · rw [h.draft]
    exact h.readList h.slots _ _ _ _
  · rfl
  · rw [h.draft]
    exact h.readObject _ _ _ _ _
  · rw [h.name]
    rfl

end Record.Images

-- ════════════════════════════════════════════════════════════════════════
-- Dictionaries
-- ════════════════════════════════════════════════════════════════════════

/-- The reader of an object, given what is made of its members as they are written. -/
def objectReader (make : List (String × α) → β) (value : Reader α) : Reader β := fun brackets s =>
  match skipSpace s, brackets with
  | '\x7b' :: rest, 0 => .error (faultPast .tooDeep ('\x7b' :: rest))
  | '\x7b' :: rest, n + 1 =>
    (readMembers (value n) (rest.length + 1) true rest).map fun (members, r) => (make members, r)
  | s, _ => .error (unexpected "a map" s)

/-- The reader of the members of an object as they are written, repeated keys included. -/
def membersReader (value : Reader α) : Reader (List (String × α)) :=
  objectReader id value

theorem dictReader_eq (value : Reader α) : dictReader value = objectReader Dict.ofList value :=
  rfl

theorem images_objectReader (make : List (String × α) → β) (value : Reader α) :
    Images make (membersReader value) (objectReader make value) := by
  intro n s
  simp only [membersReader, objectReader]
  split
  · rfl
  · simp only [Except.map]
    split <;> rfl
  · rfl

theorem images_dictReader (value : Reader α) :
    Images Dict.ofList (membersReader value) (dictReader value) :=
  dictReader_eq value ▸ images_objectReader Dict.ofList value

end EntityQuery.Json
