import Mathlib.Tactic.SplitIfs
import EntityQuery.Proofs.Json.Image

/-!
# Reading what was written

A value that is written over several lines is read back, whatever follows it. Numbers are
left out: their texts do not tell where they end.

## Main definitions

- `Json.Scans` — a reader takes a written value for something
- `Json.Nests` — a value without numbers and with brackets up to some depth
- `Json.Represents` — a value stands for something of a known form
- `Json.Record.Fills` — the members of an object fill the fields of a record

## Main statements

- `Json.readText_written` — every string is read back, control characters included
- `Json.Nests.exists_scans` — any value without numbers can be read back
- `Json.represents_list`, `Json.represents_members`, `Json.represents_record` — lists,
  the members of objects, and records are read back if their parts are
-/

namespace EntityQuery.Json

/-- The scanner takes a written value for `a`, at any depth of indentation, behind blanks
  and in front of any text. -/
def Scans {α : Type} (scanner : Scanner α) (j : Json) (a : α) : Prop :=
  ∀ depth s rest, skipSpace s = j.prettyChars depth ++ rest → scanner s = .ok (a, rest)

/-- A value without numbers that opens at most so many brackets inside each other. -/
inductive Nests : Nat → Json → Prop
  | null {n} : Nests n .null
  | bool {n b} : Nests n (.bool b)
  | string {n s} : Nests n (.string s)
  | array {n items} (h : ∀ j ∈ items, Nests n j) : Nests (n + 1) (.array items)
  | object {n members} (h : ∀ m ∈ members, Nests n m.2) : Nests (n + 1) (.object members)

-- ════════════════════════════════════════════════════════════════════════
-- Blanks
-- ════════════════════════════════════════════════════════════════════════

theorem skipSpace_cons {c : Char} {s : List Char} (h : isSpace c = false) :
    skipSpace (c :: s) = c :: s := by
  rw [skipSpace, List.dropWhile_cons, h]
  rfl

theorem skipSpace_space (s : List Char) : skipSpace (' ' :: s) = skipSpace s := by
  rw [skipSpace, List.dropWhile_cons]
  rfl

theorem skipSpace_indentation (depth : Nat) (s : List Char) :
    skipSpace (indentation depth ++ s) = skipSpace s := by
  have hblank : ∀ c ∈ indentation depth, isSpace c = true := by
    intro c hc
    rcases List.mem_cons.1 hc with rfl | hc
    · rfl
    · rw [List.eq_of_mem_replicate hc]
      rfl
  exact List.dropWhile_append_of_pos hblank

-- ════════════════════════════════════════════════════════════════════════
-- Strings
-- ════════════════════════════════════════════════════════════════════════

theorem hexValue?_digitChar : ∀ n < 16, Text.hexValue? (Nat.digitChar n) = some n := by
  decide

theorem scanString_letter {c letter : Char} (h : escapeLetter? letter = some c) (s : List Char) :
    scanString .plain ('\\' :: letter :: s) = consChar c (scanString .plain s) := by
  have hu : letter ≠ 'u' := by
    rintro rfl
    cases h
  rw [scanString.eq_def]
  simp only [Char.reduceEq, ↓reduceIte]
  rw [scanString.eq_def]
  simp only [hu, ↓reduceIte, h]

/-- A code below 256 in four digits, the first two being zero. -/
theorem scanString_code {high low : Nat} (hhigh : high < 16) (hlow : low < 16) (s : List Char) :
    scanString .plain ('\\' :: 'u' :: '0' :: '0' :: Nat.digitChar high :: Nat.digitChar low :: s) =
      consChar (Char.ofNat (16 * high + low)) (scanString .plain s) := by
  have hzero : Text.hexValue? '0' = some 0 := by decide
  have hlower : isLowSurrogate (16 * high + low) = false := by
    simp only [isLowSurrogate, Bool.and_eq_false_imp, decide_eq_true_eq]
    omega
  have hupper : isHighSurrogate (16 * high + low) = false := by
    simp only [isHighSurrogate, Bool.and_eq_false_imp, decide_eq_true_eq]
    omega
  simp [scanString, hzero, hexValue?_digitChar high hhigh, hexValue?_digitChar low hlow, hlower,
    hupper]

/-- A character is read back from its written form. -/
theorem scanString_escapedChar (c : Char) (s : List Char) :
    scanString .plain (escapedChar c ++ s) = consChar c (scanString .plain s) := by
  rw [escapedChar]
  split_ifs with hquote hbackslash hbackspace hfeed hline hreturn htab hcontrol
  · exact scanString_letter (by subst hquote; rfl) s
  · exact scanString_letter (by subst hbackslash; rfl) s
  · exact scanString_letter (by subst hbackspace; rfl) s
  · exact scanString_letter (by subst hfeed; rfl) s
  · exact scanString_letter (by subst hline; rfl) s
  · exact scanString_letter (by subst hreturn; rfl) s
  · exact scanString_letter (by subst htab; rfl) s
  · have hcode : Char.ofNat (16 * (c.toNat / 16) + c.toNat % 16) = c := by
      rw [Nat.div_add_mod, Char.ofNat_toNat]
    have hhigh : c.toNat / 16 < 16 := by omega
    have hlow : c.toNat % 16 < 16 := by omega
    have hread := scanString_code hhigh hlow s
    rwa [hcode] at hread
  · rw [List.singleton_append, scanString.eq_def]
    simp only [hquote, hbackslash, hcontrol, ↓reduceIte]

/-- A string is read back up to and with its closing quote. -/
theorem scanString_escaped (cs s : List Char) :
    scanString .plain (cs.flatMap escapedChar ++ '"' :: s) = .ok (cs, s) := by
  induction cs with
  | nil => rfl
  | cons c cs ih =>
    rw [List.flatMap_cons, List.append_assoc, scanString_escapedChar, ih]
    rfl

theorem readText_written (t : String) (s : List Char) :
    readText (t.toList.flatMap escapedChar ++ '"' :: s) = .ok (t, s) := by
  rw [readText, scanString_escaped]
  simp

-- ════════════════════════════════════════════════════════════════════════
-- Lists
-- ════════════════════════════════════════════════════════════════════════

/-- The text of the value begins with a character that can begin an item. -/
def Opens (j : Json) : Prop :=
  ∀ depth, ∃ c tail, j.prettyChars depth = c :: tail ∧ isSpace c = false ∧ c ≠ ',' ∧ c ≠ ']'

theorem Nests.opens {n : Nat} {j : Json} (h : Nests n j) : Opens j := by
  intro depth
  cases h with
  | null => exact ⟨_, _, rfl, by decide⟩
  | @bool _ b => cases b <;> exact ⟨_, _, rfl, by decide⟩
  | string => exact ⟨_, _, rfl, by decide⟩
  | @array _ items h => cases items <;> exact ⟨_, _, rfl, by decide⟩
  | @object _ members h => cases members <;> exact ⟨_, _, rfl, by decide⟩

theorem Opens.skipSpace {j : Json} (h : Opens j) (depth : Nat) (s : List Char) :
    skipSpace (j.prettyChars depth ++ s) = j.prettyChars depth ++ s := by
  obtain ⟨c, tail, hj, hc, -⟩ := h depth
  rw [hj, List.cons_append, skipSpace_cons hc]

theorem nextItem_close {t s : List Char} (h : skipSpace t = ']' :: s) (first : Bool) :
    nextItem first t = .ok (.close s) := by
  rw [nextItem, h]
  rfl

theorem nextItem_first {j : Json} (h : Opens j) (depth depth' : Nat) (s : List Char) :
    nextItem true (indentation depth ++ (j.prettyChars depth' ++ s)) =
      .ok (.more (j.prettyChars depth' ++ s)) := by
  rw [nextItem, skipSpace_indentation, h.skipSpace]
  obtain ⟨c, tail, hj, -, hcomma, hbracket⟩ := h depth'
  rw [hj, List.cons_append]
  split <;> simp_all

theorem nextItem_further {j : Json} (h : Opens j) (depth depth' : Nat) (s : List Char) :
    nextItem false (',' :: (indentation depth ++ (j.prettyChars depth' ++ s))) =
      .ok (.more (j.prettyChars depth' ++ s)) := by
  rw [nextItem, skipSpace_cons (by decide)]
  simp only [Bool.false_eq_true, ↓reduceIte]
  rw [skipSpace_indentation, h.skipSpace]
  obtain ⟨c, tail, hj, -, hcomma, hbracket⟩ := h depth'
  rw [hj, List.cons_append]
  split <;> simp_all

theorem readItems_more {α : Type} {item : Scanner α} {n : Nat} {first : Bool} {s t u v : List Char}
    {a : α} {as : List α} (hnext : nextItem first s = .ok (.more t)) (hitem : item t = .ok (a, u))
    (hrest : readItems item n false u = .ok (as, v)) :
    readItems item (n + 1) first s = .ok (a :: as, v) := by
  simp only [readItems, hnext, hitem, hrest]

variable {α : Type} {item : Scanner α} {items : List Json} {as : List α}

/-- Items after the first one are read back. -/
theorem readItems_further (h : List.Forall₂ (Scans item) items as) (hopens : ∀ j ∈ items, Opens j)
    (depth depth' : Nat) (s : List Char) {n : Nat} (hn : items.length < n) :
    readItems item n false (prettyItems depth items ++ (indentation depth' ++ ']' :: s)) =
      .ok (as, s) := by
  obtain ⟨n, rfl⟩ : ∃ k, n = k + 1 := Nat.exists_eq_succ_of_ne_zero (by omega)
  induction h generalizing n with
  | nil =>
    have hclose : skipSpace (indentation depth' ++ ']' :: s) = ']' :: s := by
      rw [skipSpace_indentation, skipSpace_cons (by decide)]
    rw [prettyItems, List.nil_append, readItems, nextItem_close hclose]
  | @cons j a items as hitem _ ih =>
    obtain ⟨hj, hitems⟩ := List.forall_mem_cons.1 hopens
    simp only [List.length_cons] at hn
    obtain ⟨k, rfl⟩ : ∃ k, n = k + 1 := Nat.exists_eq_succ_of_ne_zero (by omega)
    simp only [prettyItems, List.cons_append, List.append_assoc]
    exact readItems_more (nextItem_further hj _ _ _) (hitem depth _ _ (hj.skipSpace _ _))
      (ih hitems k (by omega))

theorem length_le_prettyItems (depth : Nat) (items : List Json) :
    items.length ≤ (prettyItems depth items).length := by
  induction items with
  | nil => simp
  | cons j items ih =>
    simp only [prettyItems, List.length_cons, List.cons_append, List.length_append]
    omega

/-- The items of a list are read back after its opening bracket. -/
theorem readItems_written (h : List.Forall₂ (Scans item) items as)
    (hopens : ∀ j ∈ items, Opens j) (depth : Nat) (s : List Char) :
    ∃ t, (Json.array items).prettyChars depth ++ s = '[' :: t ∧
      readItems item (t.length + 1) true t = .ok (as, s) := by
  cases h with
  | nil =>
    refine ⟨']' :: s, rfl, ?_⟩
    rw [readItems, nextItem_close (skipSpace_cons (by decide))]
  | @cons j a items as hitem hitems =>
    obtain ⟨hj, hrest⟩ := List.forall_mem_cons.1 hopens
    refine ⟨indentation (depth + 1) ++ (j.prettyChars (depth + 1) ++
      (prettyItems (depth + 1) items ++ (indentation depth ++ ']' :: s))), ?_, ?_⟩
    · simp [prettyChars]
    · refine readItems_more (nextItem_first hj _ _ _) (hitem (depth + 1) _ _ (hj.skipSpace _ _))
        (readItems_further hitems hrest _ _ _ ?_)
      have hlength := length_le_prettyItems (depth + 1) items
      simp only [List.length_append, List.length_cons]
      omega

-- ════════════════════════════════════════════════════════════════════════
-- Objects
-- ════════════════════════════════════════════════════════════════════════

/-- The text gives the members one after the other and goes on after the closing bracket.
  The flag says whether the next member is the first one. -/
inductive Members (depth : Nat) : Bool → List (String × Json) → List Char → List Char → Prop
  | close {first t s} (hnext : nextMember first t = .ok (.close s)) : Members depth first [] t s
  | more {first t u v s key j members} (hnext : nextMember first t = .ok (.more u))
    (hkey : readText u = .ok (key, ':' :: ' ' :: (j.prettyChars depth ++ v)))
    (hrest : Members depth false members v s) : Members depth first ((key, j) :: members) t s

theorem nextMember_close {t s : List Char} (h : skipSpace t = '\x7d' :: s) (first : Bool) :
    nextMember first t = .ok (.close s) := by
  rw [nextMember, h]
  rfl

theorem stringChars_append (key : String) (s : List Char) :
    stringChars key ++ s = '"' :: (key.toList.flatMap escapedChar ++ '"' :: s) := by
  simp [stringChars]

theorem nextMember_first (depth : Nat) (key : String) (s : List Char) :
    nextMember true (indentation depth ++ (stringChars key ++ s)) =
      .ok (.more (key.toList.flatMap escapedChar ++ '"' :: s)) := by
  rw [nextMember, skipSpace_indentation, stringChars_append, skipSpace_cons (by decide)]
  rfl

theorem nextMember_further (depth : Nat) (key : String) (s : List Char) :
    nextMember false (',' :: (indentation depth ++ (stringChars key ++ s))) =
      .ok (.more (key.toList.flatMap escapedChar ++ '"' :: s)) := by
  rw [nextMember, skipSpace_cons (by decide)]
  simp only [Bool.false_eq_true, ↓reduceIte]
  rw [skipSpace_indentation, stringChars_append, skipSpace_cons (by decide)]
  rfl

theorem members_further (depth depth' : Nat) (members : List (String × Json)) (s : List Char) :
    Members depth false members
      (prettyMembers depth members ++ (indentation depth' ++ '\x7d' :: s)) s := by
  induction members with
  | nil =>
    refine .close (nextMember_close ?_ _)
    rw [prettyMembers, List.nil_append, skipSpace_indentation, skipSpace_cons (by decide)]
  | cons m members ih =>
    obtain ⟨key, j⟩ := m
    simp only [prettyMembers, List.cons_append, List.append_assoc]
    exact .more (nextMember_further _ _ _) (readText_written _ _) ih

theorem length_le_prettyMembers (depth : Nat) (members : List (String × Json)) :
    members.length ≤ (prettyMembers depth members).length := by
  induction members with
  | nil => simp
  | cons m members ih =>
    simp only [prettyMembers, List.length_cons, List.cons_append, List.length_append]
    omega

/-- The members of an object follow its opening bracket. -/
theorem members_written (members : List (String × Json)) (depth : Nat) (s : List Char) :
    ∃ t, (Json.object members).prettyChars depth ++ s = '\x7b' :: t ∧
      Members (depth + 1) true members t s ∧ members.length ≤ t.length := by
  cases members with
  | nil => exact ⟨'\x7d' :: s, rfl, .close (nextMember_close (skipSpace_cons (by decide)) _), by simp⟩
  | cons m members =>
    obtain ⟨key, j⟩ := m
    refine ⟨indentation (depth + 1) ++ (stringChars key ++ ':' :: ' ' ::
      (j.prettyChars (depth + 1) ++ (prettyMembers (depth + 1) members ++
        (indentation depth ++ '\x7d' :: s)))), by simp [prettyChars], ?_, ?_⟩
    · exact .more (nextMember_first _ _ _) (readText_written _ _) (members_further _ _ _ _)
    · have hlength := length_le_prettyMembers (depth + 1) members
      simp only [List.length_append, List.length_cons]
      omega

theorem passColon_cons (s : List Char) : passColon (':' :: s) = .ok s := by
  rw [passColon, skipSpace_cons (by decide)]
  rfl

/-- A member is written under the key it is read under, and its value is taken for the
  value that is read. -/
def ScansMember {α : Type} (value : Scanner α) (m : String × Json) (a : String × α) : Prop :=
  m.1 = a.1 ∧ Scans value m.2 a.2

/-- A value behind a colon and a blank is read back in front of what follows. -/
theorem Scans.eq_ok {α : Type} {scanner : Scanner α} {j : Json} {a : α} (h : Scans scanner j a)
    (hj : Opens j) (depth : Nat) (s : List Char) :
    scanner (' ' :: (j.prettyChars depth ++ s)) = .ok (a, s) :=
  h depth _ _ (by rw [skipSpace_space, hj.skipSpace])

theorem readMembers_written {α : Type} {value : Scanner α} {depth : Nat} {first : Bool}
    {members : List (String × Json)} {as : List (String × α)} {t s : List Char}
    (ht : Members depth first members t s) (h : List.Forall₂ (ScansMember value) members as)
    (hopens : ∀ m ∈ members, Opens m.2) {n : Nat} (hn : members.length < n) :
    readMembers value n first t = .ok (as, s) := by
  obtain ⟨n, rfl⟩ : ∃ k, n = k + 1 := Nat.exists_eq_succ_of_ne_zero (by omega)
  induction ht generalizing n as with
  | close hnext =>
    cases h
    simp only [readMembers, hnext]
  | more hnext hkey _ ih =>
    obtain ⟨⟨key, a⟩, as, ⟨rfl, ha⟩, has, rfl⟩ := List.forall₂_cons_left_iff.1 h
    obtain ⟨hj, hmembers⟩ := List.forall_mem_cons.1 hopens
    simp only [List.length_cons] at hn
    obtain ⟨k, rfl⟩ : ∃ k, n = k + 1 := Nat.exists_eq_succ_of_ne_zero (by omega)
    have hrest := ih has hmembers k (by omega)
    rw [readMembers.eq_def]
    simp only [hnext, hkey, passColon_cons, ha.eq_ok hj, hrest]

-- ════════════════════════════════════════════════════════════════════════
-- Values of any form
-- ════════════════════════════════════════════════════════════════════════

theorem scans_value_string (n : Nat) (t : String) :
    Scans (readValue n) (.string t) (.string t) := by
  intro depth s rest hs
  rw [prettyChars, stringChars_append] at hs
  cases n <;> simp only [readValue, readValueWith, hs, readText_written, Except.map]

theorem scans_value_null (inner : Option (Scanner Json)) :
    Scans (readValueWith inner) .null .null := by
  intro depth s rest hs
  rw [readValueWith, hs]
  rfl

theorem scans_value_bool (inner : Option (Scanner Json)) (b : Bool) :
    Scans (readValueWith inner) (.bool b) (.bool b) := by
  intro depth s rest hs
  rw [readValueWith, hs]
  cases b <;> rfl

theorem scans_value_array {n : Nat} {items as : List Json}
    (h : List.Forall₂ (Scans (readValue n)) items as) (hopens : ∀ j ∈ items, Opens j) :
    Scans (readValue (n + 1)) (.array items) (.array as) := by
  intro depth s rest hs
  obtain ⟨t, ht, hread⟩ := readItems_written h hopens depth rest
  rw [ht] at hs
  simp only [readValue, readValueWith, hs, hread, Except.map]

theorem scans_value_object {n : Nat} {members as : List (String × Json)}
    (h : List.Forall₂ (ScansMember (readValue n)) members as) (hopens : ∀ m ∈ members, Opens m.2) :
    Scans (readValue (n + 1)) (.object members) (.object (collect as)) := by
  intro depth s rest hs
  obtain ⟨t, ht, hmembers, hlength⟩ := members_written members depth rest
  have hread := readMembers_written hmembers h hopens (Nat.lt_succ_of_le hlength)
  rw [ht] at hs
  simp only [readValue, readValueWith, hs, hread, Except.map]

/-- A value without numbers is read back as some value, if enough brackets may be opened. -/
theorem Nests.exists_scans {n : Nat} {j : Json} (h : Nests n j) :
    ∃ v, Scans (readValue n) j v := by
  induction h with
  | @null n => cases n <;> exact ⟨_, scans_value_null _⟩
  | @bool n b => cases n <;> exact ⟨_, scans_value_bool _ b⟩
  | @string n t => exact ⟨_, scans_value_string n t⟩
  | @array n items hitems ih =>
    choose! read hread using ih
    have hforall : List.Forall₂ (Scans (readValue n)) items (items.map read) :=
      List.forall₂_map_right_iff.2 (List.forall₂_same.2 hread)
    exact ⟨_, scans_value_array hforall fun j hj => (hitems j hj).opens⟩
  | @object n members hmembers ih =>
    choose! read hread using ih
    have hforall : List.Forall₂ (ScansMember (readValue n)) members
        (members.map fun m => (m.1, read m)) :=
      List.forall₂_map_right_iff.2 (List.forall₂_same.2 fun m hm => ⟨rfl, hread m hm⟩)
    exact ⟨_, scans_value_object hforall fun m hm => (hmembers m hm).opens⟩

-- ════════════════════════════════════════════════════════════════════════
-- Values of a known form
-- ════════════════════════════════════════════════════════════════════════

/-- A value stands for `a` with a reader that may open `k` brackets or more. -/
structure Represents {α : Type} (reader : Reader α) (k : Nat) (j : Json) (a : α) : Prop where
  nests : ∀ n, Nests (n + k) j
  scans : ∀ n, Scans (reader (n + k)) j a

theorem Represents.opens {reader : Reader α} {k : Nat} {j : Json} {a : α}
    (h : Represents reader k j a) : Opens j :=
  (h.nests 0).opens

theorem Represents.mono {reader : Reader α} {k k' : Nat} {j : Json} {a : α}
    (h : Represents reader k j a) (hk : k ≤ k') : Represents reader k' j a := by
  obtain ⟨i, rfl⟩ := Nat.exists_eq_add_of_le' hk
  constructor <;> intro n <;> rw [← Nat.add_assoc]
  · exact h.nests (n + i)
  · exact h.scans (n + i)

theorem scans_text (t : String) (n : Nat) : Scans (textReader n) (.string t) t := by
  intro depth s rest hs
  rw [prettyChars, stringChars_append] at hs
  simp only [textReader, hs, readText_written]

theorem represents_text (t : String) : Represents textReader 0 (.string t) t :=
  ⟨fun _ => .string, scans_text t⟩

theorem represents_optional_text (t : String) :
    Represents (optionalReader textReader) 0 (.string t) (some t) := by
  refine ⟨fun _ => .string, fun n depth s rest hs => ?_⟩
  have hread : textReader n (skipSpace s) = .ok (t, rest) := by
    refine scans_text t n depth _ rest ?_
    rw [hs, prettyChars, stringChars_append, skipSpace_cons (by decide)]
  rw [prettyChars, stringChars_append] at hs
  rw [hs] at hread
  rw [optionalReader, hs]
  change (textReader n _).map _ = _
  rw [hread]
  rfl

theorem represents_choice {choices : List (String × α)} {name : String} {a : α}
    (h : Entries.find? name choices = some a) :
    Represents (choiceReader choices) 0 (.string name) a := by
  refine ⟨fun _ => .string, fun n depth s rest hs => ?_⟩
  rw [prettyChars, stringChars_append] at hs
  simp only [choiceReader, hs, readName, readText_written, h]

variable {reader : Reader α} {k : Nat} {toJson : α → Json}

/-- A list is read back if its items are. -/
theorem represents_list (h : ∀ a, Represents reader k (toJson a) a) (as : List α) :
    Represents (listReader reader) (k + 1) (.array (as.map toJson)) as := by
  refine ⟨fun n => .array (List.forall_mem_map.2 fun a _ => (h a).nests n), ?_⟩
  intro n depth s rest hs
  have hforall : List.Forall₂ (Scans (reader (n + k))) (as.map toJson) as :=
    List.forall₂_map_left_iff.2 (List.forall₂_same.2 fun a _ => (h a).scans n)
  have hopens : ∀ j ∈ as.map toJson, Opens j := List.forall_mem_map.2 fun a _ => (h a).opens
  obtain ⟨t, ht, hread⟩ := readItems_written hforall hopens depth rest
  rw [ht] at hs
  simp only [listReader, ← Nat.add_assoc, hs, hread]

/-- The members of an object are read back if their values are. -/
theorem represents_members (h : ∀ a, Represents reader k (toJson a) a)
    (entries : List (String × α)) : Represents (membersReader reader) (k + 1)
      (.object (entries.map fun e => (e.1, toJson e.2))) entries := by
  refine ⟨fun n => .object (List.forall_mem_map.2 fun e _ => (h e.2).nests n), ?_⟩
  intro n depth s rest hs
  have hforall : List.Forall₂ (ScansMember (reader (n + k)))
      (entries.map fun e => (e.1, toJson e.2)) entries :=
    List.forall₂_map_left_iff.2 (List.forall₂_same.2 fun e _ => ⟨rfl, (h e.2).scans n⟩)
  have hopens : ∀ m ∈ entries.map fun e => (e.1, toJson e.2), Opens m.2 :=
    List.forall_mem_map.2 fun e _ => (h e.2).opens
  obtain ⟨t, ht, hmembers, hlength⟩ :=
    members_written (entries.map fun e => (e.1, toJson e.2)) depth rest
  have hread := readMembers_written hmembers hforall hopens (Nat.lt_succ_of_le hlength)
  rw [ht] at hs
  simp only [membersReader, objectReader, ← Nat.add_assoc, hs, hread, Except.map, id]

-- ════════════════════════════════════════════════════════════════════════
-- Records
-- ════════════════════════════════════════════════════════════════════════

variable {σ : Type} {r : Record σ α}

/-- The members fill the fields of a draft, each one a field that is still empty. -/
inductive Record.Fills (r : Record σ α) (k : Nat) : σ → List (String × Json) → σ → Prop
  | nil {draft} : Fills r k draft [] draft
  | cons {β : Type} {name get set j draft members last} {reader : Reader β} {b : β}
    (hslot : r.slots.find? (·.name == name) = some (.of name get set reader))
    (hempty : get draft = none) (hfield : Represents reader k j b)
    (hrest : Fills r k (set b draft) members last) : Fills r k draft ((name, j) :: members) last

theorem Record.Fills.nests {draft last : σ} {members : List (String × Json)}
    (h : r.Fills k draft members last) (n : Nat) : ∀ m ∈ members, Nests (n + k) m.2 := by
  induction h with
  | nil => simp
  | cons _ _ hfield _ ih => exact List.forall_mem_cons.2 ⟨hfield.nests n, ih⟩

theorem Record.readMember_of_reader {β : Type} {name : String} {get : σ → Option β}
    {set : β → σ → σ} {reader : Reader β} {draft : σ} {b : β} {n : Nat} {s rest : List Char}
    (hslot : r.slots.find? (·.name == name) = some (.of name get set reader))
    (hempty : get draft = none) (hread : reader n s = .ok (b, rest)) :
    r.readMember n draft name (':' :: s) = .ok (set b draft, rest) := by
  have hisEmpty : (get draft).isSome = false := by rw [hempty, Option.isSome_none]
  simp only [readMember, hslot, Slot.of, hisEmpty, Bool.false_eq_true, ↓reduceIte, passColon_cons,
    Except.bind, hread, Except.map]

theorem Record.Fills.readObject_written {draft last : σ} {members : List (String × Json)}
    (h : r.Fills k draft members last) {a : α} (hfinish : r.finish last = .ok a) {depth : Nat}
    {first : Bool} {t s : List Char} (ht : Members depth first members t s) (n : Nat)
    {rounds : Nat} (hrounds : members.length < rounds) :
    r.readObject (n + k) rounds draft first t = .ok (a, s) := by
  obtain ⟨rounds, rfl⟩ : ∃ i, rounds = i + 1 := Nat.exists_eq_succ_of_ne_zero (by omega)
  induction ht generalizing rounds draft with
  | close hnext =>
    cases h
    simp only [Record.readObject, hnext, hfinish]
  | @more _ _ _ v _ _ _ _ hnext hkey _ ih =>
    cases h with
    | cons hslot hempty hfield hrest =>
      simp only [List.length_cons] at hrounds
      obtain ⟨i, rfl⟩ : ∃ i, rounds = i + 1 := Nat.exists_eq_succ_of_ne_zero (by omega)
      have hrest := ih hrest i (by omega)
      have hread := readMember_of_reader hslot hempty ((hfield.scans n).eq_ok hfield.opens depth v)
      rw [Record.readObject.eq_def]
      simp only [hnext, hkey, hread, hrest]

/-- A record is read back if its members fill the fields it is finished with. -/
theorem represents_record {last : σ} {members : List (String × Json)} {a : α}
    (h : r.Fills k r.draft members last) (hfinish : r.finish last = .ok a) :
    Represents r.reader (k + 1) (.object members) a := by
  refine ⟨fun n => .object (h.nests n), ?_⟩
  intro n depth s rest hs
  obtain ⟨t, ht, hmembers, hlength⟩ := members_written members depth rest
  have hread := h.readObject_written hfinish hmembers n (Nat.lt_succ_of_le hlength)
  rw [ht] at hs
  simp only [Record.reader, ← Nat.add_assoc, hs, hread]

end EntityQuery.Json
