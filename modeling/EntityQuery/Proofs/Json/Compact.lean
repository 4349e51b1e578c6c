import EntityQuery.Proofs.Json.Rereading
import EntityQuery.Proofs.Json.Written

/-!
# Reading what was written on one line

Texts, finite floating point numbers and objects of them are read back from their compact
text, in front of anything that ends a number. Numbers may come back changed, or be out of
range; then reading fails, and so does reading the objects around them.

## Main definitions

- `Json.Reads` — what a reader makes of a compact text
- `Json.CompactMembers` — a text gives members one after the other

## Main statements

- `Json.reads_float`, `Json.reads_string`, `Json.reads_object` — the kinds of values
- `Json.Reads.decode` — a whole text
-/

namespace EntityQuery.Json

variable {α : Type}

/-- The scanner takes the compact text of a value for something, or fails if that is absent,
  whatever ends the number that the value may be. -/
def Reads (scanner : Scanner α) (j : Json) (a? : Option α) : Prop :=
  ∀ rest, EndsNumber rest → (scanner (j.compactChars ++ rest)).toOption = a?.map fun a => (a, rest)

theorem toOption_eq_some_iff {ε : Type} {x : Except ε α} {a : α} :
    x.toOption = some a ↔ x = .ok a := by
  cases x <;> simp [Except.toOption]

theorem toOption_eq_none_iff {ε : Type} {x : Except ε α} :
    x.toOption = none ↔ ∃ err, x = .error err := by
  cases x <;> simp [Except.toOption]

theorem toOption_map {ε β : Type} {x : Except ε α} {f : α → β} :
    (x.map f).toOption = x.toOption.map f := by
  cases x <;> rfl

theorem endsNumber_cons {c : Char} {tail : List Char} (hdigit : c.isDigit = false) (he : c ≠ 'e')
    (hE : c ≠ 'E') : EndsNumber (c :: tail) := by
  rintro c' tail' ⟨⟩
  exact ⟨hdigit, he, hE⟩

-- ════════════════════════════════════════════════════════════════════════
-- Texts and numbers
-- ════════════════════════════════════════════════════════════════════════

theorem reads_text (t : String) (n : ℕ) : Reads (textReader n) (.string t) (some t) := by
  intro rest hrest
  rw [compactChars, stringChars_append]
  simp only [textReader, skipSpace_cons (c := '"') (by decide), readText_written]
  rfl

theorem reads_string (t : String) (n : ℕ) : Reads (readValue n) (.string t) (some (.string t)) := by
  intro rest hrest
  rw [compactChars, stringChars_append]
  cases n <;>
    simp only [readValue, readValueWith, skipSpace_cons (c := '"') (by decide), readText_written] <;>
    rfl

theorem readValue_number {c : Char} {tail : List Char} (hc : c = '-' ∨ c.isDigit = true) (n : ℕ) :
    readValue n (c :: tail) = (scanNumber (c :: tail)).map fun (m, r) => (.number m, r) := by
  have hne : ∀ d : Char, d ≠ '-' → d.isDigit = false → c ≠ d := by
    rintro d hminus hdigit rfl
    rcases hc with rfl | hc
    · exact hminus rfl
    · rw [hdigit] at hc
      cases hc
  have hspace : isSpace c = false := by
    simp [isSpace, hne ' ' (by decide) (by decide), hne '\n' (by decide) (by decide),
      hne '\t' (by decide) (by decide), hne '\r' (by decide) (by decide)]
  have hnumber : (c = '-' || c.isDigit) = true := by simpa using hc
  have hread : ∀ inner, readValueWith inner (c :: tail) =
      (scanNumber (c :: tail)).map fun (m, r) => (.number m, r) := by
    intro inner
    rw [readValueWith, skipSpace_cons hspace]
    split
    case h_1 heq => cases heq
    case h_8 heq =>
      cases heq
      rw [if_pos hnumber]
    all_goals
      rename_i heq
      exact absurd (List.cons.inj heq).1 (hne _ (by decide) (by decide))
  cases n <;> exact hread _

/-- A finite number is read back as the double that its text is read as. -/
theorem reads_float {x : Double} (hx : x.isFinite = true) (n : ℕ) :
    Reads (readValue n) (.number (.float x)) (x.reread?.map fun y => .number (.float y)) := by
  intro rest hrest
  have hscan := Double.scanNumber_toText hx hrest
  obtain ⟨c, tail, htext, hc⟩ : ∃ c tail, (x.toText .json).toList = c :: tail ∧
      (c = '-' ∨ c.isDigit = true) := by
    rw [Double.toList_toText hx]
    split
    · exact ⟨_, _, rfl, .inl rfl⟩
    · obtain ⟨c, tail, hcons, hc⟩ := Double.exists_digit_magnitudeChars .json x
      exact ⟨c, tail, hcons, .inr hc⟩
  rw [compactChars, Number.chars]
  rw [htext, List.cons_append] at hscan ⊢
  rw [readValue_number hc, hscan]
  cases x.reread? <;> rfl

-- ════════════════════════════════════════════════════════════════════════
-- Objects
-- ════════════════════════════════════════════════════════════════════════

/-- The text gives the members one after the other and goes on after the closing bracket.
  The flag says whether the next member is the first one. -/
inductive CompactMembers : Bool → List (String × Json) → List Char → List Char → Prop
  | close {first t s} (hnext : nextMember first t = .ok (.close s)) : CompactMembers first [] t s
  | more {first t u v s key j members} (hnext : nextMember first t = .ok (.more u))
    (hkey : readText u = .ok (key, ':' :: (j.compactChars ++ v))) (hends : EndsNumber v)
    (hrest : CompactMembers false members v s) : CompactMembers first ((key, j) :: members) t s

theorem nextMember_compact_first (key : String) (s : List Char) :
    nextMember true (stringChars key ++ s) =
      .ok (.more (key.toList.flatMap escapedChar ++ '"' :: s)) := by
  rw [nextMember, stringChars_append, skipSpace_cons (by decide)]
  rfl

theorem nextMember_compact_further (key : String) (s : List Char) :
    nextMember false (',' :: (stringChars key ++ s)) =
      .ok (.more (key.toList.flatMap escapedChar ++ '"' :: s)) := by
  rw [nextMember, skipSpace_cons (by decide)]
  simp only [Bool.false_eq_true, ↓reduceIte]
  rw [stringChars_append, skipSpace_cons (by decide)]
  rfl

theorem endsNumber_compactMembers (members : List (String × Json)) (s : List Char) :
    EndsNumber (compactMembers members ++ '\x7d' :: s) := by
  cases members <;> exact endsNumber_cons (by decide) (by decide) (by decide)

theorem compactMembers_further (members : List (String × Json)) (s : List Char) :
    CompactMembers false members (compactMembers members ++ '\x7d' :: s) s := by
  induction members with
  | nil => exact .close (nextMember_close (skipSpace_cons (by decide)) _)
  | cons m members ih =>
    obtain ⟨key, j⟩ := m
    simp only [compactMembers, List.cons_append, List.append_assoc]
    exact .more (nextMember_compact_further _ _) (readText_written _ _)
      (endsNumber_compactMembers _ _) ih

theorem length_le_compactMembers (members : List (String × Json)) :
    members.length ≤ (compactMembers members).length := by
  induction members with
  | nil => simp
  | cons m members ih =>
    simp only [compactMembers, List.length_cons, List.cons_append, List.length_append]
    omega

theorem compactMembers_written (members : List (String × Json)) (s : List Char) :
    ∃ t, (Json.object members).compactChars ++ s = '\x7b' :: t ∧ CompactMembers true members t s ∧
      members.length ≤ t.length := by
  cases members with
  | nil => exact ⟨'\x7d' :: s, rfl, .close (nextMember_close (skipSpace_cons (by decide)) _), by simp⟩
  | cons m members =>
    obtain ⟨key, j⟩ := m
    refine ⟨stringChars key ++ ':' :: (j.compactChars ++ (compactMembers members ++ '\x7d' :: s)),
      by simp [compactChars], ?_, ?_⟩
    · exact .more (nextMember_compact_first _ _) (readText_written _ _)
        (endsNumber_compactMembers _ _) (compactMembers_further _ _)
    · have hlength := length_le_compactMembers members
      simp only [List.length_append, List.length_cons]
      omega

theorem readMembers_compact {value : Scanner α} {reread : Json → Option α} {first : Bool}
    {members : List (String × Json)} {t s : List Char} (ht : CompactMembers first members t s)
    (h : ∀ m ∈ members, Reads value m.2 (reread m.2)) {n : ℕ} (hn : members.length < n) :
    (readMembers value n first t).toOption =
      (members.mapM fun m => (reread m.2).map fun a => (m.1, a)).map fun as => (as, s) := by
  obtain ⟨n, rfl⟩ : ∃ k, n = k + 1 := Nat.exists_eq_succ_of_ne_zero (by omega)
  induction ht generalizing n with
  | close hnext =>
    simp only [readMembers, hnext]
    rfl
  | @more _ _ _ v s key j members hnext hkey hends _ ih =>
    obtain ⟨hj, hmembers⟩ := List.forall_mem_cons.1 h
    simp only [List.length_cons] at hn
    obtain ⟨k, rfl⟩ : ∃ k, n = k + 1 := Nat.exists_eq_succ_of_ne_zero (by omega)
    have hrest := ih hmembers k (by omega)
    have hvalue := hj v hends
    rw [readMembers.eq_def]
    simp only [hnext, hkey, passColon_cons, List.mapM_cons]
    cases hreread : reread j with
    | none =>
      rw [hreread] at hvalue
      obtain ⟨f, hf⟩ := toOption_eq_none_iff.1 hvalue
      rw [hf]
      rfl
    | some a =>
      rw [hreread] at hvalue
      rw [toOption_eq_some_iff.1 hvalue]
      cases hmapped : members.mapM fun m => (reread m.2).map fun a => (m.1, a) with
      | none =>
        rw [hmapped] at hrest
        obtain ⟨f, hf⟩ := toOption_eq_none_iff.1 hrest
        simp [hf, Except.toOption]
      | some as =>
        rw [hmapped] at hrest
        have hok := toOption_eq_some_iff.1 hrest
        simp [hok, Except.toOption]

/-- An object is read back if its members are. -/
theorem reads_object {n : ℕ} {reread : Json → Option Json} {members : List (String × Json)}
    (h : ∀ m ∈ members, Reads (readValue n) m.2 (reread m.2)) :
    Reads (readValue (n + 1)) (.object members)
      ((members.mapM fun m => (reread m.2).map fun j => (m.1, j)).map fun as =>
        .object (collect as)) := by
  intro rest hrest
  obtain ⟨t, ht, hmembers, hlength⟩ := compactMembers_written members rest
  have hread := readMembers_compact hmembers h (Nat.lt_succ_of_le hlength)
  rw [ht, readValue, readValueWith, skipSpace_cons (by decide)]
  show (Except.map _ _).toOption = _
  rw [toOption_map, hread, Option.map_map, Option.map_map]
  rfl

/-- A whole text is read back. -/
theorem Reads.decode {reader : Reader α} {j : Json} {a? : Option α}
    (h : Reads (reader bracketLimit) j a?) : (decode reader j.compact).toOption = a? := by
  have hread := h [] nofun
  rw [List.append_nil] at hread
  rw [Json.decode, readAll, compact, String.toList_ofList]
  cases a? with
  | none =>
    obtain ⟨f, hf⟩ := toOption_eq_none_iff.1 hread
    rw [hf]
    rfl
  | some a =>
    rw [toOption_eq_some_iff.1 hread]
    rfl

end EntityQuery.Json
