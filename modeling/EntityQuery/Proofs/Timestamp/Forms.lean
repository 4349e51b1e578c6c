import Mathlib.Data.List.TakeWhile
import Mathlib.Data.Option.Basic
import EntityQuery.Timestamp
import EntityQuery.Proofs.Json.Numbers

/-!
# The forms of timestamps

A timestamp is written in pieces: year, month, day, hour, minute and second, then perhaps a
fraction and an offset. A form says how the pieces are written. A text can be taken apart in
one way only, so it denotes one timestamp at most, and the two readers find this timestamp
exactly if it is real.

## Main definitions

- `Timestamp.Pieces` — the pieces of a text
- `Timestamp.Form` — how the pieces up to the second are written
- `Timestamp.Denotes` — a text is written in pieces that say this timestamp

## Main statements

- `Timestamp.Pieces.unique` — a text has one division into pieces
- `Timestamp.Denotes.unique` — a text denotes one timestamp
- `Timestamp.ofText?_eq_some_iff` — a text is read as the real timestamp it denotes
-/

namespace EntityQuery.Timestamp

open DecimalText

-- ════════════════════════════════════════════════════════════════════════
-- Pieces and forms
-- ════════════════════════════════════════════════════════════════════════

/-- The pieces of a text that says a timestamp. -/
structure Pieces where
  year : List Char
  month : List Char
  day : List Char
  /-- What stands between the day and the hour. -/
  separator : Char
  hour : List Char
  minute : List Char
  second : List Char
  /-- The fraction of a second with its point, or nothing. -/
  fraction : List Char
  /-- The offset from universal time, or nothing. -/
  offset : List Char

/-- The text that is made of the pieces. -/
def Pieces.chars (p : Pieces) : List Char :=
  p.year ++ '-' :: (p.month ++ '-' :: (p.day ++ p.separator :: (p.hour ++ ':' ::
    (p.minute ++ ':' :: (p.second ++ (p.fraction ++ p.offset))))))

/-- A row of so many digits. -/
def IsRow (width : ℕ) (s : List Char) : Prop :=
  s.length = width ∧ ∀ c ∈ s, c.isDigit = true

/-- White space only. -/
def IsBlank (s : List Char) : Prop :=
  ∀ c ∈ s, Text.isBlankChar c = true

theorem isBlank_nil : IsBlank [] := by
  rintro c ⟨⟩

/-- A field of one or two digits after white space. -/
inductive LenientField : List Char → ℕ → Prop
  | mk {blank row} (hblank : IsBlank blank) (hrow : IsDigits row) (hlength : row.length ≤ 2) :
    LenientField (blank ++ row) (rowValue row)

/-- A year of one to four digits, or with a sign and any number of digits, after white space. -/
inductive LenientYear : List Char → ℤ → Prop
  | unsigned {blank row} (hblank : IsBlank blank) (hrow : IsDigits row) (hlength : row.length ≤ 4) :
    LenientYear (blank ++ row) (rowValue row)
  | plus {blank row} (hblank : IsBlank blank) (hrow : IsDigits row) :
    LenientYear (blank ++ '+' :: row) (rowValue row)
  | minus {blank row} (hblank : IsBlank blank) (hrow : IsDigits row) :
    LenientYear (blank ++ '-' :: row) (-(rowValue row : ℤ))

/-- A fraction of a second: nothing, or a point and digits. -/
inductive IsFraction : List Char → Prop
  | none : IsFraction []
  | row {row} (hrow : IsDigits row) : IsFraction ('.' :: row)

/-- An offset of universal time itself, or of hours and minutes after one of these signs. -/
inductive IsOffset (signs : List Char) : List Char → ℕ × ℕ → Prop
  | universal {c} (hc : c ∈ ['Z', 'z']) : IsOffset signs [c] (0, 0)
  | shifted {sign hours minutes} (hsign : sign ∈ signs) (hhours : IsRow 2 hours)
    (hminutes : IsRow 2 minutes) :
    IsOffset signs (sign :: (hours ++ ':' :: minutes)) (rowValue hours, rowValue minutes)

/-- How the pieces up to the second are written. -/
structure Form where
  /-- The texts of years. -/
  year : List Char → ℤ → Prop
  /-- The texts of the other fields. -/
  field : List Char → ℕ → Prop
  /-- What may stand between the day and the hour. -/
  separators : List Char

namespace Form

/-- Every field is a row of fixed width. -/
def fixed (separators : List Char) : Form where
  year s n := IsRow 4 s ∧ n = rowValue s
  field s n := IsRow 2 s ∧ n = rowValue s
  separators := separators

/-- Fields may be short and have white space before them, and years may have a sign. -/
def lenient (separators : List Char) : Form where
  year := LenientYear
  field := LenientField
  separators := separators

/-- The pieces are written in this form and say the fields of this timestamp, up to its
  offset. -/
structure Spells (f : Form) (p : Pieces) (t : Timestamp) : Prop where
  year : f.year p.year t.year
  month : f.field p.month t.month
  day : f.field p.day t.day
  separator : p.separator ∈ f.separators
  hour : f.field p.hour t.hour
  minute : f.field p.minute t.minute
  second : f.field p.second t.second
  fraction : IsFraction p.fraction

end Form

/-- Every field up to the second is a row of its full width. -/
structure Pieces.IsFull (p : Pieces) : Prop where
  year : IsRow 4 p.year
  field : ∀ s ∈ [p.month, p.day, p.hour, p.minute, p.second], IsRow 2 s

/-- Pieces of fixed width with an offset after one of these signs. -/
def InOffsetForm (signs : List Char) (p : Pieces) (t : Timestamp) : Prop :=
  (Form.fixed ['T', 't', ' ']).Spells p t ∧ ∃ o, t.offset = some o ∧ IsOffset signs p.offset o

/-- Pieces without an offset. -/
def InLocalForm (f : Form) (p : Pieces) (t : Timestamp) : Prop :=
  f.Spells p t ∧ p.offset = [] ∧ t.offset = none

/-- The pieces say this timestamp, with an offset or in the lenient local form. -/
def Says (p : Pieces) (t : Timestamp) : Prop :=
  InOffsetForm ['+', '-', '\u2212'] p t ∨ InLocalForm (.lenient ['T']) p t

/-- The text says this timestamp. -/
def Denotes (s : List Char) (t : Timestamp) : Prop :=
  ∃ p : Pieces, p.chars = s ∧ Says p t

-- ════════════════════════════════════════════════════════════════════════
-- Readers of one piece
-- ════════════════════════════════════════════════════════════════════════

/-- A row of digits ends here. -/
def EndsRow (rest : List Char) : Prop :=
  ∀ c tail, rest = c :: tail → c.isDigit = false

theorem endsRow_cons {c : Char} (hc : c.isDigit = false) (tail : List Char) :
    EndsRow (c :: tail) := by
  rintro d rest ⟨⟩
  exact hc

theorem endsRow_hyphen (tail : List Char) : EndsRow ('-' :: tail) :=
  endsRow_cons (by decide) tail

theorem endsRow_colon (tail : List Char) : EndsRow (':' :: tail) :=
  endsRow_cons (by decide) tail

theorem endsRow_nil : EndsRow [] := by
  rintro c tail ⟨⟩

/-- A reader of pieces takes off a piece that keeps to the rule, and takes it off whole where
  a row of digits ends. -/
structure Reads {α : Type} (read : List Char → Option (α × List Char))
    (rule : List Char → α → Prop) : Prop where
  sound : ∀ {s a rest}, read s = some (a, rest) → ∃ piece, s = piece ++ rest ∧ rule piece a
  complete : ∀ {piece a rest}, rule piece a → EndsRow rest → read (piece ++ rest) = some (a, rest)

/-- What a reader can take off whole is where the text is divided. -/
theorem Reads.unique {α : Type} {read : List Char → Option (α × List Char)}
    {rule : List Char → α → Prop} (h : Reads read rule) {piece piece' rest rest' : List Char}
    {a a' : α} (hpiece : rule piece a) (hpiece' : rule piece' a') (hrest : EndsRow rest)
    (hrest' : EndsRow rest') (heq : piece ++ rest = piece' ++ rest') :
    piece = piece' ∧ a = a' ∧ rest = rest' := by
  have hread := h.complete hpiece hrest
  rw [heq, h.complete hpiece' hrest'] at hread
  cases hread
  exact ⟨List.append_cancel_right heq, rfl, rfl⟩

section Readers

variable {s rest row blank : List Char} {n limit width : ℕ}

theorem IsRow.isDigits (h : IsRow width row) (hwidth : width ≠ 0) : IsDigits row := by
  refine ⟨?_, h.2⟩
  rintro rfl
  exact hwidth h.1.symm

theorem rowValue_lt_from (hrow : ∀ c ∈ row, c.isDigit = true) :
    Nat.ofDigitChars 10 row n < (n + 1) * 10 ^ row.length := by
  induction row generalizing n with
  | nil => simp
  | cons c row ih =>
    rw [List.forall_mem_cons] at hrow
    have hdigit : c.toNat - '0'.toNat ≤ 9 := by
      have hhigh : c.toNat ≤ 57 := by
        simp only [Char.isDigit, Bool.and_eq_true, decide_eq_true_eq,
          UInt32.le_iff_toNat_le] at hrow
        exact hrow.1.2
      show c.toNat - 48 ≤ 9
      omega
    rw [Nat.ofDigitChars_cons, List.length_cons, pow_succ', ← mul_assoc]
    apply (ih hrow.2).trans_le
    exact Nat.mul_le_mul_right _ (by omega)

theorem IsRow.rowValue_lt (h : IsRow width row) : rowValue row < 10 ^ width := by
  have hlt := rowValue_lt_from (n := 0) h.2
  rwa [h.1, zero_add, one_mul] at hlt

theorem EndsRow.take (h : EndsRow rest) (k : ℕ) : EndsRow (rest.take k) := by
  intro c tail heq
  cases rest with
  | nil => simp at heq
  | cons d more =>
    cases k with
    | zero => cases heq
    | succ k =>
      cases heq
      exact h c more rfl

theorem number?_sound (h : number? limit s = some (n, rest)) :
    ∃ row, s = row ++ rest ∧ IsDigits row ∧ row.length ≤ limit ∧ n = rowValue row := by
  simp only [number?] at h
  split at h
  · cases h
  · rename_i hne
    cases h
    refine ⟨(s.take limit).takeWhile Char.isDigit, ?_, ⟨by simpa using hne, ?_⟩, ?_, rfl⟩
    · exact List.prefix_append_drop ((List.takeWhile_prefix _).trans (List.take_prefix _ _))
    · exact fun c hc => List.mem_takeWhile_imp hc
    · exact (List.takeWhile_prefix _).length_le.trans (List.length_take_le _ _)

theorem map_number?_sound {g : ℕ → ℤ} {y : ℤ}
    (h : (number? limit s).map (fun x => (g x.1, x.2)) = some (y, rest)) :
    ∃ row, s = row ++ rest ∧ IsDigits row ∧ row.length ≤ limit ∧ y = g (rowValue row) := by
  simp only [Option.map_eq_some_iff, Prod.exists, Prod.mk.injEq] at h
  obtain ⟨n, _, hnumber, rfl, rfl⟩ := h
  obtain ⟨row, hs, hrow, hlength, rfl⟩ := number?_sound hnumber
  exact ⟨row, hs, hrow, hlength, rfl⟩

theorem number?_complete (hrow : IsDigits row) (hlength : row.length ≤ limit)
    (hrest : EndsRow rest) : number? limit (row ++ rest) = some (rowValue row, rest) := by
  have htake : ((row ++ rest).take limit).takeWhile Char.isDigit = row := by
    rw [List.take_append, List.take_of_length_le hlength]
    exact (Json.takeWhile_digits hrow.2 (hrest.take _)).1
  have hne : row.isEmpty = false := by simpa using hrow.1
  simp only [number?, htake, hne, Bool.false_eq_true, ↓reduceIte, List.drop_left]

theorem reads_fixed (width : ℕ) :
    Reads (fixed? width) fun piece n => IsRow width piece ∧ n = rowValue piece := by
  constructor
  · intro s n rest h
    simp only [fixed?] at h
    split at h
    · rename_i hlength
      cases h
      refine ⟨(s.take width).takeWhile Char.isDigit, ?_, ⟨hlength, ?_⟩, rfl⟩
      · have hprefix := (List.takeWhile_prefix Char.isDigit).trans (List.take_prefix width s)
        have hsplit := List.prefix_append_drop hprefix
        rwa [hlength] at hsplit
      · exact fun c hc => List.mem_takeWhile_imp hc
    · cases h
  · rintro row n rest ⟨hrow, rfl⟩ -
    have htake : ((row ++ rest).take width).takeWhile Char.isDigit = row := by
      rw [← hrow.1, List.take_left, List.takeWhile_eq_self_iff.2 hrow.2]
    have hdrop : (row ++ rest).drop width = rest := by rw [← hrow.1, List.drop_left]
    simp only [fixed?, htake, hrow.1, hdrop, ↓reduceIte]

theorem oneOf?_eq_some_iff {choices : List Char} :
    oneOf? choices s = some rest ↔ ∃ c ∈ choices, s = c :: rest := by
  cases s with
  | nil => simp [oneOf?]
  | cons c tail =>
    simp only [oneOf?, Option.ite_none_right_eq_some, Option.some_inj]
    constructor
    · rintro ⟨hc, rfl⟩
      exact ⟨c, hc, rfl⟩
    · rintro ⟨d, hd, heq⟩
      cases heq
      exact ⟨hd, rfl⟩

-- White space is followed by a digit or a sign, neither of which is white space.

theorem not_isBlankChar_of_isDigit {c : Char} (h : c.isDigit = true) :
    Text.isBlankChar c = false := by
  simp only [Char.isDigit, Bool.and_eq_true, decide_eq_true_eq, ge_iff_le,
    UInt32.le_iff_toNat_le] at h
  have hlow : 48 ≤ c.toNat := h.1
  have hhigh : c.toNat ≤ 57 := h.2
  simp [Text.isBlankChar]
  omega

theorem skipBlank_sound (s : List Char) : ∃ blank, s = blank ++ Text.skipBlank s ∧ IsBlank blank :=
  ⟨s.takeWhile Text.isBlankChar, List.takeWhile_append_dropWhile.symm,
    fun _ hc => List.mem_takeWhile_imp hc⟩

theorem skipBlank_complete {c : Char} (hblank : IsBlank blank) (hc : Text.isBlankChar c = false)
    (tail : List Char) : Text.skipBlank (blank ++ c :: tail) = c :: tail := by
  rw [Text.skipBlank, List.dropWhile_append_of_pos hblank,
    List.dropWhile_cons_of_neg (by simp [hc])]

theorem skipBlank_row (hblank : IsBlank blank) (hrow : IsDigits row) (rest : List Char) :
    Text.skipBlank (blank ++ (row ++ rest)) = row ++ rest := by
  obtain ⟨c, tail, rfl, hc⟩ := hrow.exists_cons
  exact skipBlank_complete hblank (not_isBlankChar_of_isDigit hc) _

theorem reads_localField : Reads localField? LenientField := by
  constructor
  · intro s n rest h
    obtain ⟨blank, hs, hblank⟩ := skipBlank_sound s
    obtain ⟨row, hskip, hrow, hlength, rfl⟩ := number?_sound h
    refine ⟨blank ++ row, ?_, .mk hblank hrow hlength⟩
    rw [List.append_assoc, ← hskip]
    exact hs
  · rintro _ _ rest ⟨hblank, hrow, hlength⟩ hrest
    rw [localField?, List.append_assoc, skipBlank_row hblank hrow]
    exact number?_complete hrow hlength hrest

theorem reads_localYear : Reads localYear? LenientYear := by
  constructor
  · intro s y rest h
    obtain ⟨blank, hs, hblank⟩ := skipBlank_sound s
    simp only [localYear?] at h
    split at h
    · rename_i tail hskip
      obtain ⟨row, rfl, hrow, -, rfl⟩ := map_number?_sound (g := fun n => -n) h
      refine ⟨blank ++ '-' :: row, ?_, .minus hblank hrow⟩
      rw [hs, hskip, List.append_assoc, List.cons_append]
    · rename_i tail hskip
      obtain ⟨row, rfl, hrow, -, rfl⟩ := map_number?_sound h
      refine ⟨blank ++ '+' :: row, ?_, .plus hblank hrow⟩
      rw [hs, hskip, List.append_assoc, List.cons_append]
    · obtain ⟨row, hskip, hrow, hlength, rfl⟩ := map_number?_sound h
      refine ⟨blank ++ row, ?_, .unsigned hblank hrow hlength⟩
      rw [List.append_assoc, ← hskip]
      exact hs
  · intro piece y rest h hrest
    cases h with
    | unsigned hblank hrow hlength =>
      rw [localYear?, List.append_assoc, skipBlank_row hblank hrow]
      obtain ⟨c, tail, rfl, hc⟩ := hrow.exists_cons
      have hnumber := number?_complete hrow hlength hrest
      split
      · rename_i heq
        cases heq
        exact absurd hc (by decide)
      · rename_i heq
        cases heq
        exact absurd hc (by decide)
      · rw [hnumber]
        rfl
    | plus hblank hrow =>
      rename_i blank row
      have hlength : row.length ≤ (row ++ rest).length := by simp
      rw [localYear?, List.append_assoc, List.cons_append,
        skipBlank_complete hblank (by decide)]
      simp only [number?_complete hrow hlength hrest, Option.map_some]
    | minus hblank hrow =>
      rename_i blank row
      have hlength : row.length ≤ (row ++ rest).length := by simp
      rw [localYear?, List.append_assoc, List.cons_append,
        skipBlank_complete hblank (by decide)]
      simp only [number?_complete hrow hlength hrest, Option.map_some]

/-- A fraction ends here. -/
def EndsFraction (rest : List Char) : Prop :=
  ∀ c tail, rest = c :: tail → c.isDigit = false ∧ c ≠ '.'

theorem fraction?_sound (h : fraction? s = some rest) :
    ∃ piece, s = piece ++ rest ∧ IsFraction piece := by
  unfold fraction? at h
  split at h
  · rename_i tail
    split at h
    · cases h
    · rename_i hne
      cases h
      refine ⟨'.' :: tail.takeWhile Char.isDigit, ?_, .row ⟨by simpa using hne, ?_⟩⟩
      · rw [List.cons_append, List.takeWhile_append_dropWhile]
      · exact fun c hc => List.mem_takeWhile_imp hc
  · cases h
    exact ⟨[], rfl, .none⟩

theorem fraction?_complete {piece : List Char} (h : IsFraction piece) (hrest : EndsFraction rest) :
    fraction? (piece ++ rest) = some rest := by
  cases h with
  | none =>
    unfold fraction?
    split
    · rename_i tail heq
      exact absurd rfl (hrest '.' tail heq).2
    · rfl
  | row hrow =>
    obtain ⟨htake, hdrop⟩ := Json.takeWhile_digits hrow.2 fun c tail heq => (hrest c tail heq).1
    rw [List.cons_append, fraction?, htake, hdrop]
    simp [hrow.1]

theorem offset?_eq_some_iff {o : ℕ × ℕ} :
    offset? s = some o ↔ IsOffset ['+', '-', '\u2212'] s o := by
  constructor
  · intro h
    unfold offset? at h
    split at h
    · cases h
      exact .universal (by decide)
    · cases h
      exact .universal (by decide)
    · simp only [bind, Option.bind_eq_some_iff, Prod.exists, oneOf?_eq_some_iff,
        Option.guard_eq_some', List.mem_singleton] at h
      obtain ⟨_, ⟨sign, hsign, rfl⟩, _, _, hreadHours, _, ⟨_, rfl, rfl⟩, _, _, hreadMinutes, _, rfl,
        h⟩ := h
      obtain ⟨hours, rfl, hhours, rfl⟩ := (reads_fixed 2).sound hreadHours
      obtain ⟨minutes, rfl, hminutes, rfl⟩ := (reads_fixed 2).sound hreadMinutes
      cases h
      rw [List.append_nil]
      exact .shifted hsign hhours hminutes
  · intro h
    cases h with
    | universal hc =>
      rcases List.mem_pair.1 hc with rfl | rfl <;> rfl
    | @shifted sign hours minutes hsign hhours hminutes =>
      have hreadHours :
          fixed? 2 (hours ++ ':' :: minutes) = some (rowValue hours, ':' :: minutes) :=
        (reads_fixed 2).complete ⟨hhours, rfl⟩ (endsRow_colon _)
      have hreadMinutes : fixed? 2 (minutes ++ []) = some (rowValue minutes, []) :=
        (reads_fixed 2).complete ⟨hminutes, rfl⟩ endsRow_nil
      rw [List.append_nil] at hreadMinutes
      unfold offset?
      split
      · rename_i heq
        simp at heq
      · rename_i heq
        simp at heq
      · simp only [bind, Option.bind_eq_some_iff, Prod.exists, oneOf?_eq_some_iff,
          Option.guard_eq_some', List.mem_singleton]
        exact ⟨_, ⟨sign, hsign, rfl⟩, _, _, hreadHours, _, ⟨':', rfl, rfl⟩, _, _, hreadMinutes, (),
          rfl, rfl⟩

theorem IsOffset.endsFraction {signs : List Char} {o : ℕ × ℕ} (h : IsOffset signs s o)
    (hsigns : ∀ c ∈ signs, c.isDigit = false ∧ c ≠ '.') : EndsFraction s := by
  rintro c tail rfl
  cases h with
  | universal hc =>
    rcases List.mem_pair.1 hc with rfl | rfl <;> decide
  | shifted hsign => exact hsigns c hsign

theorem IsFraction.endsRow {piece : List Char} (h : IsFraction piece) (hrest : EndsFraction rest) :
    EndsRow (piece ++ rest) := by
  cases h with
  | none => exact fun c tail heq => (hrest c tail heq).1
  | row => exact endsRow_cons (by decide) _

end Readers

-- ════════════════════════════════════════════════════════════════════════
-- Readers of whole texts
-- ════════════════════════════════════════════════════════════════════════

/-- Read the pieces up to the fraction, and let the rest of the text decide. -/
def readWith (year : List Char → Option (ℤ × List Char))
    (field : List Char → Option (ℕ × List Char)) (separators : List Char)
    (finish : Timestamp → List Char → Option Timestamp) (s : List Char) : Option Timestamp := do
  let (year, s) ← year s
  let s ← oneOf? ['-'] s
  let (month, s) ← field s
  let s ← oneOf? ['-'] s
  let (day, s) ← field s
  let s ← oneOf? separators s
  let (hour, s) ← field s
  let s ← oneOf? [':'] s
  let (minute, s) ← field s
  let s ← oneOf? [':'] s
  let (second, s) ← field s
  let s ← fraction? s
  finish ⟨year, month, day, hour, minute, second, none⟩ s

section Whole

variable {year : List Char → Option (ℤ × List Char)} {field : List Char → Option (ℕ × List Char)}
  {f : Form} {finish : Timestamp → List Char → Option Timestamp} {s : List Char}
  {p p' : Pieces} {t t' : Timestamp}

theorem readWith_sound (hyear : Reads year f.year) (hfield : Reads field f.field)
    (h : readWith year field f.separators finish s = some t) :
    ∃ p t', p.chars = s ∧ f.Spells p t' ∧ t'.offset = none ∧ finish t' p.offset = some t := by
  simp only [readWith, bind, Option.bind_eq_some_iff, Prod.exists, oneOf?_eq_some_iff,
    List.mem_singleton] at h
  obtain ⟨y, _, h1, _, ⟨_, rfl, rfl⟩, month, _, h2, _, ⟨_, rfl, rfl⟩, day, _, h3, _,
    ⟨separator, hseparator, rfl⟩, hour, _, h4, _, ⟨_, rfl, rfl⟩, minute, _, h5, _, ⟨_, rfl, rfl⟩,
    second, _, h6, offset, h7, hfinish⟩ := h
  obtain ⟨yearPiece, rfl, hyear'⟩ := hyear.sound h1
  obtain ⟨monthPiece, rfl, hmonth⟩ := hfield.sound h2
  obtain ⟨dayPiece, rfl, hday⟩ := hfield.sound h3
  obtain ⟨hourPiece, rfl, hhour⟩ := hfield.sound h4
  obtain ⟨minutePiece, rfl, hminute⟩ := hfield.sound h5
  obtain ⟨secondPiece, rfl, hsecond⟩ := hfield.sound h6
  obtain ⟨fraction, rfl, hfraction⟩ := fraction?_sound h7
  exact ⟨⟨yearPiece, monthPiece, dayPiece, separator, hourPiece, minutePiece, secondPiece,
    fraction, offset⟩, ⟨y, month, day, hour, minute, second, none⟩, rfl,
    ⟨hyear', hmonth, hday, hseparator, hhour, hminute, hsecond, hfraction⟩, rfl, hfinish⟩

theorem oneOf?_cons {c : Char} {choices : List Char} (hc : c ∈ choices) (tail : List Char) :
    oneOf? choices (c :: tail) = some tail :=
  oneOf?_eq_some_iff.2 ⟨c, hc, rfl⟩

theorem readWith_complete (hyear : Reads year f.year) (hfield : Reads field f.field)
    (hseparators : ∀ c ∈ f.separators, c.isDigit = false) (h : f.Spells p t)
    (hend : EndsFraction p.offset) :
    readWith year field f.separators finish p.chars =
      finish { t with offset := none } p.offset := by
  have hseparator (tail : List Char) : EndsRow (p.separator :: tail) :=
    endsRow_cons (hseparators _ h.separator) tail
  simp only [readWith, Pieces.chars, bind, hyear.complete h.year (endsRow_hyphen _),
    hfield.complete h.month (endsRow_hyphen _), hfield.complete h.day (hseparator _),
    hfield.complete h.hour (endsRow_colon _), hfield.complete h.minute (endsRow_colon _),
    hfield.complete h.second (h.fraction.endsRow hend), fraction?_complete h.fraction hend,
    oneOf?_cons List.mem_cons_self, oneOf?_cons h.separator, Option.bind_some]

end Whole

/-- A text is divided into pieces in one way, which says one timestamp up to its offset. -/
theorem Pieces.unique {separators : List Char} {p p' : Pieces} {t t' : Timestamp}
    (hseparators : ∀ c ∈ separators, c.isDigit = false)
    (h : (Form.lenient separators).Spells p t) (h' : (Form.lenient separators).Spells p' t')
    (hend : EndsFraction p.offset) (hend' : EndsFraction p'.offset) (heq : p.chars = p'.chars) :
    p = p' ∧ { t with offset := none } = { t' with offset := none } := by
  obtain ⟨hyear, hy, heq⟩ := reads_localYear.unique h.year h'.year
    (endsRow_hyphen _) (endsRow_hyphen _) heq
  obtain ⟨hmonth, hm, heq⟩ := reads_localField.unique h.month h'.month
    (endsRow_hyphen _) (endsRow_hyphen _) (List.cons.inj heq).2
  obtain ⟨hday, hd, heq⟩ := reads_localField.unique h.day h'.day
    (endsRow_cons (hseparators _ h.separator) _) (endsRow_cons (hseparators _ h'.separator) _)
    (List.cons.inj heq).2
  obtain ⟨hseparator, heq⟩ := List.cons.inj heq
  obtain ⟨hhour, hh, heq⟩ := reads_localField.unique h.hour h'.hour
    (endsRow_colon _) (endsRow_colon _) heq
  obtain ⟨hminute, hmin, heq⟩ := reads_localField.unique h.minute h'.minute
    (endsRow_colon _) (endsRow_colon _) (List.cons.inj heq).2
  obtain ⟨hsecond, hs, heq⟩ := reads_localField.unique h.second h'.second
    (h.fraction.endsRow hend) (h'.fraction.endsRow hend') (List.cons.inj heq).2
  have hoffset : p.offset = p'.offset := by
    have hread := fraction?_complete h.fraction hend
    rw [heq, fraction?_complete h'.fraction hend'] at hread
    exact (Option.some.inj hread).symm
  have hfraction : p.fraction = p'.fraction := by
    rw [hoffset] at heq
    exact List.append_cancel_right heq
  constructor
  · cases p
    cases p'
    simp_all
  · rw [hy, hm, hd, hh, hmin, hs]

section Forms

variable {s : List Char} {p p' : Pieces} {t t' : Timestamp} {signs separators : List Char}

theorem IsRow.lenientField {row : List Char} (h : IsRow 2 row) :
    LenientField row (rowValue row) :=
  .mk isBlank_nil (h.isDigits (by decide)) h.1.le

theorem IsRow.lenientYear {row : List Char} (h : IsRow 4 row) : LenientYear row (rowValue row) :=
  .unsigned isBlank_nil (h.isDigits (by decide)) h.1.le

theorem Form.Spells.lenient {wider : List Char} (h : (Form.fixed separators).Spells p t)
    (hsubset : separators ⊆ wider) : (Form.lenient wider).Spells p t where
  year := h.year.2 ▸ h.year.1.lenientYear
  month := h.month.2 ▸ h.month.1.lenientField
  day := h.day.2 ▸ h.day.1.lenientField
  separator := hsubset h.separator
  hour := h.hour.2 ▸ h.hour.1.lenientField
  minute := h.minute.2 ▸ h.minute.1.lenientField
  second := h.second.2 ▸ h.second.1.lenientField
  fraction := h.fraction

theorem Form.Spells.widen {wider : List Char} (h : (Form.lenient separators).Spells p t)
    (hsubset : separators ⊆ wider) : (Form.lenient wider).Spells p t :=
  ⟨h.year, h.month, h.day, hsubset h.separator, h.hour, h.minute, h.second, h.fraction⟩

theorem LenientField.eq_rowValue {row : List Char} {n : ℕ} (h : LenientField row n)
    (hrow : IsRow 2 row) : n = rowValue row :=
  (reads_localField.unique h hrow.lenientField endsRow_nil endsRow_nil rfl).2.1

theorem LenientYear.eq_rowValue {row : List Char} {y : ℤ} (h : LenientYear row y)
    (hrow : IsRow 4 row) : y = rowValue row :=
  (reads_localYear.unique h hrow.lenientYear endsRow_nil endsRow_nil rfl).2.1

/-- The fixed form is the lenient form at full width. -/
theorem Form.spells_fixed_iff :
    (Form.fixed separators).Spells p t ↔ (Form.lenient separators).Spells p t ∧ p.IsFull := by
  constructor
  · intro h
    refine ⟨h.lenient (List.Subset.refl _), h.year.1, ?_⟩
    simp only [List.forall_mem_cons]
    exact ⟨h.month.1, h.day.1, h.hour.1, h.minute.1, h.second.1, by simp⟩
  · rintro ⟨h, hyear, hfield⟩
    simp only [List.forall_mem_cons] at hfield
    obtain ⟨hmonth, hday, hhour, hminute, hsecond, -⟩ := hfield
    exact ⟨⟨hyear, h.year.eq_rowValue hyear⟩, ⟨hmonth, h.month.eq_rowValue hmonth⟩,
      ⟨hday, h.day.eq_rowValue hday⟩, h.separator, ⟨hhour, h.hour.eq_rowValue hhour⟩,
      ⟨hminute, h.minute.eq_rowValue hminute⟩, ⟨hsecond, h.second.eq_rowValue hsecond⟩, h.fraction⟩

theorem isDigit_separators : ∀ c ∈ ['T', 't', ' '], c.isDigit = false := by
  simp

theorem isDigit_signs : ∀ c ∈ ['+', '-', '\u2212'], c.isDigit = false ∧ c ≠ '.' := by
  simp

theorem Says.spells (h : Says p t) :
    (Form.lenient ['T', 't', ' ']).Spells p t ∧ EndsFraction p.offset := by
  rcases h with ⟨hspells, o, -, hoffset⟩ | ⟨hspells, hoffset, -⟩
  · exact ⟨hspells.lenient (List.Subset.refl _), hoffset.endsFraction isDigit_signs⟩
  · refine ⟨hspells.widen (by decide), ?_⟩
    rw [hoffset]
    rintro c tail ⟨⟩

theorem Says.unique (h : Says p t) (h' : Says p' t') (heq : p.chars = p'.chars) :
    p = p' ∧ t = t' := by
  obtain ⟨rfl, hfields⟩ :=
    Pieces.unique isDigit_separators h.spells.1 h'.spells.1 h.spells.2 h'.spells.2 heq
  refine ⟨rfl, ?_⟩
  have hoffset : t.offset = t'.offset := by
    rcases h with ⟨-, o, ho, hpiece⟩ | ⟨-, hnil, hnone⟩
    · rcases h' with ⟨-, o', ho', hpiece'⟩ | ⟨-, hnil', -⟩
      · rw [ho, ho', ← offset?_eq_some_iff.2 hpiece, offset?_eq_some_iff.2 hpiece']
      · rw [hnil'] at hpiece
        cases hpiece
    · rcases h' with ⟨-, o', -, hpiece'⟩ | ⟨-, -, hnone'⟩
      · rw [hnil] at hpiece'
        cases hpiece'
      · rw [hnone, hnone']
  obtain ⟨year, month, day, hour, minute, second, offset⟩ := t
  obtain ⟨year', month', day', hour', minute', second', offset'⟩ := t'
  simp_all

/-- A text denotes one timestamp. -/
theorem Denotes.unique (h : Denotes s t) (h' : Denotes s t') : t = t' := by
  obtain ⟨p, rfl, hp⟩ := h
  obtain ⟨p', heq, hp'⟩ := h'
  exact (hp.unique hp' heq.symm).2

def fixedYear? (s : List Char) : Option (ℤ × List Char) :=
  (fixed? 4 s).map fun (n, rest) => (n, rest)

theorem reads_fixedYear (separators : List Char) :
    Reads fixedYear? (Form.fixed separators).year := by
  constructor
  · intro s y rest h
    simp only [fixedYear?, Option.map_eq_some_iff, Prod.exists, Prod.mk.injEq] at h
    obtain ⟨n, _, hread, rfl, rfl⟩ := h
    obtain ⟨piece, rfl, hrow, rfl⟩ := (reads_fixed 4).sound hread
    exact ⟨piece, rfl, hrow, rfl⟩
  · rintro piece y rest ⟨hrow, rfl⟩ hrest
    simp only [fixedYear?, (reads_fixed 4).complete ⟨hrow, rfl⟩ hrest, Option.map_some]

theorem Form.Spells.setOffset {f : Form} {o : Option (ℕ × ℕ)} (h : f.Spells p t) :
    f.Spells p { t with offset := o } :=
  ⟨h.year, h.month, h.day, h.separator, h.hour, h.minute, h.second, h.fraction⟩

theorem ofOffsetForm?_eq_readWith (s : List Char) :
    ofOffsetForm? s = readWith fixedYear? (fixed? 2) ['T', 't', ' '] (fun t rest => do
      let o ← offset? rest
      guard ({ t with offset := some o } : Timestamp).inRange
      return { t with offset := some o }) s := by
  rw [ofOffsetForm?, readWith, fixedYear?]
  cases fixed? 4 s <;> rfl

theorem ofOffsetForm?_eq_some_iff :
    ofOffsetForm? s = some t ↔
      t.IsReal ∧ ∃ p : Pieces, p.chars = s ∧ InOffsetForm ['+', '-', '\u2212'] p t := by
  rw [ofOffsetForm?_eq_readWith]
  constructor
  · intro h
    obtain ⟨p, u, rfl, hspells, -, hfinish⟩ :=
      readWith_sound (f := .fixed ['T', 't', ' ']) (reads_fixedYear _) (reads_fixed 2) h
    simp only [bind, Option.bind_eq_some_iff, Option.guard_eq_some', inRange_iff] at hfinish
    obtain ⟨o, hoffset, -, hreal, hsame⟩ := hfinish
    cases hsame
    exact ⟨hreal, p, rfl, hspells.setOffset, o, rfl, offset?_eq_some_iff.1 hoffset⟩
  · rintro ⟨hreal, p, rfl, hspells, o, ho, hoffset⟩
    have hsame : { t with offset := some o } = t := by rw [← ho]
    refine (readWith_complete (f := .fixed ['T', 't', ' ']) (reads_fixedYear _) (reads_fixed 2)
      isDigit_separators hspells (hoffset.endsFraction isDigit_signs)).trans ?_
    simp only [offset?_eq_some_iff.2 hoffset, bind, Option.bind_some, hsame, inRange_iff.2 hreal]
    rfl

theorem ofLocalForm?_eq_some_iff :
    ofLocalForm? s = some t ↔
      (t.IsReal ∧ isLocalYear t.year = true) ∧
        ∃ p : Pieces, p.chars = s ∧ InLocalForm (.lenient ['T']) p t := by
  have hread : ofLocalForm? s = readWith localYear? localField? ['T'] (fun t rest => do
      guard (rest = [])
      guard (isLocalYear t.year && t.inRange)
      return t) s := rfl
  rw [hread]
  constructor
  · intro h
    obtain ⟨p, u, rfl, hspells, hnone, hfinish⟩ :=
      readWith_sound (f := .lenient ['T']) reads_localYear reads_localField h
    simp only [bind, Option.bind_eq_some_iff, Option.guard_eq_some', Bool.and_eq_true,
      inRange_iff] at hfinish
    obtain ⟨-, hnil, -, ⟨hyear, hreal⟩, hsame⟩ := hfinish
    cases hsame
    exact ⟨⟨hreal, hyear⟩, p, rfl, hspells, hnil, hnone⟩
  · rintro ⟨⟨hreal, hyear⟩, p, rfl, hspells, hnil, hnone⟩
    have hend : EndsFraction p.offset := by
      rw [hnil]
      rintro c tail ⟨⟩
    have hsame : { t with offset := none } = t := by rw [← hnone]
    refine (readWith_complete (f := .lenient ['T']) reads_localYear reads_localField
      (by simp [Form.lenient]) hspells hend).trans ?_
    simp only [hsame, hnil, hyear, inRange_iff.2 hreal]
    rfl

/-- A text is read as the real timestamp that it denotes, without an offset only if its year
  is near enough. -/
theorem ofText?_eq_some_iff {s : String} :
    ofText? s = some t ↔
      Denotes s.toList t ∧ t.IsReal ∧ (t.offset = none → isLocalYear t.year = true) := by
  have hread : ofText? s = (ofOffsetForm? s.toList).or (ofLocalForm? s.toList) := by
    rw [ofText?]
    cases ofOffsetForm? s.toList <;> rfl
  rw [hread, Option.or_eq_some_iff, ofOffsetForm?_eq_some_iff, ofLocalForm?_eq_some_iff]
  constructor
  · rintro (⟨hreal, p, hchars, hform⟩ | ⟨-, ⟨hreal, hyear⟩, p, hchars, hform⟩)
    · refine ⟨⟨p, hchars, .inl hform⟩, hreal, fun hnone => ?_⟩
      obtain ⟨-, o, ho, -⟩ := hform
      rw [ho] at hnone
      cases hnone
    · exact ⟨⟨p, hchars, .inr hform⟩, hreal, fun _ => hyear⟩
  · rintro ⟨⟨p, hchars, hform | hform⟩, hreal, hyear⟩
    · exact .inl ⟨hreal, p, hchars, hform⟩
    · refine .inr ⟨?_, ⟨hreal, hyear hform.2.2⟩, p, hchars, hform⟩
      -- A text with an offset would denote two timestamps.
      rw [Option.eq_none_iff_forall_ne_some]
      intro u hu
      obtain ⟨-, q, hq, hform'⟩ := ofOffsetForm?_eq_some_iff.1 hu
      obtain ⟨-, rfl⟩ := Says.unique (.inl hform') (.inr hform) (hq.trans hchars.symm)
      obtain ⟨-, o, ho, -⟩ := hform'
      rw [hform.2.2] at ho
      cases ho

end Forms

end EntityQuery.Timestamp
