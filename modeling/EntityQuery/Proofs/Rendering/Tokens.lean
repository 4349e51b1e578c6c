import EntityQuery.Dialect.Basic

/-!
# Tokens of a statement

The text of a statement is a row of tokens: single characters, quoted names and
parameter markers. This module has the scanner of a database engine, as far as
names and markers go, and shows that it finds the tokens a text was written from.

## Main definitions

- `Token` — a token, with what is known about a marker as a parameter
- `Dialect.tokens` — the scanner of an engine
- `Token.written`, `Token.numbered` — the text of tokens, and the tokens with
  their markers as texts
- `Token.Spaced` — every name and every marker is followed by a delimiter

## Main statements

- `Dialect.readName_doubled` — a name is read back up to its closing quote
- `Dialect.tokens_written` — spaced tokens are found again in their text

## Design notes

A name may contain anything, including quotes, markers and statement text, so the
scanner is the only way to tell which markers of a text are parameters. What ends
a name or a marker is the character after it, hence the condition on delimiters.
-/

namespace EntityQuery

/-- A token of a statement. -/
inductive Token (μ : Type)
  | char (c : Char)
  | name (name : String)
  | marker (mark : μ)
deriving DecidableEq

namespace Dialect

-- ════════════════════════════════════════════════════════════════════════
-- The scanner
-- ════════════════════════════════════════════════════════════════════════

/-- The first character of a marker. -/
def sigil : Dialect → Char
  | .postgresql => '$'
  | .sqlserver => '@'
  | .mysql => '?'
  | .sqlite => '?'

/-- Whether a character belongs to the marker before it. -/
def continuesMarker : Dialect → Char → Bool
  | .postgresql, c => c.isDigit
  | .sqlserver, c => c.isAlphanum || c == '_'
  | .mysql, _ => false
  | .sqlite, c => c.isDigit

/-- Read a name after its opening quote: the name, and the text after its closing
  quote. A doubled closing quote stands for one of the name. -/
def readName (close : Char) : List Char → Option (List Char × List Char)
  | [] => none
  | [c] => if c = close then some ([], []) else none
  | c :: next :: rest =>
    if c = close then
      if next = close then (readName close rest).map fun (name, rest) => (close :: name, rest)
      else some ([], next :: rest)
    else (readName close (next :: rest)).map fun (name, rest) => (c :: name, rest)

/-- What is left after a name is shorter. -/
theorem length_of_readName {close : Char} {text name rest : List Char}
    (h : readName close text = some (name, rest)) : rest.length < text.length := by
  induction text using readName.induct close generalizing name rest with
  | case1 => simp [readName] at h
  | case2 => simp [readName] at h; simp [← h.2]
  | case3 c hc => simp [readName, hc] at h
  | case4 after ih =>
    simp only [readName, if_true, Option.map_eq_some_iff] at h
    obtain ⟨⟨name', rest'⟩, hread, heq⟩ := h
    cases heq
    have hlt : rest'.length < after.length := ih hread
    simp only [List.length_cons]
    omega
  | case5 next after hnext =>
    simp only [readName, if_true, if_neg hnext] at h
    cases h
    exact Nat.lt_succ_self _
  | case6 c next after hc ih =>
    simp only [readName, if_neg hc, Option.map_eq_some_iff] at h
    obtain ⟨⟨name', rest'⟩, hread, heq⟩ := h
    cases heq
    exact Nat.lt_succ_of_lt (ih hread)

/-- The tokens of a text. There are none if a name is not closed. -/
def tokens (d : Dialect) : List Char → Option (List (Token String))
  | [] => some []
  | c :: rest =>
    if c = d.openQuote then
      match _hread : readName d.closeQuote rest with
      | none => none
      | some (name, after) => (tokens d after).map (.name (String.ofList name) :: ·)
    else if c = d.sigil then
      (tokens d (rest.dropWhile d.continuesMarker)).map
        (.marker (String.ofList (c :: rest.takeWhile d.continuesMarker)) :: ·)
    else (tokens d rest).map (.char c :: ·)
termination_by text => text.length
decreasing_by
  · exact Nat.lt_succ_of_lt (length_of_readName _hread)
  · exact Nat.lt_succ_of_le (List.dropWhile_sublist _).length_le
  · exact Nat.lt_succ_self _

variable {d : Dialect}

/-- Before the closing quote, a character other than it stands for itself. -/
theorem readName_cons {close c : Char} {text : List Char} (hc : c ≠ close) :
    readName close (c :: text) =
      (readName close text).map fun (name, rest) => (c :: name, rest) := by
  cases text with
  | nil => simp [readName, hc]
  | cons next rest => rw [readName, if_neg hc]

/-- A name is read back up to its closing quote, whatever it contains. -/
theorem readName_doubled {close : Char} {name rest : List Char} (hrest : rest.head? ≠ some close) :
    readName close (doubled close name ++ close :: rest) = some (name, rest) := by
  induction name with
  | nil =>
    cases rest with
    | nil => simp [doubled, readName]
    | cons c rest =>
      have hc : c ≠ close := by simpa using hrest
      simp [doubled, readName, hc]
  | cons c name ih =>
    rw [doubled]
    split
    · rename_i hc
      simp [readName, ih, hc]
    · rename_i hc
      rw [List.cons_append, readName_cons hc, ih, Option.map_some]

/-- A quoted name is one token. -/
theorem tokens_quoteChars {name : String} {rest : List Char}
    (hrest : rest.head? ≠ some d.closeQuote) :
    d.tokens (d.quoteChars name.toList ++ rest) = (d.tokens rest).map (.name name :: ·) := by
  have hread : readName d.closeQuote (doubled d.closeQuote name.toList ++ d.closeQuote :: rest) =
      some (name.toList, rest) := readName_doubled hrest
  rw [quoteChars, List.append_assoc, List.cons_append, List.singleton_append, tokens, if_pos rfl]
  split
  · rename_i hnone
    rw [hread] at hnone
    cases hnone
  · rename_i name' after hsome
    rw [hread] at hsome
    cases hsome
    rw [String.ofList_toList]

/-- The marker of a parameter is a sigil and characters that go on with it. -/
theorem marker_eq (d : Dialect) (index : Nat) :
    ∃ digits : List Char, (d.marker index).toList = d.sigil :: digits ∧
      ∀ c ∈ digits, d.continuesMarker c = true := by
  have hdigits : ∀ n, ∀ c ∈ (Nat.repr n).toList, c.isDigit = true := by
    intro n c hc
    rw [Nat.toList_repr] at hc
    exact Nat.isDigit_of_mem_toDigits (by decide) (by decide) hc
  cases d with
  | postgresql => exact ⟨_, String.toList_append, hdigits (index + 1)⟩
  | sqlserver =>
    refine ⟨'p' :: (Nat.repr index).toList, String.toList_append, ?_⟩
    simp only [List.forall_mem_cons, continuesMarker, Char.isAlphanum]
    exact ⟨by decide, fun c hc => by simp [hdigits index c hc]⟩
  | mysql => exact ⟨[], by simp [marker, sigil], by simp⟩
  | sqlite => exact ⟨[], by simp [marker, sigil], by simp⟩

/-- The marker of a parameter is one token. -/
theorem tokens_marker {index : Nat} {rest : List Char}
    (hrest : ∀ c ∈ rest.head?, d.continuesMarker c = false) :
    d.tokens ((d.marker index).toList ++ rest) =
      (d.tokens rest).map (.marker (d.marker index) :: ·) := by
  obtain ⟨digits, hmarker, hdigits⟩ := d.marker_eq index
  have hsigil : d.sigil ≠ d.openQuote := by cases d <;> decide
  have hstop : rest.takeWhile d.continuesMarker = [] ∧ rest.dropWhile d.continuesMarker = rest := by
    cases rest with
    | nil => simp
    | cons c rest => simp [hrest c rfl]
  rw [hmarker, List.cons_append, tokens, if_neg hsigil, if_pos rfl,
    List.takeWhile_append_of_pos hdigits, List.dropWhile_append_of_pos hdigits, hstop.1, hstop.2,
    List.append_nil, ← hmarker, String.ofList_toList]

end Dialect

namespace Token

variable {μ ν : Type}

-- ════════════════════════════════════════════════════════════════════════
-- Tokens and their text
-- ════════════════════════════════════════════════════════════════════════

/-- Text that stands for itself. -/
def fixed (s : String) : List (Token μ) :=
  s.toList.map .char

/-- What is known about the markers among tokens, in order. -/
def marks : List (Token μ) → List μ
  | [] => []
  | .char _ :: rest => marks rest
  | .name _ :: rest => marks rest
  | .marker m :: rest => m :: marks rest

/-- The token with other knowledge about a marker. -/
def map (f : μ → ν) : Token μ → Token ν
  | .char c => .char c
  | .name s => .name s
  | .marker m => .marker (f m)

/-- The text of tokens when a number of markers precedes them. -/
def written (d : Dialect) : Nat → List (Token μ) → List Char
  | _, [] => []
  | index, .char c :: rest => c :: written d index rest
  | index, .name s :: rest => d.quoteChars s.toList ++ written d index rest
  | index, .marker _ :: rest => (d.marker index).toList ++ written d (index + 1) rest

/-- Tokens with the texts of their markers when a number of markers precedes them. -/
def numbered (d : Dialect) : Nat → List (Token μ) → List (Token String)
  | _, [] => []
  | index, .char c :: rest => .char c :: numbered d index rest
  | index, .name s :: rest => .name s :: numbered d index rest
  | index, .marker _ :: rest => .marker (d.marker index) :: numbered d (index + 1) rest

theorem fixed_append {s t : String} : (fixed (s ++ t) : List (Token μ)) = fixed s ++ fixed t := by
  simp [fixed]

theorem map_fixed {f : μ → ν} {s : String} : (fixed s).map (map f) = fixed s := by
  rw [fixed, fixed, List.map_map]
  rfl

@[simp]
theorem marks_append {first second : List (Token μ)} :
    marks (first ++ second) = marks first ++ marks second := by
  induction first with
  | nil => rfl
  | cons t rest ih => cases t <;> simp [marks, ih]

@[simp]
theorem marks_fixed {s : String} : marks (fixed s : List (Token μ)) = [] := by
  rw [fixed]
  induction s.toList with
  | nil => rfl
  | cons c rest ih => exact ih

theorem marks_map {f : μ → ν} {tokens : List (Token μ)} :
    marks (tokens.map (map f)) = (marks tokens).map f := by
  induction tokens with
  | nil => rfl
  | cons t rest ih => cases t <;> simp [marks, map, ih]

theorem written_fixed {d : Dialect} {index : Nat} {s : String} :
    written d index (fixed s : List (Token μ)) = s.toList := by
  rw [fixed]
  induction s.toList with
  | nil => rfl
  | cons c rest ih => rw [List.map_cons, written, ih]

theorem written_append {d : Dialect} {index : Nat} {first second : List (Token μ)} :
    written d index (first ++ second) =
      written d index first ++ written d (index + (marks first).length) second := by
  induction first generalizing index with
  | nil => rfl
  | cons t rest ih =>
    cases t with
    | char c => simp [written, ih, marks]
    | name s => simp [written, ih, marks]
    | marker m => simp [written, ih, marks, Nat.add_assoc, Nat.add_comm 1]

/-- What is known about a marker does not show in the text. -/
theorem written_map {d : Dialect} {index : Nat} {f : μ → ν} {tokens : List (Token μ)} :
    written d index (tokens.map (map f)) = written d index tokens := by
  induction tokens generalizing index with
  | nil => rfl
  | cons t rest ih => cases t <;> simp [written, map, ih]

/-- Markers are numbered in order. -/
theorem marks_numbered {d : Dialect} {index : Nat} {tokens : List (Token μ)} :
    marks (numbered d index tokens) =
      (List.range' index (marks tokens).length).map d.marker := by
  induction tokens generalizing index with
  | nil => rfl
  | cons t rest ih =>
    cases t with
    | char c => exact ih
    | name s => exact ih
    | marker m =>
      show d.marker index :: marks (numbered d (index + 1) rest) = _
      rw [ih]
      rfl

-- ════════════════════════════════════════════════════════════════════════
-- Finding the tokens of a text
-- ════════════════════════════════════════════════════════════════════════

/-- Characters that end a name or a marker. -/
def delimiters : List Char :=
  [' ', ',', '.', ')']

/-- Characters of fixed text. They begin neither a name nor a marker. -/
def isPlain (c : Char) : Bool :=
  c.isAlphanum || delimiters.contains c || ['(', '*', '=', '<', '>'].contains c

/-- The text ends here or goes on with a delimiter. -/
def delimited : List (Token μ) → Bool
  | [] => true
  | .char c :: _ => delimiters.contains c
  | _ => false

/-- Every name and every marker is followed by a delimiter. -/
def Spaced : List (Token μ) → Prop
  | [] => True
  | .char c :: rest => isPlain c = true ∧ Spaced rest
  | .name _ :: rest => delimited rest = true ∧ Spaced rest
  | .marker _ :: rest => delimited rest = true ∧ Spaced rest

/-- Fixed text of plain characters keeps tokens spaced. -/
theorem spaced_fixed_append {s : String} {rest : List (Token μ)} :
    Spaced (fixed s ++ rest) ↔ s.toList.all isPlain = true ∧ Spaced rest := by
  rw [fixed]
  induction s.toList with
  | nil => simp
  | cons c chars ih => simp [Spaced, ih, and_assoc]

/-- After delimited tokens a name and a marker are complete in every dialect. -/
theorem delimited_stops {rest : List (Token μ)} (h : delimited rest = true) (d : Dialect)
    (index : Nat) :
    (written d index rest).head? ≠ some d.closeQuote ∧
      ∀ c ∈ (written d index rest).head?, d.continuesMarker c = false := by
  have hdelimiters : delimiters.all fun c => c != d.closeQuote && !d.continuesMarker c := by
    cases d <;> decide
  have hdelimiter : ∀ c ∈ delimiters, c ≠ d.closeQuote ∧ d.continuesMarker c = false := by
    simpa using hdelimiters
  match rest, h with
  | [], _ => simp [written]
  | .char c :: rest, h =>
    have hc : c ∈ delimiters := by simpa [delimited] using h
    simpa [written] using hdelimiter c hc

end Token

open Token in
/-- Spaced tokens are found again in their text, with the texts of their markers. -/
theorem Dialect.tokens_written {μ : Type} {d : Dialect} {index : Nat} {tokens : List (Token μ)}
    (h : Spaced tokens) : d.tokens (written d index tokens) = some (numbered d index tokens) := by
  -- A name or a marker ends where the tokens after it begin, at a delimiter.
  induction tokens generalizing index with
  | nil => rw [written, Dialect.tokens, numbered]
  | cons t rest ih =>
    cases t with
    | char c =>
      have hplain : c ≠ d.openQuote ∧ c ≠ d.sigil := by
        constructor <;> rintro rfl <;> have hc := h.1 <;> revert hc <;> cases d <;> decide
      rw [written, Dialect.tokens, if_neg hplain.1, if_neg hplain.2, ih h.2]
      rfl
    | name s =>
      rw [written, tokens_quoteChars (delimited_stops h.1 d index).1, ih h.2]
      rfl
    | marker m =>
      rw [written, tokens_marker (delimited_stops h.1 d (index + 1)).2, ih h.2]
      rfl

end EntityQuery
