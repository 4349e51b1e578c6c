import EntityQuery.Proofs.Rendering.Spelling

/-!
# Where a quoted name ends

Reading a quoted name from its opening quote recovers the name and stops after the quoted
form, unless the text goes on with another closing quote. In the text of a statement it never
does, so every name that was written is read back where it stands.

## Main definitions

- `Dialect.readQuoted` — read a quoted name at the beginning of a text

## Main statements

- `Dialect.readQuoted_eq_some_iff` — what is read is what was quoted, and conversely
- `Sql.Select.readQuoted_render` — the names of a statement are read back in its text
-/

namespace EntityQuery

namespace Dialect

variable {d : Dialect}

-- ════════════════════════════════════════════════════════════════════════
-- Reading a quoted name
-- ════════════════════════════════════════════════════════════════════════

/-- A name that was read stands in the text with its closing quotes doubled, and the text
  does not go on with a closing quote. -/
theorem eq_of_readName {close : Char} {text name rest : List Char}
    (h : readName close text = some (name, rest)) :
    text = doubled close name ++ close :: rest ∧ rest.head? ≠ some close := by
  induction text using readName.induct close generalizing name rest with
  | case1 => simp [readName] at h
  | case2 =>
    simp only [readName, if_true] at h
    cases h
    exact ⟨rfl, by simp⟩
  | case3 c hc => simp [readName, hc] at h
  | case4 after ih =>
    simp only [readName, if_true, Option.map_eq_some_iff] at h
    obtain ⟨⟨name', rest'⟩, hread, heq⟩ := h
    cases heq
    obtain ⟨rfl, hrest⟩ := ih hread
    refine ⟨?_, hrest⟩
    rw [doubled, if_pos rfl]
    rfl
  | case5 next after hnext =>
    simp only [readName, if_true, if_neg hnext] at h
    cases h
    exact ⟨rfl, by simpa using hnext⟩
  | case6 c next after hc ih =>
    simp only [readName, if_neg hc, Option.map_eq_some_iff] at h
    obtain ⟨⟨name', rest'⟩, hread, heq⟩ := h
    cases heq
    obtain ⟨htext, hrest⟩ := ih hread
    refine ⟨?_, hrest⟩
    rw [doubled, if_neg hc, List.cons_append, ← htext]

theorem readName_eq_some_iff {close : Char} {text name rest : List Char} :
    readName close text = some (name, rest) ↔
      text = doubled close name ++ close :: rest ∧ rest.head? ≠ some close := by
  constructor
  · exact eq_of_readName
  · rintro ⟨rfl, hrest⟩
    exact readName_doubled hrest

/-- Read a quoted name at the beginning of a text: the name, and the text after its closing
  quote. -/
def readQuoted (d : Dialect) : List Char → Option (String × List Char)
  | [] => none
  | c :: text =>
    if c = d.openQuote then
      (readName d.closeQuote text).map fun (name, rest) => (String.ofList name, rest)
    else none

theorem quote_append {name : String} {rest : List Char} : (d.quote name).toList ++ rest =
    d.openQuote :: (doubled d.closeQuote name.toList ++ d.closeQuote :: rest) := by
  rw [quote, String.toList_ofList, quoteChars, List.append_assoc]
  rfl

/-- What is read at the beginning of a text is what was quoted there, as long as the text
  does not go on with another closing quote. -/
theorem readQuoted_eq_some_iff {text : List Char} {name : String} {rest : List Char} :
    d.readQuoted text = some (name, rest) ↔
      text = (d.quote name).toList ++ rest ∧ rest.head? ≠ some d.closeQuote := by
  rw [quote_append]
  cases text with
  | nil => simp [readQuoted]
  | cons c text =>
    rw [readQuoted, List.cons.injEq, and_assoc, ← readName_eq_some_iff]
    split_ifs with hc
    · rw [Option.map_eq_some_iff]
      constructor
      · rintro ⟨⟨chars, rest'⟩, hread, heq⟩
        cases heq
        rw [String.toList_ofList]
        exact ⟨hc, hread⟩
      · rintro ⟨-, hread⟩
        refine ⟨_, hread, ?_⟩
        show (String.ofList name.toList, rest) = (name, rest)
        rw [String.ofList_toList]
    · exact ⟨by simp, fun h => absurd h.1 hc⟩

end Dialect

-- ════════════════════════════════════════════════════════════════════════
-- Names in the text of a statement
-- ════════════════════════════════════════════════════════════════════════

namespace Sql

open Token

variable {d : Dialect}

theorem spaced_of_append {μ : Type} {before after : List (Token μ)}
    (h : Spaced (before ++ after)) : Spaced after := by
  induction before with
  | nil => exact h
  | cons t rest ih => cases t <;> exact ih h.2

/-- Where a statement has a name, its text is what was written before, the quoted name, and
  text that does not begin with a closing quote. -/
theorem Select.text_of_name {s : Select} {before after : List Piece} {name : String}
    (h : s.pieces = before ++ .name name :: after) :
    ∃ rest, (s.render d).text.toList =
        (Statement.ofPieces d before).text.toList ++ ((d.quote name).toList ++ rest) ∧
      rest.head? ≠ some d.closeQuote := by
  have htokens : s.tokens d = tokensOf d before ++ .name name :: tokensOf d after := by
    rw [tokens, h, tokensOf_append, tokensOf_cons]
    rfl
  have hspaced : Spaced (s.tokens d) := spaced_tokens
  rw [htokens] at hspaced
  obtain ⟨hdelimited, -⟩ := spaced_of_append hspaced
  refine ⟨_, ?_, (delimited_stops hdelimited d (0 + (marks (tokensOf d before)).length)).1⟩
  rw [text_render, htokens, written_append, Statement.text_eq, written, Dialect.quote,
    String.toList_ofList]

/-- Quoting is decodable from a prefix. In every dialect a quoted name is read back and
  nothing more, whatever text follows that does not begin with the closing quote, and in the
  text of a statement none of its quoted names is followed by one. -/
theorem Select.readQuoted_render (d : Dialect) :
    (∀ text name rest, d.readQuoted text = some (name, rest) ↔
      text = (d.quote name).toList ++ rest ∧ rest.head? ≠ some d.closeQuote) ∧
    ∀ (s : Select) (before : List Piece) (name : String) (after : List Piece),
      s.pieces = before ++ .name name :: after →
        ∃ rest, (s.render d).text.toList =
            (Statement.ofPieces d before).text.toList ++ ((d.quote name).toList ++ rest) ∧
          rest.head? ≠ some d.closeQuote ∧
          d.readQuoted ((s.render d).text.toList.drop
            (Statement.ofPieces d before).text.length) = some (name, rest) := by
  refine ⟨fun text name rest => Dialect.readQuoted_eq_some_iff, ?_⟩
  intro s before name after h
  obtain ⟨rest, htext, hrest⟩ := text_of_name (d := d) h
  refine ⟨rest, htext, hrest, ?_⟩
  rw [htext, ← String.length_toList, List.drop_left]
  exact Dialect.readQuoted_eq_some_iff.2 ⟨rfl, hrest⟩

end Sql

namespace Storefront

/-- A name between quotes is read back from its quoted form, where three quotes stand on
  either side. -/
theorem readQuoted_awkwardPage :
    awkwardPage.pieces = [.text "SELECT ", .name "a]b", .text ".", .name "LIMIT", .text "."] ++
        .name "\"x\"" :: awkwardPage.pieces.drop 6 ∧
      ∃ rest, (awkwardPage.render .postgresql).text.toList =
          "SELECT \"a]b\".\"LIMIT\".".toList ++ ("\"\"\"x\"\"\"".toList ++ rest) ∧
        rest.head? ≠ some '"' ∧
        Dialect.postgresql.readQuoted ((awkwardPage.render .postgresql).text.toList.drop 21) =
          some ("\"x\"", rest) := by
  have hpieces : awkwardPage.pieces =
      [.text "SELECT ", .name "a]b", .text ".", .name "LIMIT", .text "."] ++
        .name "\"x\"" :: awkwardPage.pieces.drop 6 := rfl
  exact ⟨hpieces, (Sql.Select.readQuoted_render .postgresql).2 awkwardPage _ _ _ hpieces⟩

end Storefront

end EntityQuery
