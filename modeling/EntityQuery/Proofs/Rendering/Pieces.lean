import EntityQuery.Proofs.Rendering.Tokens
import EntityQuery.Sql.Statement

/-!
# The tokens of pieces

Every piece of a statement is a run of tokens, and a parameter is a marker that
knows its parameter. The text and the parameters of a statement are those of the
tokens of its pieces. Which rows of tokens may stand side by side depends on what
follows the last name or marker, so rows are sorted by how they begin and end.

## Main definitions

- `Token.Complete`, `Token.Detached` — tokens that may be followed by a delimiter,
  and tokens that may follow a name as well
- `Token.separated` — groups of tokens with commas between them
- `Sql.Piece.tokens`, `Sql.tokensOf` — the tokens of a piece and of pieces

## Main statements

- `Token.Complete.separated` — a list of complete groups is complete
- `Sql.tokensOf_commaSeparated` — the tokens of a list of groups of pieces
- `Sql.Statement.text_eq`, `Sql.Statement.params_eq` — a statement from the tokens
  of its pieces
-/

namespace EntityQuery

namespace Token

variable {μ α : Type}

-- ════════════════════════════════════════════════════════════════════════
-- Spaced tokens
-- ════════════════════════════════════════════════════════════════════════

/-- Tokens that stay spaced if a delimiter follows. -/
def Complete (tokens : List (Token μ)) : Prop :=
  ∀ ⦃rest⦄, delimited rest = true → Spaced rest → Spaced (tokens ++ rest)

/-- Complete tokens that begin with a delimiter, if there are any. -/
def Detached (tokens : List (Token μ)) : Prop :=
  Complete tokens ∧ ∀ ⦃rest⦄, delimited rest = true → delimited (tokens ++ rest) = true

/-- Whether a text of plain characters begins with a delimiter. -/
def isSeparator (s : String) : Bool :=
  match s.toList with
  | [] => false
  | c :: rest => delimiters.contains c && rest.all isPlain

/-- Plain text after a separator. -/
theorem isSeparator_append {s t : String} (hs : isSeparator s = true)
    (ht : t.toList.all isPlain = true) : isSeparator (s ++ t) = true := by
  rw [isSeparator] at hs ⊢
  rw [String.toList_append]
  cases hchars : s.toList with
  | nil => simp [hchars] at hs
  | cons c rest =>
    rw [hchars] at hs
    rw [List.cons_append]
    simp only [List.all_append, ht, Bool.and_true]
    exact hs

/-- A written number is plain. -/
theorem isPlain_repr (n : Nat) : (Nat.repr n).toList.all isPlain = true := by
  rw [List.all_eq_true]
  intro c hc
  rw [Nat.toList_repr] at hc
  have hdigit : c.isDigit = true := Nat.isDigit_of_mem_toDigits (by decide) (by decide) hc
  simp [isPlain, Char.isAlphanum, hdigit]

theorem Detached.nil : Detached ([] : List (Token μ)) :=
  ⟨fun _ _ hrest => hrest, fun _ hrest => hrest⟩

theorem Complete.append {first second : List (Token μ)} (hfirst : Complete first)
    (hsecond : Detached second) : Complete (first ++ second) := by
  intro rest hdelimited hspaced
  rw [List.append_assoc]
  exact hfirst (hsecond.2 hdelimited) (hsecond.1 hdelimited hspaced)

theorem Detached.append {first second : List (Token μ)} (hfirst : Detached first)
    (hsecond : Detached second) : Detached (first ++ second) := by
  refine ⟨hfirst.1.append hsecond, fun rest hdelimited => ?_⟩
  rw [List.append_assoc]
  exact hfirst.2 (hsecond.2 hdelimited)

theorem Complete.name {s : String} : Complete [(.name s : Token μ)] :=
  fun _ hdelimited hspaced => ⟨hdelimited, hspaced⟩

theorem Complete.marker {m : μ} : Complete [(.marker m : Token μ)] :=
  fun _ hdelimited hspaced => ⟨hdelimited, hspaced⟩

theorem Complete.fixed_append {s : String} {tokens : List (Token μ)}
    (hs : s.toList.all isPlain = true) (htokens : Complete tokens) :
    Complete (fixed s ++ tokens) := by
  intro rest hdelimited hspaced
  rw [List.append_assoc]
  exact spaced_fixed_append.2 ⟨hs, htokens hdelimited hspaced⟩

theorem Detached.fixed_append {s : String} {tokens : List (Token μ)}
    (hs : isSeparator s = true) (htokens : Complete tokens) : Detached (fixed s ++ tokens) := by
  rw [isSeparator] at hs
  split at hs
  · cases hs
  · rename_i c chars hchars
    obtain ⟨hc, hplain⟩ := Bool.and_eq_true_iff.1 hs
    have hcplain : isPlain c = true := by rw [isPlain, hc, Bool.or_true, Bool.true_or]
    refine ⟨htokens.fixed_append ?_, fun rest _ => ?_⟩
    · rw [hchars, List.all_cons, hcplain, hplain]
      rfl
    · simpa [fixed, hchars, delimited] using hc

theorem Detached.fixed {s : String} (hs : isSeparator s = true) :
    Detached (Token.fixed s : List (Token μ)) := by
  simpa using Detached.fixed_append hs (Detached.nil (μ := μ)).1

theorem Detached.flatMap {write : α → List (Token μ)} {xs : List α}
    (h : ∀ x ∈ xs, Detached (write x)) : Detached (xs.flatMap write) := by
  induction xs with
  | nil => exact Detached.nil
  | cons x rest ih =>
    rw [List.flatMap_cons]
    exact (h x List.mem_cons_self).append (ih fun y hy => h y (List.mem_cons_of_mem x hy))

/-- Groups of tokens separated by commas. -/
def separated : List (List (Token μ)) → List (Token μ)
  | [] => []
  | group :: rest => group ++ rest.flatMap (fixed ", " ++ ·)

theorem Complete.separated {groups : List (List (Token μ))}
    (h : ∀ group ∈ groups, Complete group) : Complete (separated groups) := by
  match groups with
  | [] => exact Detached.nil.1
  | group :: rest =>
    refine (h group List.mem_cons_self).append (Detached.flatMap fun other hother => ?_)
    exact Detached.fixed_append (by decide) (h other (List.mem_cons_of_mem group hother))

end Token

namespace Sql

open Token

-- ════════════════════════════════════════════════════════════════════════
-- From pieces to tokens
-- ════════════════════════════════════════════════════════════════════════

/-- The tokens of a piece. -/
def Piece.tokens (d : Dialect) : Piece → List (Token Param)
  | .text s => fixed s
  | .name s => [.name s]
  | .param p => [.marker p]
  | .paging w ordered => fixed (d.paging w ordered)

/-- The tokens of pieces. -/
def tokensOf (d : Dialect) (pieces : List Piece) : List (Token Param) :=
  pieces.flatMap (Piece.tokens d)

variable {d : Dialect}

@[simp]
theorem tokensOf_nil : tokensOf d [] = [] :=
  rfl

@[simp]
theorem tokensOf_cons {piece : Piece} {rest : List Piece} :
    tokensOf d (piece :: rest) = piece.tokens d ++ tokensOf d rest :=
  List.flatMap_cons

@[simp]
theorem tokensOf_append {first second : List Piece} :
    tokensOf d (first ++ second) = tokensOf d first ++ tokensOf d second :=
  List.flatMap_append

/-- The tokens of groups of pieces separated by commas. -/
theorem tokensOf_commaSeparated {groups : List (List Piece)} :
    tokensOf d (commaSeparated groups) = separated (groups.map (tokensOf d)) := by
  cases groups with
  | nil => rfl
  | cons group rest =>
    rw [commaSeparated, tokensOf_append, List.map_cons, separated, List.flatMap_map]
    congr 1
    rw [tokensOf, List.flatMap_assoc]
    rfl

/-- The parameter of a piece is its marker. -/
theorem Piece.marks_tokens {piece : Piece} : marks (piece.tokens d) = piece.params := by
  cases piece with
  | text s => exact marks_fixed
  | name s => rfl
  | param p => rfl
  | paging w ordered => exact marks_fixed

/-- A piece is spelled as its tokens are written. -/
theorem Piece.toList_spell {piece : Piece} {index : Nat} :
    (piece.spell d index).toList = written d index (piece.tokens d) := by
  cases piece with
  | text s => exact written_fixed.symm
  | name s => simp [Piece.spell, Piece.tokens, written, Dialect.quote]
  | param p => simp [Piece.spell, Piece.tokens, written]
  | paging w ordered => exact written_fixed.symm

/-- The parameters of pieces are their markers. -/
theorem Statement.params_eq {pieces : List Piece} :
    (Statement.ofPieces d pieces).params = marks (tokensOf d pieces) := by
  rw [Statement.params_ofPieces]
  induction pieces with
  | nil => rfl
  | cons piece rest ih =>
    rw [List.flatMap_cons, tokensOf_cons, marks_append, ih, Piece.marks_tokens]

/-- The text that further pieces add to a statement. -/
theorem Statement.text_foldl_push {s : Statement} {pieces : List Piece} :
    (pieces.foldl (push d) s).text.toList =
      s.text.toList ++ written d s.params.length (tokensOf d pieces) := by
  induction pieces generalizing s with
  | nil => simp [written]
  | cons piece rest ih =>
    rw [List.foldl_cons, ih, tokensOf_cons, written_append, Piece.marks_tokens, push,
      String.toList_append, List.length_append, Piece.toList_spell, List.append_assoc]

/-- The text of pieces is that of their tokens. -/
theorem Statement.text_eq {pieces : List Piece} :
    (Statement.ofPieces d pieces).text.toList = written d 0 (tokensOf d pieces) := by
  simp [ofPieces, text_foldl_push, empty]

end Sql

end EntityQuery
