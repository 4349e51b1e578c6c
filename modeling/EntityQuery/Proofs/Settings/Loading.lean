import EntityQuery.Proofs.Json.Normal
import EntityQuery.Proofs.Settings.Saving

/-!
# Loaded settings are valid

Stored texts are arbitrary, and settings are checked on the JSON value of a text before they are
taken from it. Every member of a value that was read has a key of its own, so the members that
are checked are the members that are taken. An amount may still be rounded after the check, but
never below zero or out of range.

## Main definitions

- `Constraint.Admits` — the values that a constraint asks for

## Main statements

- `Constraint.violations_eq_nil_iff` — a value without violations is one that was asked for
- `SettingsKind.eq_default_or_of_load` — where loaded settings come from
- `FreeShipping.load_isValid` — what is loaded is valid, and can be saved
-/

namespace EntityQuery

open Json

-- ════════════════════════════════════════════════════════════════════════
-- What constraints ask for
-- ════════════════════════════════════════════════════════════════════════

theorem Json.Number.isBelow_iff {bound : ℤ} {n : Json.Number} :
    n.isBelow bound = true ↔ n.value < bound := by
  cases n with
  | integer i =>
    rw [isBelow, decide_eq_true_eq, value]
    exact Int.cast_lt.symm
  | float x => exact isBelow_float_iff

namespace Constraint

/-- The values that a constraint asks for. -/
inductive Admits : Constraint → Json → Prop
  | anything {j} : Admits .anything j
  | number {minimum : ℤ} {n : Json.Number} (h : minimum ≤ n.value) :
    Admits (.number minimum) (.number n)
  | text {length : ℕ} {s : String} (h : s.length = length) : Admits (.text length) (.string s)
  /-- Members that are not there are not asked for, unless they are required. -/
  | record {members required present}
    (hmembers : ∀ m ∈ members, ∀ j, Entries.find? m.1 present = some j → Admits m.2 j)
    (hrequired : ∀ key ∈ required, ∃ j, Entries.find? key present = some j) :
    Admits (.record members required) (.object present)

/-- Induction over constraints, with the claim for the constraint of every member. -/
@[elab_as_elim]
theorem induct {P : Constraint → Prop} (anything : P .anything) (number : ∀ b, P (.number b))
    (text : ∀ length, P (.text length))
    (record : ∀ members required, (∀ m ∈ members, P m.2) → P (.record members required))
    (c : Constraint) : P c :=
  @Constraint.rec P (fun members => ∀ m ∈ members, P m.2) (fun m => P m.2) anything number text
    (fun members required h => record members required h) (fun _ h => nomatch h)
    (fun _ _ hm hrest => List.forall_mem_cons.2 ⟨hm, hrest⟩) (fun _ _ h => h) c

variable {path : List String} {c : Constraint} {j : Json}

theorem memberViolationsAt_eq_nil_iff {present : List (String × Json)}
    {members : List (String × Constraint)} :
    memberViolationsAt path present members = [] ↔
      ∀ m ∈ members, ∀ j, Entries.find? m.1 present = some j →
        m.2.violationsAt (path ++ [m.1]) j = [] := by
  induction members with
  | nil => simp [memberViolationsAt]
  | cons m rest ih =>
    rw [memberViolationsAt, List.append_eq_nil_iff, ih, List.forall_mem_cons]
    apply and_congr_left'
    cases Entries.find? m.1 present <;> simp

theorem violationsAt_eq_nil_iff : c.violationsAt path j = [] ↔ c.Admits j := by
  induction c using Constraint.induct generalizing path j with
  | anything => exact ⟨fun _ => .anything, fun _ => by rw [violationsAt]⟩
  | number minimum =>
    cases j with
    | number n =>
      rw [violationsAt]
      by_cases hn : n.isBelow minimum = true
      · rw [if_pos hn]
        refine ⟨by simp, fun h => ?_⟩
        cases h with
        | number hle => exact absurd (Number.isBelow_iff.1 hn) (not_lt.2 hle)
      · rw [if_neg hn]
        exact ⟨fun _ => .number (not_lt.1 (mt Number.isBelow_iff.2 hn)), fun _ => rfl⟩
    | _ =>
      refine ⟨by simp [violationsAt], fun h => ?_⟩
      cases h
  | text length =>
    cases j with
    | string s =>
      rw [violationsAt]
      constructor
      · intro h
        split_ifs at h
        exact .text (by omega)
      · intro h
        cases h with
        | text hlength => simp [hlength]
    | _ =>
      refine ⟨by simp [violationsAt], fun h => ?_⟩
      cases h
  | record members required ih =>
    cases j with
    | object present =>
      rw [violationsAt, List.append_eq_nil_iff, memberViolationsAt_eq_nil_iff,
        List.map_eq_nil_iff, List.filter_eq_nil_iff]
      constructor
      · rintro ⟨hmembers, hrequired⟩
        refine .record (fun m hm j hj => (ih m hm).1 (hmembers m hm j hj)) fun key hkey => ?_
        exact Option.ne_none_iff_exists'.1 (by simpa using hrequired key hkey)
      · intro h
        cases h with
        | record hmembers hrequired =>
          refine ⟨fun m hm j hj => (ih m hm).2 (hmembers m hm j hj), fun key hkey => ?_⟩
          obtain ⟨j, hj⟩ := hrequired key hkey
          simp [hj]
    | _ =>
      refine ⟨by simp [violationsAt], fun h => ?_⟩
      cases h

/-- A value has no violations exactly if it is one that the constraint asks for. -/
theorem violations_eq_nil_iff : c.violations j = [] ↔ c.Admits j :=
  violationsAt_eq_nil_iff

end Constraint

-- ════════════════════════════════════════════════════════════════════════
-- Settings of any kind
-- ════════════════════════════════════════════════════════════════════════

theorem Envelope.keeps_record : Envelope.record.Keeps
    (fun draft => ∀ j, draft.settings = some j → Normal j) (fun e => Normal e.settings) where
  draft := nofun
  fill := by
    intro slot hslot draft hdraft n
    rcases List.mem_cons.1 hslot with rfl | hslot
    · exact Slot.yields_fill (P := fun _ => True) (fun _ _ _ _ _ => trivial) (fun _ _ => hdraft) n
    · rw [List.mem_singleton.1 hslot]
      refine Slot.yields_fill yields_readValue (fun j hj j' hj' => ?_) n
      cases hj'
      exact hj
  finish := by
    intro draft e hdraft hfinish
    obtain ⟨version, settings⟩ := draft
    cases version with
    | none => cases hfinish
    | some version =>
      cases settings with
      | none => cases hfinish
      | some j =>
        cases hfinish
        exact hdraft j rfl

namespace SettingsKind

variable {α : Type} {kind : SettingsKind α} {store : Dict String} {settings : α}

/-- Loaded settings are the default, or they are taken from a normal value that is valid. -/
theorem eq_default_or_of_load (h : kind.load store = .ok settings) :
    settings = kind.default ∨
      ∃ j, Normal j ∧ kind.validate j = .ok () ∧ kind.decode j = .ok settings := by
  rw [load] at h
  split at h
  · cases h
    exact .inl rfl
  · split at h
    · cases h
    · rename_i envelope hread
      split at h
      · cases h
      · split at h
        · cases h
        · rename_i hvalidate
          refine .inr ⟨envelope.settings, Yields.decode Envelope.keeps_record.reader hread,
            hvalidate, ?_⟩
          cases hdecode : kind.decode envelope.settings with
          | error cause =>
            rw [hdecode] at h
            cases h
          | ok settings' =>
            rw [hdecode] at h
            cases h
            rfl

end SettingsKind

/-- What every member keeps of a draft is kept of the draft when an object is taken. -/
theorem Json.Form.fillObject_keeps {σ α : Type} {Q : σ → Prop} {f : Form σ α}
    {members : List (String × Json)}
    (h : ∀ m ∈ f.members, ∀ j, (m.name, j) ∈ members → ∀ draft draft', Q draft →
      m.fill j draft = .ok draft' → Q draft')
    {draft draft' : σ} (hdraft : Q draft) (hfill : f.fillObject draft members = .ok draft') :
    Q draft' := by
  induction members generalizing draft with
  | nil =>
    cases hfill
    exact hdraft
  | cons entry rest ih =>
    obtain ⟨key, j⟩ := entry
    have hrest := fun m hm j hj => h m hm j (List.mem_cons_of_mem _ hj)
    rw [fillObject] at hfill
    split at hfill
    · exact ih hrest hdraft hfill
    · rename_i m hm
      split at hfill
      · cases hfill
      · rename_i draft₁ hmember
        have hname : m.name = key := by simpa using List.find?_some hm
        refine ih hrest (h m (List.mem_of_find?_eq_some hm) j ?_ draft draft₁ hdraft hmember) hfill
        rw [hname]
        exact List.mem_cons_self

-- ════════════════════════════════════════════════════════════════════════
-- Free shipping
-- ════════════════════════════════════════════════════════════════════════

namespace FreeShipping

variable {s : FreeShipping} {store : Dict String}

/-- What has been taken is valid. -/
structure Draft.IsValid (draft : Draft) : Prop where
  amount : ∀ x, draft.amount = some x → x.isFinite = true ∧ 0 ≤ x.value
  currencyCode : ∀ t, draft.currencyCode = some t → t.length = 3

theorem Draft.IsValid.finish {draft : Draft} (h : draft.IsValid)
    (hfinish : form.finish draft = .ok s) : s.IsValid := by
  obtain ⟨amount, currencyCode⟩ := draft
  cases amount with
  | none => cases hfinish
  | some x =>
    cases currencyCode with
    | none => cases hfinish
    | some t =>
      cases hfinish
      exact ⟨(h.amount x rfl).1, (h.amount x rfl).2, h.currencyCode t rfl⟩

theorem isValid_draft : form.draft.IsValid where
  amount := by
    rintro x ⟨⟩
  currencyCode := by
    rintro t ⟨⟩

/-- Taking a member keeps what has been taken valid if the object was read and is valid. -/
theorem Draft.IsValid.fill {draft draft' : Draft} (h : draft.IsValid)
    {present : List (String × Json)} (hnormal : Normal (.object present))
    (hadmits : constraint.Admits (.object present)) {m : Json.Member Draft}
    (hm : m ∈ form.members) {j : Json} (hj : (m.name, j) ∈ present)
    (hfill : m.fill j draft = .ok draft') : draft'.IsValid := by
  cases hadmits with
  | record hmembers _ =>
    cases hnormal with
    | object hkeys hnormal =>
      have hfind := (Entries.find?_eq_some_iff hkeys).2 hj
      rcases List.mem_cons.1 hm with rfl | hm
      · obtain ⟨x, hx, rfl⟩ := map_eq_ok_iff.1 hfill
        refine ⟨fun y hy => ?_, h.currencyCode⟩
        cases hy
        cases hmembers ("amount", .number 0) List.mem_cons_self j hfind with
        | number hn =>
          cases hx
          cases hnormal _ hj with
          | number hrange => exact ⟨hrange.toDouble.1, hrange.toDouble.2 (by simpa using hn)⟩
      · obtain rfl := List.mem_singleton.1 hm
        obtain ⟨t, ht, rfl⟩ := map_eq_ok_iff.1 hfill
        refine ⟨h.amount, fun u hu => ?_⟩
        cases hu
        cases hmembers ("currencyCode", .text 3) (by simp) j hfind with
        | text hlength =>
          cases ht
          exact hlength

/-- Settings that are taken from a normal value are valid if the value is. -/
theorem isValid_of_decode {j : Json} (hnormal : Normal j) (hadmits : constraint.Admits j)
    (hdecode : form.extract j = .ok s) : s.IsValid := by
  cases hadmits with
  | @record _ _ present hmembers hrequired =>
    rw [Json.Form.extract] at hdecode
    split at hdecode
    · cases hdecode
    · rename_i draft hfill
      have hdraft : draft.IsValid := by
        refine Json.Form.fillObject_keeps (fun m hm j hj draft draft' h => ?_) isValid_draft hfill
        exact h.fill hnormal (.record hmembers hrequired) hm hj
      split at hdecode
      · rename_i hfinish
        cases hdecode
        exact hdraft.finish hfinish
      · cases hdecode

theorem isValid_initial : initial.IsValid :=
  validate_eq_ok_iff.1 (validate_toJson.2 (by decide +kernel))

/-- Whatever is loaded is valid and can be saved, whatever text is stored: the amount is finite
  and not negative, and the code of the currency has three characters. -/
theorem load_isValid (h : kind.load store = .ok s) :
    s.IsValid ∧ ∀ store', kind.save store' s = .ok (store'.insert kind.key (kind.text s)) := by
  have hvalid : s.IsValid := by
    rcases SettingsKind.eq_default_or_of_load h with rfl | ⟨j, hnormal, hvalidate, hdecode⟩
    · exact isValid_initial
    · rw [SettingsKind.validate_eq_ok constraint_kind, Constraint.violations_eq_nil_iff]
        at hvalidate
      exact isValid_of_decode hnormal hvalidate hdecode
  exact ⟨hvalid, fun store' => SettingsKind.save_eq_ok.2 ⟨validate_eq_ok_iff.2 hvalid, rfl⟩⟩

/-- An envelope written as a list. The amount stands there twice, the second time as an integer
  between two doubles. -/
def listed : String :=
  "[\"1\", \x7b\"amount\": \"none\", \"amount\": 9007199254740993, " ++
    "\"currencyCode\": \"E\\u0055R\"\x7d]"

/-- The integer is what is checked, and the double below it is what is loaded. -/
theorem load_isValid_listed :
    kind.load (Dict.ofList [("freeShippingOverAmount", listed)]) =
        .ok ⟨Double.ofNat 9007199254740992, "EUR"⟩ ∧
      IsValid ⟨Double.ofNat 9007199254740992, "EUR"⟩ ∧
      ∃ store', kind.save Dict.empty ⟨Double.ofNat 9007199254740992, "EUR"⟩ = .ok store' := by
  have hload : kind.load (Dict.ofList [("freeShippingOverAmount", listed)]) =
      .ok ⟨Double.ofNat 9007199254740992, "EUR"⟩ :=
    toOption_eq_some_iff.1 (by decide +kernel)
  obtain ⟨hvalid, hsave⟩ := load_isValid hload
  exact ⟨hload, hvalid, _, hsave Dict.empty⟩

end FreeShipping

end EntityQuery
