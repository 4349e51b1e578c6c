import Mathlib.Tactic.SplitIfs
import EntityQuery.Proofs.Json.Compact
import EntityQuery.Settings.FreeShipping

/-!
# Loading saved settings

Settings are written on one line and read again when they are loaded. What is loaded is
therefore what the text is read as, if that is still valid. For free shipping it always is:
the currency stays as it was, while an amount of many digits may become a neighbouring one.

## Main definitions

- `FreeShipping.finiteForm` — the JSON form of a finite amount

## Main statements

- `Envelope.reads_toJson` — an envelope is read back if its settings are
- `SettingsKind.toOption_load_of_save` — what saved settings of any kind are loaded as
- `FreeShipping.load_save` — saved settings are loaded, with what amount
-/

namespace EntityQuery

open Json

-- ════════════════════════════════════════════════════════════════════════
-- Records and envelopes
-- ════════════════════════════════════════════════════════════════════════

theorem Json.Record.readObject_more {σ α β : Type} {r : Record σ α} {name : String}
    (get : σ → Option β) {set : β → σ → σ} {reader : Reader β} {draft : σ} {first : Bool}
    {t u v : List Char} {j : Json} {b? : Option β} {n : ℕ}
    (hslot : r.slots.find? (·.name == name) = some (.of name get set reader))
    (hempty : get draft = none) (hnext : nextMember first t = .ok (.more u))
    (hkey : readText u = .ok (name, ':' :: (j.compactChars ++ v))) (hends : EndsNumber v)
    (hread : Reads (reader n) j b?) (rounds : ℕ) :
    (r.readObject n (rounds + 1) draft first t).toOption =
      b?.bind fun b => (r.readObject n rounds (set b draft) false v).toOption := by
  have hvalue := hread v hends
  have hisEmpty : (get draft).isSome = false := by rw [hempty, Option.isSome_none]
  rw [readObject]
  simp only [hnext, hkey, readMember, hslot, Slot.of, hisEmpty, Bool.false_eq_true, ↓reduceIte,
    passColon_cons, Except.bind]
  cases b? with
  | none =>
    obtain ⟨f, hf⟩ := toOption_eq_none_iff.1 hvalue
    rw [hf]
    rfl
  | some b =>
    rw [toOption_eq_some_iff.1 hvalue]
    rfl

/-- An envelope is read back if its settings are. -/
theorem Envelope.reads_toJson {n : ℕ} {version : String} {settings : Json} {j? : Option Json}
    (h : Reads (readValue n) settings j?) :
    Reads (Envelope.record.reader (n + 1)) (Envelope.toJson ⟨version, settings⟩)
      (j?.map fun j => ⟨version, j⟩) := by
  intro rest hrest
  obtain ⟨t, ht, hmembers, hlength⟩ :=
    compactMembers_written [("version", .string version), ("settings", settings)] rest
  obtain ⟨k, hk⟩ : ∃ k, t.length = k + 2 := Nat.exists_eq_add_of_le' hlength
  rw [toJson, ht]
  have hopen : Envelope.record.reader (n + 1) ('\x7b' :: t) =
      Envelope.record.readObject n (t.length + 1) Envelope.record.draft true t := by
    simp only [Record.reader, skipSpace_cons (c := '\x7b') (by decide)]
  rw [hopen, hk]
  cases hmembers with
  | more hnext hkey hends hmore =>
    cases hmore with
    | more hnext' hkey' hends' hlast =>
      cases hlast with
      | close hclose =>
        rw [Record.readObject_more EnvelopeDraft.version rfl rfl hnext hkey hends
          (reads_text version n), Option.bind_some]
        rw [Record.readObject_more EnvelopeDraft.settings rfl rfl hnext' hkey' hends' h]
        cases j? with
        | none => rfl
        | some j =>
          simp only [Record.readObject, hclose, Option.bind_some]
          rfl

-- ════════════════════════════════════════════════════════════════════════
-- Settings of any kind
-- ════════════════════════════════════════════════════════════════════════

namespace SettingsKind

variable {α : Type} {kind : SettingsKind α} {store store' : Dict String} {settings : α}

theorem validate_eq_ok {constraint : Constraint} (h : kind.constraint = .ok constraint)
    {value : Json} : kind.validate value = .ok () ↔ constraint.violations value = [] := by
  rw [validate, h]
  dsimp only
  split
  · rename_i hnone
    simp [hnone]
  · rename_i hsome
    simpa using hsome

theorem save_eq_ok :
    kind.save store settings = .ok store' ↔
      kind.validate (kind.encode settings) = .ok () ∧
        store' = store.insert kind.key (kind.text settings) := by
  rw [save]
  cases kind.validate (kind.encode settings) <;> simp [eq_comm]

/-- Saved settings are loaded as what their text is read as, if that is valid. -/
theorem toOption_load_of_save (h : kind.save store settings = .ok store') {j? : Option Json}
    (hread : ∀ n, Reads (readValue (n + 1)) (kind.encode settings) j?) :
    (kind.load store').toOption = j?.bind fun j =>
      (kind.validate j).toOption.bind fun _ => (kind.decode j).toOption := by
  obtain ⟨-, rfl⟩ := save_eq_ok.1 h
  have hdecode : (Json.decode Envelope.record.reader (kind.text settings)).toOption =
      j?.map fun j => ⟨kind.version, j⟩ :=
    Reads.decode (Envelope.reads_toJson (hread (bracketLimit - 2)))
  rw [load, Dict.find?_insert, if_pos rfl]
  cases j? with
  | none =>
    obtain ⟨fault, hfault⟩ := toOption_eq_none_iff.1 hdecode
    simp only [hfault]
    rfl
  | some j =>
    simp only [toOption_eq_some_iff.1 hdecode, ne_eq, not_true_eq_false, ↓reduceIte,
      Option.bind_some]
    cases kind.validate j with
    | error err => rfl
    | ok _ => cases kind.decode j <;> rfl

end SettingsKind

-- ════════════════════════════════════════════════════════════════════════
-- Free shipping
-- ════════════════════════════════════════════════════════════════════════

namespace FreeShipping

variable {s t : FreeShipping} {store store' : Dict String}

/-- The JSON form of an amount that is a finite number. -/
def finiteForm (amount : Double) (currencyCode : String) : Json :=
  .object [("amount", .number (.float amount)), ("currencyCode", .string currencyCode)]

theorem toJson_of_isFinite (hfinite : s.amount.isFinite = true) :
    toJson s = finiteForm s.amount s.currencyCode := by
  rw [toJson, if_pos hfinite, finiteForm]

theorem constraint_kind : kind.constraint = .ok constraint := by
  rfl

theorem violations_eq (amount : Json) (currencyCode : String) :
    constraint.violations (.object [("amount", amount), ("currencyCode", .string currencyCode)]) =
      Constraint.violationsAt ["amount"] (.number 0) amount ++
        Constraint.violationsAt ["currencyCode"] (.text 3) (.string currencyCode) := by
  have hmembers : constraint.violations
      (.object [("amount", amount), ("currencyCode", .string currencyCode)]) =
      Constraint.violationsAt ["amount"] (.number 0) amount ++
        (Constraint.violationsAt ["currencyCode"] (.text 3) (.string currencyCode) ++ []) ++ [] :=
    rfl
  rw [hmembers, List.append_nil, List.append_nil]

theorem validate_finiteForm (amount : Double) (currencyCode : String) :
    kind.validate (finiteForm amount currencyCode) = .ok () ↔
      Json.Number.isBelow 0 (.float amount) = false ∧ currencyCode.length = 3 := by
  have hlength : Constraint.violationsAt ["currencyCode"] (.text 3) (.string currencyCode) = [] ↔
      currencyCode.length = 3 := by
    rw [Constraint.violationsAt]
    split_ifs with hlong hshort
    · simpa using hlong.ne'
    · simpa using hshort.ne
    · simp
      omega
  rw [SettingsKind.validate_eq_ok constraint_kind, finiteForm, violations_eq,
    List.append_eq_nil_iff, hlength, Constraint.violationsAt]
  simp

theorem validate_toJson :
    kind.validate (toJson s) = .ok () ↔
      s.amount.isFinite = true ∧ Json.Number.isBelow 0 (.float s.amount) = false ∧
        s.currencyCode.length = 3 := by
  by_cases hfinite : s.amount.isFinite = true
  · rw [toJson_of_isFinite hfinite, validate_finiteForm]
    simp [hfinite]
  · rw [SettingsKind.validate_eq_ok constraint_kind, toJson, if_neg hfinite,
      violations_eq]
    simp [hfinite, Constraint.violationsAt]

theorem decode_finiteForm (amount : Double) (currencyCode : String) :
    kind.decode (finiteForm amount currencyCode) = .ok ⟨amount, currencyCode⟩ := by
  rfl

theorem collect_members (amount currencyCode : Json) :
    collect [("amount", amount), ("currencyCode", currencyCode)] =
      [("amount", amount), ("currencyCode", currencyCode)] := by
  have horder : ¬ "currencyCode" < "amount" := by decide +kernel
  have hnames : "currencyCode" ≠ "amount" := by decide
  rw [collect, List.foldl_cons, List.foldl_cons, List.foldl_nil, Entries.insert, Entries.insert,
    if_neg horder, if_neg hnames, Entries.insert]

/-- What a member of these settings is read as. -/
def rereadMember : Json → Option Json
  | .number (.float x) => x.reread?.map fun y => .number (.float y)
  | j => some j

theorem reads_finiteForm {x : Double} (hx : x.isFinite = true) (currencyCode : String) (n : ℕ) :
    Reads (readValue (n + 1)) (finiteForm x currencyCode)
      (x.reread?.map fun y => finiteForm y currencyCode) := by
  have hmembers : ∀ m ∈ [("amount", Json.number (.float x)), ("currencyCode", .string currencyCode)],
      Reads (readValue n) m.2 (rereadMember m.2) := by
    simp only [List.forall_mem_cons, List.not_mem_nil, false_imp_iff, forall_const, and_true]
    exact ⟨reads_float hx n, reads_string currencyCode n⟩
  have hread := reads_object hmembers
  cases hy : x.reread? with
  | none => simpa [rereadMember, hy, finiteForm] using hread
  | some y => simpa [rereadMember, hy, finiteForm, collect_members] using hread

-- ════════════════════════════════════════════════════════════════════════
-- Amounts
-- ════════════════════════════════════════════════════════════════════════

theorem isBelow_zero_iff {x : Double} :
    Json.Number.isBelow 0 (.float x) = true ↔ x.isNegative = true ∧ x.numerator ≠ 0 := by
  simp only [Json.Number.isBelow, zero_mul, decide_eq_true_eq]
  cases x.isNegative with
  | true => simp only [if_true, true_and]; omega
  | false => simp only [Bool.false_eq_true, if_false, false_and, iff_false]; omega

/-- A valid amount is read back as a valid amount, if it is in range. -/
theorem isBelow_of_reread? {x y : Double} (hx : x.isFinite = true) (hy : x.reread? = some y)
    (h : Json.Number.isBelow 0 (.float x) = false) : Json.Number.isBelow 0 (.float y) = false := by
  by_cases hzero : x.magnitude = 0
  · have hsame := (Double.isShort_zero hzero).reread?_eq hx
    rw [hy] at hsame
    rwa [Option.some.inj hsame]
  · have hpositive : x.isNegative = false := by
      refine Bool.eq_false_iff.2 fun hnegative => ?_
      rw [isBelow_zero_iff.2 ⟨hnegative, Double.numerator_ne_zero hzero⟩] at h
      cases h
    rw [Bool.eq_false_iff, ne_eq, isBelow_zero_iff, Double.isNegative_of_reread? hy, hpositive]
    simp

/-- What saved settings are loaded as: the currency is the saved one, the amount what its text
  is read as. -/
theorem load_eq_ok_iff (h : kind.save store s = .ok store') :
    kind.load store' = .ok t ↔
      t.currencyCode = s.currencyCode ∧ s.amount.reread? = some t.amount := by
  obtain ⟨hfinite, hbelow, hlength⟩ := validate_toJson.1 (SettingsKind.save_eq_ok.1 h).1
  have hencode : kind.encode s = finiteForm s.amount s.currencyCode := toJson_of_isFinite hfinite
  have hload := SettingsKind.toOption_load_of_save h fun n =>
    hencode ▸ reads_finiteForm hfinite s.currencyCode n
  rw [← toOption_eq_some_iff, hload]
  cases hy : s.amount.reread? with
  | none => simp
  | some y =>
    have hvalid : kind.validate (finiteForm y s.currencyCode) = .ok () :=
      (validate_finiteForm y s.currencyCode).2 ⟨isBelow_of_reread? hfinite hy hbelow, hlength⟩
    obtain ⟨amount, currencyCode⟩ := t
    simp [hvalid, decode_finiteForm, Except.toOption, eq_comm, and_comm]

/-- Saved settings are loaded with the saved currency, and with the amount that the text of
  the saved one is read as. A short amount is loaded as it was, whatever was stored before. -/
theorem load_save (h : kind.save store s = .ok store') :
    ∃ t, kind.load store' = .ok t ∧ t.currencyCode = s.currencyCode ∧
      s.amount.reread? = some t.amount ∧ (s.amount.IsShort → t = s) := by
  have hfinite : s.amount.isFinite = true :=
    (validate_toJson.1 (SettingsKind.save_eq_ok.1 h).1).1
  obtain ⟨y, hy⟩ := Option.isSome_iff_exists.1 (Double.isSome_reread? hfinite)
  refine ⟨⟨y, s.currencyCode⟩, (load_eq_ok_iff h).2 ⟨rfl, hy⟩, rfl, hy, fun hshort => ?_⟩
  obtain rfl : s.amount = y := Option.some.inj ((hshort.reread?_eq hfinite).symm.trans hy)
  rfl

/-- Orders above 49.99 euros ship for free. -/
def euros : FreeShipping :=
  ⟨⟨0x4048feb851eb851f⟩, "EUR"⟩

/-- An amount of euros and cents is loaded as it was saved, in place of an older text. -/
theorem load_save_euros :
    ∃ store', kind.save (Dict.ofList [("freeShippingOverAmount", "none")]) euros = .ok store' ∧
      euros.amount.IsShort ∧ kind.load store' = .ok euros := by
  have hvalid : kind.validate (toJson euros) = .ok () := validate_toJson.2 (by decide +kernel)
  have hsave : kind.save (Dict.ofList [("freeShippingOverAmount", "none")]) euros = .ok _ :=
    SettingsKind.save_eq_ok.2 ⟨hvalid, rfl⟩
  have hshort : euros.amount.IsShort := by decide +kernel
  obtain ⟨t, hload, -, -, hsame⟩ := load_save hsave
  rw [hsame hshort] at hload
  exact ⟨_, hsave, hshort, hload⟩

/-- Orders above 0.9757999999999999 euros ship for free: 82 cents and the tax on them. -/
def taxed : FreeShipping :=
  ⟨⟨0x3fef39c0ebedfa43⟩, "EUR"⟩

/-- An amount with a digit too many is loaded as a neighbour. -/
theorem not_load_save : ¬ ∀ store store' s, kind.save store s = .ok store' →
    kind.load store' = .ok s := by
  intro hall
  have hvalid : kind.validate (toJson taxed) = .ok () := validate_toJson.2 (by decide +kernel)
  have hsave : kind.save Dict.empty taxed = .ok _ := SettingsKind.save_eq_ok.2 ⟨hvalid, rfl⟩
  have hreread : taxed.amount.reread? = some ⟨0x3fef39c0ebedfa44⟩ := by decide +kernel
  have hsame := ((load_eq_ok_iff hsave).1 (hall _ _ _ hsave)).2
  rw [hreread] at hsame
  exact absurd hsame (by decide)

end FreeShipping

end EntityQuery
