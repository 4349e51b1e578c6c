import EntityQuery.Json.Extract
import EntityQuery.Settings.Store

/-!
# Free shipping

Orders above an amount ship for free. The amount is a number that is not
negative, in a currency with a code of three characters.

## Main definitions

- `FreeShipping` — the amount and its currency
- `FreeShipping.kind` — how these settings are kept
-/

namespace EntityQuery

/-- Orders above an amount ship for free. -/
structure FreeShipping where
  amount : Double
  currencyCode : String
deriving DecidableEq

namespace FreeShipping

/-- Every order ships for free. -/
def initial : FreeShipping :=
  ⟨Double.zero false, "USD"⟩

/-- The JSON form; an amount that is no finite number has none. -/
def toJson (s : FreeShipping) : Json :=
  .object
    [("amount", if s.amount.isFinite then .number (.float s.amount) else .null),
     ("currencyCode", .string s.currencyCode)]

/-- The fields that have been taken. -/
structure Draft where
  amount : Option Double := none
  currencyCode : Option String := none

/-- The record form. -/
def form : Json.Form Draft FreeShipping where
  name := "FreeShippingOverAmount"
  draft := {}
  members :=
    [.of "amount" (fun a d => { d with amount := some a }) (Json.asDouble "a number"),
     .of "currencyCode" (fun a d => { d with currencyCode := some a }) Json.asText]
  finish d := do
    let amount ← Json.required "amount" d.amount
    let currencyCode ← Json.required "currencyCode" d.currencyCode
    return { amount, currencyCode }

/-- What is asked of the JSON form. -/
def constraint : Constraint :=
  .record [("amount", .number 0), ("currencyCode", .text 3)] ["amount", "currencyCode"]

/-- How these settings are kept. -/
def kind : SettingsKind FreeShipping where
  key := "freeShippingOverAmount"
  version := "1"
  default := initial
  constraint := .ok constraint
  encode := toJson
  decode := form.extract

end FreeShipping

end EntityQuery
