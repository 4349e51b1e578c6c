import Mathlib.Data.List.Basic
import EntityQuery.Customer.AddressBook

/-!
# Whose addresses a call can reach

Calls on behalf of a customer are refused if the address that is handed in belongs to
somebody else. What a call replaces or removes is found by the key alone, so the
addresses of the other customers are safe exactly as long as no call hands in one of
their keys under the name of its own customer.

## Main definitions

- `AddressCall` — a call that changes the book on behalf of a customer
- `AddressBook.touched` — the stored addresses that a call replaces or removes
- `AddressBook.Isolates` — every call of a run leaves the addresses of others alone

## Main statements

- `AddressBook.others_after_eq_iff` — when a single call leaves them alone
- `AddressBook.isolates_iff` — when every call of a run does
- `Storefront.not_isolates_relabelled` — a call that does not
-/

namespace EntityQuery

/-- A call that changes an address book on behalf of a customer. -/
inductive AddressCall
  | create (customer : Customer) (address : Address) (type : AddressType)
  | save (customer : Customer) (address : CustomerAddress)
  | delete (customer : Customer) (address : CustomerAddress)

namespace AddressCall

/-- The customer on whose behalf the call is made. -/
def customer : AddressCall → Customer
  | create customer _ _ => customer
  | save customer _ => customer
  | delete customer _ => customer

/-- Make the call. -/
def run (b : AddressBook) : AddressCall → Except AddressError AddressBook
  | create customer address type => (customer.createAddress b address type).map Prod.snd
  | save customer address => (customer.saveAddress b address).map Prod.snd
  | delete customer address => customer.deleteAddress b address

end AddressCall

namespace AddressBook

/-- The book after a call. A call that is refused leaves it as it was. -/
def after (b : AddressBook) (call : AddressCall) : AddressBook :=
  match call.run b with
  | .ok changed => changed
  | .error _ => b

/-- The addresses of all other customers, in order. -/
def others (b : AddressBook) (customer : Uuid) : List CustomerAddress :=
  b.addresses.filter (·.customerKey != customer)

/-- The stored addresses that a call replaces or removes. They are found by the key of the
  address that is handed in; the owner that is handed in decides whether they are looked
  for at all. -/
def touched (b : AddressBook) : AddressCall → List CustomerAddress
  | .create _ _ _ => []
  | .save customer a =>
    if a.customerKey = customer.key ∧ a.key ≠ .nil then
      (b.addresses.find? (·.key == a.key)).toList
    else []
  | .delete customer a =>
    if a.customerKey = customer.key then b.addresses.filter (·.key == a.key) else []

/-- Every call of a run leaves the addresses of other customers than its own as they are. -/
def Isolates : AddressBook → List AddressCall → Prop
  | _, [] => True
  | b, call :: rest =>
    (b.after call).others call.customer.key = b.others call.customer.key ∧
      (b.after call).Isolates rest

/-- Every call of a run touches addresses of its own customer only. -/
def TouchesOwn : AddressBook → List AddressCall → Prop
  | _, [] => True
  | b, call :: rest =>
    (∀ a ∈ b.touched call, a.customerKey = call.customer.key) ∧ (b.after call).TouchesOwn rest

instance decidableIsolates : ∀ b calls, Decidable (Isolates b calls)
  | _, [] => .isTrue trivial
  | b, call :: rest =>
    have := decidableIsolates (b.after call) rest
    inferInstanceAs (Decidable (_ ∧ _))

instance decidableTouchesOwn : ∀ b calls, Decidable (TouchesOwn b calls)
  | _, [] => .isTrue trivial
  | b, call :: rest =>
    have := decidableTouchesOwn (b.after call) rest
    inferInstanceAs (Decidable (_ ∧ _))

-- ════════════════════════════════════════════════════════════════════════
-- One call
-- ════════════════════════════════════════════════════════════════════════

variable {b : AddressBook} {customer : Uuid} {a : CustomerAddress}

theorem others_append_own (h : a.customerKey = customer) :
    others ⟨b.addresses ++ [a]⟩ customer = b.others customer := by
  simp [others, h]

/-- An own address that takes the place of a stored one leaves the others alone exactly if
  that one was an own address too. -/
theorem others_replace_eq_iff (h : a.customerKey = customer) :
    others ⟨replace a b.addresses⟩ customer = b.others customer ↔
      ∀ stored ∈ (b.addresses.find? (·.key == a.key)).toList, stored.customerKey = customer := by
  obtain ⟨addresses⟩ := b
  simp only [others]
  induction addresses with
  | nil => simp [replace]
  | cons first rest ih =>
    by_cases hkey : first.key = a.key
    · have hreplace : replace a (first :: rest) = a :: rest := by rw [replace, if_pos hkey]
      have hfound : (first :: rest).find? (·.key == a.key) = some first := by simp [hkey]
      rw [hreplace, hfound]
      by_cases hfirst : first.customerKey = customer
      · simp [h, hfirst]
      · -- The stored address of somebody else is lost, and no other one comes in its place.
        simp [h, hfirst]
    · have hreplace : replace a (first :: rest) = first :: replace a rest := by
        rw [replace, if_neg hkey]
      have hfound : (first :: rest).find? (·.key == a.key) = rest.find? (·.key == a.key) := by
        simp [hkey]
      rw [hreplace, hfound, ← ih]
      by_cases hfirst : first.customerKey = customer <;> simp [hfirst]

/-- Removing a key leaves the others alone exactly if none of them is stored under it. -/
theorem others_delete_eq_iff :
    (b.delete a).others customer = b.others customer ↔
      ∀ stored ∈ b.addresses.filter (·.key == a.key), stored.customerKey = customer := by
  simp only [others, delete]
  constructor
  · intro h stored hstored
    obtain ⟨hmem, hkey⟩ := List.mem_filter.1 hstored
    by_contra hother
    have hkept : stored ∈ b.addresses.filter (·.customerKey != customer) :=
      List.mem_filter.2 ⟨hmem, by simpa using hother⟩
    rw [← h, List.mem_filter, List.mem_filter] at hkept
    simp_all
  · intro h
    rw [List.filter_filter]
    refine List.filter_congr fun stored hmem => ?_
    by_cases hkey : stored.key = a.key
    · have hown := h stored (List.mem_filter.2 ⟨hmem, by simpa using hkey⟩)
      simp [hkey, hown]
    · simp [hkey]

theorem after_of_ok {call : AddressCall} {changed : AddressBook} (h : call.run b = .ok changed) :
    b.after call = changed := by
  rw [after, h]

/-- A refused call leaves the book as it was. -/
theorem after_of_error {call : AddressCall} {e : AddressError} (h : call.run b = .error e) :
    b.after call = b := by
  rw [after, h]

theorem others_after_create (b : AddressBook) (customer : Customer) (address : Address)
    (type : AddressType) :
    (b.after (.create customer address type)).others customer.key = b.others customer.key := by
  let stored : CustomerAddress := { CustomerAddress.ofAddress customer address type with
    key := Uuid.ofNat (b.addresses.length + 1) }
  have hrun : AddressCall.run b (.create customer address type) =
      .ok ⟨b.addresses ++ [stored]⟩ := by
    have hown : customer.ensureOwned (.ofAddress customer address type) = .ok () := if_pos rfl
    simp only [AddressCall.run, Customer.createAddress, Customer.saveAddress, hown]
    rfl
  rw [after_of_ok hrun]
  exact others_append_own rfl

/-- An address that is handed in as somebody else's is neither saved nor deleted. -/
theorem run_of_not_owned (b : AddressBook) {customer : Customer}
    (h : a.customerKey ≠ customer.key) :
    AddressCall.run b (.save customer a) = .error (.notOwned a.key a.customerKey customer.key) ∧
      AddressCall.run b (.delete customer a) =
        .error (.notOwned a.key a.customerKey customer.key) := by
  have hrefused : customer.ensureOwned a = .error (.notOwned a.key a.customerKey customer.key) :=
    if_neg h
  simp only [AddressCall.run, Customer.saveAddress, Customer.deleteAddress, hrefused, Except.map,
    and_self]

theorem run_save_of_owned {customer : Customer} (h : a.customerKey = customer.key) :
    AddressCall.run b (.save customer a) = (b.save a).map Prod.snd := by
  have howned : customer.ensureOwned a = .ok () := if_pos h
  simp only [AddressCall.run, Customer.saveAddress, howned]

theorem run_delete_of_owned {customer : Customer} (h : a.customerKey = customer.key) :
    AddressCall.run b (.delete customer a) = .ok (b.delete a) := by
  have howned : customer.ensureOwned a = .ok () := if_pos h
  simp only [AddressCall.run, Customer.deleteAddress, howned]

/-- Saving an own address touches what is stored under its key, if it has one. -/
theorem others_after_save_eq_iff (b : AddressBook) {customer : Customer}
    (h : a.customerKey = customer.key) :
    (b.after (.save customer a)).others customer.key = b.others customer.key ↔
      ∀ stored ∈ b.touched (.save customer a), stored.customerKey = customer.key := by
  have hrun := run_save_of_owned (b := b) h
  by_cases hnil : a.key = .nil
  · -- An address without a key is appended, and nothing stored is touched.
    rw [AddressBook.save, if_pos hnil] at hrun
    rw [after_of_ok hrun]
    have hfresh : others ⟨b.addresses ++ [{ a with key := Uuid.ofNat (b.addresses.length + 1) }]⟩
        customer.key = b.others customer.key := others_append_own h
    simp [touched, hnil, hfresh]
  have htouched : b.touched (.save customer a) = (b.addresses.find? (·.key == a.key)).toList :=
    if_pos ⟨h, hnil⟩
  by_cases hstored : a.key ∈ b.addresses.map CustomerAddress.key
  · rw [AddressBook.save, if_neg hnil, if_pos hstored] at hrun
    rw [after_of_ok hrun, htouched]
    exact others_replace_eq_iff h
  · have hnone : b.addresses.find? (·.key == a.key) = none := by
      rw [List.find?_eq_none]
      intro stored hmem hkey
      exact hstored (List.mem_map.2 ⟨stored, hmem, by simpa using hkey⟩)
    rw [AddressBook.save, if_neg hnil, if_neg hstored] at hrun
    rw [after_of_error hrun, htouched, hnone]
    simp

/-- A single call leaves the addresses of the others alone exactly if what it touches is
  its own customer's. -/
theorem others_after_eq_iff (b : AddressBook) (call : AddressCall) :
    (b.after call).others call.customer.key = b.others call.customer.key ↔
      ∀ stored ∈ b.touched call, stored.customerKey = call.customer.key := by
  cases call with
  | create customer address type =>
    have hsame := others_after_create b customer address type
    simpa [AddressCall.customer, touched] using hsame
  | save customer a =>
    by_cases hown : a.customerKey = customer.key
    · exact others_after_save_eq_iff b hown
    · rw [after_of_error (run_of_not_owned b hown).1]
      simp [touched, hown]
  | delete customer a =>
    by_cases hown : a.customerKey = customer.key
    · rw [after_of_ok (run_delete_of_owned hown), touched, if_pos hown]
      exact others_delete_eq_iff
    · rw [after_of_error (run_of_not_owned b hown).2]
      simp [touched, hown]

-- ════════════════════════════════════════════════════════════════════════
-- Runs of calls
-- ════════════════════════════════════════════════════════════════════════

/-- The book after a run of calls. -/
def afterAll (b : AddressBook) (calls : List AddressCall) : AddressBook :=
  calls.foldl after b

theorem Isolates.ofCustomer_eq {calls : List AddressCall} (h : b.Isolates calls)
    (hcalls : ∀ call ∈ calls, call.customer.key ≠ customer) :
    (b.afterAll calls).ofCustomer customer = b.ofCustomer customer := by
  induction calls generalizing b with
  | nil => rfl
  | cons call rest ih =>
    obtain ⟨hcall, hrest⟩ := List.forall_mem_cons.1 hcalls
    obtain ⟨hothers, hrun⟩ := h
    -- The bystander's addresses are among those that the call leaves alone.
    have hamong (book : AddressBook) : book.ofCustomer customer =
        (book.others call.customer.key).filter (·.customerKey == customer) := by
      rw [ofCustomer, others, List.filter_filter]
      refine List.filter_congr fun stored _ => ?_
      by_cases hstored : stored.customerKey = customer
      · simp [hstored, hcall.symm]
      · simp [hstored]
    have hstep : (b.after call).ofCustomer customer = b.ofCustomer customer := by
      rw [hamong, hamong b, hothers]
    exact (ih hrun hrest).trans hstep

/-- However long a run of calls is and whoever makes them, the calls leave the addresses of
  other customers alone exactly if none of them is handed an address as its own customer's
  whose key somebody else's address is stored under. In such a run a customer who makes no
  call keeps all addresses. -/
theorem isolates_iff (b : AddressBook) (calls : List AddressCall) :
    (b.Isolates calls ↔ b.TouchesOwn calls) ∧
      (b.TouchesOwn calls → ∀ customer, (∀ call ∈ calls, call.customer.key ≠ customer) →
        (b.afterAll calls).ofCustomer customer = b.ofCustomer customer) := by
  have hiff : b.Isolates calls ↔ b.TouchesOwn calls := by
    induction calls generalizing b with
    | nil => rfl
    | cons call rest ih => rw [Isolates, TouchesOwn, others_after_eq_iff, ih]
  exact ⟨hiff, fun h customer hcalls => (hiff.2 h).ofCustomer_eq hcalls⟩

end AddressBook

namespace Storefront

def ada : Customer := ⟨.ofNat 100, "ada@example.com"⟩

def bob : Customer := ⟨.ofNat 200, "bob@example.com"⟩

/-- The first address that is stored for Ada. -/
def home : CustomerAddress where
  key := .ofNat 1
  customerKey := ada.key
  addressType := .shipping
  isDefault := false
  fullName := some "Ada"

/-- Ada's key, handed in by Bob as an address of his own. -/
def relabelled : CustomerAddress :=
  { home with customerKey := bob.key, fullName := some "Bob" }

/-- Bob adds an address, is refused Ada's, and changes his own. -/
theorem isolates_ownCalls :
    AddressBook.TouchesOwn ⟨[home]⟩ [.create bob {} .billing, .save bob home,
      .save bob { relabelled with key := .ofNat 2, isDefault := true }] ∧
    (AddressBook.afterAll ⟨[home]⟩ [.create bob {} .billing, .save bob home,
      .save bob { relabelled with key := .ofNat 2, isDefault := true }]).ofCustomer ada.key =
        [home] := by
  have hown : AddressBook.TouchesOwn ⟨[home]⟩ [.create bob {} .billing, .save bob home,
      .save bob { relabelled with key := .ofNat 2, isDefault := true }] := by decide
  exact ⟨hown, (AddressBook.isolates_iff _ _).2 hown ada.key (by decide)⟩

/-- Bob saves or deletes what is stored for Ada, and neither call is refused. -/
theorem not_isolates_relabelled :
    (AddressBook.addresses ⟨[home]⟩).map CustomerAddress.key = [.ofNat 1] ∧
    ¬ AddressBook.Isolates ⟨[home]⟩ [.save bob relabelled] ∧
    ¬ AddressBook.Isolates ⟨[home]⟩ [.delete bob relabelled] ∧
    (AddressBook.after ⟨[home]⟩ (.save bob relabelled)).addresses = [relabelled] ∧
    (AddressBook.after ⟨[home]⟩ (.delete bob relabelled)).addresses = [] := by
  decide

end Storefront

end EntityQuery
