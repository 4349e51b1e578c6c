import EntityQuery.Customer.Address
import EntityQuery.Query.Basic

/-!
# Address books

An address book holds the addresses of all customers and identifies them by
their keys. On behalf of a customer only addresses handed in as that customer's
own are saved or deleted.

## Main definitions

- `AddressBook` — the stored addresses, in order
- `AddressBook.save`, `AddressBook.delete` — change the book
- `Customer.saveAddress`, `Customer.deleteAddress`, `Customer.createAddress` —
  change the book on behalf of a customer
- `QueryFactory.customerAddresses` — the query that lists the addresses of a customer
-/

namespace EntityQuery

/-- Why an address book refuses a call. -/
inductive AddressError
  | notOwned (address owner customer : Uuid)
  | noAddress (key : Uuid)
deriving DecidableEq

def AddressError.message : AddressError → String
  | .notOwned address owner customer =>
    s!"address {address.toText} belongs to customer {owner.toText}"
      ++ s!", not to customer {customer.toText}"
  | .noAddress key => s!"customer address service failed: no address {key.toText}"

/-- The stored addresses of all customers, in order. -/
structure AddressBook where
  addresses : List CustomerAddress
deriving DecidableEq

namespace AddressBook

/-- The address book without addresses. -/
def empty : AddressBook :=
  ⟨[]⟩

/-- The addresses of a customer, in order. -/
def ofCustomer (b : AddressBook) (customer : Uuid) : List CustomerAddress :=
  b.addresses.filter (·.customerKey == customer)

/-- The addresses of a customer for a purpose, in order. -/
def ofCustomerAndType (b : AddressBook) (customer : Uuid) (type : AddressType) :
    List CustomerAddress :=
  b.addresses.filter fun a => a.customerKey == customer && a.addressType == type

/-- The first default address of a customer for a purpose. -/
def default? (b : AddressBook) (customer : Uuid) (type : AddressType) :
    Option CustomerAddress :=
  (b.ofCustomerAndType customer type).find? (·.isDefault)

/-- Put an address in the place of the first one with its key. -/
def replace (a : CustomerAddress) : List CustomerAddress → List CustomerAddress
  | [] => []
  | b :: rest => if b.key = a.key then a :: rest else b :: replace a rest

/-- Save an address and give it as stored. A new address is appended under a key
  made of the number of addresses; an old one is replaced. -/
def save (b : AddressBook) (a : CustomerAddress) :
    Except AddressError (CustomerAddress × AddressBook) :=
  if a.key = .nil then
    let stored := { a with key := Uuid.ofNat (b.addresses.length + 1) }
    .ok (stored, ⟨b.addresses ++ [stored]⟩)
  else if a.key ∈ b.addresses.map CustomerAddress.key then
    .ok (a, ⟨replace a b.addresses⟩)
  else .error (.noAddress a.key)

/-- Delete every address with the key of an address. -/
def delete (b : AddressBook) (a : CustomerAddress) : AddressBook :=
  ⟨b.addresses.filter (·.key != a.key)⟩

end AddressBook

namespace Customer

/-- Refuse an address that is handed in as another customer's. -/
def ensureOwned (customer : Customer) (a : CustomerAddress) : Except AddressError Unit :=
  if a.customerKey = customer.key then .ok ()
  else .error (.notOwned a.key a.customerKey customer.key)

/-- Save an address on behalf of a customer. -/
def saveAddress (customer : Customer) (b : AddressBook) (a : CustomerAddress) :
    Except AddressError (CustomerAddress × AddressBook) :=
  match customer.ensureOwned a with
  | .error e => .error e
  | .ok () => b.save a

/-- Attach an address to a customer and save it. -/
def createAddress (customer : Customer) (b : AddressBook) (a : Address) (type : AddressType) :
    Except AddressError (CustomerAddress × AddressBook) :=
  customer.saveAddress b (.ofAddress customer a type)

/-- Delete an address on behalf of a customer. -/
def deleteAddress (customer : Customer) (b : AddressBook) (a : CustomerAddress) :
    Except AddressError AddressBook :=
  match customer.ensureOwned a with
  | .error e => .error e
  | .ok () => .ok (b.delete a)

end Customer

/-- The query that lists the addresses of a customer, the default ones first,
  restricted to a purpose if one is given. -/
def QueryFactory.customerAddresses (f : QueryFactory) (customer : Uuid)
    (type : Option AddressType) : Except QueryError Query := do
  let q ← (f.create "CustomerAddress").filter "customerKey" (.compare .equals)
    (.value (.uuid customer))
  let q ← match type with
    | some t => q.filter "addressType" (.compare .equals) (.value (.enum t.toEnumValue))
    | none => pure q
  return q.orderBy "isDefault" .descending

end EntityQuery
