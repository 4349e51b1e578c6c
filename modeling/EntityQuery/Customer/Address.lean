import EntityQuery.Criteria.Value

/-!
# Customer addresses

## Main definitions

- `Customer` — a customer
- `AddressType` — the purpose of an address
- `Address`, `CustomerAddress` — a postal address, and one owned by a customer
- `CustomerAddress.ofAddress` — attach a postal address to a customer
-/

namespace EntityQuery

structure Customer where
  key : Uuid
  email : String
deriving DecidableEq

/-- The purpose of an address. -/
inductive AddressType
  | shipping
  | billing
deriving DecidableEq

namespace AddressType

def name : AddressType → String
  | .shipping => "Shipping"
  | .billing => "Billing"

/-- The number of a purpose. -/
def discriminant : AddressType → Int64
  | .shipping => 1
  | .billing => 2

/-- A purpose as a variant of an enumeration. -/
def toEnumValue (t : AddressType) : EnumValue :=
  ⟨"AddressType", t.name, t.discriminant⟩

end AddressType

/-- A postal address that belongs to nobody yet. -/
structure Address where
  name : Option String := none
  address1 : Option String := none
  address2 : Option String := none
  locality : Option String := none
  region : Option String := none
  postalCode : Option String := none
  countryCode : Option String := none
  phone : Option String := none
deriving DecidableEq

/-- An address owned by a customer. -/
structure CustomerAddress where
  /-- The identifier of the address, nil until it has been saved. -/
  key : Uuid
  customerKey : Uuid
  addressType : AddressType
  /-- Is it the default address for its purpose? -/
  isDefault : Bool
  fullName : Option String := none
  address1 : Option String := none
  address2 : Option String := none
  locality : Option String := none
  region : Option String := none
  postalCode : Option String := none
  countryCode : Option String := none
  phone : Option String := none
deriving DecidableEq

/-- A postal address attached to a customer, not saved yet. -/
def CustomerAddress.ofAddress (customer : Customer) (a : Address) (type : AddressType) :
    CustomerAddress :=
  { key := .nil
    customerKey := customer.key
    addressType := type
    isDefault := false
    fullName := a.name
    address1 := a.address1
    address2 := a.address2
    locality := a.locality
    region := a.region
    postalCode := a.postalCode
    countryCode := a.countryCode
    phone := a.phone }

end EntityQuery
