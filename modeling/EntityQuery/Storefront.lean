import EntityQuery.Mapping.Basic

/-!
# The storefront mapping

How a small shop stores its customers, their addresses and their invoices. It is
the mapping that the address functions are used with, and a compact example of
every feature: extension tables, a schema, and each converter in practice.

## Main definitions

- `Storefront.customer`, `Storefront.customerAddress`, `Storefront.invoice`
- `Storefront.mapping` — the three entities together
-/

namespace EntityQuery.Storefront

/-- A property kept in the primary table. -/
def property (name column : String) (type : ScalarType) (nullability : Nullability)
    (converter : Converter := .identity) : PropertyMapping :=
  { name, column := { name := column, type, nullability }, converter }

/-- A property kept in an extension table. -/
def extensionProperty (name table column : String) (type : ScalarType)
    (nullability : Nullability) (converter : Converter := .identity) : PropertyMapping :=
  { name, extensionTable := some table, column := { name := column, type, nullability }
    converter }

/-- Customers keep notes and preferences in extension tables. -/
def customer : EntityMapping where
  primaryTable := ⟨none, "customers"⟩
  primaryKey := "key"
  extensionTables :=
    [⟨⟨none, "customer_notes"⟩, "customer_key"⟩, ⟨⟨none, "customer_preferences"⟩, "customer_key"⟩]
  properties :=
    [property "key" "key" .uuid .nonNullable,
     property "email" "email" .text .nonNullable,
     extensionProperty "note" "customer_notes" "note" .text .nullable,
     extensionProperty "newsletter" "customer_preferences" "newsletter" .integer .nonNullable
       .booleanAsInteger]

/-- Addresses live in a single table and keep their purpose as a number. -/
def customerAddress : EntityMapping where
  primaryTable := ⟨none, "customer_addresses"⟩
  primaryKey := "key"
  properties :=
    [property "key" "key" .uuid .nonNullable,
     property "customerKey" "customer_key" .uuid .nonNullable,
     property "addressType" "address_type" .smallint .nonNullable .enumAsInteger,
     property "isDefault" "is_default" .boolean .nonNullable,
     property "fullName" "full_name" .text .nullable,
     property "address1" "address1" .text .nullable,
     property "address2" "address2" .text .nullable,
     property "locality" "locality" .text .nullable,
     property "region" "region" .text .nullable,
     property "postalCode" "postal_code" .text .nullable,
     property "countryCode" "country_code" .text .nullable,
     property "phone" "phone" .text .nullable]

/-- Invoices live in a schema, their payment flags in an extension table. -/
def invoice : EntityMapping where
  primaryTable := ⟨some "billing", "invoices"⟩
  primaryKey := "key"
  extensionTables := [⟨⟨some "billing", "invoice_flags"⟩, "invoice_key"⟩]
  properties :=
    [property "key" "key" .uuid .nonNullable,
     property "invoiceNumber" "invoice_number" .text .nonNullable,
     property "status" "status" .text .nonNullable .enumAsText,
     property "total" "total" .numeric .nonNullable,
     property "invoiceDate" "invoice_date" .timestamp .nonNullable,
     extensionProperty "paid" "invoice_flags" "paid" .smallint .nonNullable .booleanAsInteger]

/-- The entities of the storefront. -/
def mapping : Mapping :=
  ⟨.ofList [("Customer", customer), ("CustomerAddress", customerAddress), ("Invoice", invoice)]⟩

/-- Customers alone. -/
def customerMapping : Mapping :=
  ⟨.ofList [("Customer", customer)]⟩

/-- Invoices alone. -/
def invoiceMapping : Mapping :=
  ⟨.ofList [("Invoice", invoice)]⟩

end EntityQuery.Storefront
