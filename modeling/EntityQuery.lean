import EntityQuery.Configuration.Directory
import EntityQuery.Customer.AddressBook
import EntityQuery.Query.Description
import EntityQuery.Settings.FreeShipping
import EntityQuery.Storefront
import EntityQuery.Proofs.Mapping.Acceptance
import EntityQuery.Proofs.Mapping.Registration
import EntityQuery.Proofs.Rendering.Markers
import EntityQuery.Proofs.Rendering.Readability
import EntityQuery.Proofs.Semantics.Criteria
import EntityQuery.Proofs.Translation.Counting
import EntityQuery.Proofs.Translation.Joins
import EntityQuery.Proofs.Translation.Meaning
import EntityQuery.Proofs.Translation.Parameters
import EntityQuery.Proofs.Translation.Scope
import EntityQuery.Proofs.Translation.Shape
import EntityQuery.Proofs.Mapping.Families
import EntityQuery.Proofs.Customer.Isolation
import EntityQuery.Proofs.Json.Written
import EntityQuery.Proofs.Configuration.RoundTrip
import EntityQuery.Proofs.Configuration.Listing
import EntityQuery.Proofs.Configuration.Repetition
import EntityQuery.Proofs.Rendering.Spelling
import EntityQuery.Proofs.Translation.Storing
import EntityQuery.Proofs.Translation.Faithful
import EntityQuery.Proofs.Translation.Grouping
import EntityQuery.Proofs.Mapping.References
import EntityQuery.Proofs.Translation.Faults
import EntityQuery.Proofs.Translation.Conjunction
import EntityQuery.Proofs.Settings.Reloading
import EntityQuery.Proofs.Translation.Exactness
import EntityQuery.Proofs.Translation.Timestamps
import EntityQuery.Proofs.Settings.Saving
import EntityQuery.Proofs.Translation.Decimals
import EntityQuery.Proofs.Rendering.Quoting
import EntityQuery.Proofs.Settings.Loading
