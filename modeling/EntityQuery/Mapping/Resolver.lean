import EntityQuery.Mapping.Descriptor

/-!
# Registries and resolvers

A registry holds the descriptors of a checked mapping. Queries only need to look
entities up, by a resolver: a registry is one, and several resolvers with
different entities can be joined into one.

## Main definitions

- `Registry` — the descriptors of a mapping, by entity name
- `Registry.ofMapping` — check every entity of a mapping, in name order
- `Resolver` — the entities that can be looked up
- `Resolver.join` — one resolver for the entities of several
-/

namespace EntityQuery

/-- The descriptors of a mapping, by entity name. -/
structure Registry where
  entities : Dict EntityDescriptor
deriving DecidableEq

/-- Check every entity of a mapping, in name order. -/
def Registry.ofMapping (m : Mapping) : Except RegistrationError Registry :=
  match m.entities.mapM EntityDescriptor.ofMapping with
  | .error e => .error e
  | .ok entities => .ok ⟨entities⟩

/-- The entities that can be looked up. -/
structure Resolver where
  /-- The names of the entities. -/
  entityNames : List String
  descriptor : String → Except LookupError EntityDescriptor

/-- The entities of a registry, in name order. -/
def Registry.resolver (r : Registry) : Resolver where
  entityNames := r.entities.keys
  descriptor entity :=
    match r.entities.find? entity with
    | some e => .ok e
    | none => .error (.unknownEntity entity)

namespace Resolver

/-- The binding of a property of an entity. -/
def resolve (r : Resolver) (entity property : String) : Except LookupError PropertyBinding :=
  match r.descriptor entity with
  | .error e => .error e
  | .ok e => e.binding property

/-- The primary table of an entity. -/
def primaryTable (r : Resolver) (entity : String) : Except LookupError TableName :=
  (r.descriptor entity).map EntityDescriptor.primaryTable

/-- The extension tables of an entity, as declared. -/
def extensionTables (r : Resolver) (entity : String) :
    Except LookupError (List ExtensionTable) :=
  (r.descriptor entity).map EntityDescriptor.extensionTables

/-- The names of the entities of a resolver, in order and without repetition. -/
def sortedNames (r : Resolver) : List String :=
  (Dict.ofList (r.entityNames.map fun name => (name, ()))).keys

/-- Route names to a resolver, unless one of them is routed already. -/
def route (family : Resolver) (routes : Dict Resolver) :
    List String → Except RegistrationError (Dict Resolver)
  | [] => .ok routes
  | name :: rest =>
    match routes.find? name with
    | some _ => .error (.duplicateEntity name)
    | none => route family (routes.insert name family) rest

/-- Route the entities of further resolvers, one resolver after the other. -/
def routeAll (routes : Dict Resolver) :
    List Resolver → Except RegistrationError (Dict Resolver)
  | [] => .ok routes
  | family :: rest =>
    match route family routes family.sortedNames with
    | .error e => .error e
    | .ok routes => routeAll routes rest

/-- Look every entity up in the resolver it is routed to. -/
def ofRoutes (routes : Dict Resolver) : Resolver where
  entityNames := routes.keys
  descriptor entity :=
    match routes.find? entity with
    | some family => family.descriptor entity
    | none => .error (.unknownEntity entity)

/-- One resolver for the entities of several, which must not share a name. -/
def join (families : List Resolver) : Except RegistrationError Resolver :=
  (routeAll Dict.empty families).map ofRoutes

end Resolver

end EntityQuery
