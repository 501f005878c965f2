import ProtoSchema.Proofs.Catalog.Run

/-!
# Operations on catalogs

Besides taking in declarations, a client may hand a declaration to a builder that its
class rules out, fill an enumeration by hand, and bring the catalog into canonical
order at any time and as often as it likes. A run of operations keeps the answers of
each of them.
-/

namespace ProtoSchema.Catalog

/-- What a client can ask of a catalog. -/
inductive Operation where
  | ingest (declaration : Declaration)
  | ingestAll (declarations : List Declaration)
  | addMessage (declaration : Declaration)
  | addEnumValue (declaration : Declaration)
  | addMap (declaration : Declaration)
  | ensureEnum (name : String)
  | addConstant (enumName sourceName literal : String)
  | canonicalize

/-- What a client is told: what became of a declaration, how many of several failed, the
enumeration of a name, or the value that was added to one. -/
inductive Answer where
  | outcome (result : Except IngestError Outcome)
  | failures (count : Nat)
  | enumeration (enumeration : Enumeration)
  | value (result : Except IngestError EnumValue)

/-- Whether an operation adds nothing and only asks for canonical order. -/
def Operation.isCanonicalize : Operation → Bool
  | .canonicalize => true
  | _ => false

/-- Carry out an operation. All but `canonicalize` are answered. -/
def perform (naming : Naming) (catalog : Catalog) : Operation → Option Answer × Catalog
  | .ingest declaration =>
      let (result, next) := catalog.ingest naming declaration
      (some (.outcome result), next)
  | .ingestAll declarations =>
      let (count, next) := catalog.ingestAll naming declarations
      (some (.failures count), next)
  | .addMessage declaration =>
      let (outcome, next) := catalog.addMessage naming declaration
      (some (.outcome (.ok outcome)), next)
  | .addEnumValue declaration =>
      let (result, next) := catalog.addEnumValue naming declaration
      (some (.outcome result), next)
  | .addMap declaration =>
      let (result, next) := catalog.addMap naming declaration
      (some (.outcome result), next)
  | .ensureEnum name => (some (.enumeration (catalog.enumOrEmpty name)), catalog.ensureEnum name)
  | .addConstant enumName sourceName literal =>
      let (result, next) := catalog.addConstant enumName sourceName literal
      (some (.value result), next)
  | .canonicalize => (none, catalog.canonicalize)

/-- Carry out operations one after the other, and collect the answers. -/
def run (naming : Naming) (catalog : Catalog) : List Operation → List Answer × Catalog
  | [] => ([], catalog)
  | operation :: rest =>
      let (answer, next) := catalog.perform naming operation
      let (answers, last) := next.run naming rest
      (answer.toList ++ answers, last)

theorem run_cons (naming : Naming) (catalog : Catalog) (operation : Operation)
    (rest : List Operation) :
    catalog.run naming (operation :: rest) =
      let next := (catalog.perform naming operation).2
      ((catalog.perform naming operation).1.toList ++ (next.run naming rest).1,
        (next.run naming rest).2) :=
  rfl

end ProtoSchema.Catalog
