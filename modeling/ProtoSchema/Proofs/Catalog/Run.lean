import Mathlib.Data.List.Induction
import ProtoSchema.Proofs.Catalog.Step

/-!
# Runs over declarations

A run takes in declarations one after the other, so its catalog is a left fold of
`ingest`. The content of a run is found by adding declarations at the end:
`ofDeclarations_concat` is the step of every induction over runs.
-/

namespace ProtoSchema.Catalog

theorem ingestAll_eq_foldl (naming : Naming) (catalog : Catalog)
    (declarations : List Declaration) :
    (catalog.ingestAll naming declarations).2 =
      declarations.foldl (fun state declaration => (state.ingest naming declaration).2)
        catalog := by
  induction declarations generalizing catalog with
  | nil => rfl
  | cons declaration rest ih =>
      rw [ingestAll, List.foldl_cons, ← ih]
      rcases catalog.ingest naming declaration with ⟨_ | _, _⟩ <;> rfl

/-- The catalog of a package after its declarations, before it is brought into
canonical order. -/
def ofDeclarations (naming : Naming) (name path : String) (declarations : List Declaration) :
    Catalog :=
  ((empty name path).ingestAll naming declarations).2

variable (name path : String)

@[simp]
theorem ofDeclarations_nil (naming : Naming) :
    ofDeclarations naming name path [] = empty name path :=
  rfl

theorem ofDeclarations_concat (naming : Naming) (declarations : List Declaration)
    (last : Declaration) :
    ofDeclarations naming name path (declarations ++ [last]) =
      ((ofDeclarations naming name path declarations).ingest naming last).2 := by
  simp only [ofDeclarations, ingestAll_eq_foldl, List.foldl_append, List.foldl_cons,
    List.foldl_nil]

@[simp]
theorem ofDeclarations_path (naming : Naming) (declarations : List Declaration) :
    (ofDeclarations naming name path declarations).path = path := by
  induction declarations using List.reverseRecOn with
  | nil => rfl
  | append_singleton declarations last ih => rw [ofDeclarations_concat, ingest_path, ih]

@[simp]
theorem ofDeclarations_name (naming : Naming) (declarations : List Declaration) :
    (ofDeclarations naming name path declarations).name = name := by
  induction declarations using List.reverseRecOn with
  | nil => rfl
  | append_singleton declarations last ih => rw [ofDeclarations_concat, ingest_name, ih]

end ProtoSchema.Catalog
