import ProtoSchema.Proofs.Catalog.Run

/-!
# The maps of a run

The first exported map of each name is kept, as it is built.
-/

namespace ProtoSchema

namespace Declaration

/-- The map that a declaration declares. -/
def mapType? (declaration : Declaration) : Option MapType :=
  (MapType.ofType declaration.name declaration.type).toOption

theorem exists_mapType?_of_isExportedMap {declaration : Declaration}
    (map : declaration.isExportedMap = true) :
    ∃ described, declaration.mapType? = some described := by
  obtain ⟨described, ofType⟩ :=
    Catalog.exists_mapType_of_isMap (Bool.and_eq_true_iff.mp map).2
  exact ⟨described, by simp [mapType?, ofType, Except.toOption]⟩

end Declaration

namespace Catalog

open Declaration

variable {catalog : Catalog} {declaration : Declaration}

/-- A map is added under its name unless one is there. -/
theorem find?_maps_ingest_standard (map : declaration.isExportedMap = true) (asked : String) :
    (catalog.ingest .standard declaration).2.maps.find? asked =
      (catalog.maps.find? asked).or
        (if declaration.name = asked then declaration.mapType? else none) := by
  rw [ingest_of_map .standard catalog map]
  cases known : catalog.maps.contains declaration.name with
  | true =>
      rw [addMap_of_known .standard known]
      rw [NameTable.contains, Option.isSome_iff_exists] at known
      obtain ⟨stored, found⟩ := known
      split
      · rename_i same
        rw [← same, found]
        rfl
      · simp
  | false =>
      obtain ⟨described, ofType⟩ := exists_mapType_of_isMap (Bool.and_eq_true_iff.mp map).2
      rw [addMap_of_new .standard known ofType]
      rw [NameTable.contains, Option.isSome_eq_false_iff, Option.isNone_iff_eq_none] at known
      simp only [NameTable.find?_insert, eq_comm (a := asked)]
      split
      · rename_i same
        simp [← same, known, mapType?, ofType, Except.toOption]
        rfl
      · simp

/-- The map of a name after a run is that of the first declaration of the name. -/
theorem find?_maps_ofDeclarations (name path : String) (declarations : List Declaration)
    (asked : String) :
    (ofDeclarations .standard name path declarations).maps.find? asked =
      ((declarations.filter isExportedMap).find? (·.name == asked)).bind mapType? := by
  induction declarations using List.reverseRecOn with
  | nil => rfl
  | append_singleton declarations last ih =>
      rw [ofDeclarations_concat, List.filter_append, List.find?_append]
      cases map : last.isExportedMap with
      | false =>
          rw [ingest_of_not_map .standard _ map, ih]
          simp [map]
      | true =>
          rw [find?_maps_ingest_standard map, ih, List.filter_cons_of_pos map, List.filter_nil]
          cases found : (declarations.filter isExportedMap).find? (·.name == asked) with
          | none =>
              by_cases same : last.name = asked <;> simp [same]
          | some earlier =>
              have earlierMap := (List.mem_filter.mp (List.mem_of_find?_eq_some found)).2
              obtain ⟨described, same⟩ := exists_mapType?_of_isExportedMap earlierMap
              simp [same]

end Catalog

end ProtoSchema
