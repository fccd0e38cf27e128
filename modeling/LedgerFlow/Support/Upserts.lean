import LedgerFlow.Support.Dataframes

/-!
# Merging one file after another

An updating merge replaces the rows of the keys that it brings and keeps all others. A file
of one part of the table merges into that part and leaves the rest alone. It leaves of the
part exactly its own rows if and only if the part had no key twice and no key that the file
lacks; after a sequence of files the same holds of the keys that any of them has brought.
-/

namespace Dataframe

open Grouping

variable {Row Key : Type} [DecidableEq Key] {key : Row → Key}

/-! ## One merge -/

section Once

variable {target source merged : List Row}

/-- A merge of distinct keys neither adds a repeated key nor removes one. -/
theorem merge_update_keyed (source_keyed : Keyed key source)
    (merges : mergeUpdate key target source = some merged) :
    Keyed key merged ↔ Keyed key target := by
  constructor
  · intro keyed
    rw [Keyed, merge_update_key_column merges] at keyed
    exact (List.nodup_append.mp keyed).1
  · obtain ⟨rows, updated, _, keeps⟩ := @merge_update_ok _ _ _ _ target _ source_keyed
    rw [merges] at updated
    cases updated
    exact keeps

/-- A merge leaves exactly its own rows if and only if it replaces every row. -/
theorem merge_update_exact (source_keyed : Keyed key source)
    (merges : mergeUpdate key target source = some merged) :
    merged.Perm source ↔ Keyed key target ∧ ∀ value ∈ target.map key, value ∈ source.map key := by
  constructor
  · intro same
    have keys := same.map key
    refine ⟨(merge_update_keyed source_keyed merges).mp (keys.nodup_iff.mpr source_keyed), ?_⟩
    intro value old
    exact keys.mem_iff.mp ((merge_update_keys merges).mpr (.inl old))
  · rintro ⟨target_keyed, replaced⟩
    have merged_keyed := (merge_update_keyed source_keyed merges).mpr target_keyed
    obtain ⟨rows, updated, members, _⟩ := @merge_update_ok _ _ _ _ target _ source_keyed
    rw [merges] at updated
    cases updated
    refine (List.perm_ext_iff_of_nodup merged_keyed.of_map source_keyed.of_map).mpr fun row => ?_
    rw [members]
    constructor
    · rintro (new | ⟨old, missing⟩)
      · exact new
      · exact absurd (replaced _ (List.mem_map_of_mem old)) missing
    · exact .inl

section Part

variable {part : Key → Bool} (within : ∀ row ∈ source, part (key row) = true)

include within

/-- Source rows of one part that are new to this part of the table are new to the whole table. -/
theorem left_anti_part : leftAnti key ((target.filter fun row => part (key row)).map key) source =
    leftAnti key (target.map key) source := by
  refine List.filter_congr fun row member => ?_
  have same : key row ∈ (target.filter fun row => part (key row)).map key ↔
      key row ∈ target.map key := by
    simp only [List.mem_map, List.mem_filter]
    constructor
    · rintro ⟨old, ⟨inside, _⟩, equal⟩
      exact ⟨old, inside, equal⟩
    · rintro ⟨old, inside, equal⟩
      exact ⟨old, ⟨inside, equal ▸ within row member⟩, equal⟩
  simp only [same]

/-- Merging into one part of a table is merging into that part alone. -/
theorem merge_update_part (merges : mergeUpdate key target source = some merged) :
    mergeUpdate key (target.filter fun row => part (key row)) source =
      some (merged.filter fun row => part (key row)) := by
  have matched : ¬ ∃ row ∈ target, 1 < (group key (key row) source).length := by
    intro several
    rw [mergeUpdate, if_pos several] at merges
    cases merges
  have inserted : (leftAnti key (target.map key) source).filter (fun row => part (key row)) =
      leftAnti key (target.map key) source :=
    List.filter_eq_self.mpr fun row member => within row (mem_left_anti.mp member).1
  rw [merge_update_some merges, mergeUpdate, if_neg, left_anti_part within, List.filter_append,
    inserted, List.filter_map]
  · simp only [Function.comp_def, updated_key]
  · rintro ⟨row, member, several⟩
    exact matched ⟨row, (List.mem_filter.mp member).1, several⟩

/-- Merging rows of one part of a table leaves the rest of the table as it was. -/
theorem merge_update_rest (merges : mergeUpdate key target source = some merged) :
    (merged.filter fun row => !part (key row)) = target.filter fun row => !part (key row) := by
  have inserted :
      (leftAnti key (target.map key) source).filter (fun row => !part (key row)) = [] :=
    List.filter_eq_nil_iff.mpr fun row member => by
      rw [within row (mem_left_anti.mp member).1]
      decide
  have untouched : ∀ row ∈ target.filter fun row => !part (key row),
      (group key (key row) source).head?.getD row = row := by
    intro row member
    have outside := (List.mem_filter.mp member).2
    have none : group key (key row) source = [] := group_nil fun new inside same => by
      rw [← same, within new inside] at outside
      cases outside
    rw [none]
    rfl
  rw [merge_update_some merges, List.filter_append, inserted, List.append_nil, List.filter_map]
  simp only [Function.comp_def, updated_key]
  exact (List.map_congr_left untouched).trans (List.map_id _)

end Part

end Once

/-! ## A sequence of merges -/

/-- Merging files in order, absent where a merge fails. -/
def mergeAll (key : Row → Key) (target : List Row) (sources : List (List Row)) :
    Option (List Row) :=
  sources.foldlM (mergeUpdate key) target

section Sequence

variable {target merged : List Row} {sources : List (List Row)}

/-- Merging several sources merges the first, and then the rest into the result. -/
theorem merge_all_cons (source : List Row) (rest : List (List Row)) :
    mergeAll key target (source :: rest) = some merged ↔
      ∃ middle, mergeUpdate key target source = some middle ∧
        mergeAll key middle rest = some merged := by
  rw [mergeAll, List.foldlM_cons, Option.bind_eq_bind, Option.bind_eq_some_iff]
  rfl

/-- Merging several sources merges the last into what the others have given. -/
theorem merge_all_append (sources : List (List Row)) (last : List Row) :
    mergeAll key target (sources ++ [last]) = some merged ↔
      ∃ middle, mergeAll key target sources = some middle ∧
        mergeUpdate key middle last = some merged := by
  rw [mergeAll, List.foldlM_append, Option.bind_eq_bind, Option.bind_eq_some_iff]
  simp only [List.foldlM_cons, List.foldlM_nil, Option.bind_eq_bind, Option.pure_def,
    Option.bind_fun_some]
  rfl

/-- A sequence of files of distinct keys has the keys of all, and repeats none that the
table did not. -/
theorem merge_all_keys (keyed : ∀ source ∈ sources, Keyed key source)
    (merges : mergeAll key target sources = some merged) :
    (Keyed key merged ↔ Keyed key target) ∧ ∀ value, value ∈ merged.map key ↔
      value ∈ target.map key ∨ ∃ source ∈ sources, value ∈ source.map key := by
  induction sources generalizing target with
  | nil =>
    cases merges
    exact ⟨Iff.rfl, fun value => by simp⟩
  | cons source rest inductionHypothesis =>
    obtain ⟨middle, first, later⟩ := (merge_all_cons source rest).mp merges
    obtain ⟨still, members⟩ := inductionHypothesis
      (fun other member => keyed other (List.mem_cons_of_mem source member)) later
    refine ⟨still.trans (merge_update_keyed (keyed source List.mem_cons_self) first), ?_⟩
    intro value
    rw [members, merge_update_keys first, or_assoc]
    simp only [List.mem_cons, exists_eq_or_imp]

/-- A sequence of files of one part acts on that part alone. -/
theorem merge_all_part {part : Key → Bool}
    (within : ∀ source ∈ sources, ∀ row ∈ source, part (key row) = true)
    (merges : mergeAll key target sources = some merged) :
    mergeAll key (target.filter fun row => part (key row)) sources =
        some (merged.filter fun row => part (key row)) ∧
      (merged.filter fun row => !part (key row)) = target.filter fun row => !part (key row) := by
  induction sources generalizing target with
  | nil =>
    cases merges
    exact ⟨rfl, rfl⟩
  | cons source rest inductionHypothesis =>
    obtain ⟨middle, first, later⟩ := (merge_all_cons source rest).mp merges
    have here := within source List.mem_cons_self
    obtain ⟨inside, outside⟩ := inductionHypothesis
      (fun other member => within other (List.mem_cons_of_mem source member)) later
    exact ⟨(merge_all_cons source rest).mpr ⟨_, merge_update_part here first, inside⟩,
      outside.trans (merge_update_rest here first)⟩

/-- A sequence of files leaves exactly the last one if and only if that one replaces every
row of the table and of the files before it. -/
theorem merge_all_exact {last : List Row} (keyed : ∀ source ∈ sources ++ [last], Keyed key source)
    (merges : mergeAll key target (sources ++ [last]) = some merged) :
    merged.Perm last ↔ Keyed key target ∧ (∀ value ∈ target.map key, value ∈ last.map key) ∧
      ∀ source ∈ sources, ∀ value ∈ source.map key, value ∈ last.map key := by
  obtain ⟨middle, before, final⟩ := (merge_all_append sources last).mp merges
  obtain ⟨still, members⟩ := merge_all_keys
    (fun source member => keyed source (List.mem_append_left _ member)) before
  rw [merge_update_exact (keyed last (List.mem_append_right _ List.mem_cons_self)) final, still]
  refine and_congr_right fun _ => ?_
  simp only [members]
  constructor
  · exact fun all => ⟨fun value old => all value (.inl old),
      fun source inside value listed => all value (.inr ⟨source, inside, listed⟩)⟩
  · rintro ⟨older, earlier⟩ value (old | ⟨source, inside, listed⟩)
    · exact older value old
    · exact earlier source inside value listed

end Sequence

end Dataframe
