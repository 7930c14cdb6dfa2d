import ColorMarkup.Value

/-!
What a table says under its keys does not depend on their order, nor on keys that nobody asks for.
Where no key stands twice, what is found under a key is what has it.
-/

namespace ColorMarkup

theorem find?_key_eq_some_iff {α κ : Type} [BEq κ] [LawfulBEq κ] {key : α → κ} {items : List α}
    (distinct : (items.map key).Nodup) {wanted : κ} {item : α} :
    items.find? (fun other => key other == wanted) = some item
      ↔ item ∈ items ∧ key item = wanted := by
  constructor
  · intro found
    have same := List.find?_some found
    exact ⟨List.mem_of_find?_eq_some found, eq_of_beq same⟩
  · rintro ⟨member, rfl⟩
    induction items with
    | nil => contradiction
    | cons first rest ih =>
      rw [List.map_cons, List.nodup_cons] at distinct
      rcases List.mem_cons.mp member with rfl | later
      · exact List.find?_cons_of_pos (beq_self_eq_true _)
      · have different : (key first == key item) = false := beq_eq_false_iff_ne.mpr fun same =>
          distinct.1 (same ▸ List.mem_map_of_mem later)
        rw [List.find?_cons, different]
        exact ih distinct.2 later

namespace Value

variable {α : Type}

theorem lookup?_cons (key : String) (value : α) (rest : List (String × α)) (name : String) :
    lookup? ((key, value) :: rest) name
      = (lookup? rest name).or (if key = name then some value else none) := by
  unfold lookup?
  rw [List.reverse_cons, List.find?_append]
  cases rest.reverse.find? fun entry => entry.1 == name with
  | some entry => rfl
  | none => by_cases same : key = name <;> simp [same]

theorem lookup?_append (first second : List (String × α)) (name : String) :
    lookup? (first ++ second) name = (lookup? second name).or (lookup? first name) := by
  unfold lookup?
  rw [List.reverse_append, List.find?_append]
  cases second.reverse.find? fun entry => entry.1 == name <;> rfl

theorem mem_of_lookup? {entries : List (String × α)} {name : String} {value : α}
    (found : lookup? entries name = some value) : (name, value) ∈ entries := by
  obtain ⟨entry, hit, rfl⟩ := Option.map_eq_some_iff.mp found
  have same : entry.1 = name := by simpa using List.find?_some hit
  subst same
  exact List.mem_reverse.mp (List.mem_of_find?_eq_some hit)

theorem lookup?_of_mem {entries : List (String × α)} {name : String} {value : α}
    (unique : (entries.map Prod.fst).Nodup) (member : (name, value) ∈ entries) :
    lookup? entries name = some value := by
  induction entries with
  | nil => contradiction
  | cons entry rest ih =>
    rw [List.map_cons, List.nodup_cons] at unique
    rw [lookup?_cons]
    rcases List.mem_cons.mp member with rfl | later
    · cases found : lookup? rest name with
      | none => simp
      | some other =>
        have listed : name ∈ rest.map Prod.fst := List.mem_map_of_mem (mem_of_lookup? found)
        exact absurd listed unique.1
    · rw [ih unique.2 later]
      rfl

theorem lookup?_of_perm {first second : List (String × α)}
    (unique : (first.map Prod.fst).Nodup) (permuted : first.Perm second) (name : String) :
    lookup? first name = lookup? second name := by
  have alsoUnique : (second.map Prod.fst).Nodup := (permuted.map Prod.fst).nodup_iff.mp unique
  apply Option.ext
  intro value
  constructor
  · intro found
    exact lookup?_of_mem alsoUnique (permuted.mem_iff.mp (mem_of_lookup? found))
  · intro found
    exact lookup?_of_mem unique (permuted.mem_iff.mpr (mem_of_lookup? found))

end Value

/-- Tables that differ in the order of their keys and in keys that are not known. -/
inductive Rearranged {α : Type} (known : List String) :
    List (String × α) → List (String × α) → Prop
  | order {first second : List (String × α)} (unique : (first.map Prod.fst).Nodup)
      (permuted : first.Perm second) : Rearranged known first second
  | unknown (before after : List (String × α)) {key : String} (value : α) (foreign : key ∉ known) :
      Rearranged known (before ++ after) (before ++ (key, value) :: after)
  | symm {first second : List (String × α)} : Rearranged known first second →
      Rearranged known second first
  | trans {first second third : List (String × α)} : Rearranged known first second →
      Rearranged known second third → Rearranged known first third

namespace Rearranged

variable {α : Type} {known : List String} {first second : List (String × α)}

theorem lookup? (rearranged : Rearranged known first second) {name : String}
    (asked : name ∈ known) : Value.lookup? first name = Value.lookup? second name := by
  induction rearranged with
  | order unique permuted => exact Value.lookup?_of_perm unique permuted name
  | @unknown before after key value foreign =>
    have different : key ≠ name := by
      rintro rfl
      exact foreign asked
    rw [Value.lookup?_append, Value.lookup?_append, Value.lookup?_cons, if_neg different,
      Option.or_none]
  | symm _ ih => exact ih.symm
  | trans _ _ earlier later => exact earlier.trans later

theorem mem_iff (rearranged : Rearranged known first second) {entry : String × α}
    (asked : entry.1 ∈ known) : entry ∈ first ↔ entry ∈ second := by
  induction rearranged with
  | order _ permuted => exact permuted.mem_iff
  | @unknown before after key value foreign =>
    have different : entry ≠ (key, value) := by
      rintro rfl
      exact foreign asked
    simp [different]
  | symm _ ih => exact ih.symm
  | trans _ _ earlier later => exact earlier.trans later

end Rearranged

end ColorMarkup
