import Mathlib.Data.List.Induction
import Mathlib.Data.List.Nodup

/-!
# Insertion-ordered grouping

`setdefault(key, []).append(value)` over an insertion-ordered dictionary.  A
group holds the values with its key in the order they were appended, and the
keys stand in the order of their first value.
-/

namespace Relational

variable {Key Value : Type*} [DecidableEq Key]

/-- `groups.setdefault(key, []).append(value)`. -/
def appendAt (key : Key) (value : Value) :
    List (Key × List Value) → List (Key × List Value)
  | [] => [(key, [value])]
  | (other, values) :: rest =>
      if other = key then (other, values ++ [value]) :: rest
      else (other, values) :: appendAt key value rest

/-- The dictionary built by appending each value under its key. -/
def groupByKey (key : Value → Key) (values : List Value) : List (Key × List Value) :=
  values.foldl (fun groups value => appendAt (key value) value groups) []

@[simp]
theorem groupByKey_nil (key : Value → Key) : groupByKey key ([] : List Value) = [] := rfl

theorem groupByKey_concat (key : Value → Key) (values : List Value) (value : Value) :
    groupByKey key (values ++ [value]) =
      appendAt (key value) value (groupByKey key values) := by
  simp [groupByKey, List.foldl_append]

theorem mem_keys_appendAt {key other : Key} {value : Value} {groups : List (Key × List Value)} :
    other ∈ (appendAt key value groups).map Prod.fst ↔
      other = key ∨ other ∈ groups.map Prod.fst := by
  induction groups with
  | nil => simp [appendAt]
  | cons group rest ih =>
      obtain ⟨head, values⟩ := group
      by_cases h : head = key
      · subst h
        simp [appendAt]
      · simp only [appendAt, if_neg h, List.map_cons, List.mem_cons, ih]
        tauto

theorem keys_nodup_appendAt {key : Key} {value : Value} {groups : List (Key × List Value)}
    (hnodup : (groups.map Prod.fst).Nodup) :
    ((appendAt key value groups).map Prod.fst).Nodup := by
  induction groups with
  | nil => simp [appendAt]
  | cons group rest ih =>
      obtain ⟨head, values⟩ := group
      rw [List.map_cons, List.nodup_cons] at hnodup
      by_cases h : head = key
      · simp only [appendAt, if_pos h, List.map_cons, List.nodup_cons]
        exact hnodup
      · simp only [appendAt, if_neg h, List.map_cons, List.nodup_cons]
        refine ⟨fun hmem => ?_, ih hnodup.2⟩
        rcases mem_keys_appendAt.mp hmem with hhead | hrest
        · exact h hhead
        · exact hnodup.1 hrest

theorem groupByKey_keys_nodup (key : Value → Key) (values : List Value) :
    ((groupByKey key values).map Prod.fst).Nodup := by
  induction values using List.reverseRecOn with
  | nil => simp
  | append_singleton values value ih =>
      rw [groupByKey_concat]
      exact keys_nodup_appendAt ih

theorem mem_appendAt {key other : Key} {value : Value} {group : List Value}
    {groups : List (Key × List Value)}
    (hnodup : (groups.map Prod.fst).Nodup)
    (hmem : (other, group) ∈ appendAt key value groups) :
    if other = key then
      (other ∉ groups.map Prod.fst ∧ group = [value]) ∨
        ∃ before, (other, before) ∈ groups ∧ group = before ++ [value]
    else (other, group) ∈ groups := by
  induction groups with
  | nil =>
      obtain ⟨rfl, rfl⟩ : other = key ∧ group = [value] := by
        simpa [appendAt] using hmem
      simp
  | cons first rest ih =>
      obtain ⟨head, values⟩ := first
      rw [List.map_cons, List.nodup_cons] at hnodup
      by_cases h : head = key
      · subst h
        simp only [appendAt, if_true, List.mem_cons, Prod.mk.injEq] at hmem
        rcases hmem with ⟨rfl, rfl⟩ | hrest
        · simp
        · have hne : other ≠ head := by
            rintro rfl
            exact hnodup.1 (List.mem_map.mpr ⟨_, hrest, rfl⟩)
          simp [hne, hrest]
      · simp only [appendAt, if_neg h, List.mem_cons, Prod.mk.injEq] at hmem
        rcases hmem with ⟨rfl, rfl⟩ | hrest
        · simp [h]
        · have := ih hnodup.2 hrest
          by_cases hother : other = key
          · rw [if_pos hother] at this ⊢
            rcases this with ⟨hnot, hgroup⟩ | ⟨before, hbefore, hgroup⟩
            · refine Or.inl ⟨?_, hgroup⟩
              simpa [hother ▸ Ne.symm h] using hnot
            · exact Or.inr ⟨before, List.mem_cons_of_mem _ hbefore, hgroup⟩
          · rw [if_neg hother] at this ⊢
            exact List.mem_cons_of_mem _ this

theorem mem_keys_groupByKey (key : Value → Key) (values : List Value) (other : Key) :
    other ∈ (groupByKey key values).map Prod.fst ↔
      ∃ value ∈ values, key value = other := by
  induction values using List.reverseRecOn with
  | nil => simp
  | append_singleton values value ih =>
      rw [groupByKey_concat, mem_keys_appendAt, ih]
      constructor
      · rintro (rfl | ⟨earlier, hearlier, rfl⟩)
        · exact ⟨value, by simp, rfl⟩
        · exact ⟨earlier, by simp [hearlier], rfl⟩
      · rintro ⟨found, hfound, rfl⟩
        rcases List.mem_append.mp hfound with hold | hnew
        · exact Or.inr ⟨found, hold, rfl⟩
        · exact Or.inl (by rw [List.mem_singleton.mp hnew])

theorem appendAt_flatMap_perm (key : Key) (value : Value) (groups : List (Key × List Value)) :
    ((appendAt key value groups).flatMap Prod.snd).Perm
      (groups.flatMap Prod.snd ++ [value]) := by
  induction groups with
  | nil => simp [appendAt]
  | cons group rest ih =>
      obtain ⟨head, values⟩ := group
      by_cases h : head = key
      · simp only [appendAt, if_pos h, List.flatMap_cons, List.append_assoc]
        exact List.perm_append_comm.append_left values
      · simp only [appendAt, if_neg h, List.flatMap_cons, List.append_assoc]
        exact ih.append_left values

/-- The groups hold the values, each once. -/
theorem groupByKey_flatMap_perm (key : Value → Key) (values : List Value) :
    ((groupByKey key values).flatMap Prod.snd).Perm values := by
  induction values using List.reverseRecOn with
  | nil => simp
  | append_singleton values value ih =>
      rw [groupByKey_concat]
      exact (appendAt_flatMap_perm _ _ _).trans (ih.append_right [value])

/-- A group is exactly the values with its key, in order. -/
theorem groupByKey_group (key : Value → Key) {values : List Value}
    {other : Key} {group : List Value}
    (hmem : (other, group) ∈ groupByKey key values) :
    group = values.filter fun value => key value = other := by
  induction values using List.reverseRecOn generalizing other group with
  | nil => simp at hmem
  | append_singleton values value ih =>
      rw [groupByKey_concat] at hmem
      have hcases := mem_appendAt (groupByKey_keys_nodup key values) hmem
      rw [List.filter_append]
      by_cases h : other = key value
      · subst h
        rw [if_pos rfl] at hcases
        rcases hcases with ⟨hnot, rfl⟩ | ⟨before, hbefore, rfl⟩
        · have hnone : values.filter (fun v => key v = key value) = [] := by
            rw [List.filter_eq_nil_iff]
            intro earlier hearlier hkey
            exact hnot ((mem_keys_groupByKey key values _).mpr
              ⟨earlier, hearlier, by simpa using hkey⟩)
          simp [hnone]
        · simp [← ih hbefore]
      · rw [if_neg h] at hcases
        have hne : key value ≠ other := fun hk => h hk.symm
        simpa [hne] using ih hcases

/-! ## Composite keys -/

/-- What stands before the first separator, and what stands after it. -/
theorem split_at_separator {Symbol : Type*} {separator : Symbol}
    {front front' back back' : List Symbol} (hfront : separator ∉ front)
    (hfront' : separator ∉ front')
    (hsame : front ++ separator :: back = front' ++ separator :: back') :
    front = front' ∧ back = back' := by
  induction front generalizing front' with
  | nil =>
      cases front' with
      | nil => exact ⟨rfl, (List.cons.inj hsame).2⟩
      | cons symbol rest =>
          have hhead := (List.cons.inj hsame).1
          exact absurd (hhead ▸ List.mem_cons_self) hfront'
  | cons symbol rest ih =>
      cases front' with
      | nil =>
          have hhead := (List.cons.inj hsame).1
          exact absurd (hhead ▸ List.mem_cons_self) hfront
      | cons symbol' rest' =>
          obtain ⟨hhead, htail⟩ := List.cons.inj hsame
          have hrest := ih (fun hmem => hfront (List.mem_cons_of_mem _ hmem))
            (fun hmem => hfront' (List.mem_cons_of_mem _ hmem)) htail
          exact ⟨by rw [hhead, hrest.1], hrest.2⟩

end Relational
