import Mathlib.Data.List.Basic

/-!
# Hash chains

A record keeps the hash of the record before it and its own, and its own can be
recomputed from its content.  Checking a chain walks it once and stops at the first
record that does not fit; a chain is whole exactly if it is linked and every record is
sealed.
-/

namespace Relational

/-- How the records of a chain are hashed. -/
structure HashChain (Row Hash : Type*) where
  prev : Row → Hash
  hash : Row → Hash
  recompute : Row → Hash

namespace HashChain

variable {Row Hash : Type*} (chain : HashChain Row Hash)

/-- Each record keeps the hash of the one before it. -/
def Links : Hash → List Row → Prop
  | _, [] => True
  | start, row :: rest => chain.prev row = start ∧ Links (chain.hash row) rest

/-- The hash of a record is that of its content. -/
def Sealed (row : Row) : Prop := chain.recompute row = chain.hash row

/-- The hash that the next record has to keep. -/
def tip : Hash → List Row → Hash
  | start, [] => start
  | _, row :: rest => tip (chain.hash row) rest

/-- The first record that does not fit. -/
def firstBreak [DecidableEq Hash] : Hash → List Row → Option Row
  | _, [] => none
  | start, row :: rest =>
      if chain.prev row ≠ start then some row
      else if chain.recompute row ≠ chain.hash row then some row
      else firstBreak (chain.hash row) rest

variable {chain}

theorem links_append {start : Hash} {front back : List Row} :
    chain.Links start (front ++ back) ↔
      chain.Links start front ∧ chain.Links (chain.tip start front) back := by
  induction front generalizing start with
  | nil => simp [Links, tip]
  | cons row rest ih =>
      rw [List.cons_append, Links, Links, ih, tip, and_assoc]

theorem tip_append {start : Hash} {front back : List Row} :
    chain.tip start (front ++ back) = chain.tip (chain.tip start front) back := by
  induction front generalizing start with
  | nil => rfl
  | cons row rest ih =>
      rw [List.cons_append, tip, ih, tip]

/-- A whole chain is linked, and its records are sealed. -/
theorem firstBreak_eq_none_iff [DecidableEq Hash] {start : Hash} {rows : List Row} :
    chain.firstBreak start rows = none ↔
      chain.Links start rows ∧ ∀ row ∈ rows, chain.Sealed row := by
  induction rows generalizing start with
  | nil => simp [firstBreak, Links]
  | cons row rest ih =>
      rw [firstBreak, Links, List.forall_mem_cons]
      by_cases hprev : chain.prev row = start
      · rw [if_neg (not_not_intro hprev)]
        by_cases hsealed : chain.recompute row = chain.hash row
        · rw [if_neg (not_not_intro hsealed), ih]
          constructor
          · rintro ⟨hlinks, hrest⟩
            exact ⟨⟨hprev, hlinks⟩, hsealed, hrest⟩
          · rintro ⟨⟨-, hlinks⟩, -, hrest⟩
            exact ⟨hlinks, hrest⟩
        · rw [if_pos hsealed]
          constructor
          · intro hnone
            cases hnone
          · rintro ⟨-, hrow, -⟩
            exact absurd hrow hsealed
      · rw [if_pos hprev]
        constructor
        · intro hnone
          cases hnone
        · rintro ⟨⟨hrow, -⟩, -⟩
          exact absurd hrow hprev

/-- What holds of the start and of every sealed record's hash holds of every link. -/
theorem Links.prev_of {start : Hash} {rows : List Row} {good : Hash → Prop}
    (hlinks : chain.Links start rows) (hstart : good start)
    (hnext : ∀ row ∈ rows, good (chain.prev row) → good (chain.hash row)) :
    ∀ row ∈ rows, good (chain.prev row) := by
  induction rows generalizing start with
  | nil => simp
  | cons row rest ih =>
      obtain ⟨hprev, hrest⟩ := hlinks
      have hrow : good (chain.prev row) := hprev.symm ▸ hstart
      intro other hother
      cases List.mem_cons.mp hother with
      | inl hsame => exact hsame ▸ hrow
      | inr hlater =>
          exact ih hrest (hnext row List.mem_cons_self hrow)
            (fun later hmem => hnext later (List.mem_cons_of_mem _ hmem)) other hlater

end HashChain

end Relational
