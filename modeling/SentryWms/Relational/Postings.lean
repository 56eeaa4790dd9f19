import SentryWms.Relational.Table

/-!
# Counters and their postings

A table of accounts that each keep a running total, and a table of postings that
may name an account.  The books are balanced when every counter is the total of
the postings that name its account.  A counter is kept balanced by moving it by
the amount of a posting in the transaction that books or deletes the posting.
-/

namespace Relational

variable {Account Posting : Type*} {accountKey : Account → ℕ}
variable {postingKey : Posting → ℕ}

/-- How postings name their account and what they are worth. -/
structure PostingScheme (Account Posting : Type*) where
  counter : Account → ℤ
  account? : Posting → Option ℕ
  amount : Posting → ℤ

namespace PostingScheme

variable (scheme : PostingScheme Account Posting)

/-- The total of the postings that name an account. -/
def postedTo (postings : Table Posting postingKey) (account : ℕ) : ℤ :=
  postings.sum fun posting =>
    if scheme.account? posting = some account then scheme.amount posting else 0

/-- Every counter is the total of the postings that name its account. -/
def Balanced (accounts : Table Account accountKey)
    (postings : Table Posting postingKey) : Prop :=
  ∀ account ∈ accounts.rows, scheme.counter account = scheme.postedTo postings (accountKey account)

instance (accounts : Table Account accountKey) (postings : Table Posting postingKey) :
    Decidable (scheme.Balanced accounts postings) :=
  inferInstanceAs (Decidable (∀ account ∈ accounts.rows, _ = _))

variable {scheme}

/-- What a posting adds to the total of an account. -/
theorem postedTo_insert (postings : Table Posting postingKey)
    (make : ℕ → Posting) (hmake : ∀ value, postingKey (make value) = value)
    (account : ℕ) :
    scheme.postedTo (postings.insert make hmake) account =
      scheme.postedTo postings account +
        if scheme.account? (make postings.nextKey) = some account then
          scheme.amount (make postings.nextKey)
        else 0 :=
  Table.sum_insert ..

/-- What deleting a posting takes from the total of an account. -/
theorem postedTo_delete (postings : Table Posting postingKey) {posting : Posting}
    (hstored : posting ∈ postings.rows) (account : ℕ) :
    scheme.postedTo (postings.delete fun row => postingKey row = postingKey posting) account =
      scheme.postedTo postings account -
        if scheme.account? posting = some account then scheme.amount posting
        else 0 := by
  have hfind : postings.find? (postingKey posting) = some posting :=
    Table.find?_eq_some_iff.mpr ⟨hstored, rfl⟩
  have hsum := Table.sum_at_key postings (postingKey posting) fun row =>
    if scheme.account? row = some account then scheme.amount row else 0
  rw [hfind] at hsum
  calc
    scheme.postedTo (postings.delete fun row => postingKey row = postingKey posting) account =
        scheme.postedTo postings account -
          postings.sum fun row =>
            if decide (postingKey row = postingKey posting) = true then
              if scheme.account? row = some account then scheme.amount row else 0
            else 0 := Table.sum_delete ..
    _ = _ := by simpa using hsum

/-- A posting is not worth more than the total it is part of. -/
theorem amount_le_postedTo {postings : Table Posting postingKey} {posting : Posting}
    (hstored : posting ∈ postings.rows) {account : ℕ}
    (hnamed : scheme.account? posting = some account)
    (hnonneg : ∀ row ∈ postings.rows, scheme.account? row = some account → 0 ≤ scheme.amount row) :
    scheme.amount posting ≤ scheme.postedTo postings account := by
  have hrest : 0 ≤ scheme.postedTo
      (postings.delete fun row => postingKey row = postingKey posting) account := by
    apply Table.sum_nonneg
    intro row hrow
    by_cases hrowNamed : scheme.account? row = some account
    · rw [if_pos hrowNamed]
      exact hnonneg row (List.mem_of_mem_filter hrow) hrowNamed
    · rw [if_neg hrowNamed]
  rw [postedTo_delete postings hstored, if_pos hnamed] at hrest
  exact Int.sub_nonneg.mp hrest

/-- Postings that name no account of interest leave its total at zero. -/
theorem postedTo_eq_zero {postings : Table Posting postingKey} {account : ℕ}
    (hnone : ∀ posting ∈ postings.rows, scheme.account? posting ≠ some account) :
    scheme.postedTo postings account = 0 :=
  Table.sum_eq_zero postings fun posting hposting => if_neg (hnone posting hposting)

/-! ## What keeps the books balanced -/

variable {accounts : Table Account accountKey} {postings : Table Posting postingKey}

/-- Rewriting accounts without touching a counter. -/
theorem Balanced.update (hbalanced : scheme.Balanced accounts postings)
    (test : Account → Bool) (set : Account → Account)
    (hset : ∀ account, accountKey (set account) = accountKey account)
    (hcounter : ∀ account, scheme.counter (set account) = scheme.counter account) :
    scheme.Balanced (accounts.update test set hset) postings := by
  intro account haccount
  obtain ⟨old, hold, rfl⟩ := List.mem_map.mp haccount
  by_cases htest : test old
  · rw [if_pos htest, hset, hcounter]
    exact hbalanced old hold
  · rw [if_neg htest]
    exact hbalanced old hold

/-- A new account starts from zero, and no posting names it yet. -/
theorem Balanced.open (hbalanced : scheme.Balanced accounts postings)
    (make : ℕ → Account) (hmake : ∀ value, accountKey (make value) = value)
    (hzero : scheme.counter (make accounts.nextKey) = 0)
    (hfresh : ∀ posting ∈ postings.rows, ∀ account,
      scheme.account? posting = some account → account < accounts.nextKey) :
    scheme.Balanced (accounts.insert make hmake) postings := by
  intro account haccount
  rcases List.mem_append.mp haccount with hold | hnew
  · exact hbalanced account hold
  · rw [List.mem_singleton.mp hnew, hzero, hmake, postedTo_eq_zero]
    intro posting hposting hnamed
    exact absurd (hfresh posting hposting _ hnamed) (lt_irrefl _)

/-- A posting to an account, with the counter moved by its amount. -/
theorem Balanced.book (hbalanced : scheme.Balanced accounts postings)
    (make : ℕ → Posting) (hmake : ∀ value, postingKey (make value) = value)
    {account : ℕ} (hnamed : scheme.account? (make postings.nextKey) = some account)
    (set : Account → Account) (hset : ∀ row, accountKey (set row) = accountKey row)
    (hcounter : ∀ row ∈ accounts.rows, accountKey row = account →
      scheme.counter (set row) = scheme.counter row + scheme.amount (make postings.nextKey)) :
    scheme.Balanced (accounts.updateKey account set hset)
      (postings.insert make hmake) := by
  intro row hrow
  obtain ⟨old, hold, rfl⟩ := Table.exists_of_mem_updateKey hrow
  by_cases hkey : accountKey old = account
  · rw [if_pos hkey, hset, postedTo_insert, hnamed, if_pos (by rw [hkey]),
      hcounter old hold hkey, hbalanced old hold]
  · rw [if_neg hkey, postedTo_insert, hnamed, if_neg, hbalanced old hold, add_zero]
    intro hsame
    exact hkey (Option.some.inj hsame).symm

/-- A posting that names no account. -/
theorem Balanced.bookElsewhere (hbalanced : scheme.Balanced accounts postings)
    (make : ℕ → Posting) (hmake : ∀ value, postingKey (make value) = value)
    (hnamed : scheme.account? (make postings.nextKey) = none) :
    scheme.Balanced accounts (postings.insert make hmake) := by
  intro row hrow
  rw [postedTo_insert, hnamed, if_neg (by simp), add_zero]
  exact hbalanced row hrow

/-- A deleted posting, with the counter moved back by its amount. -/
theorem Balanced.strike (hbalanced : scheme.Balanced accounts postings)
    {posting : Posting} (hstored : posting ∈ postings.rows) {account : ℕ}
    (hnamed : scheme.account? posting = some account)
    (set : Account → Account) (hset : ∀ row, accountKey (set row) = accountKey row)
    (hcounter : ∀ row ∈ accounts.rows, accountKey row = account →
      scheme.counter (set row) = scheme.counter row - scheme.amount posting) :
    scheme.Balanced (accounts.updateKey account set hset)
      (postings.delete fun row => postingKey row = postingKey posting) := by
  intro row hrow
  obtain ⟨old, hold, rfl⟩ := Table.exists_of_mem_updateKey hrow
  by_cases hkey : accountKey old = account
  · rw [if_pos hkey, hset, postedTo_delete postings hstored, hnamed,
      if_pos (by rw [hkey]), hcounter old hold hkey, hbalanced old hold]
  · rw [if_neg hkey, postedTo_delete postings hstored, hnamed, if_neg, hbalanced old hold, sub_zero]
    intro hsame
    exact hkey (Option.some.inj hsame).symm

/-- Deleting a posting that names no account. -/
theorem Balanced.strikeElsewhere (hbalanced : scheme.Balanced accounts postings)
    {posting : Posting} (hstored : posting ∈ postings.rows)
    (hnamed : scheme.account? posting = none) :
    scheme.Balanced accounts
      (postings.delete fun row => postingKey row = postingKey posting) := by
  intro row hrow
  rw [postedTo_delete postings hstored, hnamed, if_neg (by simp), sub_zero]
  exact hbalanced row hrow

end PostingScheme

end Relational
