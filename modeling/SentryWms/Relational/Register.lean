import Mathlib.Data.Finset.Basic
import Mathlib.Data.List.Basic
import SentryWms.Relational.Run

/-!
# A register that keeps the latest version

Versions are offered one at a time.  One that was accepted before is ignored, one that
the version in the register makes stale is refused, and any other takes the register.
The comparison is an arbitrary relation: the register converges on a set of versions
exactly when one of them beats every other, both ways round.
-/

namespace Relational.Register

variable {Version : Type*} [DecidableEq Version] (stale : Version → Version → Bool)

/-- The versions accepted so far, the one in the register first. -/
def offer (accepted : List Version) (version : Version) : List Version :=
  if version ∈ accepted then accepted
  else
    match accepted with
    | [] => [version]
    | current :: earlier =>
        if stale current version then current :: earlier
        else version :: current :: earlier

/-- Whatever the order, with repeats, one version ends up in the register. -/
def Converges (versions : Finset Version) : Prop :=
  ∃ greatest ∈ versions, ∀ deliveries : List Version, deliveries.toFinset = versions →
    (run (offer stale) [] deliveries).head? = some greatest

/-- The version makes every other stale, and none makes it stale. -/
def Greatest (versions : Finset Version) (greatest : Version) : Prop :=
  ∀ version ∈ versions, version ≠ greatest →
    stale greatest version = true ∧ stale version greatest = false

variable {stale}

theorem offer_of_mem {accepted : List Version} {version : Version}
    (hmem : version ∈ accepted) : offer stale accepted version = accepted :=
  if_pos hmem

theorem offer_stale {current version : Version} {earlier : List Version}
    (hstale : stale current version = true) :
    offer stale (current :: earlier) version = current :: earlier := by
  by_cases hmem : version ∈ current :: earlier
  · exact offer_of_mem hmem
  · rw [offer, if_neg hmem]
    simp only [hstale, if_true]

theorem offer_fresh {current version : Version} {earlier : List Version}
    (hnew : version ∉ current :: earlier) (hfresh : stale current version = false) :
    offer stale (current :: earlier) version = version :: current :: earlier := by
  rw [offer, if_neg hnew]
  simp only [hfresh, Bool.false_eq_true, if_false]

variable (stale) in
/-- An offer leaves the register alone, or the version takes it. -/
theorem offer_cases (accepted : List Version) (version : Version) :
    offer stale accepted version = accepted ∨
      offer stale accepted version = version :: accepted := by
  by_cases hmem : version ∈ accepted
  · exact Or.inl (offer_of_mem hmem)
  · cases accepted with
    | nil => exact Or.inr rfl
    | cons current earlier =>
        cases hstale : stale current version with
        | true => exact Or.inl (offer_stale hstale)
        | false => exact Or.inr (offer_fresh hmem hstale)

theorem run_offer_cons (accepted : List Version) (version : Version) (rest : List Version) :
    run (offer stale) accepted (version :: rest) =
      run (offer stale) (offer stale accepted version) rest := rfl

/-- Only offered versions are accepted. -/
theorem mem_of_mem_run {deliveries accepted : List Version} {version : Version}
    (hmem : version ∈ run (offer stale) accepted deliveries) :
    version ∈ accepted ∨ version ∈ deliveries := by
  induction deliveries generalizing accepted with
  | nil => exact Or.inl hmem
  | cons offered rest ih =>
      rw [run_offer_cons] at hmem
      rcases ih hmem with hlater | hrest
      · rcases offer_cases stale accepted offered with hkept | htaken
        · rw [hkept] at hlater
          exact Or.inl hlater
        · rw [htaken, List.mem_cons] at hlater
          rcases hlater with rfl | hbefore
          · exact Or.inr List.mem_cons_self
          · exact Or.inl hbefore
      · exact Or.inr (List.mem_cons_of_mem _ hrest)

/-- The greatest version stays once it is there, and takes the register when it comes. -/
theorem head?_run_of_greatest {versions : Finset Version} {greatest : Version}
    (hgreatest : Greatest stale versions greatest) {deliveries accepted : List Version}
    (hdeliveries : ∀ version ∈ deliveries, version ∈ versions)
    (haccepted : ∀ version ∈ accepted, version ∈ versions)
    (hcurrent : greatest ∈ accepted → accepted.head? = some greatest)
    (hcomes : greatest ∈ accepted ∨ greatest ∈ deliveries) :
    (run (offer stale) accepted deliveries).head? = some greatest := by
  induction deliveries generalizing accepted with
  | nil => exact hcurrent (hcomes.resolve_right List.not_mem_nil)
  | cons version rest ih =>
      rw [run_offer_cons]
      have hversion := hdeliveries version List.mem_cons_self
      have hoffered : ∀ other ∈ offer stale accepted version, other ∈ versions := by
        intro other hother
        rcases offer_cases stale accepted version with hkept | htaken
        · exact haccepted other (hkept ▸ hother)
        · rw [htaken, List.mem_cons] at hother
          rcases hother with rfl | hbefore
          · exact hversion
          · exact haccepted other hbefore
      by_cases hthere : greatest ∈ accepted
      · -- the greatest version is in the register: everything else is stale
        have hkept : offer stale accepted version = accepted := by
          obtain ⟨earlier, rfl⟩ := List.head?_eq_some_iff.mp (hcurrent hthere)
          by_cases hsame : version = greatest
          · exact offer_of_mem (hsame ▸ hthere)
          · exact offer_stale (hgreatest version hversion hsame).1
        rw [hkept]
        exact ih (fun other hother => hdeliveries other (List.mem_cons_of_mem _ hother))
          haccepted hcurrent (Or.inl hthere)
      · apply ih (fun other hother => hdeliveries other (List.mem_cons_of_mem _ hother)) hoffered
        · intro harrived
          rcases offer_cases stale accepted version with hkept | htaken
          · exact (hthere (hkept ▸ harrived)).elim
          · rw [htaken] at harrived ⊢
            rcases List.mem_cons.mp harrived with rfl | hbefore
            · rfl
            · exact (hthere hbefore).elim
        · rcases List.mem_cons.mp (hcomes.resolve_left hthere) with rfl | hlater
          · left
            cases accepted with
            | nil => simp [offer]
            | cons current earlier =>
                have hother : current ≠ greatest := fun hsame => hthere (hsame ▸ List.mem_cons_self)
                have hfresh := (hgreatest current (haccepted current List.mem_cons_self) hother).2
                rw [offer_fresh hthere hfresh]
                exact List.mem_cons_self
          · exact Or.inr hlater

theorem toFinset_filter_ne {versions : Finset Version} {first second : Version}
    (hfirst : first ∈ versions) (hsecond : second ∈ versions) :
    ∃ rest : List Version, first ∉ rest ∧ second ∉ rest ∧
      (first :: second :: rest).toFinset = versions ∧
        (rest ++ [second, first]).toFinset = versions := by
  refine ⟨(versions.erase first).toList.filter (· ≠ second), ?_, ?_, ?_, ?_⟩
  · simp
  · simp
  · ext version
    simp only [List.mem_toFinset, List.mem_cons, List.mem_filter, Finset.mem_toList,
      Finset.mem_erase, decide_eq_true_eq]
    grind
  · ext version
    simp only [List.mem_toFinset, List.mem_append, List.mem_cons, List.mem_filter,
      Finset.mem_toList, Finset.mem_erase, decide_eq_true_eq]
    grind

/-- A version that converges is the greatest: sent last it must be taken, sent before it
must be kept. -/
theorem greatest_of_converges {versions : Finset Version} {greatest : Version}
    (hmem : greatest ∈ versions)
    (hconverges : ∀ deliveries : List Version, deliveries.toFinset = versions →
      (run (offer stale) [] deliveries).head? = some greatest) :
    Greatest stale versions greatest := by
  intro version hversion hother
  obtain ⟨rest, hnotversion, hnotgreatest, hbefore, hafter⟩ := toFinset_filter_ne hversion hmem
  constructor
  · -- the others, the greatest, then the version
    have hlast := hconverges (rest ++ [greatest, version]) hafter
    rw [run_append] at hlast
    have hsofar : ∀ offered, offered ∈ run (offer stale) [] rest → offered ∈ rest :=
      fun offered hoffered => (mem_of_mem_run hoffered).resolve_left List.not_mem_nil
    have hunseen : ∀ offered, offered ∉ rest → offered ∉ run (offer stale) [] rest :=
      fun offered hout hin => hout (hsofar offered hin)
    rw [run_offer_cons, run_offer_cons] at hlast
    change (offer stale (offer stale (run (offer stale) [] rest) greatest)
      version).head? = _ at hlast
    rcases offer_cases stale (run (offer stale) [] rest) greatest with
      hrefused | htaken
    · rw [hrefused] at hlast
      rcases offer_cases stale (run (offer stale) [] rest) version with
        hkept | htook
      · rw [hkept] at hlast
        exact (hunseen greatest hnotgreatest (List.mem_of_head? hlast)).elim
      · rw [htook] at hlast
        exact (hother (Option.some.inj hlast)).elim
    · rw [htaken] at hlast
      by_contra hfresh
      have hnew : version ∉ greatest :: run (offer stale) [] rest := by
        rw [List.mem_cons, not_or]
        exact ⟨hother, hunseen version hnotversion⟩
      rw [offer_fresh hnew (by simpa using hfresh)] at hlast
      exact hother (Option.some.inj hlast)
  · -- the version, the greatest, then the others
    by_contra hstale
    have hfirst := hconverges (version :: greatest :: rest) hbefore
    have hstart : offer stale [] version = [version] := rfl
    rw [run_offer_cons, run_offer_cons, hstart, offer_stale (by simpa using hstale)] at hfirst
    rcases mem_of_mem_run (List.mem_of_head? hfirst) with hin | hin
    · exact hother (List.mem_singleton.mp hin).symm
    · exact hnotgreatest hin

theorem converges_iff {versions : Finset Version} :
    Converges stale versions ↔
      ∃ greatest ∈ versions, Greatest stale versions greatest := by
  constructor
  · rintro ⟨greatest, hmem, hconverges⟩
    exact ⟨greatest, hmem, greatest_of_converges hmem hconverges⟩
  · rintro ⟨greatest, hmem, hgreatest⟩
    refine ⟨greatest, hmem, ?_⟩
    intro deliveries hdeliveries
    have hin : ∀ version, version ∈ deliveries ↔ version ∈ versions := by
      intro version
      rw [← hdeliveries, List.mem_toFinset]
    apply head?_run_of_greatest hgreatest (fun version hversion => (hin version).mp hversion)
    · exact fun _ hnone => (List.not_mem_nil hnone).elim
    · exact fun hnone => (List.not_mem_nil hnone).elim
    · exact Or.inr ((hin greatest).mpr hmem)

end Relational.Register
