import Mathlib

set_option autoImplicit false

namespace TunVideo

variable {D α : Type}

section

variable [LT D] [DecidableLT D]

/-- A candidate replaces the best one so far only when it is strictly lighter. -/
def lighter (best next : D × α) : D × α := if next.1 < best.1 then next else best

def runningMinimum (best : D × α) (candidates : List (D × α)) : D × α :=
  candidates.foldl lighter best

@[simp] theorem runningMinimum_nil (best : D × α) : runningMinimum best [] = best := rfl

@[simp] theorem runningMinimum_cons (best next : D × α) (rest : List (D × α)) :
    runningMinimum best (next :: rest) = runningMinimum (lighter best next) rest := rfl

end

section

variable [LinearOrder D]

/-- The result of a scan: its starting point when no candidate is lighter. -/
structure Unbeaten (best : D × α) (candidates : List (D × α)) : Prop where
  kept : runningMinimum best candidates = best
  least : ∀ candidate ∈ candidates, best.1 ≤ candidate.1

/-- The result of a scan: the first of the lightest candidates. -/
structure Lightest (best : D × α) (candidates front : List (D × α)) (found : D × α)
    (back : List (D × α)) : Prop where
  split : candidates = front ++ found :: back
  result : runningMinimum best candidates = found
  lighter : found.1 < best.1
  before : ∀ candidate ∈ front, found.1 < candidate.1
  behind : ∀ candidate ∈ back, found.1 ≤ candidate.1

theorem runningMinimum_spec (best : D × α) (candidates : List (D × α)) :
    Unbeaten best candidates ∨ ∃ front found back, Lightest best candidates front found back := by
  induction candidates generalizing best with
  | nil => exact Or.inl ⟨rfl, by simp⟩
  | cons next rest ih =>
      by_cases closer : next.1 < best.1
      · have taken : TunVideo.lighter best next = next := if_pos closer
        rcases ih next with unbeaten | ⟨front, found, back, lightest⟩
        · refine Or.inr ⟨[], next, rest, rfl, ?_, closer, by simp, unbeaten.least⟩
          rw [runningMinimum_cons, taken, unbeaten.kept]
        · refine Or.inr ⟨next :: front, found, back, ?_, ?_, ?_, ?_, lightest.behind⟩
          · rw [lightest.split, List.cons_append]
          · rw [runningMinimum_cons, taken, lightest.result]
          · exact lightest.lighter.trans closer
          · rw [List.forall_mem_cons]
            exact ⟨lightest.lighter, lightest.before⟩
      · have kept : TunVideo.lighter best next = best := if_neg closer
        have above : best.1 ≤ next.1 := not_lt.mp closer
        rcases ih best with unbeaten | ⟨front, found, back, lightest⟩
        · refine Or.inl ⟨?_, ?_⟩
          · rw [runningMinimum_cons, kept, unbeaten.kept]
          · rw [List.forall_mem_cons]
            exact ⟨above, unbeaten.least⟩
        · refine Or.inr ⟨next :: front, found, back, ?_, ?_, lightest.lighter, ?_, lightest.behind⟩
          · rw [lightest.split, List.cons_append]
          · rw [runningMinimum_cons, kept, lightest.result]
          · rw [List.forall_mem_cons]
            exact ⟨lightest.lighter.trans_le above, lightest.before⟩

/-- The first of the lightest stands before every other one of the same weight. -/
theorem lightest_first {ι : Type} {order : ι → ι → Prop} {weight : ι → D} {front back : List ι}
    {found : ι} (ordered : (front ++ found :: back).Pairwise order)
    (before : ∀ other ∈ front, weight found < weight other)
    (behind : ∀ other ∈ back, weight found ≤ weight other) :
    ∀ other ∈ front ++ found :: back, weight found < weight other ∨
      weight found = weight other ∧ (other = found ∨ order found other) := by
  intro other member
  rcases List.mem_append.mp member with earlier | here
  · exact Or.inl (before other earlier)
  · rcases List.mem_cons.mp here with rfl | later
    · exact Or.inr ⟨rfl, Or.inl rfl⟩
    · have following := List.rel_of_pairwise_cons (List.pairwise_append.mp ordered).2.1 later
      rcases (behind other later).lt_or_eq with less | equal
      · exact Or.inl less
      · exact Or.inr ⟨equal, Or.inr following⟩

end

end TunVideo
