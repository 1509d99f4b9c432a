import TunVideo.StepHistory

set_option autoImplicit false

/- Tokens, each of which can be taken once, and leaves a few tokens of lower rank. -/
namespace TunVideo

namespace Cascade

/-- What a token of this rank can bring forth, itself included, when each token that is taken
leaves at most `fan` others. -/
def worth (fan rank : Nat) : Nat := ∑ level ∈ Finset.range rank, fan ^ level

theorem worth_succ (fan rank : Nat) : worth fan (rank + 1) = fan * worth fan rank + 1 :=
  geom_sum_succ

theorem worth_mono (fan : Nat) {less more : Nat} (below : less ≤ more) :
    worth fan less ≤ worth fan more :=
  Finset.sum_le_sum_of_subset (Finset.range_mono below)

/-- A token of a positive rank pays for itself and for those it leaves. -/
theorem worth_pays (fan : Nat) {rank : Nat} (positive : 0 < rank) :
    fan * worth fan (rank - 1) + 1 = worth fan rank := by
  rw [← worth_succ, Nat.sub_add_cancel positive]

variable {α : Type} (rank : α → Nat) (fan top : Nat)

/-- What becomes of the tokens in one step. -/
inductive Step [DecidableEq α] : List α → Bool → Bool → List α → Prop
  | idle (tokens : List α) : Step tokens false false tokens
  | taken {tokens left : List α} {token : α} (held : token ∈ tokens) (alive : 0 < rank token)
      (few : left.length ≤ fan) (lower : ∀ other ∈ left, rank other < rank token) :
      Step tokens true false (tokens.erase token ++ left)
  | brought {tokens new : List α} (few : new.length ≤ fan)
      (bounded : ∀ other ∈ new, rank other ≤ top) :
      Step tokens false true (tokens ++ new)

def total (tokens : List α) : Nat := (tokens.map fun token => worth fan (rank token)).sum

variable {rank fan top}

theorem total_append (front back : List α) :
    total rank fan (front ++ back) = total rank fan front + total rank fan back := by
  rw [total, List.map_append, List.sum_append, total, total]

/-- A few tokens of a bounded rank are worth no more than `fan` of that rank. -/
theorem total_le {tokens : List α} {bound : Nat} (few : tokens.length ≤ fan)
    (bounded : ∀ token ∈ tokens, rank token ≤ bound) :
    total rank fan tokens ≤ fan * worth fan bound := by
  have each : ∀ value ∈ tokens.map (fun token => worth fan (rank token)),
      value ≤ worth fan bound := by
    intro value member
    obtain ⟨token, listed, rfl⟩ := List.mem_map.mp member
    exact worth_mono fan (bounded token listed)
  have most := List.sum_le_card_nsmul _ _ each
  rw [List.length_map, smul_eq_mul] at most
  exact Nat.le_trans most (Nat.mul_le_mul_right _ few)

variable [DecidableEq α]

/-- What is taken is paid for by the tokens, and these by what has been brought. -/
theorem Step.pays {before after : List α} {takes brings : Bool}
    (step : Step rank fan top before takes brings after) :
    total rank fan after + takes.toNat ≤
      total rank fan before + fan * worth fan top * brings.toNat := by
  cases step with
  | idle => exact Nat.le_refl _
  | @taken left token held alive few lower =>
      have split : worth fan (rank token) + total rank fan (before.erase token) =
          total rank fan before :=
        List.sum_map_erase (fun token => worth fan (rank token)) held
      have least : total rank fan left ≤ fan * worth fan (rank token - 1) :=
        total_le few fun other member => Nat.le_sub_one_of_lt (lower other member)
      have paid := worth_pays fan alive
      rw [total_append, Bool.toNat_true, Bool.toNat_false, Nat.mul_zero]
      omega
  | brought few bounded =>
      have most := total_le few bounded
      rw [total_append, Bool.toNat_true, Bool.toNat_false, Nat.mul_one]
      omega

/-- Along a history, no more tokens are taken than there are, or have been brought, with all
that they can bring forth. -/
theorem taken_le {σ ι : Type} {step : σ → ι → σ → Prop} {tokens : σ → List α}
    {takes brings : σ × ι → Bool} {first last : σ} {history : List (σ × ι)}
    (run : History step first history last)
    (moves : ∀ before chosen after, step before chosen after → Step rank fan top (tokens before)
      (takes (before, chosen)) (brings (before, chosen)) (tokens after)) :
    total rank fan (tokens last) + history.countP takes ≤
      total rank fan (tokens first) + fan * worth fan top * history.countP brings := by
  induction run with
  | start => exact Nat.le_refl _
  | @next middle last history _ chosen taken ih =>
      have paid := (moves _ chosen _ taken).pays
      have one (test : σ × ι → Bool) : List.countP test [(middle, chosen)] =
          (test (middle, chosen)).toNat := by
        rw [List.countP_singleton]
        cases test (middle, chosen) <;> rfl
      rw [List.countP_append, List.countP_append, one, one, Nat.mul_add]
      omega

end Cascade

end TunVideo
