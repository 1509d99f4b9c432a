import Mathlib

set_option autoImplicit false

/- The loop that walks an ordered map from `begin()` to `end()` and erases the
entry it stands on, or steps over it. -/
namespace TunVideo.MapSweep

variable {κ ν : Type} [Ord κ] [Std.TransOrd κ]

def step (expired : ν → Bool) (table : Std.ExtTreeMap κ ν) (entry : κ × ν) : Std.ExtTreeMap κ ν :=
  if expired entry.2 then table.erase entry.1 else table

/-- Every entry is visited once, in key order. -/
def sweep (expired : ν → Bool) (table : Std.ExtTreeMap κ ν) : Std.ExtTreeMap κ ν :=
  table.toList.foldl (step expired) table

@[simp] theorem sweep_empty (expired : ν → Bool) :
    sweep expired (∅ : Std.ExtTreeMap κ ν) = ∅ := rfl

variable [Std.LawfulEqOrd κ]

theorem getElem?_step_eq_some {expired : ν → Bool} {entry : κ × ν} {table : Std.ExtTreeMap κ ν}
    {key : κ} {value : ν} :
    (step expired table entry)[key]? = some value ↔
      table[key]? = some value ∧ (entry.1 = key → expired entry.2 = false) := by
  unfold step
  by_cases gone : expired entry.2 = true
  · rw [if_pos gone, Std.ExtTreeMap.getElem?_erase]
    by_cases here : entry.1 = key
    · simp [here, gone]
    · simp [here]
  · rw [if_neg gone]
    rw [Bool.not_eq_true] at gone
    simp [gone]

theorem getElem?_foldl_eq_some {expired : ν → Bool} {entries : List (κ × ν)}
    {table : Std.ExtTreeMap κ ν} {key : κ} {value : ν} :
    (entries.foldl (step expired) table)[key]? = some value ↔
      table[key]? = some value ∧ ∀ entry ∈ entries, entry.1 = key → expired entry.2 = false := by
  induction entries generalizing table with
  | nil => simp
  | cons entry rest ih =>
      rw [List.foldl_cons, ih, getElem?_step_eq_some, List.forall_mem_cons, and_assoc]

/-- The loop leaves the entries that are not expired, and only those. -/
theorem getElem?_sweep_eq_some {expired : ν → Bool} {table : Std.ExtTreeMap κ ν} {key : κ}
    {value : ν} :
    (sweep expired table)[key]? = some value ↔
      table[key]? = some value ∧ expired value = false := by
  rw [sweep, getElem?_foldl_eq_some]
  constructor
  · rintro ⟨held, kept⟩
    exact ⟨held, kept (key, value) (Std.ExtTreeMap.mem_toList_iff_getElem?_eq_some.mpr held) rfl⟩
  · rintro ⟨held, fresh⟩
    refine ⟨held, ?_⟩
    rintro ⟨key', value'⟩ member rfl
    have same := Std.ExtTreeMap.mem_toList_iff_getElem?_eq_some.mp member
    rw [held] at same
    exact Option.some.inj same ▸ fresh

theorem getElem?_sweep_eq_none {expired : ν → Bool} {table : Std.ExtTreeMap κ ν} {key : κ} :
    (sweep expired table)[key]? = none ↔
      ∀ value, table[key]? = some value → expired value = true := by
  constructor
  · intro absent value held
    by_contra fresh
    rw [Bool.not_eq_true] at fresh
    have kept := getElem?_sweep_eq_some.mpr ⟨held, fresh⟩
    rw [absent] at kept
    cases kept
  · intro gone
    by_contra present
    obtain ⟨value, kept⟩ := Option.ne_none_iff_exists'.mp present
    obtain ⟨held, fresh⟩ := getElem?_sweep_eq_some.mp kept
    rw [gone value held] at fresh
    cases fresh

theorem sweep_of_fresh {expired : ν → Bool} {table : Std.ExtTreeMap κ ν}
    (fresh : ∀ (key : κ) (value : ν), table[key]? = some value → expired value = false) :
    sweep expired table = table := by
  apply Std.ExtTreeMap.ext_getElem?
  intro key
  apply Option.ext
  intro value
  rw [getElem?_sweep_eq_some]
  exact ⟨And.left, fun held => ⟨held, fresh key value held⟩⟩

/-- A second walk visits the entries that the first one left, in the same order. -/
theorem toList_sweep (expired : ν → Bool) (table : Std.ExtTreeMap κ ν) :
    (sweep expired table).toList = table.toList.filter fun entry => !expired entry.2 := by
  have filtered : sweep expired table = table.filter fun _ value => !expired value := by
    apply Std.ExtTreeMap.ext_getElem?
    intro key
    rw [Std.ExtTreeMap.getElem?_filter']
    apply Option.ext
    intro value
    rw [getElem?_sweep_eq_some, Option.filter_eq_some_iff, Bool.not_eq_true']
  rw [filtered, Std.ExtTreeMap.toList_filter]

theorem getElem?_insert_other {key other : κ} (table : Std.ExtTreeMap κ ν) (value : ν)
    (differs : other ≠ key) : (table.insert key value)[other]? = table[other]? := by
  rw [Std.ExtTreeMap.getElem?_insert, if_neg]
  intro same
  exact differs (Std.LawfulEqOrd.compare_eq_iff_eq.mp same).symm

/-- The walk followed by a write of one entry, whose new value depends on what the walk has
left there. -/
structure Renews (expired : ν → Bool) (key : κ) (renewed : Option ν → ν)
    (before after : Std.ExtTreeMap κ ν) : Prop where
  own : after[key]? = some (renewed (sweep expired before)[key]?)
  others : ∀ other, other ≠ key → after[other]? = (sweep expired before)[other]?

/-- A walk leaves alone what an earlier one has left. -/
theorem Renews.sweep_other {expired : ν → Bool} {key : κ} {renewed : Option ν → ν}
    {before after : Std.ExtTreeMap κ ν} (renews : Renews expired key renewed before after)
    {other : κ} (differs : other ≠ key) :
    (sweep expired after)[other]? = (sweep expired before)[other]? := by
  apply Option.ext
  intro value
  rw [getElem?_sweep_eq_some, renews.others other differs, getElem?_sweep_eq_some, and_assoc,
    and_self]

/-- A walk leaves an entry that has just been renewed with a value that is not expired. -/
theorem Renews.sweep_own {expired : ν → Bool} {key : κ} {renewed : Option ν → ν}
    {before after : Std.ExtTreeMap κ ν} (renews : Renews expired key renewed before after)
    (fresh : ∀ left, expired (renewed left) = false) :
    (sweep expired after)[key]? = some (renewed (sweep expired before)[key]?) :=
  getElem?_sweep_eq_some.mpr ⟨renews.own, fresh _⟩

/-- A renewal changes nothing if no entry is expired and the new value is already there. -/
theorem Renews.same_iff {expired : ν → Bool} {key : κ} {renewed : Option ν → ν}
    {before after : Std.ExtTreeMap κ ν} (renews : Renews expired key renewed before after)
    (fresh : ∀ left, expired (renewed left) = false) :
    after = before ↔
      (∀ (other : κ) (value : ν), before[other]? = some value → expired value = false) ∧
        before[key]? = some (renewed before[key]?) := by
  constructor
  · intro same
    have all : ∀ (other : κ) (value : ν), before[other]? = some value → expired value = false := by
      intro other value held
      by_cases own : other = key
      · have written := renews.own
        rw [same, ← own, held] at written
        rw [Option.some.inj written]
        exact fresh _
      · have left := renews.others other own
        rw [same, held] at left
        exact (getElem?_sweep_eq_some.mp left.symm).2
    have written := renews.own
    rw [same, sweep_of_fresh all] at written
    exact ⟨all, written⟩
  · rintro ⟨all, held⟩
    apply Std.ExtTreeMap.ext_getElem?
    intro other
    by_cases own : other = key
    · rw [own, renews.own, sweep_of_fresh all]
      exact held.symm
    · rw [renews.others other own, sweep_of_fresh all]

/-- Renewals of two entries may be exchanged. -/
theorem Renews.comm {expired : ν → Bool} {key₁ key₂ : κ} {renewed₁ renewed₂ : Option ν → ν}
    {table first second firstSecond secondFirst : Std.ExtTreeMap κ ν}
    (first₁ : Renews expired key₁ renewed₁ table first)
    (then₂ : Renews expired key₂ renewed₂ first firstSecond)
    (first₂ : Renews expired key₂ renewed₂ table second)
    (then₁ : Renews expired key₁ renewed₁ second secondFirst)
    (differ : key₁ ≠ key₂) (fresh₁ : ∀ left, expired (renewed₁ left) = false)
    (fresh₂ : ∀ left, expired (renewed₂ left) = false) : firstSecond = secondFirst := by
  apply Std.ExtTreeMap.ext_getElem?
  intro key
  by_cases here₁ : key = key₁
  · rw [here₁, then₂.others key₁ differ, first₁.sweep_own fresh₁, then₁.own,
      first₂.sweep_other differ]
  · by_cases here₂ : key = key₂
    · rw [here₂, then₁.others key₂ differ.symm, first₂.sweep_own fresh₂, then₂.own,
        first₁.sweep_other differ.symm]
    · rw [then₂.others key here₂, first₁.sweep_other here₁, then₁.others key here₁,
        first₂.sweep_other here₂]

end TunVideo.MapSweep
