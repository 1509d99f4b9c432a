import Mathlib

set_option autoImplicit false

namespace TunVideo

/-- The objects that have been created and not deleted, by their addresses. -/
abbrev Heap (α : Type) := Std.ExtTreeMap Nat α

abbrev Links (κ : Type) [Ord κ] := Std.ExtTreeMap κ Nat

/-- Where `new` puts an object. -/
structure Allocator (α : Type) where
  place : Heap α → Nat
  vacant : ∀ heap, heap[place heap]? = none

def Allocator.atEnd (α : Type) : Allocator α where
  place heap := (heap.keys.map Nat.succ).foldr max ⊥
  vacant heap := by
    apply Std.ExtTreeMap.getElem?_eq_none
    intro member
    have listed := List.mem_map_of_mem (f := Nat.succ) (Std.ExtTreeMap.mem_keys.mpr member)
    exact absurd (List.le_max_of_le listed le_rfl) (Nat.not_succ_le_self _)

/-- The objects of one class among those on the heap. -/
structure ObjectClass (α β : Type) where
  make : β → α
  cast : α → Option β
  cast_eq_some : ∀ object value, cast object = some value ↔ object = make value

namespace ObjectClass

variable {α β γ : Type} (cls : ObjectClass α β) {heap : Heap α} {address : Nat}

/-- What a pointer to an object of the class reads. -/
def load (heap : Heap α) (address : Nat) : Option β := heap[address]?.bind cls.cast

theorem cast_make (value : β) : cls.cast (cls.make value) = some value :=
  (cls.cast_eq_some _ _).mpr rfl

theorem load_of_vacant (vacant : heap[address]? = none) : cls.load heap address = none := by
  rw [load, vacant, Option.bind_none]

theorem load_insert_self (heap : Heap α) (address : Nat) (object : α) :
    cls.load (heap.insert address object) address = cls.cast object := by
  rw [load, Std.ExtTreeMap.getElem?_insert_self, Option.bind_some]

theorem load_insert_other {other : Nat} (differs : other ≠ address) (object : α) :
    cls.load (heap.insert address object) other = cls.load heap other := by
  rw [load, load, Std.ExtTreeMap.getElem?_insert, if_neg]
  rw [Nat.compare_eq_eq]
  exact Ne.symm differs

theorem load_erase_self (heap : Heap α) (address : Nat) :
    cls.load (heap.erase address) address = none := by
  rw [load, Std.ExtTreeMap.getElem?_erase_self, Option.bind_none]

theorem load_erase_other {other : Nat} (differs : other ≠ address) :
    cls.load (heap.erase address) other = cls.load heap other := by
  rw [load, load, Std.ExtTreeMap.getElem?_erase, if_neg]
  rw [Nat.compare_eq_eq]
  exact Ne.symm differs

/-- No object is of both classes. -/
def Apart (cls : ObjectClass α β) (other : ObjectClass α γ) : Prop :=
  ∀ value, other.cast (cls.make value) = none

variable {cls} {other : ObjectClass α γ}

theorem Apart.load_none (apart : Apart cls other) {value : β}
    (held : cls.load heap address = some value) : other.load heap address = none := by
  obtain ⟨object, stored, made⟩ := Option.bind_eq_some_iff.mp held
  rw [load, stored, Option.bind_some, (cls.cast_eq_some _ _).mp made]
  exact apart value

theorem Apart.symm (apart : Apart cls other) : Apart other cls := by
  intro value
  cases found : cls.cast (other.make value) with
  | none => rfl
  | some both =>
      have made := (cls.cast_eq_some _ _).mp found
      have none := apart both
      rw [← made, other.cast_make] at none
      cases none

def objects (cls : ObjectClass α β) (heap : Heap α) : Std.ExtTreeMap Nat β :=
  heap.filterMap fun _ object => cls.cast object

theorem getElem?_objects (cls : ObjectClass α β) (heap : Heap α) (address : Nat) :
    (cls.objects heap)[address]? = cls.load heap address :=
  Std.ExtTreeMap.getElem?_filterMap'

theorem mem_objects_iff :
    address ∈ cls.objects heap ↔ ∃ value, cls.load heap address = some value := by
  rw [Std.ExtTreeMap.mem_iff_isSome_getElem?, getElem?_objects, Option.isSome_iff_exists]

theorem not_mem_objects (absent : cls.load heap address = none) : address ∉ cls.objects heap := by
  rw [mem_objects_iff, absent]
  rintro ⟨value, held⟩
  cases held

theorem objects_make (heap : Heap α) (address : Nat) (value : β) :
    cls.objects (heap.insert address (cls.make value)) =
      (cls.objects heap).insert address value := by
  apply Std.ExtTreeMap.ext_getElem?
  intro key
  rw [getElem?_objects]
  by_cases here : key = address
  · rw [here, load_insert_self, cast_make, Std.ExtTreeMap.getElem?_insert_self]
  · rw [cls.load_insert_other here, Std.ExtTreeMap.getElem?_insert, getElem?_objects, if_neg]
    rw [Nat.compare_eq_eq]
    exact Ne.symm here

/-- To take an object away, or to put one of another class in its place. -/
theorem objects_without {after : Heap α} (absent : cls.load after address = none)
    (others : ∀ other, other ≠ address → cls.load after other = cls.load heap other) :
    cls.objects after = (cls.objects heap).erase address := by
  apply Std.ExtTreeMap.ext_getElem?
  intro key
  rw [getElem?_objects]
  by_cases here : key = address
  · rw [here, absent, Std.ExtTreeMap.getElem?_erase_self]
  · rw [others key here, Std.ExtTreeMap.getElem?_erase, getElem?_objects, if_neg]
    rw [Nat.compare_eq_eq]
    exact Ne.symm here

theorem size_objects_create (vacant : cls.load heap address = none) (value : β) :
    (cls.objects (heap.insert address (cls.make value))).size = (cls.objects heap).size + 1 := by
  rw [objects_make, Std.ExtTreeMap.size_insert, if_neg]
  exact not_mem_objects vacant

theorem size_objects_update {old : β} (held : cls.load heap address = some old) (value : β) :
    (cls.objects (heap.insert address (cls.make value))).size = (cls.objects heap).size := by
  rw [objects_make, Std.ExtTreeMap.size_insert, if_pos]
  exact mem_objects_iff.mpr ⟨old, held⟩

theorem size_objects_foreign {object : α} (absent : cls.load heap address = none)
    (foreign : cls.cast object = none) :
    (cls.objects (heap.insert address object)).size = (cls.objects heap).size := by
  rw [objects_without ((cls.load_insert_self heap address object).trans foreign)
    fun other differs => cls.load_insert_other differs object, Std.ExtTreeMap.size_erase, if_neg]
  exact not_mem_objects absent

theorem size_objects_delete (absent : cls.load heap address = none) :
    (cls.objects (heap.erase address)).size = (cls.objects heap).size := by
  rw [objects_without (cls.load_erase_self heap address)
    fun other differs => cls.load_erase_other differs, Std.ExtTreeMap.size_erase, if_neg]
  exact not_mem_objects absent

section

variable {κ : Type} [Ord κ] [Std.TransOrd κ] [Std.LawfulEqOrd κ]

/-- The table that a table of pointers stands for. Nothing is behind a pointer to no object. -/
def pointees (cls : ObjectClass α β) (heap : Heap α) (table : Links κ) : Std.ExtTreeMap κ β :=
  table.filterMap fun _ address => cls.load heap address

/-- Each pointer of the table is to an object of the class, and no two are to the same. -/
structure Owned (cls : ObjectClass α β) (heap : Heap α) (table : Links κ) : Prop where
  live : ∀ (key : κ) (address : Nat), table[key]? = some address →
    ∃ value, cls.load heap address = some value
  apart : ∀ (key key' : κ) (address : Nat), table[key]? = some address →
    table[key']? = some address → key = key'

variable {table : Links κ} {key : κ}

omit [Std.LawfulEqOrd κ] in
theorem owned_empty (cls : ObjectClass α β) (heap : Heap α) :
    cls.Owned heap (∅ : Links κ) := by
  constructor
  · intro key address held
    rw [Std.ExtTreeMap.getElem?_empty] at held
    cases held
  · intro key key' address held
    rw [Std.ExtTreeMap.getElem?_empty] at held
    cases held

theorem getElem?_pointees (cls : ObjectClass α β) (heap : Heap α) (table : Links κ) (key : κ) :
    (cls.pointees heap table)[key]? = table[key]?.bind (cls.load heap) :=
  Std.ExtTreeMap.getElem?_filterMap'

theorem pointees_empty (cls : ObjectClass α β) (heap : Heap α) :
    cls.pointees heap (∅ : Links κ) = ∅ := by
  apply Std.ExtTreeMap.ext_getElem?
  intro key
  rw [getElem?_pointees, Std.ExtTreeMap.getElem?_empty, Std.ExtTreeMap.getElem?_empty]
  rfl

theorem pointees_congr {after : Heap α} (same : ∀ (key : κ) (address : Nat),
    table[key]? = some address → cls.load after address = cls.load heap address) :
    cls.pointees after table = cls.pointees heap table := by
  apply Std.ExtTreeMap.ext_getElem?
  intro key
  rw [getElem?_pointees, getElem?_pointees]
  cases linked : table[key]? with
  | none => rfl
  | some address => exact same key address linked

omit [Std.LawfulEqOrd κ] in
theorem Owned.congr {after : Heap α} (owned : cls.Owned heap table)
    (same : ∀ (key : κ) (address : Nat),
      table[key]? = some address → cls.load after address = cls.load heap address) :
    cls.Owned after table where
  live key address linked := by
    rw [same key address linked]
    exact owned.live key address linked
  apart := owned.apart

omit [Std.LawfulEqOrd κ] in
theorem Owned.load_ne {linked other : Nat} (owned : cls.Owned heap table)
    (absent : cls.load heap other = none) (held : table[key]? = some linked) : linked ≠ other := by
  rintro rfl
  obtain ⟨value, present⟩ := owned.live key linked held
  rw [absent] at present
  cases present

theorem Owned.insert_foreign (owned : cls.Owned heap table) (absent : cls.load heap address = none)
    (object : α) : cls.Owned (heap.insert address object) table ∧
      cls.pointees (heap.insert address object) table = cls.pointees heap table := by
  have same (key : κ) (linked : Nat) (held : table[key]? = some linked) :
      cls.load (heap.insert address object) linked = cls.load heap linked :=
    cls.load_insert_other (owned.load_ne absent held) object
  exact ⟨owned.congr same, pointees_congr same⟩

theorem Owned.erase_foreign (owned : cls.Owned heap table)
    (absent : cls.load heap address = none) :
    cls.Owned (heap.erase address) table ∧
      cls.pointees (heap.erase address) table = cls.pointees heap table := by
  have same (key : κ) (linked : Nat) (held : table[key]? = some linked) :
      cls.load (heap.erase address) linked = cls.load heap linked :=
    cls.load_erase_other (owned.load_ne absent held)
  exact ⟨owned.congr same, pointees_congr same⟩

omit [Std.LawfulEqOrd κ] in
theorem Owned.unlink (owned : cls.Owned heap table) (key : κ) :
    cls.Owned heap (table.erase key) := by
  have kept {key' : κ} {address : Nat} (held : (table.erase key)[key']? = some address) :
      table[key']? = some address := by
    rw [Std.ExtTreeMap.getElem?_erase] at held
    split at held
    · cases held
    · exact held
  exact ⟨fun key' address held => owned.live key' address (kept held),
    fun first second address held held' => owned.apart first second address (kept held)
      (kept held')⟩

theorem pointees_unlink (cls : ObjectClass α β) (heap : Heap α) (table : Links κ) (key : κ) :
    cls.pointees heap (table.erase key) = (cls.pointees heap table).erase key := by
  apply Std.ExtTreeMap.ext_getElem?
  intro key'
  rw [getElem?_pointees, Std.ExtTreeMap.getElem?_erase, Std.ExtTreeMap.getElem?_erase]
  split
  · rfl
  · rw [getElem?_pointees]

omit [Std.LawfulEqOrd κ] in
theorem Owned.ne_of_ne (owned : cls.Owned heap table) (held : table[key]? = some address)
    {key' : κ} {linked : Nat} (differs : key' ≠ key) (held' : table[key']? = some linked) :
    linked ≠ address := by
  rintro rfl
  exact differs (owned.apart key' key linked held' held)

/-- Once an object is deleted, its pointer shows nothing, and may be erased. -/
theorem Owned.delete (owned : cls.Owned heap table) (held : table[key]? = some address) :
    cls.Owned (heap.erase address) (table.erase key) ∧
      cls.pointees (heap.erase address) table = (cls.pointees heap table).erase key := by
  have other {key' : κ} {linked : Nat} (differs : key' ≠ key)
      (held' : table[key']? = some linked) :
      cls.load (heap.erase address) linked = cls.load heap linked :=
    cls.load_erase_other (owned.ne_of_ne held differs held')
  constructor
  · refine (owned.unlink key).congr fun key' linked held' => ?_
    rw [Std.ExtTreeMap.getElem?_erase] at held'
    split at held'
    · cases held'
    · rename_i differs
      rw [Std.LawfulEqOrd.compare_eq_iff_eq] at differs
      exact other (Ne.symm differs) held'
  · apply Std.ExtTreeMap.ext_getElem?
    intro key'
    rw [getElem?_pointees, Std.ExtTreeMap.getElem?_erase]
    split
    · rename_i same
      rw [Std.LawfulEqOrd.compare_eq_iff_eq] at same
      rw [← same, held, Option.bind_some]
      exact cls.load_erase_self heap address
    · rename_i differs
      rw [Std.LawfulEqOrd.compare_eq_iff_eq] at differs
      rw [getElem?_pointees]
      cases held' : table[key']? with
      | none => rfl
      | some linked => exact other (Ne.symm differs) held'

/-- To write through a pointer changes one entry. -/
theorem Owned.update (owned : cls.Owned heap table) (held : table[key]? = some address)
    (value : β) : cls.Owned (heap.insert address (cls.make value)) table ∧
      cls.pointees (heap.insert address (cls.make value)) table =
        (cls.pointees heap table).insert key value := by
  have written : cls.load (heap.insert address (cls.make value)) address = some value :=
    (cls.load_insert_self heap address _).trans (cls.cast_make value)
  have other {key' : κ} {linked : Nat} (differs : key' ≠ key)
      (held' : table[key']? = some linked) :
      cls.load (heap.insert address (cls.make value)) linked = cls.load heap linked :=
    cls.load_insert_other (owned.ne_of_ne held differs held') _
  refine ⟨⟨fun key' linked held' => ?_, owned.apart⟩, ?_⟩
  · by_cases here : key' = key
    · subst here
      rw [held, Option.some.injEq] at held'
      exact ⟨value, held' ▸ written⟩
    · rw [other here held']
      exact owned.live key' linked held'
  · apply Std.ExtTreeMap.ext_getElem?
    intro key'
    rw [getElem?_pointees, Std.ExtTreeMap.getElem?_insert]
    split
    · rename_i same
      rw [Std.LawfulEqOrd.compare_eq_iff_eq] at same
      rw [← same, held, Option.bind_some, written]
    · rename_i differs
      rw [Std.LawfulEqOrd.compare_eq_iff_eq] at differs
      rw [getElem?_pointees]
      cases held' : table[key']? with
      | none => rfl
      | some linked => exact other (Ne.symm differs) held'

/-- An object that is not in the table is put into it. -/
theorem Owned.link (owned : cls.Owned heap table) {value : β}
    (present : cls.load heap address = some value)
    (unlinked : ∀ key : κ, table[key]? ≠ some address) (key : κ) :
    cls.Owned heap (table.insert key address) ∧
      cls.pointees heap (table.insert key address) =
        (cls.pointees heap table).insert key value := by
  constructor
  · constructor
    · intro key' linked held
      rw [Std.ExtTreeMap.getElem?_insert] at held
      split at held
      · exact ⟨value, Option.some.inj held ▸ present⟩
      · exact owned.live key' linked held
    · intro first second linked held held'
      rw [Std.ExtTreeMap.getElem?_insert] at held held'
      split at held
      · rename_i here
        rw [Std.LawfulEqOrd.compare_eq_iff_eq] at here
        split at held'
        · rename_i here'
          rw [Std.LawfulEqOrd.compare_eq_iff_eq] at here'
          exact here.symm.trans here'
        · rw [← Option.some.inj held] at held'
          exact absurd held' (unlinked second)
      · split at held'
        · rw [← Option.some.inj held'] at held
          exact absurd held (unlinked first)
        · exact owned.apart first second linked held held'
  · apply Std.ExtTreeMap.ext_getElem?
    intro key'
    rw [getElem?_pointees, Std.ExtTreeMap.getElem?_insert, Std.ExtTreeMap.getElem?_insert]
    split
    · exact present
    · rw [getElem?_pointees]

def addresses (table : Links κ) : List Nat := table.toList.map Prod.snd

theorem mem_addresses : address ∈ addresses table ↔ ∃ key : κ, table[key]? = some address := by
  rw [addresses, List.mem_map]
  constructor
  · rintro ⟨⟨key, linked⟩, member, rfl⟩
    exact ⟨key, Std.ExtTreeMap.mem_toList_iff_getElem?_eq_some.mp member⟩
  · rintro ⟨key, held⟩
    exact ⟨(key, address), Std.ExtTreeMap.mem_toList_iff_getElem?_eq_some.mpr held, rfl⟩

theorem Owned.addresses_nodup (owned : cls.Owned heap table) : (addresses table).Nodup := by
  have keys : (table.toList.map Prod.fst).Nodup := by
    rw [Std.ExtTreeMap.map_fst_toList_eq_keys]
    exact Std.ExtTreeMap.nodup_keys
  refine (List.Nodup.of_map Prod.fst keys).map_on ?_
  rintro ⟨key, linked⟩ member ⟨key', linked'⟩ member' same
  change linked = linked' at same
  subst same
  have held := Std.ExtTreeMap.mem_toList_iff_getElem?_eq_some.mp member
  have held' := Std.ExtTreeMap.mem_toList_iff_getElem?_eq_some.mp member'
  rw [owned.apart key key' linked held held']

/-- The objects of the class that the table has no pointer to. -/
def stray (cls : ObjectClass α β) (heap : Heap α) (table : Links κ) : List Nat :=
  (cls.objects heap).keys.filter fun address => !decide (address ∈ addresses table)

/-- Each object is stray, or behind one pointer of the table. -/
theorem Owned.stray_length (owned : cls.Owned heap table) :
    (cls.stray heap table).length + table.size = (cls.objects heap).size := by
  have reached : ((cls.objects heap).keys.filter fun address =>
      decide (address ∈ addresses table)).Perm (addresses table) := by
    rw [List.perm_ext_iff_of_nodup (Std.ExtTreeMap.nodup_keys.filter _) owned.addresses_nodup]
    intro address
    rw [List.mem_filter, Std.ExtTreeMap.mem_keys, mem_objects_iff, decide_eq_true_iff]
    refine and_iff_right_of_imp fun member => ?_
    obtain ⟨key, held⟩ := mem_addresses.mp member
    exact owned.live key address held
  have split := List.length_eq_length_filter_add (l := (cls.objects heap).keys)
    fun address => decide (address ∈ addresses table)
  rw [reached.length_eq, Std.ExtTreeMap.length_keys, addresses, List.length_map,
    Std.ExtTreeMap.length_toList] at split
  rw [split, stray, Nat.add_comm]
  rfl

/-- A loop over a table that reads the object behind each pointer. -/
def walk {ρ δ : Type} (cls : ObjectClass α β) (fault : δ) (heap : Heap α) (table : Links κ)
    (body : ρ → κ × β → Except δ ρ) (start : ρ) : Except δ ρ :=
  table.toList.foldlM (fun found iter =>
    match cls.load heap iter.2 with
    | some value => body found (iter.1, value)
    | none => .error fault) start

/-- A walk over the pointers is a loop over what the table stands for. -/
theorem Owned.walk_eq {ρ δ : Type} (owned : cls.Owned heap table) (fault : δ)
    (body : ρ → κ × β → Except δ ρ) (start : ρ) :
    cls.walk fault heap table body start = (cls.pointees heap table).toList.foldlM body start := by
  have live : ∀ iter ∈ table.toList, ∃ value, cls.load heap iter.2 = some value := by
    rintro ⟨key, address⟩ member
    exact owned.live key address (Std.ExtTreeMap.mem_toList_iff_getElem?_eq_some.mp member)
  rw [walk, pointees, Std.ExtTreeMap.toList_filterMap]
  generalize table.toList = entries at live
  induction entries generalizing start with
  | nil => rfl
  | cons iter rest ih =>
      obtain ⟨value, held⟩ := live iter List.mem_cons_self
      have later (found : ρ) := ih found fun other member =>
        live other (List.mem_cons_of_mem _ member)
      rw [List.foldlM_cons, held, List.filterMap_cons, held]
      dsimp only [Option.map_some]
      rw [List.foldlM_cons]
      exact congrArg _ (funext later)

end

end ObjectClass

end TunVideo
