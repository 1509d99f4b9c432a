import TunVideo.ByteBuffer

set_option autoImplicit false

namespace TunVideo.Buffer

variable {size : Nat}

/-- Each cell holds its byte of the last payload that was long enough. -/
def overlaid (payloads : List (List UInt8)) (buf : Buffer size) : Buffer size :=
  fun cell => (payloads.reverse.findSome? fun payload => payload[cell.val]?).getD (buf cell)

theorem overlaid_nil (buf : Buffer size) : overlaid [] buf = buf := rfl

theorem overlaid_append (payloads : List (List UInt8)) (buf : Buffer size)
    (payload : List UInt8) :
    overlaid (payloads ++ [payload]) buf = (overlaid payloads buf).overwrite 0 payload := by
  funext cell
  rw [overwrite, if_pos (Nat.zero_le _), Nat.sub_zero, overlaid, List.reverse_append,
    List.reverse_singleton, List.singleton_append, List.findSome?_cons, List.getD_eq_getElem?_getD]
  cases payload[cell.val]? with
  | none => rfl
  | some byte => rfl

/-- A change at the end of what was copied is a copy of something else. -/
theorem overwrite_tail (buf : Buffer size) (front : List UInt8) {back tail : List UInt8}
    (same : back.length = tail.length) :
    (buf.overwrite 0 (front ++ back)).overwrite front.length tail =
      buf.overwrite 0 (front ++ tail) := by
  funext cell
  unfold overwrite
  rw [if_pos (Nat.zero_le _), if_pos (Nat.zero_le _), Nat.sub_zero]
  by_cases behind : front.length ≤ cell.val
  · rw [if_pos behind, List.getD_append_right _ _ _ _ behind,
      List.getD_append_right _ _ _ _ behind]
    by_cases inside : cell.val - front.length < tail.length
    · rw [List.getD_eq_getElem _ _ inside, List.getD_eq_getElem _ _ inside]
    · rw [List.getD_eq_default _ _ (by omega), List.getD_eq_default _ _ (by omega),
        List.getD_eq_default _ _ (by omega)]
  · rw [if_neg behind, List.getD_append _ _ _ _ (by omega), List.getD_append _ _ _ _ (by omega)]

/-- Two buffers that agree on a region agree on each word of it. -/
theorem word_of_sameSlice {other : Nat} {buf : Buffer size} {buf' : Buffer other}
    {start start' total : Nat} (same : buf.slice start total = buf'.slice start' total)
    (order : ByteOrder) {offset : Nat} (inside : offset + 4 ≤ total) :
    buf.word order (start + offset) = buf'.word order (start' + offset) := by
  obtain ⟨rest, rfl⟩ := Nat.exists_eq_add_of_le inside
  rw [slice_append, slice_append _ start', slice_append, slice_append _ start'] at same
  have front := (List.append_inj same (by simp only [List.length_append, slice_length])).1
  have back := (List.append_inj front (by simp only [slice_length])).2
  exact congrArg order.word back

/-- Where a byte is from. -/
inductive FromPayload (payloads : List (List UInt8)) (default : UInt8) (index : Nat) :
    UInt8 → Prop
  | never (short : ∀ payload ∈ payloads, payload.length ≤ index) :
      FromPayload payloads default index default
  | payload {earlier later : List (List UInt8)} {payload : List UInt8} {byte : UInt8}
      (split : payloads = earlier ++ payload :: later) (held : payload[index]? = some byte)
      (short : ∀ other ∈ later, other.length ≤ index) :
      FromPayload payloads default index byte

theorem overlaid_fromPayload (payloads : List (List UInt8)) (buf : Buffer size) {index : Nat}
    (inside : index < size) :
    FromPayload payloads (buf.byte index) index ((overlaid payloads buf).byte index) := by
  have cell (other : Buffer size) : other.byte index = other ⟨index, inside⟩ := dif_pos inside
  rw [cell, cell, overlaid]
  cases found : payloads.reverse.findSome? fun payload => payload[index]? with
  | none =>
      refine .never fun payload member => ?_
      have missing := List.findSome?_eq_none_iff.mp found payload (List.mem_reverse.mpr member)
      exact List.getElem?_eq_none_iff.mp missing
  | some byte =>
      obtain ⟨later, payload, earlier, split, held, short⟩ := List.findSome?_eq_some_iff.mp found
      have order : payloads = earlier.reverse ++ payload :: later.reverse := by
        rw [← List.reverse_inj, split]
        simp
      refine .payload order held fun other member => ?_
      exact List.getElem?_eq_none_iff.mp (short other (List.mem_reverse.mp member))

end TunVideo.Buffer
