import TunVideo.ByteWord

set_option autoImplicit false

namespace TunVideo

/-- A byte array of fixed size, as a C struct member. Every cell holds some
value, so a buffer that was only partly overwritten keeps its older bytes. -/
def Buffer (size : Nat) : Type := Fin size → UInt8

namespace Buffer

variable {size : Nat}

def byte (buf : Buffer size) (index : Nat) : UInt8 :=
  if inside : index < size then buf ⟨index, inside⟩ else 0

/-- Consecutive cells, in address order. -/
def slice (buf : Buffer size) (start count : Nat) : List UInt8 :=
  (List.range count).map fun i => buf.byte (start + i)

/-- Bytes copied to `start`. Cells outside the destination keep their value. -/
def overwrite (buf : Buffer size) (start : Nat) (payload : List UInt8) : Buffer size :=
  fun cell => if start ≤ cell.val then payload.getD (cell.val - start) (buf cell) else buf cell

def read (buf : Buffer size) (start count : Nat) : Option (List UInt8) :=
  if start + count ≤ size then some (buf.slice start count) else none

def write (buf : Buffer size) (start : Nat) (payload : List UInt8) : Option (Buffer size) :=
  if start + payload.length ≤ size then some (buf.overwrite start payload) else none

def word (order : ByteOrder) (buf : Buffer size) (start : Nat) : UInt32 :=
  order.word (buf.slice start 4)

@[simp] theorem slice_length (buf : Buffer size) (start count : Nat) :
    (buf.slice start count).length = count := by
  simp only [slice, List.length_map, List.length_range]

theorem slice_getElem (buf : Buffer size) (start count i : Nat)
    (inside : i < (buf.slice start count).length) :
    (buf.slice start count)[i] = buf.byte (start + i) := by
  simp only [slice, List.getElem_map, List.getElem_range]

theorem slice_append (buf : Buffer size) (start front back : Nat) :
    buf.slice start (front + back) = buf.slice start front ++ buf.slice (start + front) back := by
  simp only [slice, List.range_add, List.map_append, List.map_map]
  congr 1
  apply List.map_congr_left
  intro i _
  simp only [Function.comp_apply, Nat.add_assoc]

theorem byte_overwrite_inside (buf : Buffer size) (start i : Nat) (payload : List UInt8)
    (inside : i < payload.length) (fits : start + i < size) :
    (buf.overwrite start payload).byte (start + i) = payload[i] := by
  simp only [byte, fits, ↓reduceDIte, overwrite, Nat.le_add_right, ↓reduceIte,
    Nat.add_sub_cancel_left, List.getD_eq_getElem _ _ inside]

theorem byte_overwrite_outside (buf : Buffer size) (start index : Nat) (payload : List UInt8)
    (outside : index < start ∨ start + payload.length ≤ index) :
    (buf.overwrite start payload).byte index = buf.byte index := by
  unfold byte overwrite
  split
  · dsimp only
    split
    · exact List.getD_eq_default _ _ (by omega)
    · rfl
  · rfl

/-- A copied region reads back as the copied bytes, whatever was there before. -/
theorem slice_overwrite_inside (buf : Buffer size) (start skip count : Nat)
    (payload : List UInt8) (inside : skip + count ≤ payload.length)
    (fits : start + skip + count ≤ size) :
    (buf.overwrite start payload).slice (start + skip) count = (payload.drop skip).take count := by
  apply List.ext_getElem
  · simp only [slice_length, List.length_take, List.length_drop]
    omega
  · intro i bound _
    rw [slice_length] at bound
    rw [slice_getElem, Nat.add_assoc, byte_overwrite_inside _ _ _ _ (by omega) (by omega)]
    simp only [List.getElem_take, List.getElem_drop]

theorem slice_overwrite_outside (buf : Buffer size) (start from' count : Nat)
    (payload : List UInt8)
    (outside : from' + count ≤ start ∨ start + payload.length ≤ from') :
    (buf.overwrite start payload).slice from' count = buf.slice from' count := by
  apply List.map_congr_left
  intro i member
  have bound : i < count := List.mem_range.mp member
  exact byte_overwrite_outside _ _ _ _ (by omega)

theorem slice_overwrite (buf : Buffer size) (start : Nat) (payload : List UInt8)
    (fits : start + payload.length ≤ size) :
    (buf.overwrite start payload).slice start payload.length = payload := by
  simpa using slice_overwrite_inside buf start 0 payload.length payload (by omega) (by omega)

/-- Bytes past the copied region are stale: they are what the buffer held before. -/
theorem slice_overwrite_past (buf : Buffer size) (start extra : Nat) (payload : List UInt8)
    (fits : start + payload.length ≤ size) :
    (buf.overwrite start payload).slice start (payload.length + extra) =
      payload ++ buf.slice (start + payload.length) extra := by
  rw [slice_append, slice_overwrite buf start payload fits,
    slice_overwrite_outside _ _ _ _ _ (Or.inr (Nat.le_refl _))]

theorem slice_overwrite_front (buf : Buffer size) {payload : List UInt8} {count : Nat}
    (part : count ≤ payload.length) (fits : payload.length ≤ size) :
    (buf.overwrite 0 payload).slice 0 count = payload.take count := by
  have inside := slice_overwrite_inside buf 0 0 count payload (by omega) (by omega)
  rwa [Nat.add_zero, List.drop_zero] at inside

theorem slice_overwrite_back (buf : Buffer size) {front back : List UInt8}
    (fits : front.length + back.length ≤ size) :
    (buf.overwrite 0 (front ++ back)).slice front.length back.length = back := by
  have total : (front ++ back).length = front.length + back.length := List.length_append
  have inside := slice_overwrite_inside buf 0 front.length back.length (front ++ back)
    (by omega) (by omega)
  rwa [Nat.zero_add, List.drop_left, List.take_length] at inside

/-- A packet, and as much of the bytes copied behind it as is asked for. -/
theorem slice_overwrite_behind (buf : Buffer size) {front back : List UInt8} {count : Nat}
    (part : count ≤ back.length) (fits : front.length + back.length ≤ size) :
    ((buf.overwrite 0 front).overwrite front.length back).slice 0 (front.length + count) =
      front ++ back.take count := by
  have packet : (buf.overwrite 0 front).slice 0 front.length = front :=
    slice_overwrite buf 0 front (by omega)
  have behind := slice_overwrite_inside (buf.overwrite 0 front) front.length 0 count back
    (by omega) (by omega)
  rw [Nat.add_zero, List.drop_zero] at behind
  rw [slice_append, slice_overwrite_outside _ _ _ _ _ (Or.inl (by omega)), packet, Nat.zero_add,
    behind]

theorem read_eq (buf : Buffer size) (start count : Nat) (fits : start + count ≤ size) :
    buf.read start count = some (buf.slice start count) := by
  simp only [read, fits, ↓reduceIte]

theorem write_eq (buf : Buffer size) (start : Nat) (payload : List UInt8)
    (fits : start + payload.length ≤ size) :
    buf.write start payload = some (buf.overwrite start payload) := by
  simp only [write, fits, ↓reduceIte]

theorem word_of_slice {order : ByteOrder} {buf : Buffer size} {start : Nat} {words : List UInt32}
    (held : buf.slice start (4 * words.length) = order.encode words) (i : Nat)
    (inside : i < words.length) : buf.word order (start + 4 * i) = words[i] := by
  induction words generalizing start i with
  | nil => cases inside
  | cons value rest ih =>
      have count : 4 * (value :: rest).length = 4 + 4 * rest.length := by
        rw [List.length_cons]
        omega
      rw [count, slice_append, ByteOrder.encode_cons] at held
      obtain ⟨head, tail⟩ := List.append_inj held
        (by rw [slice_length, ByteOrder.bytes_length])
      cases i with
      | zero => rw [word, Nat.mul_zero, Nat.add_zero, head, ByteOrder.word_bytes,
          List.getElem_cons_zero]
      | succ i =>
          have offset : start + 4 * (i + 1) = start + 4 + 4 * i := by omega
          rw [offset, List.getElem_cons_succ]
          exact ih tail i (Nat.lt_of_succ_lt_succ inside)

end Buffer

end TunVideo
