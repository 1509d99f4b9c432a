import Mathlib

set_option autoImplicit false

namespace TunVideo

/-- The order in which a host lays out the bytes of a machine word. -/
inductive ByteOrder where
  | little
  | big
  deriving DecidableEq, Repr

namespace ByteOrder

/-- The byte of weight `256 ^ i`. -/
def digit (value : UInt32) (i : Nat) : UInt8 :=
  UInt8.ofNat (value.toNat / 256 ^ i)

def bytes : ByteOrder → UInt32 → List UInt8
  | .little, value => [digit value 0, digit value 1, digit value 2, digit value 3]
  | .big, value => [digit value 3, digit value 2, digit value 1, digit value 0]

def compose (b0 b1 b2 b3 : UInt8) : UInt32 :=
  UInt32.ofNat (b0.toNat + 256 * b1.toNat + 65536 * b2.toNat + 16777216 * b3.toNat)

/-- The word stored in four bytes. Only lists of length four are ever read. -/
def word : ByteOrder → List UInt8 → UInt32
  | .little, [b0, b1, b2, b3] => compose b0 b1 b2 b3
  | .big, [b3, b2, b1, b0] => compose b0 b1 b2 b3
  | _, _ => 0

@[simp] theorem bytes_length (order : ByteOrder) (value : UInt32) :
    (order.bytes value).length = 4 := by
  cases order <;> rfl

theorem compose_digits (value : UInt32) :
    compose (digit value 0) (digit value 1) (digit value 2) (digit value 3) = value := by
  apply UInt32.toNat_inj.mp
  have bound := value.toNat_lt
  simp only [compose, digit, UInt32.toNat_ofNat', UInt8.toNat_ofNat']
  omega

@[simp] theorem word_bytes (order : ByteOrder) (value : UInt32) :
    order.word (order.bytes value) = value := by
  cases order <;> exact compose_digits value

def encode (order : ByteOrder) (words : List UInt32) : List UInt8 :=
  words.flatMap order.bytes

@[simp] theorem encode_nil (order : ByteOrder) : order.encode [] = [] := rfl

@[simp] theorem encode_cons (order : ByteOrder) (value : UInt32) (rest : List UInt32) :
    order.encode (value :: rest) = order.bytes value ++ order.encode rest := rfl

@[simp] theorem encode_length (order : ByteOrder) (words : List UInt32) :
    (order.encode words).length = 4 * words.length := by
  induction words with
  | nil => rfl
  | cons value rest ih =>
      rw [encode_cons, List.length_append, bytes_length, ih, List.length_cons]
      omega

end ByteOrder

end TunVideo
