import BelleSip.Foundation.Blocks
import BelleSip.Sip.Digest
import Mathlib.Tactic.IntervalCases

/-
This file models `md5.c` and proves that the digest does not depend on the pieces in which a message is appended.
-/

namespace BelleSip.Md5

open Foundation

/-- This is `T_MASK`. -/
def tMask : UInt32 := 0xffffffff

/-- The four words of `abcd`. -/
structure Words where
  a : UInt32
  b : UInt32
  c : UInt32
  d : UInt32
deriving DecidableEq, Repr

/-- This is `ROTATE_LEFT`. -/
def rotateLeft (x n : UInt32) : UInt32 := x <<< n ||| x >>> (32 - n)

/-- These are `F`, `G`, `H` and `I`. -/
def f (x y z : UInt32) : UInt32 := x &&& y ||| ~~~x &&& z

def g (x y z : UInt32) : UInt32 := x &&& z ||| y &&& ~~~z

def h (x y z : UInt32) : UInt32 := x ^^^ y ^^^ z

def i (x y z : UInt32) : UInt32 := y ^^^ (x ||| ~~~z)

/-- This is `SET`. The registers are given in the order of its arguments, and returned in that of the next one. -/
def set (mix : UInt32 → UInt32 → UInt32 → UInt32) (x : Nat → UInt32) (words : Words) (k : Nat) (s ti : UInt32) :
    Words :=
  let t := words.a + mix words.b words.c words.d + x k + ti
  ⟨words.d, rotateLeft t s + words.b, words.b, words.c⟩

/-- The arguments `k`, `s` and `Ti` of the sixteen operations of a round. -/
abbrev Operations := List (Nat × UInt32 × UInt32)

def round1 : Operations :=
  [(0, 7, tMask ^^^ 0x28955b87), (1, 12, tMask ^^^ 0x173848a9), (2, 17, 0x242070db), (3, 22, tMask ^^^ 0x3e423111),
   (4, 7, tMask ^^^ 0x0a83f050), (5, 12, 0x4787c62a), (6, 17, tMask ^^^ 0x57cfb9ec), (7, 22, tMask ^^^ 0x02b96afe),
   (8, 7, 0x698098d8), (9, 12, tMask ^^^ 0x74bb0850), (10, 17, tMask ^^^ 0x0000a44e), (11, 22, tMask ^^^ 0x76a32841),
   (12, 7, 0x6b901122), (13, 12, tMask ^^^ 0x02678e6c), (14, 17, tMask ^^^ 0x5986bc71), (15, 22, 0x49b40821)]

def round2 : Operations :=
  [(1, 5, tMask ^^^ 0x09e1da9d), (6, 9, tMask ^^^ 0x3fbf4cbf), (11, 14, 0x265e5a51), (0, 20, tMask ^^^ 0x16493855),
   (5, 5, tMask ^^^ 0x29d0efa2), (10, 9, 0x02441453), (15, 14, tMask ^^^ 0x275e197e), (4, 20, tMask ^^^ 0x182c0437),
   (9, 5, 0x21e1cde6), (14, 9, tMask ^^^ 0x3cc8f829), (3, 14, tMask ^^^ 0x0b2af278), (8, 20, 0x455a14ed),
   (13, 5, tMask ^^^ 0x561c16fa), (2, 9, tMask ^^^ 0x03105c07), (7, 14, 0x676f02d9), (12, 20, tMask ^^^ 0x72d5b375)]

def round3 : Operations :=
  [(5, 4, tMask ^^^ 0x0005c6bd), (8, 11, tMask ^^^ 0x788e097e), (11, 16, 0x6d9d6122), (14, 23, tMask ^^^ 0x021ac7f3),
   (1, 4, tMask ^^^ 0x5b4115bb), (4, 11, 0x4bdecfa9), (7, 16, tMask ^^^ 0x0944b49f), (10, 23, tMask ^^^ 0x4140438f),
   (13, 4, 0x289b7ec6), (0, 11, tMask ^^^ 0x155ed805), (3, 16, tMask ^^^ 0x2b10cf7a), (6, 23, 0x04881d05),
   (9, 4, tMask ^^^ 0x262b2fc6), (12, 11, tMask ^^^ 0x1924661a), (15, 16, 0x1fa27cf8), (2, 23, tMask ^^^ 0x3b53a99a)]

def round4 : Operations :=
  [(0, 6, tMask ^^^ 0x0bd6ddbb), (7, 10, 0x432aff97), (14, 15, tMask ^^^ 0x546bdc58), (5, 21, tMask ^^^ 0x036c5fc6),
   (12, 6, 0x655b59c3), (3, 10, tMask ^^^ 0x70f3336d), (10, 15, tMask ^^^ 0x00100b82), (1, 21, tMask ^^^ 0x7a7ba22e),
   (8, 6, 0x6fa87e4f), (15, 10, tMask ^^^ 0x01d3191f), (6, 15, tMask ^^^ 0x5cfebceb), (13, 21, 0x4e0811a1),
   (4, 6, tMask ^^^ 0x08ac817d), (11, 10, tMask ^^^ 0x42c50dca), (2, 15, 0x2ad7d2bb), (9, 21, tMask ^^^ 0x14792c6e)]

/-- The words of a block, the low byte first. -/
def word (data : List UInt8) (index : Nat) : UInt32 :=
  let xp (place : Nat) := (data.getD (4 * index + place) 0).toUInt32
  xp 0 + xp 1 <<< 8 + xp 2 <<< 16 + xp 3 <<< 24

/-- One of the four rounds. -/
def rounds (mix : UInt32 → UInt32 → UInt32 → UInt32) (data : List UInt8) (operations : Operations) (words : Words) :
    Words :=
  operations.foldl (fun words (k, s, ti) => set mix (word data) words k s ti) words

/-- This is `md5_process`. -/
def process (abcd : Words) (data : List UInt8) : Words :=
  let words := rounds i data round4 (rounds h data round3 (rounds g data round2 (rounds f data round1 abcd)))
  ⟨abcd.a + words.a, abcd.b + words.b, abcd.c + words.c, abcd.d + words.d⟩

/-- This is `md5_state_t`. -/
structure State where
  count0 : UInt32
  count1 : UInt32
  abcd : Words
  buf : List UInt8
  full : buf.length = 64

namespace State

/-- The place in the buffer at which the next byte is kept. -/
def offset (state : State) : Fin 64 :=
  ⟨(state.count0 >>> 3 &&& 63).toNat, by
    rw [UInt32.toNat_and]
    exact Nat.lt_of_le_of_lt Nat.and_le_right (by decide)⟩

def counted (state : State) (nbytes : Nat) : State :=
  let nbits := UInt32.ofNat (nbytes <<< 3)
  let count1 := state.count1 + UInt32.ofNat (nbytes >>> 29)
  let count0 := state.count0 + nbits
  { state with count0 := count0, count1 := if count0 < nbits then count1 + 1 else count1 }

/-- Bytes are copied into the buffer. -/
def memcpy (state : State) (offset : Nat) (bytes : List UInt8) (room : offset + bytes.length ≤ 64) : State :=
  { state with
    buf := state.buf.take offset ++ bytes ++ state.buf.drop (offset + bytes.length)
    full := by
      have full := state.full
      simp only [List.length_append, List.length_take, List.length_drop]
      omega }

/-- Full blocks are processed, and a final partial block is kept. -/
def blocks (state : State) (p : List UInt8) : State :=
  { state with abcd := Blocks.absorbBlocks process 64 (p.length / 64) state.abcd p }.memcpy 0 (Blocks.leftover 64 p) (by
    rw [Blocks.length_leftover]
    omega)

/-- How many bytes go into an initial partial block. -/
def copy (offset : Fin 64) (nbytes : Nat) : Nat := if offset + nbytes > 64 then 64 - offset else nbytes

theorem copy_le (offset : Fin 64) (nbytes : Nat) : offset + copy offset nbytes ≤ 64 ∧ copy offset nbytes ≤ nbytes := by
  have within := offset.isLt
  unfold copy
  split <;> omega

theorem copy_cases (offset : Fin 64) (nbytes : Nat) :
    copy offset nbytes = nbytes ∨ offset + copy offset nbytes = 64 := by
  have within := offset.isLt
  unfold copy
  split <;> omega

/-- An initial partial block is copied. -/
def fill (state : State) (offset : Fin 64) (p : List UInt8) : State :=
  state.memcpy offset (p.take (copy offset p.length)) (by
    have room := copy_le offset p.length
    rw [List.length_take]
    omega)

/-- The blocks of `belle_sip_md5_append`, an initial partial block first. -/
def feed (state : State) (offset : Fin 64) (p : List UInt8) : State :=
  if offset.val = 0 then state.blocks p
  else if offset + copy offset p.length < 64 then state.fill offset p
  else
    let filled := state.fill offset p
    { filled with abcd := process filled.abcd filled.buf }.blocks (p.drop (copy offset p.length))

end State

/-- This is `belle_sip_md5_append`. Nothing is returned where it shifts an `int` out of its range, or reads beyond the
data. -/
def append (state : State) (data : List UInt8) (nbytes : Int) : Option State :=
  if nbytes < 0 ∨ 2 ^ 28 ≤ nbytes ∨ data.length < nbytes then none
  else if nbytes = 0 then some state
  else some ((state.counted nbytes.toNat).feed state.offset (data.take nbytes.toNat))

/-- The words of the state before any message. -/
def start : Words := ⟨0x67452301, tMask ^^^ 0x10325476, tMask ^^^ 0x67452301, 0x10325476⟩

/-- This is `belle_sip_md5_init`, which leaves the buffer as it is. -/
def init (state : State) : State := { state with count0 := 0, count1 := 0, abcd := start }

/-- A byte of a word, the low byte first. -/
def byteOf (word : UInt32) (index : Nat) : UInt8 := (word >>> UInt32.ofNat (index <<< 3)).toUInt8

def pad : List UInt8 := 0x80 :: List.replicate 63 0

def bytesOf (words : List UInt32) : List UInt8 := words.flatMap fun word => (List.range 4).map (byteOf word)

def digestOf (abcd : Words) : List UInt8 := bytesOf [abcd.a, abcd.b, abcd.c, abcd.d]

/-- This is `belle_sip_md5_finish`. -/
def finish (state : State) : Option (List UInt8) := do
  let data := bytesOf [state.count0, state.count1]
  let padded ← append state pad (((55 : UInt32) - state.count0 >>> 3 &&& 63) + 1).toNat
  let ended ← append padded data 8
  return digestOf ended.abcd

/-- The bytes that follow a message of that many bytes, such that blocks are full: a one bit, zeros, and the number of
its bits in eight bytes, the low one first. -/
def trailer (length : Nat) : List UInt8 :=
  0x80 :: List.replicate ((119 - length % 64) % 64) 0 ++
    (List.range 8).map fun index => UInt8.ofNat (8 * length / 2 ^ (8 * index))

/-- The digest of a whole message. -/
def md5 (message : List UInt8) : List UInt8 :=
  digestOf (Blocks.absorb process 64 start (message ++ trailer message.length))

/-- The whole blocks of the message are processed, and its other bytes are in the buffer. -/
structure State.Buffered (state : State) (message : List UInt8) : Prop where
  abcd : state.abcd = Blocks.absorb process 64 start message
  buf : state.buf.take (message.length % 64) = Blocks.leftover 64 message

/-- The state has taken the message, and counted its bits. -/
structure State.Holds (state : State) (message : List UInt8) : Prop extends state.Buffered message where
  count0 : state.count0 = UInt32.ofNat (8 * message.length)
  count1 : state.count1 = UInt32.ofNat (8 * message.length / 2 ^ 32)

namespace State

variable {state : State} {message : List UInt8}

theorem init_holds (state : State) : (init state).Holds [] where
  abcd := rfl
  buf := rfl
  count0 := rfl
  count1 := rfl

/-- The bits that are counted give the place in the buffer. -/
theorem Holds.offset (holds : state.Holds message) : state.offset.val = message.length % 64 := by
  have mask (number : Nat) : number &&& 63 = number % 64 := Nat.and_two_pow_sub_one_eq_mod number 6
  have counted : state.offset.val = 8 * message.length % 2 ^ 32 / 2 ^ 3 % 64 := by
    have place : state.offset.val = (state.count0 >>> 3 &&& 63).toNat := rfl
    rw [place, holds.count0]
    simp only [UInt32.toNat_and, UInt32.toNat_shiftRight, UInt32.toNat_ofNat', UInt32.toNat_ofNat,
      Nat.shiftRight_eq_div_pow]
    exact mask _
  rw [counted]
  omega

/-- The two words count the bits of what is appended, with a carry. -/
theorem counted_bits {nbytes : Nat} (few : nbytes < 2 ^ 28) (length : Nat)
    (count0 : state.count0 = UInt32.ofNat (8 * length)) (count1 : state.count1 = UInt32.ofNat (8 * length / 2 ^ 32)) :
    (state.counted nbytes).count0 = UInt32.ofNat (8 * (length + nbytes)) ∧
    (state.counted nbytes).count1 = UInt32.ofNat (8 * (length + nbytes) / 2 ^ 32) := by
  have bits : nbytes <<< 3 = 8 * nbytes := by rw [Nat.shiftLeft_eq, Nat.mul_comm]
  have none : nbytes >>> 29 = 0 := by
    rw [Nat.shiftRight_eq_div_pow]
    omega
  have sum : state.count0 + UInt32.ofNat (8 * nbytes) = UInt32.ofNat (8 * (length + nbytes)) := by
    rw [count0, ← UInt32.ofNat_add, Nat.mul_add]
  have carried : UInt32.ofNat (8 * (length + nbytes)) < UInt32.ofNat (8 * nbytes) ↔
      8 * (length + nbytes) / 2 ^ 32 = 8 * length / 2 ^ 32 + 1 := by
    rw [UInt32.lt_iff_toNat_lt, UInt32.toNat_ofNat', UInt32.toNat_ofNat']
    omega
  have kept : ¬ UInt32.ofNat (8 * (length + nbytes)) < UInt32.ofNat (8 * nbytes) →
      8 * (length + nbytes) / 2 ^ 32 = 8 * length / 2 ^ 32 := by
    rw [carried]
    omega
  rw [State.counted, bits, none]
  refine ⟨sum, ?_⟩
  simp only [sum, show UInt32.ofNat 0 = 0 from rfl, UInt32.add_zero, count1]
  split
  next less =>
    rw [carried.mp less, UInt32.ofNat_add]
    rfl
  next more => rw [kept more]

theorem memcpy_buf (state : State) (offset : Nat) (bytes : List UInt8) (room : offset + bytes.length ≤ 64) {last : Nat}
    (all : last = offset + bytes.length) :
    (state.memcpy offset bytes room).buf.take last = state.buf.take offset ++ bytes := by
  have full := state.full
  have length : last = (state.buf.take offset ++ bytes).length := by
    rw [List.length_append, List.length_take]
    omega
  have buf : (state.memcpy offset bytes room).buf =
      state.buf.take offset ++ bytes ++ state.buf.drop (offset + bytes.length) := rfl
  rw [buf, length, List.take_left]

theorem blocks_buf (state : State) (p : List UInt8) :
    (state.blocks p).buf.take (p.length % 64) = Blocks.leftover 64 p :=
  memcpy_buf _ 0 _ _ (by rw [Blocks.length_leftover, Nat.zero_add])

theorem fill_buf (state : State) (offset : Fin 64) (p : List UInt8) :
    (state.fill offset p).buf.take (offset + copy offset p.length) =
      state.buf.take offset ++ p.take (copy offset p.length) :=
  memcpy_buf _ _ _ _ (by rw [List.length_take, Nat.min_eq_left (copy_le offset p.length).2])

/-- The next bytes are taken behind those of the message. -/
theorem Buffered.feed (buffered : state.Buffered message) {offset : Fin 64} (place : offset.val = message.length % 64)
    (p : List UInt8) : (state.feed offset p).Buffered (message ++ p) := by
  obtain ⟨absorbed, left⟩ := Blocks.absorb_append process (show 0 < 64 by decide) start message p
  rw [← buffered.abcd] at absorbed
  have short : (Blocks.leftover 64 message).length = offset.val := by rw [Blocks.length_leftover, place]
  have kept : state.buf.take offset = Blocks.leftover 64 message := by rw [place, buffered.buf]
  obtain ⟨room, some⟩ := copy_le offset p.length
  have parts : Blocks.leftover 64 message ++ p =
      (Blocks.leftover 64 message ++ p.take (copy offset p.length)) ++ p.drop (copy offset p.length) := by
    rw [List.append_assoc, List.take_append_drop]
  have front : (Blocks.leftover 64 message ++ p.take (copy offset p.length)).length =
      offset + copy offset p.length := by
    rw [List.length_append, List.length_take, Nat.min_eq_left some, short]
  have sum : (message ++ p).length % 64 = (offset + p.length) % 64 := by
    rw [List.length_append]
    omega
  unfold State.feed
  split
  next aligned =>
    have none : Blocks.leftover 64 message = [] := List.eq_nil_of_length_eq_zero (short.trans aligned)
    rw [none, List.nil_append] at absorbed left
    refine ⟨absorbed.symm, ?_⟩
    rw [sum, aligned, Nat.zero_add, left]
    exact blocks_buf _ p
  next =>
    split
    next few =>
      -- everything fits into the buffer
      have all : copy offset p.length = p.length := (copy_cases offset p.length).resolve_right (Nat.ne_of_lt few)
      have rest : p.drop (copy offset p.length) = [] := by rw [all, List.drop_length]
      rw [rest, List.append_nil] at parts
      rw [parts] at absorbed left
      have fits : (Blocks.leftover 64 message ++ p.take (copy offset p.length)).length < 64 := front.trans_lt few
      rw [Blocks.absorb_of_short process 64 state.abcd fits] at absorbed
      rw [Blocks.leftover_of_short 64 fits] at left
      have behind : (message ++ p).length % 64 = offset + copy offset p.length := by omega
      refine ⟨absorbed.symm, ?_⟩
      rw [behind, fill_buf, kept, left]
    next enough =>
      have filled : offset + copy offset p.length = 64 := by omega
      have block : (state.fill offset p).buf = Blocks.leftover 64 message ++ p.take (copy offset p.length) := by
        have whole := fill_buf state offset p
        rw [filled, List.take_of_length_le (by rw [(state.fill offset p).full]), kept] at whole
        exact whole
      rw [parts] at absorbed left
      rw [Blocks.absorb_block _ (by decide) _ (front.trans filled)] at absorbed
      rw [Blocks.leftover_block (by decide) (front.trans filled)] at left
      refine ⟨?_, ?_⟩
      · rw [absorbed, ← block]
        rfl
      · have behind : (message ++ p).length % 64 = (p.drop (copy offset p.length)).length % 64 := by
          rw [sum, List.length_drop]
          omega
        rw [behind, left]
        exact blocks_buf _ _

/-- A message grows by what is appended. -/
theorem Holds.append (holds : state.Holds message) (data : List UInt8) {nbytes : Nat} (few : nbytes < 2 ^ 28)
    (inside : nbytes ≤ data.length) :
    ∃ after, append state data nbytes = some after ∧ after.Holds (message ++ data.take nbytes) := by
  have defined : ¬ ((nbytes : Int) < 0 ∨ 2 ^ 28 ≤ (nbytes : Int) ∨ data.length < (nbytes : Int)) := by omega
  rw [Md5.append, if_neg defined]
  split
  next none =>
    obtain rfl : nbytes = 0 := by omega
    exact ⟨state, rfl, by rw [List.take_zero, List.append_nil]; exact holds⟩
  next =>
    rw [Int.toNat_natCast]
    refine ⟨_, rfl, ?_⟩
    have length : (message ++ data.take nbytes).length = message.length + nbytes := by
      rw [List.length_append, List.length_take, Nat.min_eq_left inside]
    obtain ⟨low, high⟩ := counted_bits few message.length holds.count0 holds.count1
    have counted : (state.counted nbytes).Buffered message := ⟨holds.abcd, holds.buf⟩
    have fed := counted.feed holds.offset (data.take nbytes)
    have frame : ((state.counted nbytes).feed state.offset (data.take nbytes)).count0 = (state.counted nbytes).count0 ∧
        ((state.counted nbytes).feed state.offset (data.take nbytes)).count1 = (state.counted nbytes).count1 := by
      unfold State.feed
      split
      · exact ⟨rfl, rfl⟩
      · split
        all_goals exact ⟨rfl, rfl⟩
    exact ⟨fed, by rw [frame.1, low, length], by rw [frame.2, high, length]⟩

/-- The padding ends eight bytes before the end of a block. -/
theorem Holds.padded (holds : state.Holds message) :
    (((55 : UInt32) - state.count0 >>> 3 &&& 63) + 1).toNat = (119 - message.length % 64) % 64 + 1 := by
  have mask (number : Nat) : number &&& 63 = number % 64 := Nat.and_two_pow_sub_one_eq_mod number 6
  have shift : (state.count0 >>> 3).toNat = 8 * message.length % 2 ^ 32 / 2 ^ 3 := by
    rw [holds.count0, UInt32.toNat_shiftRight, UInt32.toNat_ofNat', Nat.shiftRight_eq_div_pow]
    rfl
  have few : ((55 : UInt32) - state.count0 >>> 3 &&& 63).toNat = (119 - message.length % 64) % 64 := by
    rw [UInt32.toNat_and, UInt32.toNat_sub, shift]
    have literal : (55 : UInt32).toNat = 55 := rfl
    refine (mask _).trans ?_
    rw [literal]
    omega
  rw [UInt32.toNat_add, few, UInt32.toNat_one]
  omega

end State

theorem pad_take {zeros : Nat} (few : zeros < 64) : pad.take (zeros + 1) = 0x80 :: List.replicate zeros 0 := by
  rw [pad, List.take_succ_cons, List.take_replicate, Nat.min_eq_left (Nat.le_of_lt_succ few)]

theorem byteOf_ofNat (number : Nat) {index : Nat} (within : index < 4) :
    byteOf (UInt32.ofNat number) index = UInt8.ofNat (number / 2 ^ (8 * index)) := by
  apply UInt8.toNat_inj.mp
  rw [byteOf, UInt32.toNat_toUInt8, UInt32.toNat_shiftRight, UInt32.toNat_ofNat', UInt32.toNat_ofNat',
    UInt8.toNat_ofNat', Nat.shiftRight_eq_div_pow, Nat.shiftLeft_eq]
  have places : index * 2 ^ 3 % 2 ^ 32 % 32 = 8 * index := by omega
  rw [places]
  interval_cases index <;> omega

/-- The two words of the count are the last eight bytes. -/
theorem bytesOf_count (bits : Nat) :
    bytesOf [UInt32.ofNat bits, UInt32.ofNat (bits / 2 ^ 32)] =
      (List.range 8).map fun index => UInt8.ofNat (bits / 2 ^ (8 * index)) := by
  have low : (List.range 4).map (byteOf (UInt32.ofNat bits)) =
      (List.range 4).map fun index => UInt8.ofNat (bits / 2 ^ (8 * index)) :=
    List.map_congr_left fun index among => byteOf_ofNat bits (List.mem_range.mp among)
  have high : (List.range 4).map (byteOf (UInt32.ofNat (bits / 2 ^ 32))) =
      (List.range 4).map fun index => UInt8.ofNat (bits / 2 ^ (8 * (4 + index))) := by
    apply List.map_congr_left
    intro index among
    rw [byteOf_ofNat _ (List.mem_range.mp among), Nat.div_div_eq_div_mul, ← Nat.pow_add, Nat.mul_add]
  have all : List.range 8 = List.range 4 ++ (List.range 4).map (4 + ·) := rfl
  rw [all, List.map_append, List.map_map]
  simp only [bytesOf, List.flatMap_cons, List.flatMap_nil, List.append_nil, low, high]
  rfl

theorem State.Holds.finish {state : State} {message : List UInt8} (holds : state.Holds message) :
    finish state = some (md5 message) := by
  have few : (119 - message.length % 64) % 64 < 64 := Nat.mod_lt _ (by decide)
  have room : (119 - message.length % 64) % 64 + 1 ≤ pad.length := few
  obtain ⟨padded, padding, held⟩ := holds.append pad (by omega) room
  have last : (bytesOf [state.count0, state.count1]).length = 8 := rfl
  obtain ⟨ended, ending, whole⟩ := held.append (bytesOf [state.count0, state.count1]) (by decide) last.ge
  have abcd := whole.abcd
  rw [pad_take few, List.take_of_length_le last.le, holds.count0, holds.count1, bytesOf_count,
    List.append_assoc] at abcd
  have eight : Md5.append padded (bytesOf [state.count0, state.count1]) 8 = some ended := ending
  rw [Md5.finish, holds.padded, padding]
  simp only [Option.bind_eq_bind, Option.bind_some, eight, abcd]
  rfl

/-- The strings of a message are appended one after the other, each with its length as an `int`. -/
def appendAll (state : State) (pieces : List (List UInt8)) : Option State :=
  pieces.foldlM (fun state piece => append state piece (Int.bmod piece.length (2 ^ 32))) state

theorem State.Holds.appendAll {state : State} {message : List UInt8} (holds : state.Holds message)
    (pieces : List (List UInt8)) (short : ∀ piece ∈ pieces, piece.length < 2 ^ 28) :
    ∃ after, appendAll state pieces = some after ∧ after.Holds (message ++ pieces.flatten) := by
  induction pieces generalizing state message with
  | nil => exact ⟨state, rfl, by rw [List.flatten_nil, List.append_nil]; exact holds⟩
  | cons piece pieces ih =>
      obtain ⟨first, others⟩ := List.forall_mem_cons.mp short
      have signed : Int.bmod piece.length (2 ^ 32) = piece.length := by
        rw [Int.bmod_def]
        omega
      obtain ⟨next, appended, grown⟩ := holds.append piece first (Nat.le_refl _)
      obtain ⟨after, rest, all⟩ := ih grown others
      refine ⟨after, ?_, ?_⟩
      · have taken : Md5.appendAll state (piece :: pieces) =
            (Md5.append state piece (Int.bmod piece.length (2 ^ 32))).bind (Md5.appendAll · pieces) :=
          List.foldlM_cons ..
        rw [taken, signed, appended]
        exact rest
      · rw [List.take_length, List.append_assoc] at all
        rw [List.flatten_cons]
        exact all

/-- Whatever the pieces in which a message is appended, and whatever was in the buffer, the digest is that of the whole
message: the blocks of the message, padded and with its length behind it, in their order. -/
theorem finish_appended (state : State) (pieces : List (List UInt8)) (short : ∀ piece ∈ pieces, piece.length < 2 ^ 28) :
    (appendAll (init state) pieces).bind finish = some (md5 pieces.flatten) := by
  obtain ⟨after, appended, holds⟩ := (State.init_holds state).appendAll pieces short
  rw [appended, Option.bind_some]
  exact holds.finish

/-- A state on which nothing has been done. -/
def sampleState : State := ⟨3, 5, ⟨7, 11, 13, 17⟩, List.replicate 64 19, rfl⟩

/-- Two pieces of digits, of which the second one ends a block. -/
def samplePieces : List (List UInt8) :=
  [List.replicate 3 [0x31, 0x32, 0x33, 0x34, 0x35, 0x36, 0x37, 0x38, 0x39, 0x30],
    List.replicate 5 [0x31, 0x32, 0x33, 0x34, 0x35, 0x36, 0x37, 0x38, 0x39, 0x30]].map List.flatten

theorem finish_appended_digits :
    md5 samplePieces.flatten = [0x57, 0xed, 0xf4, 0xa2, 0x2b, 0xe3, 0xc9, 0x55, 0xac, 0x49, 0xda, 0x2e, 0x21, 0x07,
      0xb6, 0x7a] ∧
    (appendAll (init sampleState) samplePieces).bind finish = some (md5 samplePieces.flatten) :=
  ⟨by decide +kernel, finish_appended sampleState samplePieces (by decide)⟩

end BelleSip.Md5
