import Mathlib.Data.List.DropRight
import Shroud.Crypt.Hmac

/-!
# Which keys of the keyed hash are told apart

A short key is filled with zeros to a block of 64 bytes, so two short keys have the same block just
when they are the same without the zeros at their end (`keyBlock_eq_iff`).  From there on nothing is
lost before the last application of the hash: different blocks make different last messages
(`lastMessage_eq_iff`).  Hence two keys have the same code for a message only if they have the same
block, or if their last messages are a collision of the hash (`code_eq_iff`).

That there is no such collision is not proved, and for all keys at once it would hardly be true:
there are far more of them than codes.
-/

set_option autoImplicit false

namespace Shroud

/-! ## Lists that differ in what they are filled with -/

section

variable {α : Type} [BEq α] [LawfulBEq α] {c : α}

theorem rdropWhile_append_replicate (l : List α) (n : Nat) :
    (l ++ List.replicate n c).rdropWhile (· == c) = l.rdropWhile (· == c) := by
  induction n with
  | zero => rw [List.replicate_zero, List.append_nil]
  | succ n ih =>
    rw [List.replicate_succ', ← List.append_assoc, List.rdropWhile_concat_pos (· == c) _ c BEq.rfl,
      ih]

/-- A list is what is left without some element at its end, and a number of these. -/
theorem exists_append_replicate (c : α) (l : List α) :
    ∃ n, l = l.rdropWhile (· == c) ++ List.replicate n c := by
  have htail : l.rtakeWhile (· == c) = List.replicate (l.rtakeWhile (· == c)).length c :=
    List.eq_replicate_iff.mpr ⟨rfl, fun b hb ↦
      eq_of_beq (List.mem_rtakeWhile_imp (p := (· == c)) hb)⟩
  exact ⟨_, by rw [← htail, List.rdropWhile_append_rtakeWhile]⟩

/-- Lists are the same without some element at their ends just when they can be filled up with it
to the same list. -/
theorem rdropWhile_eq_iff {l r : List α} :
    l.rdropWhile (· == c) = r.rdropWhile (· == c) ↔
      ∃ m n, l ++ List.replicate m c = r ++ List.replicate n c := by
  constructor
  · intro h
    obtain ⟨m, hl⟩ := exists_append_replicate c l
    obtain ⟨n, hr⟩ := exists_append_replicate c r
    refine ⟨n, m, ?_⟩
    rw [hl, hr, h, List.append_assoc, List.append_assoc, List.replicate_append_replicate,
      List.replicate_append_replicate, Nat.add_comm]
  · rintro ⟨m, n, h⟩
    rw [← rdropWhile_append_replicate l m, h, rdropWhile_append_replicate]

end

namespace Hmac

/-! ## Blocks -/

theorem keyBlock_of_le {key : Bytes} (h : key.length ≤ 64) :
    keyBlock key = key ++ List.replicate (64 - key.length) 0 := by
  rw [keyBlock, if_pos h]

theorem length_keyBlock (key : Bytes) : (keyBlock key).length = 64 := by
  have hshort : (if key.length ≤ 64 then key else Sha256.hash key).length ≤ 64 := by
    split
    · assumption
    · rw [Sha256.length_hash]
      decide
  rw [keyBlock, List.length_append, List.length_replicate]
  omega

/-- What is filled up to a block may be filled with zeros before. -/
theorem keyBlock_eq_take {key : Bytes} (h : key.length ≤ 64) (n : Nat) :
    keyBlock key = (key ++ List.replicate n 0 ++ List.replicate 64 0).take 64 := by
  rw [keyBlock_of_le h, List.append_assoc, List.replicate_append_replicate, List.take_append,
    List.take_of_length_le h, List.take_replicate, Nat.min_eq_left (by omega)]

/-- **Short keys have the same block just when they differ in zeros at the end alone.** -/
theorem keyBlock_eq_iff {a b : Bytes} (ha : a.length ≤ 64) (hb : b.length ≤ 64) :
    keyBlock a = keyBlock b ↔ a.rdropWhile (· == 0) = b.rdropWhile (· == 0) := by
  rw [rdropWhile_eq_iff]
  constructor
  · intro h
    rw [keyBlock_of_le ha, keyBlock_of_le hb] at h
    exact ⟨_, _, h⟩
  · rintro ⟨m, n, h⟩
    rw [keyBlock_eq_take ha m, keyBlock_eq_take hb n, h]

/-! ## Codes -/

/-- The message to which the hash is applied last. -/
def lastMessage (key message : Bytes) : Bytes :=
  (keyBlock key).map (· ^^^ 0x5c) ++
    Sha256.hash ((keyBlock key).map (· ^^^ 0x36) ++ message)

theorem code_eq_hash (key message : Bytes) :
    code key message = Sha256.hash (lastMessage key message) := rfl

/-- The last message has all that the block has. -/
theorem lastMessage_eq_iff {a b message : Bytes} :
    lastMessage a message = lastMessage b message ↔ keyBlock a = keyBlock b := by
  constructor
  · intro h
    have hlength : ((keyBlock a).map (· ^^^ 0x5c)).length =
        ((keyBlock b).map (· ^^^ 0x5c)).length := by
      rw [List.length_map, List.length_map, length_keyBlock, length_keyBlock]
    have hmasked := (List.append_inj h hlength).1
    exact (List.map_inj_right fun x y ↦ (UInt8.xor_left_inj 0x5c).mp).mp hmasked
  · intro h
    rw [lastMessage, lastMessage, h]

/-- Two different messages with the same hash. -/
def Collides (x y : Bytes) : Prop := x ≠ y ∧ Sha256.hash x = Sha256.hash y

/-- **Keys have the same code only if their blocks are the same**, a collision of the hash apart. -/
theorem code_eq_iff {a b message : Bytes} :
    code a message = code b message ↔
      keyBlock a = keyBlock b ∨ Collides (lastMessage a message) (lastMessage b message) := by
  rw [code_eq_hash, code_eq_hash, ← lastMessage_eq_iff]
  constructor
  · intro h
    by_cases heq : lastMessage a message = lastMessage b message
    · exact .inl heq
    · exact .inr ⟨heq, h⟩
  · rintro (h | h)
    · rw [h]
    · exact h.2

end Hmac

end Shroud
