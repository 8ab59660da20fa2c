import BulkStream.Bytes

/-!
Cutting into blocks. A block goes when it is whole, so that what is cut first does not depend on
what follows.
-/
namespace BulkStream

theorem blocks_nil (size : Nat) : blocks size [] = [] := by
  rw [blocks]

theorem blocks_short {size : Nat} {bytes : Bytes} (some_bytes : bytes ≠ [])
    (h : bytes.length ≤ size) : blocks size bytes = [bytes] := by
  cases bytes with
  | nil => contradiction
  | cons b rest =>
      have fits : rest.length ≤ size - 1 := by
        rw [List.length_cons] at h
        omega
      rw [blocks, List.take_of_length_le fits, List.drop_of_length_le fits, blocks_nil]

theorem blocks_cons {size : Nat} (block rest : Bytes) (positive : 0 < size)
    (h : block.length = size) : blocks size (block ++ rest) = block :: blocks size rest := by
  cases block with
  | nil =>
      rw [List.length_nil] at h
      omega
  | cons b tail =>
      have whole : tail.length = size - 1 := by
        rw [List.length_cons] at h
        omega
      rw [List.cons_append, blocks, ← whole, List.take_left, List.drop_left]

/-- Induction over the blocks of some bytes. -/
theorem block_induction {size : Nat} (positive : 0 < size) {P : Bytes → Prop}
    (short : ∀ bytes, bytes.length < size → P bytes)
    (block : ∀ block rest, block.length = size → P rest → P (block ++ rest))
    (bytes : Bytes) : P bytes := by
  induction h : bytes.length using Nat.strongRecOn generalizing bytes with
  | _ n ih =>
      by_cases few : bytes.length < size
      · exact short bytes few
      · rw [← List.take_append_drop size bytes]
        apply block
        · rw [List.length_take]
          omega
        · apply ih (bytes.drop size).length _ (bytes.drop size) rfl
          rw [List.length_drop]
          omega

theorem infix_of_mem_blocks {size : Nat} {bytes : Bytes} :
    ∀ block ∈ blocks size bytes, block <:+: bytes := by
  induction bytes using blocks.induct size with
  | case1 =>
      intro block impossible
      rw [blocks_nil] at impossible
      exact absurd impossible List.not_mem_nil
  | case2 b rest ih =>
      intro block member
      rw [blocks] at member
      rcases List.mem_cons.mp member with rfl | later
      · exact (List.cons_prefix_cons.mpr ⟨rfl, List.take_prefix _ rest⟩).isInfix
      · exact (ih block later).trans
          ((List.drop_suffix _ rest).trans (List.suffix_cons b rest)).isInfix

end BulkStream
