import Mathlib.Tactic.Common

/-! Values sampled from a history that grows. Each sample is an entry of the history,
and no sample is an earlier entry than the sample before it. -/

namespace Foundation.SampledHistory

variable {Value : Type*} {history samples : List Value} {bound : Nat}

/-- The samples are entries of the history up to the bound, in the history's order. -/
def SampledUpTo (history samples : List Value) (bound : Nat) : Prop :=
  ∃ indices : List Nat, indices.Pairwise (· ≤ ·) ∧ (∀ index ∈ indices, index ≤ bound) ∧
    samples.map some = indices.map fun index => history[index]?

def Sampled (history samples : List Value) : Prop :=
  ∃ bound, SampledUpTo history samples bound

theorem sampledUpTo_nil (history : List Value) (bound : Nat) : SampledUpTo history [] bound :=
  ⟨[], List.Pairwise.nil, List.forall_mem_nil _, rfl⟩

theorem SampledUpTo.grow (sampled : SampledUpTo history samples bound) (more : List Value) :
    SampledUpTo (history ++ more) samples bound := by
  rcases sampled with ⟨indices, ordered, bounded, same⟩
  refine ⟨indices, ordered, bounded, same.trans (List.map_congr_left ?_)⟩
  intro index member
  have found : history[index]? ∈ samples.map some := same ▸ List.mem_map_of_mem member
  rcases List.mem_map.1 found with ⟨sample, -, atIndex⟩
  rcases List.getElem?_eq_some_iff.1 atIndex.symm with ⟨inside, -⟩
  exact (List.getElem?_append_left inside).symm

theorem SampledUpTo.sample (sampled : SampledUpTo history samples bound) {index : Nat}
    {value : Value} (later : bound ≤ index) (atIndex : history[index]? = some value) :
    SampledUpTo history (samples ++ [value]) index := by
  rcases sampled with ⟨indices, ordered, bounded, same⟩
  refine ⟨indices ++ [index], ?_, ?_, ?_⟩
  · refine List.pairwise_append.2 ⟨ordered, List.pairwise_singleton _ _, ?_⟩
    intro earlier member last isLast
    cases List.mem_singleton.1 isLast
    exact Nat.le_trans (bounded earlier member) later
  · intro earlier member
    rcases List.mem_append.1 member with before | last
    · exact Nat.le_trans (bounded earlier before) later
    · exact Nat.le_of_eq (List.mem_singleton.1 last)
  · rw [List.map_append, List.map_append, same, List.map_singleton, List.map_singleton, atIndex]

end Foundation.SampledHistory
