import Mathlib.Tactic.Common
import Mathlib.Data.List.Perm.Basic

/-! What a datagram network can do to the datagrams in flight, kept as a list
without meaning in its order: lose one, duplicate one, or hand one over, whichever
it picks. Delay is that nothing happens, and reordering is handing over another
one first. -/

namespace Foundation.LossyChannel

variable {Packet : Type}

def lose (flight : List Packet) (index : Nat) : Option (List Packet) :=
  if index < flight.length then some (flight.eraseIdx index) else none

def duplicate (flight : List Packet) (index : Nat) : Option (List Packet) :=
  flight[index]?.map fun packet => flight ++ [packet]

def handOver (flight : List Packet) (index : Nat) : Option (Packet × List Packet) :=
  flight[index]?.map fun packet => (packet, flight.eraseIdx index)

theorem lose_eq_nil_iff {flight rest : List Packet} {index : Nat}
    (lost : lose flight index = some rest) : rest = [] ↔ flight.length = 1 := by
  unfold lose at lost
  split at lost
  · rename_i inside
    cases lost
    rw [← List.length_eq_zero_iff, List.length_eraseIdx_of_lt inside]
    omega
  · cases lost

theorem lose_leaves_iff {Other : Type} {flight rest : List Packet} {others : List Other}
    {index : Nat} (lost : lose flight index = some rest) :
    rest ≠ [] ∨ others ≠ [] ↔ (others = [] → flight.length ≠ 1) := by
  have leaves : rest ≠ [] ↔ flight.length ≠ 1 := not_congr (lose_eq_nil_iff lost)
  rw [leaves]
  constructor
  · intro left none
    rcases left with notSingle | some
    · exact notSingle
    · exact absurd none some
  · intro decides
    by_cases none : others = []
    · exact .inl (decides none)
    · exact .inr none

theorem lose_ne_nil {flight rest : List Packet} {index : Nat}
    (lost : lose flight index = some rest) : flight ≠ [] := by
  rintro rfl
  cases lost

theorem duplicate_ne_nil {flight more : List Packet} {index : Nat}
    (duplicated : duplicate flight index = some more) : flight ≠ [] ∧ more ≠ [] := by
  obtain ⟨packet, here, rfl⟩ := Option.map_eq_some_iff.1 duplicated
  constructor
  · rintro rfl
    cases here
  · exact List.append_ne_nil_of_right_ne_nil flight (List.cons_ne_nil packet [])

theorem handOver_ne_nil {flight rest : List Packet} {index : Nat} {packet : Packet}
    (taken : handOver flight index = some (packet, rest)) : flight ≠ [] := by
  rintro rfl
  cases taken

theorem lose_sublist {flight rest : List Packet} {index : Nat}
    (lost : lose flight index = some rest) : rest.Sublist flight := by
  unfold lose at lost
  split at lost
  · cases lost
    exact List.eraseIdx_sublist flight index
  · cases lost

theorem duplicate_subset {flight more : List Packet} {index : Nat}
    (duplicated : duplicate flight index = some more) : more ⊆ flight := by
  obtain ⟨packet, here, rfl⟩ := Option.map_eq_some_iff.1 duplicated
  refine List.append_subset.2 ⟨List.Subset.refl _, ?_⟩
  exact List.cons_subset.2 ⟨List.mem_of_getElem? here, List.nil_subset _⟩

theorem handOver_getElem {flight rest : List Packet} {index : Nat} {packet : Packet}
    (taken : handOver flight index = some (packet, rest)) : flight[index]? = some packet := by
  obtain ⟨here, isHere, equal⟩ := Option.map_eq_some_iff.1 taken
  cases equal
  exact isHere

theorem handOver_sublist {flight rest : List Packet} {index : Nat} {packet : Packet}
    (taken : handOver flight index = some (packet, rest)) : rest.Sublist flight := by
  obtain ⟨here, -, equal⟩ := Option.map_eq_some_iff.1 taken
  cases equal
  exact List.eraseIdx_sublist flight index

theorem handOver_perm {flight rest : List Packet} {index : Nat} {packet : Packet}
    (taken : handOver flight index = some (packet, rest)) : flight.Perm (packet :: rest) := by
  obtain ⟨here, isHere, equal⟩ := Option.map_eq_some_iff.1 taken
  cases equal
  obtain ⟨inside, rfl⟩ := List.getElem?_eq_some_iff.1 isHere
  exact (List.getElem_cons_eraseIdx_perm inside).symm

theorem handOver_idxOf [BEq Packet] [LawfulBEq Packet] {flight : List Packet} {packet : Packet}
    (inFlight : packet ∈ flight) :
    handOver flight (flight.idxOf packet) = some (packet, flight.erase packet) := by
  unfold handOver
  rw [List.getElem?_idxOf inFlight, List.erase_eq_eraseIdx_of_idxOf rfl]
  rfl

theorem lose_idxOf [BEq Packet] [LawfulBEq Packet] {flight : List Packet} {packet : Packet}
    (inFlight : packet ∈ flight) :
    lose flight (flight.idxOf packet) = some (flight.erase packet) := by
  unfold lose
  rw [if_pos (List.idxOf_lt_length_iff.2 inFlight), List.erase_eq_eraseIdx_of_idxOf rfl]

theorem duplicate_idxOf [BEq Packet] [LawfulBEq Packet] {flight : List Packet} {packet : Packet}
    (inFlight : packet ∈ flight) :
    duplicate flight (flight.idxOf packet) = some (flight ++ [packet]) := by
  unfold duplicate
  rw [List.getElem?_idxOf inFlight]
  rfl

theorem handOver_last (earlier : List Packet) (packet : Packet) :
    handOver (earlier ++ [packet]) earlier.length = some (packet, earlier) := by
  unfold handOver
  rw [List.getElem?_append_right (Nat.le_refl _),
    List.eraseIdx_append_of_length_le (Nat.le_refl _), Nat.sub_self]
  simp

theorem handOver_head (packet : Packet) (rest : List Packet) :
    handOver (packet :: rest) 0 = some (packet, rest) := rfl

end Foundation.LossyChannel
