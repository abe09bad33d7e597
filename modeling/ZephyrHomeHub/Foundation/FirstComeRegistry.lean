import Mathlib.Data.List.Induction
import Mathlib.Data.List.Nodup
import Mathlib.Data.List.Perm.Subperm
import Mathlib.Tactic.Common

/-! A registry that admits the first `limit` distinct keys it is given and keeps
every reading of an admitted key in order. Readings of other keys are ignored.
The entries after a whole log are a closed form of the log: the first distinct
keys, each with its own readings. -/

namespace Foundation.FirstComeRegistry

variable {Key Reading : Type*} [DecidableEq Key] {limit : Nat}

def firstKeys (limit : Nat) (keys : List Key) : List Key :=
  keys.eraseDups.take limit

def readingsOf (key : Key) (log : List (Key × Reading)) : List Reading :=
  (log.filter fun entry => entry.1 = key).map Prod.snd

structure Registry (Key Reading : Type*) (limit : Nat) where
  entries : List (Key × List Reading)
  keysNodup : (entries.map Prod.fst).Nodup
  bounded : entries.length ≤ limit

def Registry.empty : Registry Key Reading limit :=
  { entries := []
    keysNodup := List.nodup_nil
    bounded := Nat.zero_le limit }

def appendReading (key : Key) (reading : Reading) (entry : Key × List Reading) :
    Key × List Reading :=
  if entry.1 = key then (entry.1, entry.2 ++ [reading]) else entry

private theorem map_fst_appendReading (key : Key) (reading : Reading)
    (entries : List (Key × List Reading)) :
    (entries.map (appendReading key reading)).map Prod.fst = entries.map Prod.fst := by
  rw [List.map_map]
  apply List.map_congr_left
  intro entry _
  by_cases same : entry.1 = key <;> simp [appendReading, same]

def Registry.record (registry : Registry Key Reading limit) (key : Key) (reading : Reading) :
    Registry Key Reading limit :=
  if known : key ∈ registry.entries.map Prod.fst then
    { entries := registry.entries.map (appendReading key reading)
      keysNodup := by
        rw [map_fst_appendReading]
        exact registry.keysNodup
      bounded := by
        rw [List.length_map]
        exact registry.bounded }
  else if room : registry.entries.length < limit then
    { entries := registry.entries ++ [(key, [reading])]
      keysNodup := by
        rw [List.map_append, List.map_singleton]
        exact List.Nodup.append registry.keysNodup (List.nodup_singleton key)
          (List.disjoint_singleton.2 known)
      bounded := by
        rw [List.length_append, List.length_singleton]
        exact room }
  else registry

def Registry.recordAll (registry : Registry Key Reading limit) (log : List (Key × Reading)) :
    Registry Key Reading limit :=
  log.foldl (fun current entry => current.record entry.1 entry.2) registry

theorem Registry.record_known (registry : Registry Key Reading limit) {key : Key}
    (known : key ∈ registry.entries.map Prod.fst) (reading : Reading) :
    (registry.record key reading).entries =
      registry.entries.map (appendReading key reading) := by
  rw [Registry.record, dif_pos known]

theorem Registry.record_room (registry : Registry Key Reading limit) {key : Key}
    (unknown : key ∉ registry.entries.map Prod.fst) (room : registry.entries.length < limit)
    (reading : Reading) :
    (registry.record key reading).entries = registry.entries ++ [(key, [reading])] := by
  rw [Registry.record, dif_neg unknown, dif_pos room]

theorem Registry.record_full (registry : Registry Key Reading limit) {key : Key}
    (unknown : key ∉ registry.entries.map Prod.fst) (full : ¬registry.entries.length < limit)
    (reading : Reading) : registry.record key reading = registry := by
  rw [Registry.record, dif_neg unknown, dif_neg full]

theorem Registry.length_le_record (registry : Registry Key Reading limit) (key : Key)
    (reading : Reading) :
    registry.entries.length ≤ (registry.record key reading).entries.length := by
  by_cases known : key ∈ registry.entries.map Prod.fst
  · exact Nat.le_of_eq (by rw [registry.record_known known, List.length_map])
  · by_cases room : registry.entries.length < limit
    · rw [registry.record_room known room, List.length_append]
      exact Nat.le_add_right _ _
    · exact Nat.le_of_eq (by rw [registry.record_full known room])

omit [DecidableEq Key] in
theorem Registry.index_unique (registry : Registry Key Reading limit) {key : Key} {left right : Nat}
    {leftReadings rightReadings : List Reading}
    (atLeft : registry.entries[left]? = some (key, leftReadings))
    (atRight : registry.entries[right]? = some (key, rightReadings)) : left = right := by
  have keyLeft : (registry.entries.map Prod.fst)[left]? = some key := by
    rw [List.getElem?_map, atLeft]
    rfl
  have keyRight : (registry.entries.map Prod.fst)[right]? = some key := by
    rw [List.getElem?_map, atRight]
    rfl
  obtain ⟨inside, _⟩ := List.getElem?_eq_some_iff.1 keyLeft
  exact (List.getElem?_inj inside registry.keysNodup).1 (keyLeft.trans keyRight.symm)

/-! ### The readings of one key -/

def Registry.lookup (registry : Registry Key Reading limit) (key : Key) : List Reading :=
  (registry.entries.find? fun entry => entry.1 = key).elim [] Prod.snd

def Registry.Admits (registry : Registry Key Reading limit) (key : Key) : Prop :=
  key ∈ registry.entries.map Prod.fst ∨ registry.entries.length < limit

theorem Registry.lookup_unknown {registry : Registry Key Reading limit} {key : Key}
    (unknown : key ∉ registry.entries.map Prod.fst) : registry.lookup key = [] := by
  have missed : (registry.entries.find? fun entry => entry.1 = key) = none := by
    rw [List.find?_eq_none]
    intro entry member same
    exact unknown (List.mem_map.2 ⟨entry, member, of_decide_eq_true same⟩)
  rw [Registry.lookup, missed]
  rfl

theorem Registry.lookup_entry {registry : Registry Key Reading limit} {key : Key} {index : Nat}
    {readings : List Reading} (present : registry.entries[index]? = some (key, readings)) :
    registry.lookup key = readings := by
  rw [Registry.lookup]
  cases found : registry.entries.find? fun entry => entry.1 = key with
  | none =>
      have missed := List.find?_eq_none.1 found _ (List.mem_of_getElem? present)
      exact absurd (decide_eq_true rfl) missed
  | some entry =>
      have same : entry.1 = key := by simpa using List.find?_some found
      rcases List.getElem?_of_mem (List.mem_of_find?_eq_some found) with ⟨other, atOther⟩
      rcases entry with ⟨entryKey, others⟩
      cases same
      have atOwn := registry.index_unique atOther present
      rw [← atOwn, atOther] at present
      cases present
      rfl

private theorem lookup_map (registry : Registry Key Reading limit) (key other : Key)
    (reading : Reading) :
    ((registry.entries.map (appendReading key reading)).find? fun entry => entry.1 = other) =
      (registry.entries.find? fun entry => entry.1 = other).map (appendReading key reading) := by
  rw [List.find?_map]
  congr 2
  funext entry
  by_cases same : entry.1 = key <;> simp [appendReading, same]

theorem Registry.lookup_record_other (registry : Registry Key Reading limit) {key other : Key}
    (reading : Reading) (different : other ≠ key) :
    (registry.record key reading).lookup other = registry.lookup other := by
  by_cases known : key ∈ registry.entries.map Prod.fst
  · rw [Registry.lookup, Registry.lookup, registry.record_known known, lookup_map]
    cases found : registry.entries.find? fun entry => entry.1 = other with
    | none => rfl
    | some entry =>
        have same : entry.1 = other := by simpa using List.find?_some found
        have unlike : entry.1 ≠ key := same ▸ different
        simp [appendReading, unlike]
  · by_cases room : registry.entries.length < limit
    · rw [Registry.lookup, Registry.lookup, registry.record_room known room, List.find?_append]
      simp [Ne.symm different]
    · rw [registry.record_full known room]

theorem Registry.lookup_record (registry : Registry Key Reading limit) {key : Key}
    (reading : Reading) (admits : registry.Admits key) :
    (registry.record key reading).lookup key = registry.lookup key ++ [reading] := by
  by_cases known : key ∈ registry.entries.map Prod.fst
  · rcases List.mem_map.1 known with ⟨⟨own, readings⟩, member, same⟩
    cases same
    rcases List.getElem?_of_mem member with ⟨index, present⟩
    have grown : (registry.record own reading).entries[index]? =
        some (own, readings ++ [reading]) := by
      rw [registry.record_known known, List.getElem?_map, present, Option.map_some, appendReading,
        if_pos rfl]
    rw [Registry.lookup_entry grown, Registry.lookup_entry present]
  · have room := admits.resolve_left known
    have grown : (registry.record key reading).entries[registry.entries.length]? =
        some (key, [reading]) := by
      rw [registry.record_room known room, List.getElem?_concat_length]
    rw [Registry.lookup_entry grown, Registry.lookup_unknown known]
    rfl

/-! ### First distinct keys of a growing log -/

theorem eraseDups_append_singleton (keys : List Key) (key : Key) :
    (keys ++ [key]).eraseDups =
      if key ∈ keys then keys.eraseDups else keys.eraseDups ++ [key] := by
  by_cases present : key ∈ keys <;>
    simp [List.eraseDups_append, List.removeAll, List.eraseDups_cons, present]

theorem eraseDups_nodup (keys : List Key) : keys.eraseDups.Nodup := by
  induction keys using List.reverseRecOn with
  | nil => exact List.nodup_nil
  | append_singleton keys key ih =>
      rw [eraseDups_append_singleton]
      split
      · exact ih
      · rename_i absent
        exact List.Nodup.append ih (List.nodup_singleton key)
          (List.disjoint_singleton.2 fun member => absent (List.mem_eraseDups.1 member))

theorem firstKeys_nodup (limit : Nat) (keys : List Key) : (firstKeys limit keys).Nodup :=
  List.Nodup.sublist (List.take_sublist limit _) (eraseDups_nodup keys)

theorem mem_of_mem_firstKeys {keys : List Key} {key : Key} (member : key ∈ firstKeys limit keys) :
    key ∈ keys :=
  List.mem_eraseDups.1 (List.mem_of_mem_take member)

theorem firstKeys_full_of_not_mem {keys : List Key} {key : Key} (present : key ∈ keys)
    (absent : key ∉ firstKeys limit keys) : (firstKeys limit keys).length = limit := by
  by_contra short
  have lengthEq : (firstKeys limit keys).length = min limit keys.eraseDups.length :=
    List.length_take
  have whole : firstKeys limit keys = keys.eraseDups :=
    List.take_of_length_le (by omega)
  rw [whole] at absent
  exact absent (List.mem_eraseDups.2 present)

theorem mem_firstKeys_of_few {keys few : List Key} (bounded : few.length ≤ limit)
    (within : keys ⊆ few) {key : Key} (present : key ∈ keys) : key ∈ firstKeys limit keys := by
  by_contra absent
  have full := firstKeys_full_of_not_mem present absent
  have distinct : (key :: firstKeys limit keys).Nodup :=
    List.nodup_cons.2 ⟨absent, firstKeys_nodup limit keys⟩
  have among : key :: firstKeys limit keys ⊆ few :=
    List.cons_subset.2 ⟨within present, fun _ member => within (mem_of_mem_firstKeys member)⟩
  have longer := (List.subperm_of_subset distinct among).length_le
  rw [List.length_cons] at longer
  omega

theorem firstKeys_append_singleton (limit : Nat) (keys : List Key) (key : Key) :
    firstKeys limit (keys ++ [key]) =
      if key ∈ firstKeys limit keys then firstKeys limit keys
      else if (firstKeys limit keys).length < limit then firstKeys limit keys ++ [key]
      else firstKeys limit keys := by
  have lengthEq : (firstKeys limit keys).length = min limit keys.eraseDups.length :=
    List.length_take
  by_cases present : key ∈ keys
  · have unchanged : firstKeys limit (keys ++ [key]) = firstKeys limit keys := by
      rw [firstKeys, firstKeys, eraseDups_append_singleton, if_pos present]
    rw [unchanged]
    split
    · rfl
    · rename_i absent
      have full := firstKeys_full_of_not_mem present absent
      rw [if_neg (by omega)]
  · have absent : key ∉ firstKeys limit keys := fun member =>
      present (mem_of_mem_firstKeys member)
    have grown : firstKeys limit (keys ++ [key]) = (keys.eraseDups ++ [key]).take limit := by
      rw [firstKeys, eraseDups_append_singleton, if_neg present]
    rw [grown, if_neg absent]
    split
    · rename_i room
      rw [List.take_of_length_le (by rw [List.length_append, List.length_singleton]; omega)]
      rw [firstKeys, List.take_of_length_le (by omega)]
    · rename_i full
      rw [List.take_append_of_le_length (by omega)]
      rfl

theorem firstKeys_prefix (limit : Nat) (keys more : List Key) :
    firstKeys limit keys <+: firstKeys limit (keys ++ more) := by
  induction more using List.reverseRecOn with
  | nil =>
      have unchanged : firstKeys limit (keys ++ []) = firstKeys limit keys :=
        congrArg (firstKeys limit) (List.append_nil keys)
      exact unchanged ▸ List.prefix_refl _
  | append_singleton more key ih =>
      rw [← List.append_assoc, firstKeys_append_singleton]
      split
      · exact ih
      · split
        · exact ih.trans (List.prefix_append _ _)
        · exact ih

/-! ### The closed form of a recorded log -/

theorem readingsOf_append (key : Key) (log : List (Key × Reading)) (entry : Key × Reading) :
    readingsOf key (log ++ [entry]) =
      if entry.1 = key then readingsOf key log ++ [entry.2] else readingsOf key log := by
  by_cases same : entry.1 = key <;>
    simp [readingsOf, List.filter_append, same]

theorem readingsOf_eq_nil {key : Key} {log : List (Key × Reading)}
    (absent : key ∉ log.map Prod.fst) : readingsOf key log = [] := by
  rw [readingsOf, List.map_eq_nil_iff, List.filter_eq_nil_iff]
  intro entry member equal
  exact absent (List.mem_map.2 ⟨entry, member, of_decide_eq_true equal⟩)

def closedForm (limit : Nat) (log : List (Key × Reading)) : List (Key × List Reading) :=
  (firstKeys limit (log.map Prod.fst)).map fun key => (key, readingsOf key log)

theorem map_fst_closedForm (log : List (Key × Reading)) :
    (closedForm limit log).map Prod.fst = firstKeys limit (log.map Prod.fst) := by
  rw [closedForm, List.map_map]
  exact List.map_id _

theorem Registry.recordAll_append (registry : Registry Key Reading limit)
    (log : List (Key × Reading)) (entry : Key × Reading) :
    registry.recordAll (log ++ [entry]) = (registry.recordAll log).record entry.1 entry.2 := by
  rw [Registry.recordAll, List.foldl_append]
  rfl

/-- After any log the entries are the first distinct keys in order of first
appearance, each with all of its own readings. -/
theorem Registry.recordAll_entries (log : List (Key × Reading)) :
    (Registry.recordAll (Registry.empty : Registry Key Reading limit) log).entries =
      closedForm limit log := by
  induction log using List.reverseRecOn with
  | nil => simp [Registry.recordAll, Registry.empty, closedForm, firstKeys]
  | append_singleton log entry ih =>
      rw [Registry.recordAll_append]
      have keysEq : (Registry.recordAll (Registry.empty : Registry Key Reading limit)
          log).entries.map Prod.fst = firstKeys limit (log.map Prod.fst) := by
        rw [ih, map_fst_closedForm]
      have lengthEq : (Registry.recordAll (Registry.empty : Registry Key Reading limit)
          log).entries.length = (firstKeys limit (log.map Prod.fst)).length := by
        rw [← keysEq, List.length_map]
      have step := firstKeys_append_singleton limit (log.map Prod.fst) entry.1
      have keysOf : (log ++ [entry]).map Prod.fst = log.map Prod.fst ++ [entry.1] := by simp
      by_cases known : entry.1 ∈ firstKeys limit (log.map Prod.fst)
      · rw [Registry.record_known _ (keysEq ▸ known), ih, closedForm, closedForm, keysOf, step,
          if_pos known, List.map_map]
        apply List.map_congr_left
        intro key _
        by_cases same : key = entry.1
        · simp [appendReading, readingsOf_append, same]
        · simp [appendReading, readingsOf_append, same, Ne.symm same]
      · have others : ∀ key ∈ firstKeys limit (log.map Prod.fst),
            readingsOf key (log ++ [entry]) = readingsOf key log := by
          intro key member
          rw [readingsOf_append, if_neg]
          intro same
          exact known (same ▸ member)
        by_cases room : (firstKeys limit (log.map Prod.fst)).length < limit
        · have fresh : entry.1 ∉ log.map Prod.fst := by
            intro present
            have full := firstKeys_full_of_not_mem present known
            omega
          rw [Registry.record_room _ (keysEq ▸ known) (lengthEq ▸ room), ih, closedForm,
            closedForm, keysOf, step, if_neg known, if_pos room, List.map_append,
            List.map_singleton, readingsOf_append, if_pos rfl, readingsOf_eq_nil fresh]
          congr 1
          exact List.map_congr_left fun key member => by rw [others key member]
        · rw [Registry.record_full _ (keysEq ▸ known) (lengthEq ▸ room), ih, closedForm,
            closedForm, keysOf, step, if_neg known, if_neg room]
          exact List.map_congr_left fun key member => by rw [others key member]

end Foundation.FirstComeRegistry
