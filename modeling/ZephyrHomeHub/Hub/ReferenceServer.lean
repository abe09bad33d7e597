import ZephyrHomeHub.Foundation.KeyValueText
import ZephyrHomeHub.Hub.LocalsIndependence
import ZephyrHomeHub.Node.NodeId

/-! The reference server of the `/temp-node` resource against `temp_node_post`. The
server reads every Uri-Query option as a list of `key=value` pairs; the hub takes
what follows the third byte of the first option. Strings are their UTF-8 bytes. -/

namespace ZephyrHomeHub.Hub

open Foundation.CString Foundation.DecimalNumeral Foundation.KeyValueText
open ZephyrHomeHub.Node

def ampersand : UInt8 := 38

def equalsSign : UInt8 := 61

def idKey : List UInt8 := [105, 100]

/-- A later pair overwrites an earlier one with its key. -/
def parseQueryParams (uriQuery : List (List UInt8)) : Dictionary UInt8 :=
  uriQuery.foldl (fun queryDict innerTuple =>
    (innerTuple.splitOn ampersand).foldl (assign equalsSign) queryDict) fun _ => none

def extractNodeId (uriQuery : List (List UInt8)) : Option (List UInt8) :=
  parseQueryParams uriQuery idKey

/-- Every option is a C string that the hub's `coap_option` has room for. -/
def IntactOptions (uriQuery : List (List UInt8)) : Prop :=
  ∀ value ∈ uriQuery, 0 ∉ value ∧ value.length ≤ optionValueSize

/-- The hub submits the id that the server extracts, and none where the server
finds no node id, which it says of an empty one too. -/
def AgreesWithReference (uriQuery : List (List UInt8)) : Prop :=
  ∀ (uptime : Int) (locals : PostLocals) (payload : List UInt8),
    (∀ id, extractNodeId uriQuery = some id → id ≠ [] → id.length ≤ nodeIdLen - 1 →
        (tempNodePost uptime locals { uriQuery := uriQuery, payload := payload }).id = id) ∧
      ((extractNodeId uriQuery).getD [] = [] →
        (tempNodePost uptime locals { uriQuery := uriQuery, payload := payload }).id = [])

def idValues (uriQuery : List (List UInt8)) : List (List UInt8) :=
  (uriQuery.flatMap fun option => option.splitOn ampersand).filterMap
    (valueOf equalsSign idKey)

/-- There is no option; or a later option has pairs `id=...`, and the last of them
names what follows the third byte of the first; or none has, and the first option
is one `id=...` or three bytes long. -/
def FirstOptionIsId : List (List UInt8) → Prop
  | [] => True
  | first :: others =>
      match (idValues others).getLast? with
      | some id => ∃ head, head.length = 3 ∧ first = head ++ id
      | none => first.length = 3 ∨ ∃ id, ampersand ∉ id ∧ first = idKey ++ equalsSign :: id

theorem extractNodeId_eq (uriQuery : List (List UInt8)) :
    extractNodeId uriQuery = (idValues uriQuery).getLast? := by
  rw [extractNodeId, parseQueryParams, ← List.foldl_flatMap, foldl_assign, Option.or_none]
  rfl

theorem extractNodeId_cons (first : List UInt8) (others : List (List UInt8)) :
    extractNodeId (first :: others) =
      (idValues others).getLast?.or (idValues [first]).getLast? := by
  have pieces : idValues (first :: others) = idValues [first] ++ idValues others := by
    simp only [idValues, List.flatMap_cons, List.flatMap_nil, List.append_nil,
      List.filterMap_append]
  rw [extractNodeId_eq, pieces, List.getLast?_append]

theorem mem_idValues {uriQuery : List (List UInt8)} {id : List UInt8} :
    id ∈ idValues uriQuery ↔
      ∃ option ∈ uriQuery, idKey ++ equalsSign :: id ∈ option.splitOn ampersand := by
  have clean : equalsSign ∉ idKey := by decide
  rw [idValues, List.mem_filterMap]
  constructor
  · rintro ⟨piece, member, value⟩
    rw [(valueOf_eq_some_iff clean).1 value] at member
    exact List.mem_flatMap.1 member
  · rintro ⟨option, member, piece⟩
    exact ⟨_, List.mem_flatMap.2 ⟨option, member, piece⟩, (valueOf_eq_some_iff clean).2 rfl⟩

theorem length_pair (id : List UInt8) : (idKey ++ equalsSign :: id).length = id.length + 3 := by
  rw [List.length_append, List.length_cons]
  change 2 + (id.length + 1) = id.length + 3
  omega

theorem length_pair_le {option id : List UInt8}
    (piece : idKey ++ equalsSign :: id ∈ option.splitOn ampersand) :
    id.length + 3 ≤ option.length := by
  have bounded := length_piece_le piece
  rw [length_pair] at bounded
  exact bounded

theorem length_extracted {uriQuery : List (List UInt8)} (intact : IntactOptions uriQuery)
    {id : List UInt8} (extracted : extractNodeId uriQuery = some id) :
    id.length ≤ nodeIdLen - 1 := by
  rw [extractNodeId_eq] at extracted
  obtain ⟨option, member, piece⟩ := mem_idValues.1 (List.mem_of_getLast? extracted)
  have bounded := Nat.le_trans (length_pair_le piece) (intact option member).2
  unfold optionValueSize at bounded
  unfold nodeIdLen
  omega

theorem agreesWithReference_iff_posted {uriQuery : List (List UInt8)}
    (intact : IntactOptions uriQuery) :
    AgreesWithReference uriQuery ↔
      ∀ queryOpt, postedId queryOpt uriQuery = (extractNodeId uriQuery).getD [] := by
  constructor
  · intro agrees queryOpt
    have posted := agrees 0 { queryOpt := queryOpt, payloadStr := Buffer.zero _ } []
    rw [tempNodePost_id] at posted
    by_cases named : (extractNodeId uriQuery).getD [] = []
    · rw [named]
      exact posted.2 named
    · cases extracted : extractNodeId uriQuery with
      | none =>
          rw [extracted] at named
          exact absurd rfl named
      | some id =>
          rw [extracted] at named
          exact posted.1 id extracted named (length_extracted intact extracted)
  · intro same uptime locals payload
    rw [tempNodePost_id]
    refine ⟨?_, ?_⟩
    · intro id extracted _ _
      exact (same locals.queryOpt).trans (congrArg (Option.getD · []) extracted)
    · intro none
      exact (same locals.queryOpt).trans none

theorem postedId_eq_iff {first : List UInt8} (clean : 0 ∉ first)
    (fits : first.length ≤ optionValueSize) (others : List (List UInt8)) (id : List UInt8) :
    (∀ queryOpt, postedId queryOpt (first :: others) = id) ↔
      3 ≤ first.length ∧ first.drop 3 = id := by
  have cleanRest : 0 ∉ first.drop 3 := fun member => clean (List.mem_of_mem_drop member)
  constructor
  · intro same
    have long : 3 ≤ first.length := by
      by_contra short
      have zeros := same (localsWith 0 (Buffer.zero payloadStrSize)).queryOpt
      have letters := same (localsWith 65 (Buffer.zero payloadStrSize)).queryOpt
      rw [postedId_short (Nat.not_le.1 short)] at zeros letters
      exact absurd (zeros.trans letters.symm) (by decide)
    have filled := same (localsWith 0 (Buffer.zero payloadStrSize)).queryOpt
    rw [postedId_filled (fun _ => long), if_pos fits, cstr_of_clean cleanRest] at filled
    exact ⟨long, filled⟩
  · rintro ⟨long, rest⟩ queryOpt
    rw [postedId_filled (fun _ => long), if_pos fits, cstr_of_clean cleanRest, rest]

theorem ampersand_not_mem_pair {id : List UInt8} :
    ampersand ∉ idKey ++ equalsSign :: id ↔ ampersand ∉ id := by
  rw [List.mem_append, List.mem_cons, not_or, not_or]
  exact ⟨fun clean => clean.2.2, fun clean => ⟨by decide, by decide, clean⟩⟩

theorem idValues_pair {id : List UInt8} (clean : ampersand ∉ id) :
    idValues [idKey ++ equalsSign :: id] = [id] := by
  have value : valueOf equalsSign idKey (idKey ++ equalsSign :: id) = some id :=
    (valueOf_eq_some_iff (by decide)).2 rfl
  rw [idValues, List.flatMap_singleton,
    List.splitOn_eq_singleton (ampersand_not_mem_pair.2 clean), List.filterMap_cons, value]
  rfl

/-- The id of a single option is what follows its third byte only when the option
is one pair, or ends there. -/
theorem single_option_agrees_iff (first : List UInt8) :
    (3 ≤ first.length ∧ first.drop 3 = (idValues [first]).getLast?.getD []) ↔
      first.length = 3 ∨ ∃ id, ampersand ∉ id ∧ first = idKey ++ equalsSign :: id := by
  constructor
  · rintro ⟨long, rest⟩
    have restLength := congrArg List.length rest
    rw [List.length_drop] at restLength
    cases last : (idValues [first]).getLast? with
    | none =>
        rw [last] at restLength
        change first.length - 3 = 0 at restLength
        exact Or.inl (by omega)
    | some id =>
        rw [last] at restLength
        change first.length - 3 = id.length at restLength
        obtain ⟨option, member, piece⟩ := mem_idValues.1 (List.mem_of_getLast? last)
        cases List.mem_singleton.1 member
        have whole : first.length ≤ (idKey ++ equalsSign :: id).length := by
          rw [length_pair]
          omega
        exact Or.inr ⟨id, ampersand_not_mem_pair.1 (separator_not_mem_piece piece),
          (piece_eq_of_length piece whole).symm⟩
  · rintro (three | ⟨id, clean, firstEq⟩)
    · refine ⟨Nat.le_of_eq three.symm, ?_⟩
      rw [List.drop_eq_nil_of_le (Nat.le_of_eq three)]
      cases last : (idValues [first]).getLast? with
      | none => rfl
      | some id =>
          obtain ⟨option, member, piece⟩ := mem_idValues.1 (List.mem_of_getLast? last)
          cases List.mem_singleton.1 member
          have bounded := length_pair_le piece
          exact (List.length_eq_zero_iff.1 (by omega : id.length = 0)).symm
    · rw [firstEq, idValues_pair clean]
      exact ⟨Nat.le_add_left 3 id.length, rfl⟩

theorem posted_iff_firstOptionIsId {uriQuery : List (List UInt8)}
    (intact : IntactOptions uriQuery) :
    (∀ queryOpt, postedId queryOpt uriQuery = (extractNodeId uriQuery).getD []) ↔
      FirstOptionIsId uriQuery := by
  cases uriQuery with
  | nil => exact ⟨fun _ => trivial, fun _ _ => rfl⟩
  | cons first others =>
      obtain ⟨clean, fits⟩ := intact first List.mem_cons_self
      rw [postedId_eq_iff clean fits, extractNodeId_cons, FirstOptionIsId]
      cases (idValues others).getLast? with
      | none =>
          rw [Option.none_or]
          exact single_option_agrees_iff first
      | some id =>
          constructor
          · rintro ⟨long, rest⟩
            refine ⟨first.take 3, List.length_take_of_le long, ?_⟩
            change first.drop 3 = id at rest
            rw [← rest, List.take_append_drop]
          · rintro ⟨head, headLength, firstEq⟩
            rw [firstEq, List.length_append, headLength]
            exact ⟨Nat.le_add_right 3 _, List.drop_left' headLength⟩

/-- The hub and the reference server extract one id exactly from these queries. -/
theorem agreesWithReference_iff {uriQuery : List (List UInt8)}
    (intact : IntactOptions uriQuery) :
    AgreesWithReference uriQuery ↔ FirstOptionIsId uriQuery :=
  (agreesWithReference_iff_posted intact).trans (posted_iff_firstOptionIsId intact)

/-- The texts `type=temp` and `id=FA436E48` -/
def typeOption : List UInt8 := [116, 121, 112, 101, 61, 116, 101, 109, 112]

def idOption : List UInt8 := [105, 100, 61, 70, 65, 52, 51, 54, 69, 52, 56]

/-- The text `id=A1&t=1` -/
def joinedOption : List UInt8 := [105, 100, 61, 65, 49, 38, 116, 61, 49]

theorem idOption_alone_agrees : AgreesWithReference [idOption] :=
  (agreesWithReference_iff (by unfold IntactOptions; decide)).2
    (Or.inr ⟨idOption.drop 3, by decide, rfl⟩)

/-- The id `e=temp` for `FA436E48`, and `A1&t=1` for `A1`. -/
theorem typeFirst_and_joinedPairs_disagree :
    (IntactOptions [typeOption, idOption] ∧ ¬AgreesWithReference [typeOption, idOption]) ∧
      IntactOptions [joinedOption] ∧ ¬AgreesWithReference [joinedOption] := by
  have disagree : ∀ {uriQuery : List (List UInt8)}, IntactOptions uriQuery →
      postedId (localsWith 0 (Buffer.zero payloadStrSize)).queryOpt uriQuery ≠
        (extractNodeId uriQuery).getD [] → ¬AgreesWithReference uriQuery :=
    fun intact different agrees =>
      different ((agreesWithReference_iff_posted intact).1 agrees _)
  have typeIntact : IntactOptions [typeOption, idOption] := by unfold IntactOptions; decide
  have joinedIntact : IntactOptions [joinedOption] := by unfold IntactOptions; decide
  exact ⟨⟨typeIntact, disagree typeIntact (by decide)⟩,
    joinedIntact, disagree joinedIntact (by decide)⟩

abbrev QueryPair : Type := Pair ampersand equalsSign

theorem parseQueryParams_apply (uriQuery : List (List UInt8)) (key : List UInt8) :
    parseQueryParams uriQuery key =
      ((uriQuery.flatMap fun option => option.splitOn ampersand).filterMap
        (valueOf equalsSign key)).getLast? := by
  rw [parseQueryParams, ← List.foldl_flatMap, foldl_assign, Option.or_none]

theorem values_flatten (options : List (List QueryPair)) (key : List UInt8) :
    ((options.map Pair.written).flatMap fun option => option.splitOn ampersand).filterMap
        (valueOf equalsSign key) = Pair.values options.flatten key := by
  induction options with
  | nil => rfl
  | cons pairs rest ih =>
      rw [List.map_cons, List.flatMap_cons, List.filterMap_append, ih,
        Pair.filterMap_written (by decide)]
      simp only [Pair.values, List.flatten_cons, List.filter_append, List.map_append]

/-- The server's parser undoes the writing of pairs, however they are shared out among
the options; and whatever options it is given, it returns what it would for one option
of pairs written out. -/
theorem parseQueryParams_inverts_written :
    (∀ options : List (List QueryPair),
      parseQueryParams (options.map Pair.written) = Pair.dictionary options.flatten) ∧
      ∀ uriQuery : List (List UInt8), ∃ pairs : List QueryPair,
        parseQueryParams uriQuery = Pair.dictionary pairs ∧
          parseQueryParams [Pair.written pairs] = parseQueryParams uriQuery := by
  have undoes : ∀ options : List (List QueryPair),
      parseQueryParams (options.map Pair.written) = Pair.dictionary options.flatten := by
    intro options
    funext key
    rw [parseQueryParams_apply, values_flatten]
    rfl
  refine ⟨undoes, fun uriQuery => ?_⟩
  have clean : ∀ piece ∈ uriQuery.flatMap fun option => option.splitOn ampersand,
      ampersand ∉ piece := by
    intro piece member
    rcases List.mem_flatMap.1 member with ⟨option, -, among⟩
    exact separator_not_mem_piece among
  rcases exists_pairs _ clean with ⟨pairs, same⟩
  have read : parseQueryParams uriQuery = Pair.dictionary pairs := by
    funext key
    rw [parseQueryParams_apply, same key]
    rfl
  refine ⟨pairs, read, ?_⟩
  have again := undoes [pairs]
  rw [List.map_singleton, List.flatten_singleton] at again
  rw [again, read]

end ZephyrHomeHub.Hub
