import ZephyrHomeHub.Foundation.DecimalPlaces
import ZephyrHomeHub.Hub.LocalsIndependence
import ZephyrHomeHub.Hub.Startup
import ZephyrHomeHub.Node.NodeId

/-! The repository's test client against the hub. It posts two decimals under a node id
of any length, and the hub has room for nine bytes of one. -/

namespace ZephyrHomeHub.Simulator

open Foundation.BinaryFloat Foundation.CString Foundation.DecimalNumeral Foundation.HexBytes
open Foundation.ComponentView Foundation.FirstComeRegistry Foundation.LabelledMachine
open Foundation.NumeralText ZephyrHomeHub.Hub ZephyrHomeHub.Node

/-- The bytes that stand for themselves in a URI: letters, digits, `-`, `.`, `_`, `~`. -/
def isUnreserved (byte : UInt8) : Bool :=
  (48 ≤ byte.toNat && byte.toNat ≤ 57) || (65 ≤ byte.toNat && byte.toNat ≤ 90) ||
    (97 ≤ byte.toNat && byte.toNat ≤ 122) || byte = 45 || byte = 46 || byte = 95 || byte = 126

/-- `send_temperature`, for a node id that the URI carries as it is. -/
def sendTemperature (nodeId : List UInt8) (temperature : Number) : PostRequest :=
  { uriQuery := [idPrefix ++ nodeId]
    payload := printHundredths temperature }

/-- `round(temperature, 2)` -/
def roundTwo : Number → Number
  | .finite negative magnitude =>
      (Number.finite negative (nearestHundredth magnitude)).round binary64
  | .infinite negative => .infinite negative
  | .nan negative => .nan negative

/-- `f"{i:04X}"` -/
def printHexFour (value : Nat) : List UInt8 :=
  List.replicate (4 - (Nat.digits 16 value).length) (hexDigit 0) ++
    ((Nat.digits 16 value).map hexDigit).reverse

/-- `f"ESP32_{i:04X}"` -/
def multipleNodeId (i : Nat) : List UInt8 := [69, 83, 80, 51, 50, 95] ++ printHexFour i

theorem zero_not_mem_unreserved {nodeId : List UInt8}
    (unreserved : ∀ byte ∈ nodeId, isUnreserved byte = true) : (0 : UInt8) ∉ nodeId := by
  intro member
  have impossible := unreserved 0 member
  cases impossible

theorem sendTemperature_id {nodeId : List UInt8}
    (unreserved : ∀ byte ∈ nodeId, isUnreserved byte = true) (temperature : Number) (uptime : Int)
    (locals : PostLocals) :
    (tempNodePost uptime locals (sendTemperature nodeId temperature)).id =
      if nodeId.length ≤ nodeIdLen - 1 then nodeId else [] := by
  have lengthEq : (idPrefix ++ nodeId).length = 3 + nodeId.length := List.length_append
  have tail : (idPrefix ++ nodeId).drop 3 = nodeId := rfl
  rw [tempNodePost_id, sendTemperature,
    postedId_filled (fun _ => by rw [lengthEq]; exact Nat.le_add_right 3 _), lengthEq, tail,
    cstr_of_clean (zero_not_mem_unreserved unreserved)]
  refine if_congr ?_ rfl rfl
  unfold optionValueSize nodeIdLen
  omega

theorem hundredths_le {magnitude : ℚ≥0} (range : magnitude < 2 ^ 43) :
    roundHalfEven (100 * magnitude) ≤ 100 * 2 ^ 43 := by
  have power : ((100 * 2 ^ 43 : Nat) : ℚ≥0) = 100 * 2 ^ 43 := by norm_num
  have scaled : 100 * magnitude ≤ ((100 * 2 ^ 43 : Nat) : ℚ≥0) := by
    rw [power]
    exact mul_le_mul_of_nonneg_left range.le zero_le
  have rounded := roundHalfEven_mono scaled
  rw [roundHalfEven_natCast] at rounded
  exact rounded

theorem length_printHundredths_lt {magnitude : ℚ≥0} (range : magnitude < 2 ^ 43) (negative : Bool) :
    0 < (printHundredths (.finite negative magnitude)).length ∧
      (printHundredths (.finite negative magnitude)).length < payloadStrSize - 1 := by
  have bounded := hundredths_le range
  have whole := (printNat_length_le_iff (by decide : 0 < 13)
    (roundHalfEven (100 * magnitude) / 100)).2 (by omega)
  have fraction := length_printTwoDigits_of_lt
    (Nat.mod_lt (roundHalfEven (100 * magnitude)) (by decide : 100 > 0))
  have sign : (if negative then [minus] else []).length ≤ 1 := by
    cases negative
    · exact Nat.zero_le 1
    · exact Nat.le_refl 1
  unfold printHundredths payloadStrSize
  simp only [List.length_append, List.length_cons, fraction]
  omega

theorem postedText_printHundredths {magnitude : ℚ≥0} (range : magnitude < 2 ^ 43) (negative : Bool)
    (payloadStr : Buffer payloadStrSize) :
    postedText (printHundredths (.finite negative magnitude)) payloadStr =
      printHundredths (.finite negative magnitude) := by
  rcases length_printHundredths_lt range negative with ⟨present, short⟩
  have clean : (0 : UInt8) ∉ printHundredths (.finite negative magnitude) := by
    rw [← Numeral.text_hundredths]
    exact Numeral.zero_not_mem_text _
  have lengthEq : payloadLen (printHundredths (.finite negative magnitude)) =
      (printHundredths (.finite negative magnitude)).length :=
    Nat.mod_eq_of_lt (short.trans (by decide))
  rw [postedText, lengthEq, if_pos present, payloadCopyLength, if_pos short, List.take_length,
    cstr_of_clean clean]

theorem printHundredths_roundTwo {magnitude : ℚ≥0} (range : magnitude < 2 ^ 43) (negative : Bool) :
    printHundredths (roundTwo (.finite negative magnitude)) =
      printHundredths (.finite negative magnitude) := by
  have small : nearestHundredth magnitude < 2 ^ (44 : Int) := by
    have bounded : (roundHalfEven (100 * magnitude) : ℚ≥0) ≤ ((100 * 2 ^ 43 : Nat) : ℚ≥0) := by
      exact_mod_cast hundredths_le range
    unfold nearestHundredth
    rw [div_lt_iff₀ (by norm_num)]
    refine lt_of_le_of_lt bounded ?_
    norm_num
  have double : roundTwo (.finite negative magnitude) =
      .finite negative (binary64.roundMagnitude (nearestHundredth magnitude)) :=
    Number.round_of_lt (by decide) (by decide) (by decide) (by decide) small negative
  have same : roundHalfEven (100 * binary64.roundMagnitude (nearestHundredth magnitude)) =
      roundHalfEven (100 * magnitude) := roundHalfEven_double small
  rw [double, ← Numeral.text_hundredths, ← Numeral.text_hundredths, same]

/-- Whatever double the client is given, up to `2 ^ 43`, it posts the same request for it
and for its rounding to two decimals, and the hub records the float nearest to that
rounding, under the node id if this has at most nine bytes, and else under none. -/
theorem simulated_post_recorded {nodeId : List UInt8}
    (unreserved : ∀ byte ∈ nodeId, isUnreserved byte = true) (negative : Bool) {magnitude : ℚ≥0}
    (range : magnitude < 2 ^ 43) (uptime : Int) (locals : PostLocals) :
    sendTemperature nodeId (roundTwo (.finite negative magnitude)) =
        sendTemperature nodeId (.finite negative magnitude) ∧
      (tempNodePost uptime locals (sendTemperature nodeId (.finite negative magnitude))).id =
        (if nodeId.length ≤ nodeIdLen - 1 then nodeId else []) ∧
      (tempNodePost uptime locals
          (sendTemperature nodeId (.finite negative magnitude))).temperature =
        (roundTwo (.finite negative magnitude)).round binary32 := by
  refine ⟨?_, sendTemperature_id unreserved _ uptime locals, ?_⟩
  · unfold sendTemperature
    rw [printHundredths_roundTwo range]
  · rw [tempNodePost_temperature, sendTemperature, postedText_printHundredths range,
      strtod_printHundredths]
    rfl

/-- `TEST_NODE`, of the client's usage text -/
def testNode : List UInt8 := [84, 69, 83, 84, 95, 78, 79, 68, 69]

theorem testNode_recorded :
    sendTemperature testNode (roundTwo (.finite false (47 / 2))) =
        sendTemperature testNode (.finite false (47 / 2)) ∧
      (tempNodePost 0 noLocals (sendTemperature testNode (.finite false (47 / 2)))).id =
        testNode ∧
      (tempNodePost 0 noLocals (sendTemperature testNode (.finite false (47 / 2)))).temperature =
        (roundTwo (.finite false (47 / 2))).round binary32 := by
  have range : (47 / 2 : ℚ≥0) < 2 ^ 43 := by
    rw [div_lt_iff₀ (by norm_num)]
    norm_num
  have unreserved : ∀ byte ∈ testNode, isUnreserved byte = true := List.all_eq_true.1 rfl
  exact simulated_post_recorded unreserved false range 0 noLocals

theorem length_printHexFour (value : Nat) : 4 ≤ (printHexFour value).length := by
  unfold printHexFour
  simp only [List.length_append, List.length_replicate, List.length_reverse, List.length_map]
  omega

theorem readDigits_zeros (count : Nat) : readDigits 16 (List.replicate count (hexDigit 0)) = 0 := by
  induction count with
  | zero => rfl
  | succ count ih =>
      rw [List.replicate_succ', readDigits_append_singleton, ih]
      rfl

theorem readDigits_printHexFour (value : Nat) : readDigits 16 (printHexFour value) = value := by
  unfold printHexFour
  rw [readDigits_append, readDigits_zeros, Nat.zero_mul, Nat.zero_add,
    readDigits_hexDigits (fun digit member => Nat.digits_lt_base (by decide) member),
    Nat.ofDigits_digits]

theorem multipleNodeId_injective : Function.Injective multipleNodeId := by
  intro left right same
  have digits : printHexFour left = printHexFour right := List.append_cancel_left same
  rw [← readDigits_printHexFour left, digits, readDigits_printHexFour]

theorem multipleNodeId_long (i : Nat) : nodeIdLen - 1 < (multipleNodeId i).length := by
  have long := length_printHexFour i
  unfold multipleNodeId nodeIdLen
  rw [List.length_append]
  change 9 < 6 + _
  omega

theorem multipleNodeId_unreserved (i : Nat) :
    ∀ byte ∈ multipleNodeId i, isUnreserved byte = true := by
  have digit : ∀ value < 16, isUnreserved (hexDigit value) = true := by decide
  intro byte member
  rcases List.mem_append.1 member with head | tail
  · exact List.all_eq_true.1 (rfl : [69, 83, 80, 51, 50, 95].all isUnreserved = true) byte head
  · rcases List.mem_append.1 tail with zero | printed
    · rw [List.eq_of_mem_replicate zero]
      exact digit 0 (by decide)
    · rcases mem_hexDigits (fun digit member => Nat.digits_lt_base (by decide) member) printed with
        ⟨value, small, rfl⟩
      exact digit value small

theorem multipleNodeId_posted (i : Nat) (temperature : Number) (uptime : Int)
    (locals : PostLocals) :
    (tempNodePost uptime locals (sendTemperature (multipleNodeId i) temperature)).id = [] := by
  rw [sendTemperature_id (multipleNodeId_unreserved i),
    if_neg (Nat.not_le.2 (multipleNodeId_long i))]

/-- Only `send_multiple_nodes` posts, any number of nodes in any order. -/
def OnlyMultipleNodes (actions : List StartedAction) : Prop :=
  ∀ locals request, StartedAction.post locals request ∈ actions →
    ∃ i temperature, request = sendTemperature (multipleNodeId i) temperature

theorem StartedHub.clockedAction_post {hub : StartedHub} {action : StartedAction}
    {locals : PostLocals} {request : PostRequest}
    (taken : hub.clockedAction action = some (.post locals request)) :
    action = .post locals request := by
  cases action with
  | post otherLocals otherRequest =>
      cases taken
      rfl
  | _ => cases taken

/-- The ids that `send_multiple_nodes` gives its nodes are all different, but whatever
they post and however the threads of the hub interleave, the table has one slot for all
of them, and the id in it is empty. -/
theorem multiple_nodes_share_slot {actions : List StartedAction} {hub : StartedHub}
    (ran : startedMachine.run StartedHub.powerOn actions = some hub)
    (multiple : OnlyMultipleNodes actions) :
    Function.Injective multipleNodeId ∧
      (∀ slot, (hub.clocked.nodes slot).used = true → (hub.clocked.nodes slot).id = []) ∧
      ∀ left right, (hub.clocked.nodes left).used = true →
        (hub.clocked.nodes right).used = true → left = right := by
  have threads := clockedView.run ran
  rcases (clocked_reachable_sound ⟨_, threads⟩).table_stream with ⟨items, table, ordered⟩
  have within := ordered.trans (clocked_sound_boot.stream_run threads).1
  change hub.clocked.nodes = items.table at table
  have nameless : ∀ item ∈ items, item.2.id = [] := by
    intro item member
    have submitted := within.subset (List.mem_map_of_mem member)
    rcases ClockedHub.mem_submittedAlong submitted with ⟨uptime, locals, request, traced, message⟩
    rcases clockedView.mem_trace traced with ⟨state, action, among, taken⟩
    cases StartedHub.clockedAction_post taken
    rcases multiple locals request among with ⟨i, temperature, rfl⟩
    rw [message]
    exact multipleNodeId_posted i temperature uptime locals
  have empty : ∀ slot, (hub.clocked.nodes slot).used = true → (hub.clocked.nodes slot).id = [] := by
    intro slot used
    rw [table] at used ⊢
    rcases items.listed_of_used used with ⟨id, listed⟩
    rw [(items.holds_at listed).id]
    rcases List.mem_map.1 (mem_of_mem_firstKeys (List.mem_of_getElem? listed)) with
      ⟨item, member, rfl⟩
    exact nameless item member
  refine ⟨multipleNodeId_injective, empty, ?_⟩
  intro left right leftUsed rightUsed
  have same := (empty left leftUsed).trans (empty right rightUsed).symm
  rw [table] at leftUsed rightUsed same
  exact items.table_injective leftUsed rightUsed same

def simulatedPost (i : Nat) : List StartedAction :=
  [.post noLocals (sendTemperature (multipleNodeId i) (.finite false 20)), .thread .check,
    .thread .copy, .thread .submit, .thread .dequeue, .thread .put, .thread .finish, .msgqGet,
    .loopBody]

def twoSimulatedRun : List StartedAction := loopingRun ++ (simulatedPost 0 ++ simulatedPost 1)

theorem twoSimulatedRun_only : OnlyMultipleNodes twoSimulatedRun := by
  intro locals request posted
  simp only [twoSimulatedRun, loopingRun, simulatedPost, List.cons_append, List.nil_append,
    List.mem_cons, reduceCtorEq, StartedAction.post.injEq, List.not_mem_nil, or_false,
    false_or] at posted
  rcases posted with ⟨-, rfl⟩ | ⟨-, rfl⟩
  · exact ⟨0, _, rfl⟩
  · exact ⟨1, _, rfl⟩

theorem twoSimulatedRun_share_slot :
    ∃ hub, startedMachine.run StartedHub.powerOn twoSimulatedRun = some hub ∧
      (hub.clocked.nodes ⟨0, by decide⟩).used = true ∧ Function.Injective multipleNodeId ∧
      (∀ slot, (hub.clocked.nodes slot).used = true → (hub.clocked.nodes slot).id = []) ∧
      ∀ left right, (hub.clocked.nodes left).used = true →
        (hub.clocked.nodes right).used = true → left = right :=
  ⟨_, rfl, rfl, multiple_nodes_share_slot rfl twoSimulatedRun_only⟩

end ZephyrHomeHub.Simulator
