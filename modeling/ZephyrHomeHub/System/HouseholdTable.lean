import ZephyrHomeHub.Hub.Draining
import ZephyrHomeHub.System.Provenance

/-! The table of a hub whose household has at most six ids: nothing is dropped for want
of a slot, each id has a slot of its own, and what is in it are the readings of the
requests from the nodes with this id. -/

namespace ZephyrHomeHub.System

open Foundation.CString Foundation.FirstComeRegistry Foundation.HexBytes
open Foundation.LabelledMachine ZephyrHomeHub.Hub ZephyrHomeHub.Node

variable {Name : Type} {household : Household Name} {home : HomeNetwork Name}

def Household.id (household : Household Name) (name : Name) : List UInt8 :=
  printHex (idBytes (household.mac name))

def Household.FitsTable (household : Household Name) : Prop :=
  ∃ ids : List (List UInt8), ids.length ≤ maxNodes ∧ ∀ name, household.id name ∈ ids

def readingsOfId (household : Household Name) (id : List UInt8) (entries : List (Handled Name)) :
    List SensorData :=
  (entries.filter fun entry => household.id entry.node = id).map fun entry => entry.msg.reading

def Household.Identified (household : Household Name) (entry : Handled Name) : Prop :=
  entry.msg.id = household.id entry.node

theorem readings_of_sources {items : MessageSequence} {sources : List (Handled Name)}
    (same : items.map Prod.snd = sources.map Handled.msg)
    (identified : ∀ source ∈ sources, household.Identified source) (id : List UInt8) :
    items.readings id = readingsOfId household id sources := by
  have byMessage : items.readings id =
      ((items.map Prod.snd).filter fun msg => msg.id = id).map TempDataMsg.reading := by
    rw [MessageSequence.readings, List.filter_map, List.map_map]
    rfl
  rw [byMessage, same, List.filter_map, List.map_map, readingsOfId]
  refine congrArg (List.map _) (List.filter_congr ?_)
  intro source member
  exact congrArg (fun found => decide (found = id)) (identified source member)

theorem ids_of_sources {items : MessageSequence} {sources : List (Handled Name)}
    (same : items.map Prod.snd = sources.map Handled.msg)
    (identified : ∀ source ∈ sources, household.Identified source) :
    items.map (fun item => item.2.id) = sources.map fun source => household.id source.node := by
  have byMessage : items.map (fun item => item.2.id) =
      (items.map Prod.snd).map TempDataMsg.id := by
    rw [List.map_map]
    rfl
  rw [byMessage, same, List.map_map]
  exact List.map_congr_left identified

structure SlotOf (household : Household Name) (nodes : Nodes) (sources : List (Handled Name))
    (id : List UInt8) (slot : Slot) : Prop where
  used : (nodes slot).used = true
  labelled : (nodes slot).id = id
  history : (nodes slot).readHistory = (readingsOfId household id sources).rtake historySize
  current : (readingsOfId household id sources).getLast? = some (nodes slot).current
  only : ∀ other, (nodes other).used = true → (nodes other).id = id → other = slot

theorem slotOf_source (fits : household.FitsTable) {items : MessageSequence}
    {sources : List (Handled Name)} (same : items.map Prod.snd = sources.map Handled.msg)
    (identified : ∀ source ∈ sources, household.Identified source) {source : Handled Name}
    (member : source ∈ sources) :
    ∃ slot, SlotOf household items.table sources (household.id source.node) slot := by
  rcases fits with ⟨ids, bounded, all⟩
  have listed : household.id source.node ∈ items.ids := by
    unfold MessageSequence.ids
    rw [ids_of_sources same identified]
    refine mem_firstKeys_of_few bounded ?_ (List.mem_map_of_mem member)
    intro id isId
    rcases List.mem_map.1 isId with ⟨other, -, rfl⟩
    exact all other.node
  rcases items.slot_of_listed listed with ⟨slot, atSlot⟩
  have holds := items.holds_at atSlot
  rw [readings_of_sources same identified] at holds
  refine ⟨slot, holds.used, holds.id, ?_, holds.last, ?_⟩
  · exact (items.table slot).readHistory_eq.trans holds.ring.contents_eq
  · intro other used sameId
    exact items.table_injective used holds.used (sameId.trans holds.id.symm)

theorem source_of_used {items : MessageSequence} {sources : List (Handled Name)}
    (same : items.map Prod.snd = sources.map Handled.msg)
    (identified : ∀ source ∈ sources, household.Identified source) {slot : Slot}
    (used : (items.table slot).used = true) :
    ∃ source ∈ sources, (items.table slot).id = household.id source.node := by
  rcases items.listed_of_used used with ⟨id, atSlot⟩
  have listed : id ∈ sources.map fun source => household.id source.node := by
    rw [← ids_of_sources same identified]
    exact mem_of_mem_firstKeys (List.mem_of_getElem? atSlot)
  rcases List.mem_map.1 listed with ⟨source, member, rfl⟩
  exact ⟨source, member, (items.holds_at atSlot).id⟩

variable [DecidableEq Name]

theorem reachable_identified (reachable : (homeMachine household).Reachable home) :
    ∀ entry ∈ home.handled, household.Identified entry := by
  intro entry member
  rcases (reachable_authentic reachable).handled entry member with ⟨sent, uptime, locals, message⟩
  have id := (sent.message uptime locals).1
  rw [← message] at id
  exact id

theorem reachable_received (reachable : (homeMachine household).Reachable home) :
    ∃ (items : MessageSequence) (sources : List (Handled Name)),
      home.hub.clocked.nodes = items.table ∧ items.map Prod.snd = sources.map Handled.msg ∧
        sources.Sublist home.handled ∧
        sources.map Handled.msg ++ home.hub.clocked.held.toList =
          home.hub.clocked.pipeline.received := by
  have prepared : home.hub.Prepared := reachable_prepared ((hubView household).reachable reachable)
  rcases prepared.sound.table with ⟨items, table, received⟩
  rcases sources_of_received reachable received with ⟨sources, same, within⟩
  exact ⟨items, sources, table, same, within, same ▸ received⟩

/-- With at most six ids in the household, in every state of the network: each message
that the drain loop has dealt with is in the one slot of its node's id, whose history
and current reading are those of the requests from the nodes with this id, in order;
and every slot in use is one of these. -/
theorem reachable_household_table (reachable : (homeMachine household).Reachable home)
    (fits : household.FitsTable) :
    ∃ sources : List (Handled Name), sources.Sublist home.handled ∧
      sources.map Handled.msg ++ home.hub.clocked.held.toList =
        home.hub.clocked.pipeline.received ∧
      (∀ source ∈ sources, ∃ slot,
        SlotOf household home.hub.clocked.nodes sources (household.id source.node) slot) ∧
      ∀ slot, (home.hub.clocked.nodes slot).used = true →
        ∃ source ∈ sources,
          (home.hub.clocked.nodes slot).id = household.id source.node := by
  rcases reachable_received reachable with ⟨items, sources, table, same, within, received⟩
  have identified : ∀ source ∈ sources, household.Identified source :=
    fun source member => reachable_identified reachable source (within.subset member)
  refine ⟨sources, within, received, ?_, ?_⟩
  · intro source member
    rw [table]
    exact slotOf_source fits same identified member
  · intro slot used
    rw [table] at used ⊢
    exact source_of_used same identified used

theorem oneNodeHousehold_fits : oneNodeHousehold.FitsTable :=
  ⟨[oneNodeHousehold.id ()], by decide, fun _ => List.mem_singleton.2 rfl⟩

theorem firstReading_household_table :
    ∃ final, (homeMachine oneNodeHousehold).run HomeNetwork.powerOn firstReadingRun =
        some final ∧
      final.hub.clocked.pipeline.received.length = 1 ∧ final.hub.clocked.held = none ∧
      ∃ sources : List (Handled Unit), sources.Sublist final.handled ∧
        sources.map Handled.msg ++ final.hub.clocked.held.toList =
          final.hub.clocked.pipeline.received ∧
        (∀ source ∈ sources, ∃ slot,
          SlotOf oneNodeHousehold final.hub.clocked.nodes sources
            (oneNodeHousehold.id source.node) slot) ∧
        ∀ slot, (final.hub.clocked.nodes slot).used = true →
          ∃ source ∈ sources,
            (final.hub.clocked.nodes slot).id = oneNodeHousehold.id source.node := by
  rcases firstReadingRun_stores with ⟨final, ran, received, held⟩
  exact ⟨final, ran, received, held,
    reachable_household_table ⟨firstReadingRun, ran⟩ oneNodeHousehold_fits⟩

/-- Where nothing is on its way and no request was refused or dropped, the drain loop
has dealt with all requests that were handled. -/
theorem settled_sources (reachable : (homeMachine household).Reachable home)
    (drained : home.hub.Drained) (accepted : home.hub.clocked.pipeline.refused = [])
    (kept : home.hub.clocked.pipeline.dropped = []) :
    ∃ items : MessageSequence, home.hub.clocked.nodes = items.table ∧
      items.map Prod.snd = home.handled.map Handled.msg := by
  rcases reachable_received reachable with ⟨items, sources, table, same, within, received⟩
  have logged := reachable_logged reachable
  have places := reachable_accounted ((hubView household).reachable reachable)
  change home.hub.clocked.pipeline.accounted.Perm home.hub.clocked.pipeline.calls at places
  have count := places.length_eq
  unfold Pipeline.accounted Pipeline.stream at count
  rw [← logged.calls, accepted, kept, drained.idle, drained.msgq, drained.pending, ← received,
    drained.held] at count
  simp only [CallerState.msgs, Option.toList_none, List.append_nil, List.length_map] at count
  refine ⟨items, table, ?_⟩
  rw [same, within.eq_of_length count]

/-- With at most six ids in the household, where nothing is on its way and no request
was refused or dropped: the requests of a node that the hub has answered are all in
the one slot of its id, the last sixty of this id in their order. -/
theorem settled_household_complete (reachable : (homeMachine household).Reachable home)
    (fits : household.FitsTable) (drained : home.hub.Drained)
    (accepted : home.hub.clocked.pipeline.refused = [])
    (kept : home.hub.clocked.pipeline.dropped = []) (entry : Handled Name)
    (handled : entry ∈ home.handled) :
    ∃ slot, SlotOf household home.hub.clocked.nodes home.handled (household.id entry.node)
      slot := by
  rcases settled_sources reachable drained accepted kept with ⟨items, table, same⟩
  rw [table]
  exact slotOf_source fits same (reachable_identified reachable) handled

theorem firstReadingRun_settles :
    (((homeMachine oneNodeHousehold).run HomeNetwork.powerOn firstReadingRun).map fun final =>
      (final.hub.rank, final.hub.clocked.pipeline.refused.length,
        final.hub.clocked.pipeline.dropped.length, final.handled.length)) =
        some (0, 0, 0, 1) := by
  decide +kernel

theorem firstReadingRun_settled :
    ∃ final, (homeMachine oneNodeHousehold).run HomeNetwork.powerOn firstReadingRun =
        some final ∧ final.hub.Drained ∧ final.hub.clocked.pipeline.refused = [] ∧
      final.hub.clocked.pipeline.dropped = [] ∧ ∃ entry, entry ∈ final.handled := by
  rcases Option.map_eq_some_iff.1 firstReadingRun_settles with ⟨final, ran, counts⟩
  simp only [Prod.mk.injEq] at counts
  rcases counts with ⟨rank, refused, dropped, handled⟩
  rcases List.length_eq_one_iff.1 handled with ⟨entry, only⟩
  exact ⟨final, ran, StartedHub.drained_of_rank rank, List.length_eq_zero_iff.1 refused,
    List.length_eq_zero_iff.1 dropped, entry, only ▸ List.mem_singleton.2 rfl⟩

theorem firstReading_complete :
    ∃ final, (homeMachine oneNodeHousehold).run HomeNetwork.powerOn firstReadingRun =
        some final ∧
      ∃ entry ∈ final.handled, ∃ slot, SlotOf oneNodeHousehold final.hub.clocked.nodes
        final.handled (oneNodeHousehold.id entry.node) slot := by
  rcases firstReadingRun_settled with ⟨final, ran, drained, accepted, kept, entry, handled⟩
  exact ⟨final, ran, entry, handled, settled_household_complete ⟨firstReadingRun, ran⟩
    oneNodeHousehold_fits drained accepted kept entry handled⟩

end ZephyrHomeHub.System
