/-
This file proves that the orders of a scenario become known in time. The announcer
plays out a timetable: the orders by their times, and those of one time in the order
in which the scenario lists them. What is left of the queue before a tick is what the
timetable holds from the start of the tick on, so that the tick announces just what
lies in its lapse, and no order is forgotten or announced twice, whatever else is
asked of the world between the ticks. The parcels are numbered by the timetable, and
none is left closed whose window the start of the tick has reached.
-/
import LiveFleet.Proofs.Run.Roster
import LiveFleet.Proofs.Tick.Chronicle
import LiveFleet.Proofs.World.Requests

namespace LiveFleet

open Attempt TickClock

/-! ### The ticks -/

namespace TickClock

variable {tickLength tick : Nat}

theorem lapseAt_forward (tickLength tick : Nat) :
    (lapseAt tickLength tick).start ≤ (lapseAt tickLength tick).finish :=
  Nat.mul_le_mul_right tickLength (Nat.le_succ tick)

theorem contains_lapseAt_iff (positive : 0 < tickLength) (time : Nat) :
    (lapseAt tickLength tick).contains time = true ↔ tick = time / tickLength := by
  rw [TimeLapse.contains_iff, lapseAt, ← Nat.le_div_iff_mul_le positive,
    ← Nat.div_lt_iff_lt_mul positive, Nat.lt_succ_iff, ← Nat.le_antisymm_iff]

/-- Every time lies in the lapse of one tick. -/
theorem existsUnique_lapseAt (positive : 0 < tickLength) (time : Nat) :
    ∃! tick, (lapseAt tickLength tick).contains time = true := by
  simp only [contains_lapseAt_iff positive, existsUnique_eq]

theorem advanceBy_of_lt {clock : TickClock} {ticks : Nat}
    (bounded : clock.tick + ticks < Checked.range) :
    clock.advanceBy ticks = .ok { clock with tick := clock.tick + ticks } := by
  induction ticks generalizing clock with
  | zero => rfl
  | succ ticks inductionHypothesis =>
    have advanced : clock.advance = .ok { clock with tick := clock.tick + 1 } :=
      advance_eq_ok_iff.2 ⟨rfl, by omega⟩
    rw [advanceBy, advanced]
    refine (inductionHypothesis (by dsimp only; omega)).trans ?_
    rw [Nat.add_assoc, Nat.add_comm 1]

/-- A clock reaches every tick that lies in the range of times. -/
theorem reaches_lapseAt (positive : 0 < tickLength)
    (bounded : (tick + 1) * tickLength < Checked.range) :
    ∃ first clock, TickClock.start tickLength = .ok first ∧ first.advanceBy tick = .ok clock ∧
      clock.lapse = .ok (lapseAt tickLength tick) := by
  have inRange : 0 + tick < Checked.range := by
    have := Nat.le_mul_of_pos_right (tick + 1) positive
    omega
  refine ⟨⟨tickLength, 0, positive⟩, _, dif_pos positive, advanceBy_of_lt inRange, ?_⟩
  refine lapse_eq_ok_iff.2 ⟨?_, ?_⟩
  · rw [lapseAt, Nat.zero_add]
  · rw [Nat.zero_add]
    exact bounded

end TickClock

/-! ### The timetable -/

/-- The orders as they become known: the earliest first, and those of one time as they are
listed. -/
structure IsTimetable (orders timetable : List TransportOrder) : Prop where
  permuted : timetable.Perm orders
  earliestFirst : timetable.Pairwise fun earlier later => earlier.announceTime ≤ later.announceTime
  asListed : ∀ time, (timetable.filter fun order => order.announceTime = time) =
    orders.filter fun order => order.announceTime = time

/-- The queue of an announcer that has announced nothing is a timetable. -/
theorem isTimetable_ofOrders (orders : List TransportOrder) :
    IsTimetable orders (Announcer.ofOrders orders).queue := by
  let notLater : TransportOrder → TransportOrder → Bool :=
    fun left right => left.announceTime ≤ right.announceTime
  have transitive : ∀ first second third, notLater first second = true →
      notLater second third = true → notLater first third = true := by
    intro first second third before behind
    exact decide_eq_true (Nat.le_trans (of_decide_eq_true before) (of_decide_eq_true behind))
  have total : ∀ first second, (notLater first second || notLater second first) = true := by
    intro first second
    rw [Bool.or_eq_true, decide_eq_true_eq, decide_eq_true_eq]
    exact Nat.le_total _ _
  have permuted : (orders.mergeSort notLater).Perm orders := List.mergeSort_perm orders notLater
  refine ⟨permuted, ?_, fun time => ?_⟩
  · exact (List.pairwise_mergeSort transitive total orders).imp of_decide_eq_true
  -- The orders of one time are in order already, and sorting is stable.
  · let atTime : TransportOrder → Bool := fun order => order.announceTime = time
    have inOrder : (orders.filter atTime).Pairwise fun left right =>
        notLater left right = true := by
      refine List.pairwise_of_forall_mem_list fun left isLeft right isRight => ?_
      have leftTime := of_decide_eq_true (List.mem_filter.1 isLeft).2
      have rightTime := of_decide_eq_true (List.mem_filter.1 isRight).2
      exact decide_eq_true (Nat.le_of_eq (leftTime.trans rightTime.symm))
    have kept : (orders.filter atTime).Sublist ((orders.mergeSort notLater).filter atTime) := by
      have within := List.sublist_mergeSort transitive total inOrder List.filter_sublist
      refine List.Sublist.trans ?_ (within.filter atTime)
      rw [List.filter_filter]
      simp only [Bool.and_self, List.Sublist.refl]
    exact (kept.eq_of_length (permuted.filter atTime).length_eq.symm).symm

namespace Announcer

variable {announcer : Announcer} {time after : Nat}

/-- The earliest order is announced first. -/
def IsSorted (announcer : Announcer) : Prop :=
  announcer.queue.Pairwise fun earlier later => earlier.announceTime ≤ later.announceTime

/-- What is due comes before what is not. -/
theorem due_append_later (sorted : announcer.IsSorted) (time : Nat) :
    announcer.due time ++ (announcer.later time).queue = announcer.queue := by
  obtain ⟨queue⟩ := announcer
  unfold IsSorted at sorted
  unfold due later
  dsimp only at sorted ⊢
  induction queue with
  | nil => rfl
  | cons order rest inductionHypothesis =>
    obtain ⟨first, restSorted⟩ := List.pairwise_cons.1 sorted
    by_cases isDue : order.announceTime < time
    · rw [List.filter_cons_of_pos (by simpa using isDue),
        List.filter_cons_of_neg (by simpa using isDue), List.cons_append,
        inductionHypothesis restSorted]
    · have notDue : ∀ other ∈ order :: rest, ¬ other.announceTime < time := by
        rintro other (_ | ⟨_, behind⟩)
        · exact isDue
        · exact fun isEarlier => isDue (Nat.lt_of_le_of_lt (first other behind) isEarlier)
      have none : (order :: rest).filter (fun order => order.announceTime < time) = [] :=
        List.filter_eq_nil_iff.2 fun other member => by simpa using notDue other member
      rw [none, List.nil_append, List.filter_eq_self]
      exact fun other member => by simpa using notDue other member

/-- What has been due, and what is due now that was not, is all that is due by now. -/
theorem due_append_due_later (sorted : announcer.IsSorted) (ordered : time ≤ after) :
    announcer.due time ++ (announcer.later time).due after = announcer.due after := by
  have earlier : IsSorted ⟨announcer.due after⟩ := sorted.filter _
  have split := due_append_later earlier time
  unfold due later at split ⊢
  dsimp only at split ⊢
  rw [List.filter_filter, List.filter_filter] at split
  rw [List.filter_filter]
  refine Eq.trans ?_ split
  congr 1 <;> exact List.filter_congr fun order _ => by grind

theorem later_later (ordered : time ≤ after) :
    (announcer.later time).later after = announcer.later after := by
  unfold later
  rw [List.filter_filter]
  exact congrArg Announcer.mk (List.filter_congr fun order _ => by grind)

/-- Before a tick, what is due in it is what the timetable has in its lapse. -/
theorem due_lapse (announcer : Announcer) (lapse : TimeLapse) :
    (announcer.later lapse.start).due lapse.finish =
      announcer.queue.filter fun order => lapse.contains order.announceTime := by
  unfold due later
  rw [List.filter_filter]
  exact List.filter_congr fun order _ => by grind [TimeLapse.contains]

end Announcer

/-! ### What has been made known -/

/-- How the log tells that the order has become known as the parcel with this number. -/
def TransportOrder.announcement (order : TransportOrder) (index : Nat) : Event :=
  ⟨.newParcel, order.announceTime, ⟨index⟩, none⟩

/-- The operation makes an order known. -/
def Operation.announces : Operation → Bool
  | announce _ _ => true
  | _ => false

/-- No service is an announcement. -/
theorem Request.kind_ne_newParcel {request : Request} {vehicle : VehicleId} {handling : Handling}
    (asks : request.handling? vehicle = some handling) : handling.event.kind ≠ .newParcel := by
  cases request with
  | setRoute | setDestination | moveVehicle => cases asks
  | start kind parcel time =>
    cases asks
    cases kind <;> exact EventKind.noConfusion
  | finish kind parcel time =>
    cases asks
    cases kind <;> exact EventKind.noConfusion

namespace World

variable {world after : World}

/-- The announcements in the log. -/
def announcements (world : World) : List Event :=
  world.events.filter fun event => event.kind = .newParcel

/-- What has been made known: the orders of the parcels, and the announcements. -/
def madeKnown (world : World) : List TransportOrder × List Event :=
  (world.parcels.map Parcel.order, world.announcements)

theorem madeKnown_refresh (world : World) (time : Nat) :
    (world.refresh time).2.madeKnown = world.madeKnown :=
  congrArg (fun roster => (roster.2.2, world.announcements)) (roster_refresh world time)

/-- What is granted to a vehicle changes the state of a parcel and not its order. -/
theorem ChangesOnly.order_map {vehicle : VehicleId} {request : Request}
    (changes : world.ChangesOnly vehicle request after) (parcel : ParcelId) :
    (after.parcel? parcel).map Parcel.order = (world.parcel? parcel).map Parcel.order := by
  rcases changes.parcel_cases parcel with same | ⟨handling, known, -, found, -, foundAfter⟩
  · rw [same]
  · rw [found, foundAfter]
    rfl

theorem ChangesOnly.madeKnown {vehicle : VehicleId} {request : Request}
    (changes : world.ChangesOnly vehicle request after) : after.madeKnown = world.madeKnown := by
  have orders : after.parcels.map Parcel.order = world.parcels.map Parcel.order := by
    refine List.ext_getElem? fun index => ?_
    rw [List.getElem?_map, List.getElem?_map]
    exact changes.order_map ⟨index⟩
  have announced : after.announcements = world.announcements := by
    unfold announcements
    rw [changes.events, List.filter_append]
    cases asks : request.handling? vehicle with
    | none => exact List.append_nil _
    | some handling =>
      have silent := Request.kind_ne_newParcel asks
      rw [Option.map_some, Option.toList_some, List.filter_cons_of_neg (by simpa using silent),
        List.filter_nil, List.append_nil]
  exact Prod.ext orders announced

theorem Becomes.madeKnown {operation : Operation} (becomes : world.Becomes operation after)
    (silent : operation.announces = false) : after.madeKnown = world.madeKnown := by
  cases becomes with
  | addVehicle profile => rfl
  | announce order time => cases silent
  | refresh time => exact madeKnown_refresh world time
  | refused operation => rfl
  | granted changes => exact changes.madeKnown

/-- Operations that announce nothing make nothing known. -/
theorem InAccord.madeKnown_after (accord : world.InAccord) {operations : List Operation}
    (silent : ∀ operation ∈ operations, operation.announces = false) :
    (world.after operations).madeKnown = world.madeKnown := by
  induction operations generalizing world with
  | nil => rfl
  | cons operation rest inductionHypothesis =>
    have first := (accord.becomes operation).madeKnown (silent operation List.mem_cons_self)
    refine (inductionHypothesis (inAccord_apply accord operation) ?_).trans first
    exact fun other member => silent other (List.mem_cons_of_mem _ member)

/-! ### One tick of the announcer -/

theorem InAccord.announceAll (accord : world.InAccord) (orders : List TransportOrder) :
    (Announcer.announceAll world orders).InAccord := by
  induction orders generalizing world with
  | nil => exact accord
  | cons order rest inductionHypothesis =>
    exact inductionHypothesis (accord.announce order order.announceTime)

/-- Each announcement is written for the time of its order, and for the next parcel. -/
theorem events_announceAll (orders : List TransportOrder) (world : World) :
    (Announcer.announceAll world orders).events = world.events ++
      orders.mapIdx fun index order => order.announcement (index + world.parcels.length) := by
  induction orders generalizing world with
  | nil => exact (List.append_nil _).symm
  | cons order rest inductionHypothesis =>
    refine (inductionHypothesis (world.announce order order.announceTime).2).trans ?_
    have oneMore : (world.announce order order.announceTime).2.parcels.length =
        world.parcels.length + 1 := List.length_append
    have written : (world.announce order order.announceTime).2.events =
        world.events ++ [order.announcement world.parcels.length] := rfl
    rw [oneMore, written, List.append_assoc, List.mapIdx_cons, Nat.zero_add, List.singleton_append]
    simp only [Nat.add_assoc, Nat.add_comm 1]

theorem announcements_announceAll (orders : List TransportOrder) (world : World) :
    (Announcer.announceAll world orders).announcements = world.announcements ++
      orders.mapIdx fun index order => order.announcement (index + world.parcels.length) := by
  unfold announcements
  rw [events_announceAll, List.filter_append]
  congr 1
  refine List.filter_eq_self.2 fun event member => ?_
  obtain ⟨index, inside, rfl⟩ := List.mem_mapIdx.1 member
  rfl

/-- A parcel that has been left closed has a window that opens later. -/
theorem not_announced_of_refresh {time : Nat} {parcel : Parcel}
    (member : parcel ∈ (world.refresh time).2.parcels)
    (opens : parcel.order.pickupWindow.opens ≤ time) : parcel.state ≠ .announced := by
  obtain ⟨before, -, rfl⟩ := List.mem_map.1 member
  split
  · exact ParcelState.noConfusion
  · rename_i stays
    rw [if_neg stays] at opens
    intro closed
    exact stays (Bool.and_eq_true_iff.2 ⟨decide_eq_true closed, decide_eq_true opens⟩)

end World

/-- The announcer does nothing to a parcel that is not waiting for its window. -/
theorem Announcer.parcel?_tick (announcer : Announcer) (lapse : TimeLapse) {scene : Scene}
    {parcel : ParcelId} {known : Parcel} (found : scene.world.parcel? parcel = some known)
    (waits : known.state ≠ .announced) :
    (announcer.tick lapse scene).2.world.parcel? parcel = some known := by
  obtain ⟨new, parcels, -⟩ := announceAll_parcels (announcer.due lapse.finish) scene.world
  obtain ⟨inside, -⟩ := List.getElem?_eq_some_iff.1 found
  have stays : (announceAll scene.world (announcer.due lapse.finish)).parcel? parcel =
      some known := by
    rw [World.parcel?, parcels, List.getElem?_append_left inside]
    exact found
  refine (World.parcel?_refresh _ lapse.start parcel).trans ?_
  rw [stays, Option.map_some, if_neg]
  rw [World.opensBy, Bool.and_eq_true, decide_eq_true_eq]
  exact fun opens => waits opens.1

/-- How far the orders have been announced: those before a time are known, and the others are in the
queue. -/
structure KnownUntil (orders : List TransportOrder) (time : Nat) (announcer : Announcer)
    (world : World) : Prop where
  accord : world.InAccord
  queue : announcer = (Announcer.ofOrders orders).later time
  known : world.parcels.map Parcel.order = (Announcer.ofOrders orders).due time
  announcements : world.announcements =
    ((Announcer.ofOrders orders).due time).mapIdx fun index order => order.announcement index

/-- What a tick of the announcer makes of a scene, when the orders are played out by a timetable. -/
structure Announces (orders timetable : List TransportOrder) (lapse : TimeLapse)
    (before after : Scene) : Prop where
  knownBefore : before.world.parcels.map Parcel.order =
    timetable.filter fun order => order.announceTime < lapse.start
  /-- The tick writes the announcements of the orders whose time lies in its lapse, each for that
  time, and nothing else. -/
  events : after.world.events = before.world.events ++
    (timetable.filter fun order => lapse.contains order.announceTime).mapIdx fun index order =>
      order.announcement (index + before.world.parcels.length)
  /-- The known parcels are those of the orders from before the end of the tick. -/
  known : after.world.parcels.map Parcel.order =
    timetable.filter fun order => order.announceTime < lapse.finish
  inOrder : after.world.parcels.map Parcel.order <+: timetable
  numbered : ∀ (index : Nat) (parcel : Parcel), after.world.parcels[index]? = some parcel →
    parcel.id = ⟨index⟩
  announcements : after.world.announcements =
    (after.world.parcels.map Parcel.order).mapIdx fun index order => order.announcement index
  pending : after.pending + after.world.parcels.length = orders.length
  opened : ∀ parcel ∈ after.world.parcels, parcel.order.pickupWindow.opens ≤ lapse.start →
    parcel.state ≠ .announced
  /-- A parcel that is not waiting for its window stays as it is. -/
  others : ∀ parcel known, before.world.parcel? parcel = some known → known.state ≠ .announced →
    after.world.parcel? parcel = some known

namespace KnownUntil

variable {orders : List TransportOrder} {time : Nat} {announcer : Announcer} {world : World}
  {scene : Scene} {lapse : TimeLapse}

/-- Before the first tick, nothing is known. -/
theorem empty (orders : List TransportOrder) (depot : Point) :
    KnownUntil orders 0 (.ofOrders orders) (World.empty depot) := by
  have nothingDue : (Announcer.ofOrders orders).due 0 = [] :=
    List.filter_eq_nil_iff.2 fun order _ => by simp
  refine ⟨World.inAccord_empty depot, ?_, nothingDue.symm, ?_⟩
  · exact congrArg Announcer.mk (List.filter_eq_self.2 fun order _ => by simp).symm
  · rw [nothingDue]
    rfl

/-- What is asked of the world between the ticks makes no difference. -/
theorem after (known : KnownUntil orders time announcer world) {operations : List Operation}
    (silent : ∀ operation ∈ operations, operation.announces = false) :
    KnownUntil orders time announcer (world.after operations) := by
  obtain ⟨sameOrders, sameAnnouncements⟩ := Prod.mk.inj (known.accord.madeKnown_after silent)
  exact ⟨World.inAccord_after known.accord operations, known.queue, sameOrders.trans known.known,
    sameAnnouncements.trans known.announcements⟩

theorem tick (known : KnownUntil orders lapse.start announcer scene.world)
    (forward : lapse.start ≤ lapse.finish) :
    KnownUntil orders lapse.finish (announcer.tick lapse scene).1
      (announcer.tick lapse scene).2.world := by
  have sorted : (Announcer.ofOrders orders).IsSorted := (isTimetable_ofOrders orders).earliestFirst
  have due := Announcer.due_append_due_later sorted forward
  obtain ⟨sameOrders, sameAnnouncements⟩ := Prod.mk.inj (World.madeKnown_refresh
    (Announcer.announceAll scene.world (announcer.due lapse.finish)) lapse.start)
  have count : ((Announcer.ofOrders orders).due lapse.start).length =
      scene.world.parcels.length := by
    rw [← known.known, List.length_map]
  refine ⟨(known.accord.announceAll _).refresh _, ?_, sameOrders.trans ?_,
    sameAnnouncements.trans ?_⟩
  · rw [known.queue]
    exact Announcer.later_later forward
  · have roster := World.roster_announceAll (announcer.due lapse.finish) scene.world
    refine (congrArg (fun roster => roster.2.2) roster).trans ?_
    dsimp only
    rw [known.known, known.queue, due]
  · rw [World.announcements_announceAll, known.announcements, known.queue, ← due,
      List.mapIdx_append, count]

theorem announces (known : KnownUntil orders lapse.start announcer scene.world)
    (forward : lapse.start ≤ lapse.finish) :
    Announces orders (Announcer.ofOrders orders).queue lapse scene
      (announcer.tick lapse scene).2 where
  knownBefore := known.known
  events := by
    refine (World.events_announceAll _ _).trans ?_
    rw [known.queue, Announcer.due_lapse]
  known := (known.tick forward).known
  inOrder := by
    rw [(known.tick forward).known]
    exact ⟨_, Announcer.due_append_later (isTimetable_ofOrders orders).earliestFirst lapse.finish⟩
  numbered := fun index parcel found =>
    (known.tick forward).accord.laden.named ⟨index⟩ parcel found
  announcements := by rw [(known.tick forward).announcements, (known.tick forward).known]
  pending := by
    have isTimetable := isTimetable_ofOrders orders
    have count := congrArg List.length (known.tick forward).known
    rw [List.length_map] at count
    show (announcer.tick lapse scene).1.queue.length + _ = _
    rw [(known.tick forward).queue, count, Nat.add_comm, ← List.length_append,
      Announcer.due_append_later isTimetable.earliestFirst]
    exact isTimetable.permuted.length_eq
  opened := fun _ member opens => World.not_announced_of_refresh member opens
  others := fun _ _ found waits => Announcer.parcel?_tick announcer lapse found waits

end KnownUntil

/-! ### The whole play -/

/-- The orders of a scenario, and the world in which they are played out: what is asked of it before
the first tick, and in each tick once the announcer has done its part. Nobody else makes an order
known. -/
structure Playbill where
  orders : List TransportOrder
  tickLength : Nat
  depot : Point
  opening : List Operation
  /-- The number of orders to come that is written down at first. -/
  pending : Nat
  asked : Nat → List Operation
  opening_silent : ∀ operation ∈ opening, operation.announces = false
  asked_silent : ∀ tick, ∀ operation ∈ asked tick, operation.announces = false

namespace Playbill

/-- The announcer and the scene before a tick. -/
def before (play : Playbill) : Nat → Announcer × Scene
  | 0 => (.ofOrders play.orders,
      { world := (World.empty play.depot).after play.opening, pending := play.pending })
  | tick + 1 =>
    let (announcer, scene) :=
      (play.before tick).1.tick (lapseAt play.tickLength tick) (play.before tick).2
    (announcer, { scene with world := scene.world.after (play.asked tick) })

/-- The scene once the announcer has done its part in a tick. -/
def announced (play : Playbill) (tick : Nat) : Scene :=
  ((play.before tick).1.tick (lapseAt play.tickLength tick) (play.before tick).2).2

theorem knownUntil (play : Playbill) (tick : Nat) :
    KnownUntil play.orders (tick * play.tickLength) (play.before tick).1
      (play.before tick).2.world := by
  induction tick with
  | zero =>
    rw [Nat.zero_mul]
    exact (KnownUntil.empty play.orders play.depot).after play.opening_silent
  | succ tick inductionHypothesis =>
    exact (inductionHypothesis.tick (lapseAt_forward play.tickLength tick)).after
      (play.asked_silent tick)

/-- Each order becomes known once, in the one tick whose lapse its time lies in, and for that time;
the parcels are numbered in the order of the timetable. After the announcer has done its part in a
tick, the orders to come and the known parcels add up to the scenario, no parcel is left closed
whose window the start of the tick has reached, and no other parcel has been touched. This is so in
every tick that lies in the range of times. -/
theorem orders_become_known_in_time (play : Playbill) (positive : 0 < play.tickLength) :
    (∀ time, ∃! tick, (lapseAt play.tickLength tick).contains time = true) ∧
      ∃ timetable, IsTimetable play.orders timetable ∧
        ∀ tick, (tick + 1) * play.tickLength < Checked.range →
          (∃ first clock, TickClock.start play.tickLength = .ok first ∧
            first.advanceBy tick = .ok clock ∧
              clock.lapse = .ok (lapseAt play.tickLength tick)) ∧
          Announces play.orders timetable (lapseAt play.tickLength tick) (play.before tick).2
            (play.announced tick) := by
  refine ⟨existsUnique_lapseAt positive, _, isTimetable_ofOrders play.orders, ?_⟩
  intro tick bounded
  exact ⟨reaches_lapseAt positive bounded,
    (play.knownUntil tick).announces (lapseAt_forward play.tickLength tick)⟩

/-- Three orders, two of them of one time. The window of one of these opens later. A vehicle picks
up the first parcel at once, and somebody looks for windows to open ahead of time. -/
def twoAtOnce : Playbill where
  orders := [{ World.onTheSpot with announceTime := 250, pickupWindow := ⟨400, 10000⟩ },
    World.onTheSpot, { World.onTheSpot with announceTime := 250 }]
  tickLength := 100
  depot := ⟨0, 0⟩
  opening := [.addVehicle ⟨⟨0, 0⟩, 50⟩]
  pending := 3
  asked := fun tick => [.startPickup ⟨0⟩ ⟨0⟩ (tick * 100), .refresh ((tick + 1) * 100)]
  opening_silent := by simp [Operation.announces]
  asked_silent := by simp [Operation.announces]

/-- The two orders of one time become known together. -/
theorem orders_become_known_in_time_twoAtOnce :
    0 < twoAtOnce.tickLength ∧ (2 + 1) * twoAtOnce.tickLength < Checked.range ∧
      ∃ timetable, IsTimetable twoAtOnce.orders timetable ∧
        Announces twoAtOnce.orders timetable (lapseAt twoAtOnce.tickLength 2)
          (twoAtOnce.before 2).2 (twoAtOnce.announced 2) := by
  have positive : 0 < twoAtOnce.tickLength := by decide
  have bounded : (2 + 1) * twoAtOnce.tickLength < Checked.range := by decide
  obtain ⟨-, timetable, isTimetable, eachTick⟩ := orders_become_known_in_time twoAtOnce positive
  exact ⟨positive, bounded, timetable, isTimetable, (eachTick 2 bounded).2⟩

end Playbill

end LiveFleet
