/-
This file holds the scenario of a run: the depot, the fleet, and the orders
that become known over time. An announcer plays the orders out. In each tick it
announces, each at its own time, the orders whose time lies before the end of
the tick; orders of one time keep the order of the scenario. Then it opens the
pickup windows that the start of the tick has reached.
-/
import LiveFleet.Time.Lapse
import LiveFleet.World.Basic

namespace LiveFleet

/-- What a run begins with. -/
structure Scenario where
  depot : Point
  vehicles : List VehicleProfile
  orders : List TransportOrder

/-- The true state of a run, with the number of orders that are still to be announced. -/
structure Scene where
  world : World
  pending : Nat

/-- The orders that are still to be announced, the earliest first. -/
structure Announcer where
  queue : List TransportOrder

namespace Announcer

/-- An announcer of the orders of a scenario. Orders of one time stay in the order given. -/
def ofOrders (orders : List TransportOrder) : Announcer :=
  ⟨orders.mergeSort fun left right => left.announceTime ≤ right.announceTime⟩

/-- The orders that become known before the given time. -/
def due (announcer : Announcer) (time : Nat) : List TransportOrder :=
  announcer.queue.filter fun order => order.announceTime < time

/-- The announcer after the orders before the given time have been announced. -/
def later (announcer : Announcer) (time : Nat) : Announcer :=
  ⟨announcer.queue.filter fun order => !(order.announceTime < time)⟩

/-- The number of orders that are still to be announced. -/
def pending (announcer : Announcer) : Nat := announcer.queue.length

/-- Announce orders, each at its own time. -/
def announceAll (world : World) (orders : List TransportOrder) : World :=
  orders.foldl (fun world order => (world.announce order order.announceTime).2) world

/-- The start of a tick: announce what is due, and open what has begun. -/
def tick (announcer : Announcer) (lapse : TimeLapse) (scene : Scene) : Announcer × Scene :=
  let announced := announceAll scene.world (announcer.due lapse.finish)
  let later := announcer.later lapse.finish
  (later, { world := (announced.refresh lapse.start).2, pending := later.pending })

end Announcer

end LiveFleet
