/-
This file holds a small day of pickups and deliveries: three vehicles at one
depot, and a dozen parcels that trickle in over two hours, played out against
the solver that assigns at random. The day is played with settings of its own
or with those of a file, and reported in a few lines.
-/
import LiveFleet.Run.SettingsText
import LiveFleet.Run.Simulation
import LiveFleet.Solver.RandomAssignment

namespace LiveFleet.Demo

/-! ### The day -/

/-- The milliseconds of a minute. -/
def minute : Nat := 60000

/-- The settings of a day that comes without a file. -/
def settings : Settings := { Settings.standard with tickLength := 100 }

/-- The place of the depot. -/
def depot : Point := ⟨5, 5⟩

/-- Where the parcel with the given number waits. -/
def pickupPlace (number : Nat) : Point :=
  ⟨(UInt64.ofNat (number % 4)).toFloat * 3, (UInt64.ofNat (number % 3)).toFloat * 4⟩

/-- Where a parcel from the given place goes. -/
def deliveryPlace (source : Point) : Point := ⟨10 - source.x, 8 - source.y⟩

/-- The order of the parcel with the given number. One becomes known every ten minutes and can be
picked up for an hour from then on; loading and unloading take two minutes each. -/
def draft (number : Nat) : OrderDraft :=
  let known := number * (10 * minute)
  (OrderDraft.between (pickupPlace number) (deliveryPlace (pickupPlace number))).applyAll [
    .announceTime known,
    .pickupWindow ⟨known, known + 60 * minute⟩,
    .serviceDuration (2 * minute)]

/-- No order of the day becomes known too late. -/
theorem accept_draft (number : Nat) : (draft number).accept = .ok (draft number).order := by
  simp only [OrderDraft.accept, draft, OrderDraft.applyAll, List.foldl_cons, List.foldl_nil,
    OrderDraft.apply]
  exact if_pos (Nat.le_add_right _ _)

/-- The scenario of the day. -/
def scenario : Scenario where
  depot := depot
  vehicles := List.replicate 3 ⟨depot, 50⟩
  orders := (List.range 12).map fun number => (draft number).order

/-- Play the day. The solver draws from the generator that belongs to its seed. -/
def play (settings : Settings) : Except (Failure RunError) RunReport := do
  let simulation ← (Simulation.build settings scenario fun seed =>
    .ok (Generator.ofSeed seed, .solving)).mapError .refused
  (simulation.run RandomAssignment.solver.prompt).1

/-! ### The report -/

/-- What is said about a day. -/
def lines (report : RunReport) : List String :=
  let summary := report.summary
  [ s!"stopped:          {summary.reason.text}",
    s!"simulated time:   {summary.endTime / minute} min",
    s!"ticks:            {summary.ticks} ({summary.realTimeTicks} real-time)",
    s!"parcels:          {report.delivered}/{report.parcels} delivered",
    s!"snapshots:        {report.dispatches}",
    s!"repairs:          {report.repairs}",
    s!"mode transitions: {report.transitions}" ]

/-- How the program ends: the exit code, the lines of its output, and what went wrong. -/
structure Ending where
  exitCode : UInt32
  output : List String
  complaint : Option String

/-- Play the day with settings that may not have been readable. -/
def ending (settings : Except SettingsError Settings) : Ending :=
  match settings with
  | .error error => ⟨1, [], some error.message⟩
  | .ok settings =>
    match play settings with
    | .ok report => ⟨0, lines report, none⟩
    | .error (.refused error) => ⟨1, [], some error.message⟩
    | .error (.crashed crash) => ⟨101, [], some crash.message⟩

end LiveFleet.Demo
