import ConnectionManager.Datum.Rehearsals

/-!
Steps as data and the calls of a factory that they stand for.
-/

namespace ConnectionManager.Datum

open Rehearsal

def rosterCall (step : Datum) (roster : Roster StandInBackend) (surroundings : Surroundings)
    (repositories : Repositories) : FactoryCall (Roster StandInBackend) Datum :=
  let name := step.stringAt "do"
  let hooked (hook : FactoryHook) : FactoryCall (Roster StandInBackend) Datum :=
    { ChannelFactory.hook roster hook surroundings repositories with answer := .nothing }
  if let some edit := step.edit? name then
    .idle { roster with backend := edit roster.backend } repositories .nothing
  else if let some notify := step.notification? name surroundings then
    roster.run repositories fun call => (.nothing, notify call)
  else if let some write := step.write? name then
    let (outcome, written) := roster.write write
    .idle written repositories (datum outcome)
  else match name with
    | "raw_request" =>
        let call := ChannelFactory.request roster step.toRequest (step.naturalAt "token")
          surroundings repositories
        { call with answer := datum call.answer }
    | "raw_close" => hooked .closeAll
    | "raw_disconnected" => hooked .disconnected
    | "view" => .idle roster repositories roster.view
    | _ => .idle roster repositories .nothing

/-- The call that a step makes of one factory, if the factory is of the right sort. -/
def factoryCall (step : Datum) (factory : StandIn) (surroundings : Surroundings)
    (repositories : Repositories) : Option (FactoryCall StandIn Datum) :=
  match step.stringAt "do", factory with
  | "report", .rules rules =>
      let call := rules.reportSteps (step.stepsAt "reports") surroundings repositories
      some (StandIn.lift .rules { call with answer := datum call.answer })
  | "roster", .roster roster =>
      some (StandIn.lift .roster ((step.field "step").rosterCall roster surroundings repositories))
  | _, _ => none

end ConnectionManager.Datum
